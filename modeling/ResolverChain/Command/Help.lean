/-
  What the command says about itself.
-/

namespace ResolverChain.Command

/-- How to use the command, line by line. -/
def usageLines : List String :=
  ["Usage: txresolve-lookup [options] NAME",
    "Options:",
    "  -e, --encoding=    The encoding of the hosts file (default: the platform",
    "                     encoding).",
    "  -f, --hosts-file=  The hosts file to consult (default: the platform hosts",
    "                     file).",
    "      --help         Display this help and exit.",
    "  -k, --kind=        What to look up: address, all-addresses, all-ipv4, all-",
    "                     ipv6, ipv4, ipv6, reverse, text. [default: all-addresses]",
    "  -s, --server=      A name server, HOST[:PORT], for names not in the hosts",
    "                     file.",
    "  -v, --verbose      Log debugging information to stderr.",
    "      --version      Display Twisted version and exit."]

/-- How to use the command. -/
def usage : String := String.join (usageLines.map (· ++ "\n"))

/-- What is added when the command is run as a part of the package. -/
def moduleUsage : String := "\nRun a lookup: C\x7bpython -m txresolve [options] NAME\x7d.\n"

/-- The help of the command. -/
def help (isModule : Bool) : String := if isModule then usage ++ moduleUsage else usage

/-- What is shown when the version is asked for. -/
def versionText : String := "Twisted version: 25.5.0\n"

end ResolverChain.Command
