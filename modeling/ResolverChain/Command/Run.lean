/-
  Running the command.

  * `run` goes from the arguments to everything that a run shows: how it exits,
    what it writes, and which servers it asked what;
  * a hosts file that cannot be loaded, a name about which nothing is found and a
    failed lookup end the run with a message; any other failure is unexpected;
  * the server that the user names is asked only for what the hosts table does
    not answer, and replies at once.
-/
import ResolverChain.Command.Help
import ResolverChain.Command.Options
import ResolverChain.Session.Step

namespace ResolverChain.Command

/-- What a run finds around it. -/
structure Surroundings where
  files : FileSystem
  /-- Where the platform keeps its hosts file. -/
  platformFile : String
  /-- The replies of the server, in order; behind them, none come in time. -/
  replies : List Reply := []
  /-- Whether the command is run as a part of the package. -/
  isModule : Bool := false

/-- How a run exits. -/
inductive Exit where
  | status (code : Nat)
  /-- With a message for the user. -/
  | message (text : String)
deriving DecidableEq, Repr

/-- A server that was to be asked, and the queries it got. -/
structure Client where
  server : Server
  queries : List Query := []
deriving Repr

/-- What a run shows. -/
structure Shown where
  exit : Exit
  output : String := ""
  errors : String := ""
  clients : List Client := []
deriving Repr

/-! ## Wrong command lines -/

/-- The end of a run with a wrong command line. -/
def misused (isModule : Bool) (e : OptionError) : Shown :=
  { exit := .status 1, errors := help isModule ++ "\n" ++ "ERROR: " ++ e.message ++ "\n" }

/-! ## Lookups -/

/-- What is written when a failure was not expected. -/
def unexpected : String := "[-] main function encountered error"

/-- The reply of a server from which nothing comes in time. -/
def noReply : Reply := .failed (.server .timeout "")

/-- Whether a failure is about the hosts file: its path, its encoding, its bytes, or an
    address or a name on one of its lines. -/
def isAboutFile : Failure → Bool
  | .file _ _ | .reading _ | .encoding _ | .decoding _ => true
  | .address (.invalid _ _) | .name (.unencodable _) => true
  | _ => false

/-- How a run exits whose table could not be loaded, and what it writes about that. -/
def unloadable (failure : Failure) : Exit × String :=
  match isAboutFile failure, failure.message? with
  | true, .ok text => (.message ("ERROR: cannot load hosts file: " ++ text), "")
  | _, _ => (.status 1, unexpected)

/-- The chain of a run: the table, and behind it the server, if there is one. -/
def chainOf (table : Hosts.Table) (server : Option Server) : List Resolver :=
  [.hosts table, if server.isSome then .network else Session.defaultEnd]

/-- The end of the lookup of a run, with all that could be noticed meanwhile. -/
structure Looked where
  conclusion : Lookup.Conclusion
  queries : List Query
  log : List Log.Event

/-- Looks up what a kind looks for, with the reply at hand if a query waits for it. -/
def lookUp (chain : List Resolver) (kind : Lookup.Kind) (name : String) (reply : Reply) :
    Looked :=
  let (asked, started) := Session.startPrinted { chain } 0 kind name
  let (_, replied) := asked.complete 0 reply
  let reports := if started.fired.isEmpty then [started, replied] else [started]
  { conclusion :=
      ((reports.flatMap (·.fired)).head?.map (·.2)).getD { outcome := .error .unanswerable }
    queries := reports.flatMap fun r => r.queries.map (·.2)
    log := reports.flatMap (·.log) }

/-- How a run exits after its lookup, and what it writes about that. -/
def ending : Except Failure Lookup.Result → Exit × String
  | .ok _ => (.status 0, "")
  | .error (.exit text) => (.message text, "")
  | .error _ => (.status 1, unexpected)

/-! ## Runs -/

/-- A run with given settings. -/
def runWith (around : Surroundings) (s : Settings) : Shown :=
  let loaded := Hosts.createTable around.files around.platformFile s.hostsFile s.encoding
  match loaded.table with
  | .error failure =>
    let (exit, failed) := unloadable failure
    { exit
      errors := Log.render s.isVerbose loaded.log ++ failed
      clients := s.server.toList.map fun server => { server } }
  | .ok table =>
    let looked := lookUp (chainOf table s.server) s.kind s.name (around.replies.headD noReply)
    let (exit, failed) := ending looked.conclusion.outcome
    { exit
      output := looked.conclusion.output
      errors := Log.render s.isVerbose (loaded.log ++ looked.log) ++ failed
      clients := s.server.toList.map fun server => { server, queries := looked.queries } }

/-- A run of the command. -/
def run (around : Surroundings) (args : List String) : Shown :=
  match Request.parse args with
  | .error e => misused around.isModule e
  | .ok .help => { exit := .status 0, output := help around.isModule ++ "\n" }
  | .ok .version => { exit := .status 0, output := versionText }
  | .ok (.run settings) => runWith around settings

end ResolverChain.Command
