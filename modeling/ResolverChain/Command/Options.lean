/-
  The options of the command.

  * options come first, long ones behind two hyphens and short ones, which may be
    joined, behind one; the first argument that is none, or two hyphens alone,
    ends them; a long option may be shortened as far as it stays unambiguous;
  * `splitOptions` takes a command line apart, and `Request.parse` makes the
    settings of a run out of it;
  * `OptionError.message` words what is wrong with a command line.
-/
import ResolverChain.Command.Server
import ResolverChain.Lookup.Kind

namespace ResolverChain.Command

/-! ## Errors -/

/-- What is wrong with a command line. -/
inductive OptionError where
  /-- There is no such option. -/
  | unknown (option : String)
  /-- The option lacks its value. -/
  | missingValue (option : String)
  /-- The option takes no value. -/
  | needlessValue (option : String)
  /-- Several options begin like this. -/
  | ambiguous (option : String)
  /-- There has to be one name. -/
  | nameCount
  /-- There is no such kind of lookup. -/
  | unknownKind (kind : String)
  /-- The port of the server is no number. -/
  | badServer (server : String)
deriving DecidableEq, Repr

/-- What is reported of a command line. -/
def OptionError.message : OptionError → String
  | unknown option => "option " ++ option ++ " not recognized"
  | missingValue option => "option " ++ option ++ " requires argument"
  | needlessValue option => "option " ++ option ++ " must not have an argument"
  | ambiguous option => "option " ++ option ++ " not a unique prefix"
  | nameCount => "Wrong number of arguments."
  | unknownKind kind => "Unknown kind " ++ Text.quoteText kind
  | badServer server => "Invalid port in server " ++ Text.quoteText server

/-! ## Options and their spellings -/

/-- An option. -/
inductive Opt where
  | verbose
  | hostsFile
  | encoding
  | server
  | kind
  | version
  | help
deriving DecidableEq, Repr

namespace Opt

/-- All options. -/
def all : List Opt := [verbose, hostsFile, encoding, server, kind, version, help]

/-- The long spelling, without hyphens. -/
def long : Opt → List Char
  | verbose => "verbose".toList
  | hostsFile => "hosts-file".toList
  | encoding => "encoding".toList
  | server => "server".toList
  | kind => "kind".toList
  | version => "version".toList
  | help => "help".toList

/-- The short spelling, if there is one. -/
def short? : Opt → Option Char
  | verbose => some 'v'
  | hostsFile => some 'f'
  | encoding => some 'e'
  | server => some 's'
  | kind => some 'k'
  | version | help => none

/-- Whether the option takes a value. -/
def takesValue : Opt → Bool
  | hostsFile | encoding | server | kind => true
  | verbose | version | help => false

/-- The option with a short spelling. -/
def ofShort? (c : Char) : Option Opt := all.find? (·.short? == some c)

/-- The option with a long spelling, or the only one that begins like it. -/
def ofLong (cs : List Char) : Except OptionError Opt :=
  let shown := String.ofList ('-' :: '-' :: cs)
  match all.filter (cs.isPrefixOf ·.long) with
  | [] => .error (.unknown shown)
  | [o] => .ok o
  | candidates =>
    match candidates.find? (·.long == cs) with
    | some o => .ok o
    | none => .error (.ambiguous shown)

end Opt

/-! ## Taking a command line apart -/

/-- An option as it was given, with its value. -/
structure Given where
  opt : Opt
  value : String := ""
deriving DecidableEq, Repr

/-- An option that takes the next argument as its value, as it was spelled. -/
structure Open where
  opt : Opt
  spelling : String
deriving DecidableEq, Repr

/-- What one argument holds: options, and perhaps a last one without its value. -/
structure Taken where
  given : List Given
  toFill : Option Open := none
deriving DecidableEq, Repr

/-- A name and the value behind an equals sign, if there is one. -/
def splitValue (cs : List Char) : List Char × Option (List Char) :=
  match cs.span (· != '=') with
  | (name, []) => (name, none)
  | (name, _ :: value) => (name, some value)

/-- The option in an argument, given without its two hyphens. -/
def longOption (cs : List Char) : Except OptionError Taken := do
  let (name, value?) := splitValue cs
  let opt ← Opt.ofLong name
  let spelling := String.ofList ('-' :: '-' :: opt.long)
  match opt.takesValue, value? with
  | true, some value => return { given := [⟨opt, String.ofList value⟩] }
  | true, none => return { given := [], toFill := some ⟨opt, spelling⟩ }
  | false, some _ => throw (.needlessValue spelling)
  | false, none => return { given := [⟨opt, ""⟩] }

/-- The joined options in an argument, given without its hyphen.  An option with a
    value takes all the letters behind it. -/
def shortOptions : List Char → Except OptionError Taken
  | [] => .ok { given := [] }
  | c :: cs =>
    match Opt.ofShort? c with
    | none => .error (.unknown (String.ofList ['-', c]))
    | some opt =>
      if opt.takesValue then
        if cs.isEmpty then
          .ok { given := [], toFill := some ⟨opt, String.ofList ['-', c]⟩ }
        else .ok { given := [⟨opt, String.ofList cs⟩] }
      else (shortOptions cs).map fun taken => { taken with given := ⟨opt, ""⟩ :: taken.given }

/-- The options of a command line, and the arguments behind them.  `toFill` is an
    option that takes the first argument as its value. -/
def splitOptions (toFill : Option Open) :
    List String → Except OptionError (List Given × List String)
  | [] =>
    match toFill with
    | none => .ok ([], [])
    | some o => .error (.missingValue o.spelling)
  | arg :: args =>
    match toFill with
    | some o => do
      let (given, rest) ← splitOptions none args
      return (⟨o.opt, arg⟩ :: given, rest)
    | none =>
      match arg.toList with
      | ['-', '-'] => .ok ([], args)
      | '-' :: '-' :: cs => do
        let taken ← longOption cs
        let (given, rest) ← splitOptions taken.toFill args
        return (taken.given ++ given, rest)
      | '-' :: c :: cs => do
        let taken ← shortOptions (c :: cs)
        let (given, rest) ← splitOptions taken.toFill args
        return (taken.given ++ given, rest)
      | _ => .ok ([], arg :: args)

/-! ## Settings -/

/-- The settings of a run. -/
structure Settings where
  isVerbose : Bool := false
  hostsFile : Option String := none
  encoding : Option String := none
  server : Option Server := none
  kind : Lookup.Kind := .allAddresses
  /-- The name to look up. -/
  name : String
deriving DecidableEq, Repr

/-- What a command line asks for. -/
inductive Request where
  | run (settings : Settings)
  | help
  | version
deriving DecidableEq, Repr

/-- The options in effect: of each, the value given last. -/
structure Chosen where
  isVerbose : Bool := false
  hostsFile : Option String := none
  encoding : Option String := none
  server : Option String := none
  kind : String := Lookup.Kind.allAddresses.name
deriving DecidableEq, Repr

/-- The options in effect after one more, unless it asks for something else than a
    run. -/
def Chosen.add (c : Chosen) (g : Given) : Except Request Chosen :=
  match g.opt with
  | .verbose => .ok { c with isVerbose := true }
  | .hostsFile => .ok { c with hostsFile := some g.value }
  | .encoding => .ok { c with encoding := some g.value }
  | .server => .ok { c with server := some g.value }
  | .kind => .ok { c with kind := g.value }
  | .version => .error .version
  | .help => .error .help

/-- The settings that options and a name make. -/
def Chosen.settings (c : Chosen) (name : String) : Except OptionError Settings := do
  let some kind := Lookup.Kind.ofName? c.kind | throw (.unknownKind c.kind)
  let server ←
    match c.server with
    | none => pure none
    | some text =>
      match Server.read? text with
      | some server => pure (some server)
      | none => throw (.badServer text)
  return {
    isVerbose := c.isVerbose
    hostsFile := c.hostsFile
    encoding := c.encoding
    server, kind, name }

/-- What a command line asks for. -/
def Request.parse (args : List String) : Except OptionError Request := do
  let (given, rest) ← splitOptions none args
  match given.foldlM Chosen.add ({} : Chosen) with
  | .error request => return request
  | .ok chosen =>
    match rest with
    | [name] => return .run (← chosen.settings name)
    | _ => throw .nameCount

end ResolverChain.Command
