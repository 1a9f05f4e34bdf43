/-
  The log: what the resolvers note down while they work.

  * an `Event` has a level, the part of the program that it comes from, and a
    text, unless that cannot be written;
  * `render` writes the events that are to be seen, one to a line.
-/

namespace ResolverChain.Log

/-- How much an event matters, from the least. -/
inductive Level where
  | debug
  | info
  | warn
  | error
  | critical
deriving DecidableEq, Repr

namespace Level

/-- The place of a level, counted from the least. -/
def rank : Level → Nat
  | debug => 0
  | info => 1
  | warn => 2
  | error => 3
  | critical => 4

/-- The name of a level. -/
def name : Level → String
  | debug => "debug"
  | info => "info"
  | warn => "warn"
  | error => "error"
  | critical => "critical"

/-- The level with a name. -/
def ofName? (s : String) : Option Level :=
  [debug, info, warn, error, critical].find? (·.name == s)

end Level

/-- Something noted down. -/
structure Event where
  level : Level
  /-- The part of the program that noted it. -/
  origin : String
  /-- What is noted, if it can be written. -/
  text : Option String
deriving DecidableEq, Repr

/-- The least level to be seen. -/
def threshold (isVerbose : Bool) : Level := if isVerbose then .debug else .warn

/-- The text of an event with every further line indented. -/
def indented (text : String) : String :=
  String.ofList (text.toList.flatMap fun c => if c = '\n' then ['\n', '\t'] else [c])

/-- The line of an event; an event without a text has none. -/
def line (e : Event) : String :=
  match e.text with
  | none | some "" => ""
  | some text => "[" ++ e.origin ++ "#" ++ e.level.name ++ "] " ++ indented text ++ "\n"

/-- The lines of the events that are to be seen. -/
def render (isVerbose : Bool) (events : List Event) : String :=
  String.join ((events.filter ((threshold isVerbose).rank ≤ ·.level.rank)).map line)

end ResolverChain.Log
