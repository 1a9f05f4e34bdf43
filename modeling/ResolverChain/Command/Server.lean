/-
  Name servers, as the command line gives them.

  * a server is a host, perhaps with a port behind a colon; a host in brackets
    may hold colons itself, and so may a host without a port;
  * `Server.read?` reads one; a port that is no number is refused.
-/
import ResolverChain.Text.Numeral

namespace ResolverChain.Command

/-- A name server to ask. -/
structure Server where
  host : String
  port : Int
deriving DecidableEq, Repr

namespace Server

/-- The port of name servers. -/
def defaultPort : Int := 53

/-- What stands in front of the first `mark` and what stands behind it. -/
def splitAt (mark : Char) (cs : List Char) : List Char × List Char :=
  (cs.takeWhile (· != mark), (cs.dropWhile (· != mark)).drop 1)

/-- A host with the text of its port, if it has one. -/
def parts (cs : List Char) : List Char × Option (List Char) :=
  match cs with
  | '[' :: bracketed =>
    let (host, rest) := splitAt ']' bracketed
    (host, if rest.isEmpty then none else some (rest.dropWhile (· == ':')))
  | _ =>
    if cs.count ':' = 1 then
      let (host, port) := splitAt ':' cs
      (host, some port)
    else (cs, none)

/-- The port that a text gives, or the default one without a text. -/
def port? : Option (List Char) → Option Int
  | none => some defaultPort
  | some cs => Text.Integer.read? cs

/-- The server that a text gives. -/
def read? (text : String) : Option Server := do
  let (host, port) := parts text.toList
  return ⟨String.ofList host, ← port? port⟩

end Server

end ResolverChain.Command
