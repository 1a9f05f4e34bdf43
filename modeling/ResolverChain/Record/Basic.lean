/-
  Resource records, what the domain name system stores under a name.

  * a `Payload` is the content of a record of a known type, with a lifetime of
    its own;
  * a `Record` puts a name, a type, a class and a lifetime in front of it; a
    record of an unknown type has no payload;
  * `same` compares payloads and records, names in them without regard to the
    case of ASCII letters.
-/
import ResolverChain.DomainName.Basic

namespace ResolverChain

/-- The content of a record. -/
inductive Content where
  /-- An address of the older family, as packed bytes. -/
  | a (address : List UInt8)
  /-- An address of the newer family, as packed bytes. -/
  | aaaa (address : List UInt8)
  /-- The name that belongs to a reverse name. -/
  | pointer (target : DomainName)
  /-- The name that the name of the record is an alias for. -/
  | alias (target : DomainName)
  /-- A name server of the domain. -/
  | nameServer (target : DomainName)
  /-- Texts. -/
  | texts (data : List (List UInt8))
  /-- Texts that say who may send mail for the domain. -/
  | senderPolicy (data : List (List UInt8))
deriving DecidableEq, Repr

/-- The content of a record with its lifetime in seconds. -/
structure Payload where
  content : Content
  ttl : Int
deriving DecidableEq, Repr

/-- A resource record. -/
structure Record where
  name : DomainName
  type : Int
  cls : Int
  ttl : Int
  payload : Option Payload
deriving DecidableEq, Repr

/-- The content of a record, if its type is known. -/
def Record.content? (record : Record) : Option Content := record.payload.map Payload.content

/-- Whether two contents are of one kind and equal. -/
def Content.same : Content → Content → Bool
  | .a x, .a y | .aaaa x, .aaaa y => x == y
  | .pointer x, .pointer y | .alias x, .alias y | .nameServer x, .nameServer y => x.same y
  | .texts x, .texts y | .senderPolicy x, .senderPolicy y => x == y
  | _, _ => false

/-- Whether two payloads are equal. -/
def Payload.same (x y : Payload) : Bool := x.content.same y.content && x.ttl == y.ttl

/-- Whether two records are equal. -/
def Record.same (x y : Record) : Bool :=
  x.name.same y.name && x.type == y.type && x.cls == y.cls && x.ttl == y.ttl &&
    match x.payload, y.payload with
    | none, none => true
    | some p, some q => p.same q
    | _, _ => false

/-- Whether two rows of records are equal, one by one. -/
def Record.sameAll : List Record → List Record → Bool
  | [], [] => true
  | x :: xs, y :: ys => x.same y && sameAll xs ys
  | _, _ => false

end ResolverChain
