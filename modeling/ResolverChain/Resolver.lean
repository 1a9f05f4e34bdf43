/-
  Resolvers, and how a chain of them takes a question.

  * a `Resolver` is a hosts table in front of the next resolver, or one of the
    ends of a chain: it answers with a fixed code, asks the network, leaves its
    queries open, or answers with fixed records;
  * `ask` puts a question to the front of a chain; its `Reaction` tells what
    came of it: an error at once, an outcome at once, or a query that waits for
    a reply; besides, which links heard the question, which query left the chain,
    and what was noted in the log;
  * `Hosts.resolve` is what a hosts table makes of a question, whatever the next
    link is;
  * `Query.conclude` makes the outcome out of a reply to a waiting query.
-/
import ResolverChain.Answer.Builder
import ResolverChain.Hosts.Table
import ResolverChain.Log

namespace ResolverChain

/-! ## Questions -/

/-- Wishes of the asker, handed along a chain as they are. -/
structure Flags where
  noRecursion : Bool := false
  noCache : Bool := false
  checkingDisabled : Bool := false
deriving DecidableEq, Repr

/-- A question to a resolver. -/
structure Question where
  /-- The name, as it was given. -/
  name : Value
  type : Int
  cls : Int := RecordClass.internet
  flags : Flags := {}
deriving Repr

/-! ## Resolvers -/

/-- A link of a chain. -/
inductive Resolver where
  /-- Answers for the names of its table and asks the next link for all others. -/
  | hosts (table : Hosts.Table)
  /-- Answers every question with a result code and no records. -/
  | terminal (code : Int)
  /-- Asks the network, which replies later. -/
  | network
  /-- Keeps its queries until they are replied to. -/
  | recorder
  /-- Answers every question with a result code and records. -/
  | fixed (code : Int) (records : List Record)
  /-- Answers nothing. -/
  | bare
deriving Repr

/-- A resolver as it shows itself, if its result code can be written. -/
def Resolver.text? : Resolver → Option String
  | terminal code =>
    (Text.Integer.text? code).map fun digits => "<TerminalResolver resultCode=" ++ digits ++ ">"
  | hosts _ => some "<HostsResolver>"
  | network => some "<NamesResolver>"
  | recorder | fixed _ _ | bare => some "<ResolverBase>"

/-- Where a query goes when it leaves a chain. -/
inductive Carrier where
  | network
  | recorder
  /-- It is answered where it arrives. -/
  | fixed
deriving DecidableEq, Repr

/-- A query that left a chain. -/
structure Query where
  carrier : Carrier
  question : Question
deriving Repr

/-- What came of a question. -/
inductive Course where
  /-- The question was refused, and there is no lookup. -/
  | refused (failure : Failure)
  /-- The lookup ended at once. -/
  | settled (outcome : Except Failure Answer)
  /-- The lookup waits for a reply to the query. -/
  | waiting
deriving Repr

/-- What came of a question, with all that could be noticed meanwhile. -/
structure Reaction where
  course : Course
  /-- The questions as the links heard them, each with how many links on. -/
  heard : List (Nat × Question) := []
  /-- The query that left the chain, and how many links on. -/
  sent : Option (Nat × Query) := none
  log : List Log.Event := []
deriving Repr

namespace Reaction

/-- The reaction seen from the link before. -/
def fromNext (r : Reaction) : Reaction :=
  { r with
    heard := r.heard.map fun (depth, question) => (depth + 1, question)
    sent := r.sent.map fun (depth, query) => (depth + 1, query) }

/-- The reaction of a link that heard the question first. -/
def hearing (question : Question) (r : Reaction) : Reaction :=
  { r with heard := (0, question) :: r.heard }

/-- A refusal, with nothing else noticed. -/
def refusal (failure : Failure) : Reaction := { course := .refused failure }

/-- An answer at once, with nothing else noticed. -/
def answer (a : Answer) : Reaction := { course := .settled (.ok a) }

end Reaction

/-! ## Answers from a hosts table -/

/-- Where hosts tables note things down. -/
def Hosts.origin : String := "txresolve.hosts.HostsResolver"

/-- The lifetime of records that are made up from a hosts table. -/
def Hosts.ttl : Int := 0

/-- The type of the record of an address. -/
def Hosts.recordType (a : Address) : Int := if a.isV4 then RecordType.a else RecordType.aaaa

/-- Whether a question of the type asks for the family of an address. -/
def Hosts.wants (type : Int) (a : Address) : Bool :=
  type == RecordType.all || type == Hosts.recordType a

/-- The content of the record of an address, read from the text of the address; the
    scope is not written, since a record has no room for it. -/
def Hosts.content? (a : Address) : Option Content :=
  if a.isV4 then (Address.quadBytes? a.toChars).map .a
  else (Address.groupsBytes? a.unscoped.toChars).map .aaaa

/-- What is reported of an address whose text cannot be read. -/
def Hosts.illegible : Failure := .foreign "OSError" "illegal IP address string"

/-- The record of an address for a name. -/
def Hosts.record (domain : DomainName) (a : Address) : Except Failure Record :=
  match Hosts.content? a with
  | some content =>
    .ok ⟨domain, Hosts.recordType a, RecordClass.internet, Hosts.ttl, some ⟨content, Hosts.ttl⟩⟩
  | none => .error Hosts.illegible

/-- The answer from the addresses of a name, in their order. -/
def Hosts.answer (domain : DomainName) (cls type : Int) (addresses : List Address) :
    Except Failure Answer := do
  let records ← (addresses.filter (Hosts.wants type)).mapM (Hosts.record domain)
  return ⟨.name domain, some cls, some type, some ResultCode.ok, records⟩

/-- What is noted when a table answers. -/
def Hosts.answeringEvent (domain : DomainName) : Log.Event :=
  ⟨.debug, Hosts.origin, domain.text?.map fun s => "Answering " ++ s ++ " from hosts table"⟩

/-- Whether a hosts table answers questions of the class. -/
def Hosts.answersClass (cls : Int) : Bool :=
  cls == RecordClass.internet || cls == RecordClass.any

/-! ## Asking -/

/-- The normal name in a question. -/
def Question.domain (q : Question) : Except Failure DomainName := q.name.toDomain.mapError .name

/-- What a hosts table makes of a question that the next link would make `next` of. -/
def Hosts.resolve (table : Hosts.Table) (next : Question → Reaction) (q : Question) : Reaction :=
  if Hosts.answersClass q.cls then
    match q.domain with
    | .error failure => .refusal failure
    | .ok domain =>
      match table.addresses? domain with
      | some addresses =>
        let course :=
          match Hosts.answer domain q.cls q.type addresses with
          | .ok a => .settled (.ok a)
          | .error failure => .refused failure
        { course, log := [Hosts.answeringEvent domain] }
      | none => (next q).fromNext
  else (next q).fromNext

/-- What comes of a question to the front of a chain. -/
def ask : List Resolver → Question → Reaction
  | [], _ => .refusal .unlinked
  | .hosts table :: next, q => (Hosts.resolve table (ask next) q).hearing q
  | .terminal code :: _, q =>
    .hearing q <| match q.domain with
    | .error failure => .refusal failure
    | .ok domain => .answer ⟨.name domain, some q.cls, some q.type, some code, []⟩
  | .network :: _, q =>
    .hearing q <| match q.domain with
    | .error failure => .refusal failure
    | .ok domain =>
      { course := .waiting, sent := some (0, ⟨.network, { q with name := .name domain }⟩) }
  | .recorder :: _, q => .hearing q { course := .waiting, sent := some (0, ⟨.recorder, q⟩) }
  | .fixed code records :: _, q =>
    .hearing q { Reaction.answer ⟨q.name, some q.cls, some q.type, some code, records⟩ with
      sent := some (0, ⟨.fixed, q⟩) }
  | .bare :: _, q => .hearing q { course := .settled (.error .unanswerable) }

/-! ## Replies -/

/-- A reply to a query that waits. -/
inductive Reply where
  | failed (failure : Failure)
  /-- A result code and records, which a recorder hands on. -/
  | answered (code : Int) (records : List Record)
  /-- Sections of records, of which the network sends three: the answer proper, the
      servers in charge, and what else may be useful. -/
  | sections (all : List (List Record))
deriving Repr

/-- Where resolvers that ask the network note things down. -/
def Network.origin : String := "txresolve.resolve"

namespace Query

/-- The query as messages show it, if its name and its numbers can be written. -/
def text? (q : Query) : Option String := do
  let name ← q.question.name.shown?.toOption
  let type ← RecordType.mnemonic? q.question.type
  let cls ← RecordClass.mnemonic? q.question.cls
  return "<Query " ++ name ++ " " ++ type ++ " " ++ cls ++ ">"

/-- The answer to the query with a code and records. -/
def answer (q : Query) (code : Int) (records : List Record) : Answer :=
  ⟨q.question.name, some q.question.cls, some q.question.type, some code, records⟩

/-- What is noted when a report from the network stands for a result code. -/
def codeEvent (q : Query) (code : Int) : Log.Event :=
  ⟨.debug, Network.origin, q.text?.map fun s =>
    s ++ " answered with result code " ++ Text.Numeral.ofInt code⟩

/-- The outcome of the query after a reply, and what is noted. -/
def conclude (q : Query) : Reply → Except Failure Answer × List Log.Event
  | .answered code records => (.ok (q.answer code records), [])
  | .sections [records, _, _] => (.ok (q.answer ResultCode.ok records), [])
  | .sections all => (.error (.sections all.length), [])
  | .failed failure =>
    match q.carrier, failure with
    | .network, .server e _ =>
      match e.code? with
      | some code => (.ok (q.answer code []), [q.codeEvent code])
      | none => (.error failure, [])
    | _, _ => (.error failure, [])

end Query

end ResolverChain
