/-
  Building answers part by part.

  * a `Builder` holds the parts given so far; each `Step` sets a part, adds
    records, or makes an answer of the parts;
  * `Builder.create?` is the answer, which needs a name;
  * `Builder.run` takes steps one after the other and collects what each of them
    gave.
-/
import ResolverChain.Answer.Basic

namespace ResolverChain.Answer

/-- The parts of an answer given so far. -/
structure Builder where
  name : Value := .nothing
  cls : Option Int := some RecordClass.internet
  type : Option Int := some RecordType.all
  code : Option Int := some ResultCode.ok
  records : List Record := []
deriving Repr

/-- One step of building. -/
inductive Step where
  | setName (name : Value)
  | setClass (cls : Option Int)
  | setType (type : Option Int)
  | setCode (code : Option Int)
  | addRecord (record : Record)
  | addRecords (records : List Record)
  /-- Make an answer of the parts. -/
  | create
deriving Repr

/-- What a step gave. -/
inductive Built where
  /-- The builder itself, to go on with. -/
  | builder
  | answer (a : Answer)
  /-- No answer, for want of a name. -/
  | nameless
deriving Repr

namespace Builder

/-- The answer made of the parts, if there is a name. -/
def create? (b : Builder) : Option Answer :=
  match b.name with
  | .nothing => none
  | name => some ⟨name, b.cls, b.type, b.code, b.records⟩

/-- The builder after a step, and what the step gave. -/
def step (b : Builder) : Step → Builder × Built
  | .setName name => ({ b with name }, .builder)
  | .setClass cls => ({ b with cls }, .builder)
  | .setType type => ({ b with type }, .builder)
  | .setCode code => ({ b with code }, .builder)
  | .addRecord record => ({ b with records := b.records ++ [record] }, .builder)
  | .addRecords records => ({ b with records := b.records ++ records }, .builder)
  | .create =>
    match b.create? with
    | some a => (b, .answer a)
    | none => (b, .nameless)

/-- What each of several steps gave. -/
def run (b : Builder) : List Step → List Built
  | [] => []
  | s :: steps => (b.step s).2 :: (b.step s).1.run steps

end Builder

/-- What is reported when an answer lacks a name. -/
def namelessMessage : String := "An answer requires a query name"

end ResolverChain.Answer
