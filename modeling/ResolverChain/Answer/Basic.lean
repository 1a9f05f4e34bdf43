/-
  Answers to queries.

  * an `Answer` repeats what was asked and gives a result code and the records
    found; unless the code is that of success the records mean nothing; a class,
    a type or a code can be left open;
  * `Answer.checked` are the records, or the error that the code calls for;
  * `Answer.same` compares answers.
-/
import ResolverChain.Answer.Result
import ResolverChain.Record.Basic
import ResolverChain.Record.Type

namespace ResolverChain

/-- The answer to one query. -/
structure Answer where
  /-- The name that was asked for, as it was given. -/
  name : Value
  cls : Option Int := some RecordClass.internet
  type : Option Int := some RecordType.all
  code : Option Int := some ResultCode.ok
  records : List Record := []
deriving Repr

namespace Answer

/-- Whether two answers are equal. -/
def same (x y : Answer) : Bool :=
  x.name.same y.name && x.cls == y.cls && x.type == y.type && x.code == y.code &&
    Record.sameAll x.records y.records

instance : BEq Answer := ⟨same⟩

/-- The records of a successful answer, or the error that the code calls for. -/
def checked (x : Answer) : Except ResultError (List Record) :=
  if x.code = some ResultCode.ok then .ok x.records else .error ⟨x.code, x.name⟩

end Answer

end ResolverChain
