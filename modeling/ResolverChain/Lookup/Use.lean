/-
  What is made of the answer to a lookup.

  * a lookup is wanted for its answer, for what its kind finds in the answer, or
    to print that (`Use`);
  * `Use.conclude` makes the outcome of the lookup out of the answer, or of the
    failure to get one.
-/
import ResolverChain.Lookup.Printed

namespace ResolverChain.Lookup

/-- What a lookup is wanted for. -/
inductive Use where
  /-- The answer itself. -/
  | plain
  /-- What the kind finds in the answer. -/
  | typed (kind : Kind)
  /-- What the kind finds, printed for the user who gave the name. -/
  | printed (kind : Kind) (name : String)
deriving Repr

/-- What a lookup gave. -/
inductive Result where
  | answer (a : Answer)
  | found (f : Found)
  /-- All was printed. -/
  | done
deriving Repr

/-- How a lookup ended, and what it wrote. -/
structure Conclusion where
  outcome : Except Failure Result
  output : String := ""
deriving Repr

/-- The end of a lookup that got an answer or failed to. -/
def Use.conclude (use : Use) (answer : Except Failure Answer) : Conclusion :=
  match use with
  | plain => { outcome := answer.map .answer }
  | typed kind => { outcome := (answer.bind kind.found).map .found }
  | printed kind name =>
    let p := Lookup.printed name (answer.bind kind.found)
    ⟨p.outcome.map fun _ => .done, p.output⟩

end ResolverChain.Lookup
