/-
  Results to come, and what is derived from them.

  * a `Cascade` is a source and a row of stages, each derived from the one before
    by a conversion; every stage has a result of its own, which comes when that
    of the stage before does;
  * `complete` gives the source its outcome, once; a value passes through the
    conversions up to the first that fails, and a failure passes by them;
  * `cancel` asks the last stage to give up: while its result is to come, the
    request goes back from stage to stage to the source, which then fails.
-/

namespace ResolverChain.Lookup

variable {ε α : Type}

/-- A result that may still be to come. -/
inductive Eventual (ε α : Type) where
  | pending
  | settled (outcome : Except ε α)
deriving Repr

/-- The outcome, if it has come. -/
def Eventual.outcome? : Eventual ε α → Option (Except ε α)
  | pending => none
  | settled outcome => some outcome

/-- A result derived from the one before by a conversion. -/
structure Stage (ε α : Type) where
  convert : α → Except ε α
  result : Eventual ε α

/-- A source and the stages derived from it, the nearest first. -/
structure Cascade (ε α : Type) where
  source : Eventual ε α
  stages : List (Stage ε α) := []
  /-- The stages whose conversions were called, in order. -/
  calls : List Nat := []
  /-- How often the source was asked to give up. -/
  cancels : Nat := 0

namespace Cascade

/-- The result of the last stage, or of the source if there is none. -/
def last (c : Cascade ε α) : Eventual ε α :=
  match c.stages.getLast? with
  | some stage => stage.result
  | none => c.source

/-! ## Outcomes -/

/-- What a conversion makes of an outcome, and whether it was called. -/
def converted (convert : α → Except ε α) : Except ε α → Except ε α × Bool
  | .ok x => (convert x, true)
  | .error e => (.error e, false)

/-- Settles stages, the first of which has a given number, after the outcome
    before them; besides, the numbers of those whose conversions were called. -/
def settleStages (number : Nat) (outcome : Except ε α) :
    List (Stage ε α) → List (Stage ε α) × List Nat
  | [] => ([], [])
  | stage :: stages =>
    let (here, called) := converted stage.convert outcome
    let (later, calls) := settleStages (number + 1) here stages
    ({ stage with result := .settled here } :: later,
      if called then number :: calls else calls)

/-- Gives the source its outcome, unless it has one. -/
def complete (c : Cascade ε α) (outcome : Except ε α) : Option (Cascade ε α) :=
  match c.source with
  | .settled _ => none
  | .pending =>
    let (stages, calls) := settleStages 0 outcome c.stages
    some { c with source := .settled outcome, stages, calls := c.calls ++ calls }

/-! ## Derivation -/

/-- Derives one more stage.  When the result before it has come, so does its own. -/
def derive (c : Cascade ε α) (convert : α → Except ε α) : Cascade ε α :=
  match c.last with
  | .pending => { c with stages := c.stages ++ [⟨convert, .pending⟩] }
  | .settled outcome =>
    let (here, called) := converted convert outcome
    { c with
      stages := c.stages ++ [⟨convert, .settled here⟩]
      calls := if called then c.calls ++ [c.stages.length] else c.calls }

/-- The cascade of a source and some conversions. -/
def ofConversions (source : Eventual ε α) (conversions : List (α → Except ε α)) :
    Cascade ε α :=
  conversions.foldl derive { source }

/-! ## Giving up -/

/-- Whether a request to give up gets past stages, the last first: each hands it
    on while its own result is to come. -/
def handsOn : List (Stage ε α) → Bool
  | [] => true
  | stage :: stages =>
    match stage.result with
    | .pending => handsOn stages
    | .settled _ => false

/-- Asks the last stage to give up; the source then fails with `cancelled`. -/
def cancel (cancelled : ε) (c : Cascade ε α) : Cascade ε α :=
  if handsOn c.stages.reverse then
    match c.complete (.error cancelled) with
    | some done => { done with cancels := c.cancels + 1 }
    | none => c
  else c

/-! ## Steps -/

/-- One step. -/
inductive Step (ε α : Type) where
  | complete (outcome : Except ε α)
  | cancel

/-- What can be seen of a cascade. -/
structure View (ε α : Type) where
  /-- The outcome of the last stage, if it has come. -/
  outcome : Option (Except ε α)
  calls : List Nat
  cancels : Nat
  /-- Whether the step came too late. -/
  isLate : Bool := false

/-- What can be seen of a cascade. -/
def view (c : Cascade ε α) : View ε α :=
  { outcome := c.last.outcome?, calls := c.calls, cancels := c.cancels }

/-- The cascade after a step, and whether the step came too late. -/
def step (cancelled : ε) (c : Cascade ε α) : Step ε α → Cascade ε α × Bool
  | .cancel => (c.cancel cancelled, false)
  | .complete outcome =>
    match c.complete outcome with
    | some done => (done, false)
    | none => (c, true)

/-- What can be seen after each of several steps. -/
def run (cancelled : ε) (c : Cascade ε α) : List (Step ε α) → List (View ε α)
  | [] => []
  | s :: steps =>
    let (after, isLate) := c.step cancelled s
    { after.view with isLate } :: run cancelled after steps

end Cascade

end ResolverChain.Lookup
