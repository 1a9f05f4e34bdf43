/-
  What a builder makes of its steps.

  * `lastSet?` is the value that the last of several steps sets for a part, and
    `Step.added` are the records that a step adds; the builder after steps holds these,
    and what it began with where nothing was set (`after_eq`);
  * a builder in memory adds records to a row of its own in place, and gives each answer a
    new row with a copy of it (`Held`); no row but its own is ever changed
    (`Held.row_of_run`), so the answers read behind the last step are those that the steps
    gave (`Held.read_run`);
  * every answer has what was set and added before it, whatever comes behind
    (`answers_are_snapshots`).
-/
import Mathlib.Tactic
import ResolverChain.Answer.Builder

namespace ResolverChain.Answer

/-! ## What steps say -/

namespace Step

/-- The name that a step sets. -/
def name? : Step → Option Value
  | setName name => some name
  | _ => none

/-- The class that a step sets, which may be none. -/
def cls? : Step → Option (Option Int)
  | setClass cls => some cls
  | _ => none

/-- The type that a step sets, which may be none. -/
def type? : Step → Option (Option Int)
  | setType type => some type
  | _ => none

/-- The result code that a step sets, which may be none. -/
def code? : Step → Option (Option Int)
  | setCode code => some code
  | _ => none

/-- The records that a step adds. -/
def added : Step → List Record
  | addRecord record => [record]
  | addRecords records => records
  | _ => []

end Step

/-- The value that the last of several steps sets for a part, if one of them does. -/
def lastSet? {α : Type} (part? : Step → Option α) (steps : List Step) : Option α :=
  (steps.filterMap part?).getLast?

variable {b : Builder} {s : Step} {steps before later : List Step}

theorem lastSet?_concat {α : Type} (part? : Step → Option α) (steps : List Step) (s : Step) :
    lastSet? part? (steps ++ [s]) = (part? s).or (lastSet? part? steps) := by
  cases hs : part? s <;> simp [lastSet?, List.filterMap_append, hs]

namespace Builder

/-! ## Steps one after the other -/

/-- The builder after several steps. -/
def after (b : Builder) (steps : List Step) : Builder := steps.foldl (fun b s => (b.step s).1) b

/-- What a builder that holds what the steps say gives when an answer is to be made. -/
def snapshot (steps : List Step) : Built :=
  match lastSet? Step.name? steps with
  | none | some .nothing => .nameless
  | some name =>
    .answer ⟨name, (lastSet? Step.cls? steps).getD (some RecordClass.internet),
      (lastSet? Step.type? steps).getD (some RecordType.all),
      (lastSet? Step.code? steps).getD (some ResultCode.ok), steps.flatMap Step.added⟩

theorem after_concat (b : Builder) (steps : List Step) (s : Step) :
    b.after (steps ++ [s]) = ((b.after steps).step s).1 := by
  rw [after, List.foldl_concat, after]

/-- Making an answer leaves the builder as it was. -/
theorem step_create_fst (b : Builder) : (b.step .create).1 = b := by
  rw [step]
  split <;> rfl

/-- **A builder holds what was set last and what was added**, in order. -/
theorem after_eq (steps : List Step) :
    after {} steps =
      { name := (lastSet? Step.name? steps).getD .nothing
        cls := (lastSet? Step.cls? steps).getD (some RecordClass.internet)
        type := (lastSet? Step.type? steps).getD (some RecordType.all)
        code := (lastSet? Step.code? steps).getD (some ResultCode.ok)
        records := steps.flatMap Step.added } := by
  induction steps using List.reverseRecOn with
  | nil => rfl
  | append_singleton steps s ih =>
    rw [after_concat, ih]
    simp only [lastSet?_concat, List.flatMap_append, List.flatMap_singleton]
    cases s with
    | create =>
      rw [step_create_fst]
      simp [Step.name?, Step.cls?, Step.type?, Step.code?, Step.added]
    | _ => simp [step, Step.name?, Step.cls?, Step.type?, Step.code?, Step.added]

theorem run_append (b : Builder) (before later : List Step) :
    b.run (before ++ later) = b.run before ++ (b.after before).run later := by
  induction before generalizing b with
  | nil => rfl
  | cons s before ih => rw [List.cons_append, run, run, ih, List.cons_append]; rfl

theorem length_run (b : Builder) (steps : List Step) : (b.run steps).length = steps.length := by
  induction steps generalizing b with
  | nil => rfl
  | cons s steps ih => rw [run, List.length_cons, List.length_cons, ih]

/-- **A new builder gives the answer that the steps before say.** -/
theorem step_create_snd (steps : List Step) :
    ((after {} steps).step .create).2 = snapshot steps := by
  rw [after_eq, step, create?, snapshot]
  rcases lastSet? Step.name? steps with _ | name
  · rfl
  · cases name <;> rfl

end Builder

/-! ## In memory -/

/-- A builder or an answer in memory: the records are in a row there. -/
structure Held where
  name : Value := .nothing
  cls : Option Int := some RecordClass.internet
  type : Option Int := some RecordType.all
  code : Option Int := some ResultCode.ok
  /-- The number of the row. -/
  row : Nat := 0

/-- What a step in memory gave. -/
inductive Handed where
  | builder
  | answer (a : Held)
  | nameless

namespace Held

/-- The builder that the memory holds. -/
def builder (rows : List (List Record)) (h : Held) : Builder :=
  ⟨h.name, h.cls, h.type, h.code, rows.getD h.row []⟩

/-- The answer that the memory holds. -/
def answer (rows : List (List Record)) (h : Held) : Answer :=
  ⟨h.name, h.cls, h.type, h.code, rows.getD h.row []⟩

/-- A step in memory, as the builder, the rows and what the step gave.  Records are added
    to the builder's row in place; an answer gets a new row with a copy of it. -/
def step (h : Held) (rows : List (List Record)) : Step → Held × List (List Record) × Handed
  | .setName name => ({ h with name }, rows, .builder)
  | .setClass cls => ({ h with cls }, rows, .builder)
  | .setType type => ({ h with type }, rows, .builder)
  | .setCode code => ({ h with code }, rows, .builder)
  | .addRecord record => (h, rows.modify h.row (· ++ [record]), .builder)
  | .addRecords records => (h, rows.modify h.row (· ++ records), .builder)
  | .create =>
    match h.name with
    | .nothing => (h, rows, .nameless)
    | _ => (h, rows ++ [rows.getD h.row []], .answer { h with row := rows.length })

/-- The rows behind several steps, and what each of them gave. -/
def run (h : Held) (rows : List (List Record)) : List Step → List (List Record) × List Handed
  | [] => (rows, [])
  | s :: steps =>
    let (h', rows', handed) := h.step rows s
    let (final, later) := h'.run rows' steps
    (final, handed :: later)

end Held

/-- What the memory holds of what a step gave. -/
def Handed.read (rows : List (List Record)) : Handed → Built
  | builder => .builder
  | answer a => .answer (a.answer rows)
  | nameless => .nameless

/-- What a new builder in memory gave, read when all steps have been taken. -/
def Held.readAtEnd (steps : List Step) : List Built :=
  let (rows, handed) := ({} : Held).run [[]] steps
  handed.map (Handed.read rows)

namespace Held

variable {h h' : Held} {rows rows' : List (List Record)} {handed : Handed} {i : Nat}

/-- What one step in memory does, with the state and the gift behind it. -/
structure Stepped (h : Held) (rows : List (List Record)) (s : Step) (h' : Held)
    (rows' : List (List Record)) (handed : Handed) : Prop where
  /-- The builder keeps its row. -/
  row : h'.row = h.row
  length : rows.length ≤ rows'.length
  /-- No other row is changed. -/
  others : ∀ i < rows.length, i ≠ h.row → rows'[i]? = rows[i]?
  /-- The builder that the memory holds takes the step, and the memory holds what it gives. -/
  step : (h.builder rows).step s = (h'.builder rows', handed.read rows')
  /-- The row of an answer is not the builder's. -/
  apart : ∀ a, handed = .answer a → a.row < rows'.length ∧ a.row ≠ h.row

theorem builder_modify (hrow : h.row < rows.length) (more : List Record) :
    h.builder (rows.modify h.row (· ++ more)) =
      { h.builder rows with records := (h.builder rows).records ++ more } := by
  simp [builder, List.getD_eq_getElem?_getD, hrow]

theorem stepped (hrow : h.row < rows.length) (hstep : h.step rows s = (h', rows', handed)) :
    Stepped h rows s h' rows' handed := by
  cases s with
  | setName | setClass | setType | setCode =>
    cases hstep
    exact ⟨rfl, le_rfl, fun _ _ _ => rfl, rfl, fun _ ha => by cases ha⟩
  | addRecord | addRecords =>
    cases hstep
    refine ⟨rfl, by simp, fun i _ hne => ?_, ?_, fun _ ha => by cases ha⟩
    · rw [List.getElem?_modify_ne _ _ (Ne.symm hne)]
    · rw [builder_modify hrow]
      rfl
  | create =>
    rw [step] at hstep
    split at hstep
    · rename_i hname
      cases hstep
      refine ⟨rfl, le_rfl, fun _ _ _ => rfl, ?_, fun _ ha => by cases ha⟩
      simp [Builder.step, Builder.create?, builder, hname, Handed.read]
    · rename_i hname
      cases hstep
      refine ⟨rfl, by simp, fun i hi _ => List.getElem?_append_left hi, ?_, ?_⟩
      · simp [Builder.step, Builder.create?, builder, Handed.read, answer,
          List.getD_eq_getElem?_getD, hrow, List.getElem?_append_left]
      · rintro a ⟨⟩
        exact ⟨by simp, hrow.ne'⟩

theorem run_cons (hstep : h.step rows s = (h', rows', handed)) (steps : List Step) :
    h.run rows (s :: steps) =
      ((h'.run rows' steps).1, handed :: (h'.run rows' steps).2) := by
  rw [run, hstep]

/-- **A run changes no row but the builder's.** -/
theorem row_of_run (hrow : h.row < rows.length) (hi : i < rows.length) (hne : i ≠ h.row) :
    (h.run rows steps).1[i]? = rows[i]? := by
  induction steps generalizing h rows with
  | nil => rfl
  | cons s steps ih =>
    obtain ⟨⟨h', rows', handed⟩, hstep⟩ : ∃ r, h.step rows s = r := ⟨_, rfl⟩
    have hs := stepped hrow hstep
    rw [run_cons hstep, ih (hs.row ▸ hrow.trans_le hs.length) (hi.trans_le hs.length)
      (hs.row ▸ hne), hs.others i hi hne]

/-- **The answers read behind the last step** are those that the steps gave. -/
theorem read_run (hrow : h.row < rows.length) (steps : List Step) :
    (h.run rows steps).2.map (Handed.read (h.run rows steps).1) =
      (h.builder rows).run steps := by
  induction steps generalizing h rows with
  | nil => rfl
  | cons s steps ih =>
    obtain ⟨⟨h', rows', handed⟩, hstep⟩ : ∃ r, h.step rows s = r := ⟨_, rfl⟩
    have hs := stepped hrow hstep
    have hrow' : h'.row < rows'.length := hs.row ▸ hrow.trans_le hs.length
    have hread : handed.read (h'.run rows' steps).1 = handed.read rows' := by
      cases handed with
      | builder | nameless => rfl
      | answer a =>
        -- the steps that follow leave the row of the answer alone
        obtain ⟨ha, hne⟩ := hs.apart a rfl
        simp [Handed.read, answer, List.getD_eq_getElem?_getD, row_of_run hrow' ha (hs.row ▸ hne)]
    rw [run_cons hstep, List.map_cons, hread, ih hrow', Builder.run, hs.step]

end Held

/-! ## Snapshots -/

namespace Builder

theorem snapshot_eq_nameless_iff :
    snapshot steps = .nameless ↔
      lastSet? Step.name? steps = none ∨ lastSet? Step.name? steps = some .nothing := by
  rw [snapshot]
  rcases lastSet? Step.name? steps with _ | name
  · simp
  · cases name <;> simp

theorem run_create (before later : List Step) :
    run {} (before ++ .create :: later) =
      run {} before ++ snapshot before :: (run {} (before ++ later)).drop before.length := by
  rw [run_append, run_append {} before later, List.drop_left' (length_run _ _), run,
    step_create_snd, step_create_fst]

/-- **Every answer has what was set and added before it**, whatever comes behind: its name,
    class, type and code are those set last, and its records those added, in order.  There
    is an answer unless the last name is nothing or none was set.  Making one, or failing
    to, changes nothing of what the steps before and behind give; and answers that are kept
    in memory are the same behind the last step, when the builder has gone on. -/
theorem answers_are_snapshots (before later : List Step) :
    (run {} (before ++ .create :: later))[before.length]? = some (snapshot before) ∧
    (snapshot before = .nameless ↔
      lastSet? Step.name? before = none ∨ lastSet? Step.name? before = some .nothing) ∧
    run {} (before ++ .create :: later) =
      run {} before ++ snapshot before :: (run {} (before ++ later)).drop before.length ∧
    Held.readAtEnd (before ++ .create :: later) = run {} (before ++ .create :: later) := by
  refine ⟨?_, snapshot_eq_nameless_iff, run_create before later, ?_⟩
  · rw [run_create, List.getElem?_append_right (length_run _ _).le, length_run, Nat.sub_self]
    rfl
  · exact Held.read_run (by decide) _

end Builder

end ResolverChain.Answer
