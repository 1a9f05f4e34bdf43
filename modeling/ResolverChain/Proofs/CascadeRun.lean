/-
  Runs of a cascade.

  * an outcome goes through conversions up to the first that fails (`through`), and
    `reached` are the numbers of those that are called for it;
  * it makes no difference whether the outcome comes before the stages are derived or
    after (`complete_ofConversions`), and once it has come no step changes anything
    (`Settled.run_eq`);
  * so the first step on a source without an outcome decides all that can ever be seen
    of the cascade (`first_outcome_decides`).
-/
import Mathlib.Tactic
import ResolverChain.Lookup.Cascade

namespace ResolverChain.Lookup.Cascade

variable {ε α : Type} {c : Cascade ε α} {outcome : Except ε α}
  {conversions : List (α → Except ε α)} {cancels : Nat}

/-! ## What an outcome comes to -/

/-- What conversions make of an outcome: of a value, what the first of them to fail gives,
    or else the last. -/
def through (conversions : List (α → Except ε α)) (outcome : Except ε α) : Except ε α :=
  outcome >>= fun x => conversions.foldlM (fun x convert => convert x) x

/-- The numbers of the conversions that are called for an outcome: of those that are behind
    none that fails. -/
def reached (conversions : List (α → Except ε α)) (outcome : Except ε α) : List Nat :=
  (List.range conversions.length).filter fun i => (through (conversions.take i) outcome).isOk

theorem through_concat (conversions : List (α → Except ε α)) (convert : α → Except ε α)
    (outcome : Except ε α) :
    through (conversions ++ [convert]) outcome =
      (converted convert (through conversions outcome)).1 := by
  cases outcome with
  | error e => rfl
  | ok x =>
    simp only [through, bind, Except.bind, List.foldlM_append]
    cases conversions.foldlM (fun x convert => convert x) x with
    | error e => rfl
    | ok y => cases h : convert y <;> simp [h, converted, bind, Except.bind, pure, Except.pure]

theorem reached_concat (conversions : List (α → Except ε α)) (convert : α → Except ε α)
    (outcome : Except ε α) :
    reached (conversions ++ [convert]) outcome =
      reached conversions outcome ++
        if (converted convert (through conversions outcome)).2 then [conversions.length] else [] := by
  have hbefore : ∀ i ∈ List.range conversions.length,
      (through ((conversions ++ [convert]).take i) outcome).isOk =
        (through (conversions.take i) outcome).isOk := by
    intro i hi
    rw [List.take_append_of_le_length (List.mem_range.1 hi).le]
  have hlast : (conversions ++ [convert]).take conversions.length = conversions := by simp
  rw [reached, List.length_append, List.length_singleton, List.range_succ, List.filter_append,
    List.filter_congr hbefore, reached]
  congr 1
  cases hthrough : through conversions outcome <;>
    simp [hlast, hthrough, converted, Except.isOk, Except.toBool]

/-! ## Deriving stages -/

theorem ofConversions_concat (source : Eventual ε α) (conversions : List (α → Except ε α))
    (convert : α → Except ε α) :
    ofConversions source (conversions ++ [convert]) =
      (ofConversions source conversions).derive convert := by
  simp [ofConversions, List.foldl_append]

theorem last_of_pending (conversions : List (α → Except ε α)) :
    last { source := .pending, stages := conversions.map (⟨·, .pending⟩) } = .pending := by
  rw [last]
  cases hstage : (conversions.map fun f => (⟨f, .pending⟩ : Stage ε α)).getLast? with
  | none => rfl
  | some stage =>
    obtain ⟨f, -, rfl⟩ := List.mem_map.1 (List.mem_of_getLast? hstage)
    rfl

/-- While the source has no outcome, no stage has one. -/
theorem ofConversions_pending (conversions : List (α → Except ε α)) :
    ofConversions .pending conversions =
      { source := .pending, stages := conversions.map (⟨·, .pending⟩) } := by
  induction conversions using List.reverseRecOn with
  | nil => rfl
  | append_singleton conversions convert ih =>
    rw [ofConversions_concat, derive, ih, last_of_pending]
    simp

/-- A cascade whose source has an outcome and was asked so many times to give up, with what
    its conversions make of the outcome. -/
structure Settled (c : Cascade ε α) (conversions : List (α → Except ε α))
    (outcome : Except ε α) (cancels : Nat) : Prop where
  source : c.source = .settled outcome
  size : c.stages.length = conversions.length
  last : c.last = .settled (through conversions outcome)
  calls : c.calls = reached conversions outcome
  cancels_eq : c.cancels = cancels

theorem Settled.derive (h : c.Settled conversions outcome cancels) (convert : α → Except ε α) :
    (c.derive convert).Settled (conversions ++ [convert]) outcome cancels := by
  rw [Cascade.derive, h.last]
  refine ⟨h.source, by simp [h.size], ?_, ?_, h.cancels_eq⟩
  · simp [Cascade.last, through_concat]
  · rw [reached_concat, ← h.calls, ← h.size]
    split_ifs <;> simp_all

/-- When the source has an outcome, the stages are settled as they are derived. -/
theorem settled_ofConversions (outcome : Except ε α) (conversions : List (α → Except ε α)) :
    (ofConversions (.settled outcome) conversions).Settled conversions outcome 0 := by
  induction conversions using List.reverseRecOn with
  | nil =>
    refine ⟨rfl, rfl, ?_, rfl, rfl⟩
    cases outcome <;> rfl
  | append_singleton conversions convert ih =>
    rw [ofConversions_concat]
    exact ih.derive convert

/-! ## Outcomes that come later -/

theorem through_cons (convert : α → Except ε α) (conversions : List (α → Except ε α))
    (outcome : Except ε α) :
    through (convert :: conversions) outcome =
      through conversions (converted convert outcome).1 := by
  cases outcome with
  | error e => rfl
  | ok x => cases h : convert x <;> simp [through, converted, h, bind, Except.bind]

/-- The last of several stages is settled after what the ones before it make of the
    outcome. -/
theorem settleStages_concat (number : Nat) (outcome : Except ε α) (stages : List (Stage ε α))
    (stage : Stage ε α) :
    settleStages number outcome (stages ++ [stage]) =
      ((settleStages number outcome stages).1 ++
          [{ stage with
              result := .settled
                (converted stage.convert (through (stages.map (·.convert)) outcome)).1 }],
        (settleStages number outcome stages).2 ++
          if (converted stage.convert (through (stages.map (·.convert)) outcome)).2 then
            [number + stages.length] else []) := by
  induction stages generalizing number outcome with
  | nil => cases outcome <;> rfl
  | cons first stages ih =>
    have hplace : number + 1 + stages.length = number + (stages.length + 1) := by omega
    simp only [List.cons_append, settleStages, ih, List.map_cons, through_cons, List.length_cons,
      hplace]
    split_ifs <;> rfl

/-- **It makes no difference whether an outcome comes before the stages are derived or
    after.** -/
theorem complete_ofConversions (conversions : List (α → Except ε α)) (outcome : Except ε α) :
    (ofConversions .pending conversions).complete outcome =
      some (ofConversions (.settled outcome) conversions) := by
  induction conversions using List.reverseRecOn with
  | nil => rfl
  | append_singleton conversions convert ih =>
    obtain ⟨-, hsize, hlast, -⟩ := settled_ofConversions outcome conversions
    have hconverts : (conversions.map fun f => (⟨f, .pending⟩ : Stage ε α)).map (·.convert) =
        conversions := by
      simp [Function.comp_def]
    simp only [ofConversions_pending, complete, Option.some.injEq] at ih
    rw [← ih] at hsize
    rw [ofConversions_concat (.settled outcome), derive, hlast, ← ih,
      ofConversions_pending, complete, List.map_append, List.map_cons, List.map_nil,
      settleStages_concat, hconverts]
    simp only [List.length_map, List.nil_append, Nat.zero_add, Option.some.injEq,
      Cascade.mk.injEq, true_and, and_true, hsize]
    split_ifs <;> simp

/-! ## Runs -/

/-- Every stage hands a request to give up on to the source, while there is no outcome. -/
theorem handsOn_pending (conversions : List (α → Except ε α)) :
    handsOn (conversions.map fun f => (⟨f, .pending⟩ : Stage ε α)) = true := by
  induction conversions with
  | nil => rfl
  | cons f conversions ih => exact ih

/-- Giving up a cascade without an outcome fails its source, which is asked once. -/
theorem cancel_ofConversions (cancelled : ε) (conversions : List (α → Except ε α)) :
    (ofConversions .pending conversions).cancel cancelled =
      { ofConversions (.settled (.error cancelled)) conversions with cancels := 1 } := by
  have hhandsOn : handsOn (ofConversions (ε := ε) .pending conversions).stages.reverse = true := by
    rw [ofConversions_pending, ← List.map_reverse]
    exact handsOn_pending _
  have hcancels : (ofConversions (ε := ε) .pending conversions).cancels = 0 := by
    rw [ofConversions_pending]
  rw [cancel, if_pos hhandsOn, complete_ofConversions]
  simp only [hcancels]

/-- The step gives an outcome to the source. -/
def Step.isComplete : Step ε α → Bool
  | .complete _ => true
  | .cancel => false

theorem Settled.view_eq (h : c.Settled conversions outcome cancels) :
    c.view =
      { outcome := some (through conversions outcome)
        calls := reached conversions outcome
        cancels := cancels } := by
  rw [view, h.last, h.calls, h.cancels_eq]
  rfl

/-- **When the source has an outcome, no step changes anything**, and another outcome comes
    too late. -/
theorem Settled.run_eq (h : c.Settled conversions outcome cancels) (cancelled : ε)
    (steps : List (Step ε α)) :
    c.run cancelled steps = steps.map fun s =>
      { outcome := some (through conversions outcome)
        calls := reached conversions outcome
        cancels := cancels
        isLate := s.isComplete } := by
  have hcomplete : ∀ o, c.complete o = none := by
    intro o
    rw [complete, h.source]
  have hcancel : c.cancel cancelled = c := by
    rw [cancel, hcomplete]
    split_ifs <;> rfl
  induction steps with
  | nil => rfl
  | cons s steps ih =>
    have hstep : c.step cancelled s = (c, s.isComplete) := by
      cases s with
      | complete o => rw [step, hcomplete]; rfl
      | cancel => rw [step, hcancel]; rfl
    simp only [run, hstep, List.map_cons, ih, h.view_eq]

/-- The outcome that a step gives to a source without one. -/
def Step.given (cancelled : ε) : Step ε α → Except ε α
  | .complete outcome => outcome
  | .cancel => .error cancelled

/-- The step gives the cascade up. -/
def Step.isCancel : Step ε α → Bool
  | .complete _ => false
  | .cancel => true

/-- The first step on a source without an outcome settles it. -/
theorem step_ofConversions (cancelled : ε) (conversions : List (α → Except ε α)) (s : Step ε α) :
    ∃ c', (ofConversions .pending conversions).step cancelled s = (c', false) ∧
      c'.Settled conversions (s.given cancelled) (if s.isCancel then 1 else 0) := by
  have hsettled := settled_ofConversions (s.given cancelled) conversions
  cases s with
  | complete outcome =>
    refine ⟨ofConversions (.settled outcome) conversions, ?_, hsettled⟩
    rw [step, complete_ofConversions]
  | cancel =>
    refine ⟨{ ofConversions (.settled (.error cancelled)) conversions with cancels := 1 }, ?_,
      hsettled.source, hsettled.size, hsettled.last, hsettled.calls, rfl⟩
    rw [step, cancel_ofConversions]

theorem mapIdx_const {β γ : Type} (f : β → γ) (xs : List β) :
    (xs.mapIdx fun _ x => f x) = xs.map f := by
  refine List.ext_getElem? fun i => ?_
  rw [List.getElem?_mapIdx, List.getElem?_map]

/-- **The first outcome decides all that can be seen of a cascade**: its source's own, if it
    has one when the stages are derived, or else that of the first step.  The last stage has
    no outcome before it and only one ever after, what the conversions make of the first
    outcome; of the conversions, those are called once and in order that are behind none
    that fails; the source is asked to give up once if the first step asks for that, and
    never else; and every outcome that comes later is refused. -/
theorem first_outcome_decides (cancelled : ε) (source : Eventual ε α)
    (conversions : List (α → Except ε α)) (steps : List (Step ε α)) :
    let first := source.outcome?.or (steps.head?.map (Step.given cancelled))
    (ofConversions source conversions).view =
      { outcome := source.outcome?.map (through conversions)
        calls := source.outcome?.elim [] (reached conversions)
        cancels := 0 } ∧
    (ofConversions source conversions).run cancelled steps = steps.mapIdx fun i s =>
      { outcome := first.map (through conversions)
        calls := first.elim [] (reached conversions)
        cancels := if source.outcome?.isNone && steps.head?.any Step.isCancel then 1 else 0
        isLate := s.isComplete && (source.outcome?.isSome || 0 < i) } := by
  intro first
  cases source with
  | settled outcome =>
    have hsettled := settled_ofConversions outcome conversions
    refine ⟨hsettled.view_eq, ?_⟩
    rw [hsettled.run_eq, ← mapIdx_const]
    simp [first, Eventual.outcome?]
  | pending =>
    refine ⟨by rw [ofConversions_pending, view, last_of_pending]; rfl, ?_⟩
    cases steps with
    | nil => rfl
    | cons s steps =>
      obtain ⟨c', hstep, hsettled⟩ := step_ofConversions cancelled conversions s
      rw [run, hstep]
      dsimp only
      rw [hsettled.view_eq, hsettled.run_eq, ← mapIdx_const, List.mapIdx_cons]
      simp [first, Eventual.outcome?]

end ResolverChain.Lookup.Cascade
