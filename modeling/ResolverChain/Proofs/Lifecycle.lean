/-
  What holds throughout a session.

  * a session on a chain of tables and a last link that leaves its queries open stays
    tied, whatever is done in it (`Effect.tied`, `TiedBehind.after`);
  * no lookup ends twice and no query is cancelled twice (`Once.run`).
-/
import ResolverChain.Proofs.Effect

namespace ResolverChain

namespace Session

/-! ## Runs -/

/-- The session after some steps. -/
def after (fs : FileSystem) (s : Session) (steps : List Step) : Session :=
  steps.foldl (fun s step => (s.step fs step).1) s

/-- The lookups that ended in a step. -/
def Report.ended (report : Report) : List Nat := report.fired.map (·.1)

variable {fs : FileSystem} {tables : List Hosts.Table} {last : Resolver} {s s' : Session}
  {step : Step} {report : Report} {place : Nat}

/-! ## Sessions stay tied -/

theorem getElem?_concat_eq_some {α : Type} {xs : List α} {x y : α} {i : Nat} :
    (xs ++ [x])[i]? = some y ↔ xs[i]? = some y ∨ (i = xs.length ∧ x = y) := by
  rcases lt_trichotomy i xs.length with h | rfl | h
  · simp [List.getElem?_append_left h, h.ne]
  · simp
  · have hend : (xs ++ [x]).length ≤ i := by simp; omega
    simp [List.getElem?_eq_none hend, List.getElem?_eq_none h.le, h.ne']

theorem getElem?_set_eq_some {α : Type} {xs : List α} {x x' y : α} {i j : Nat}
    (hx : xs[i]? = some x') :
    (xs.set i x)[j]? = some y ↔ (i = j ∧ x = y) ∨ (i ≠ j ∧ xs[j]? = some y) := by
  have hlt := (List.getElem?_eq_some_iff.1 hx).1
  by_cases hij : i = j
  · subst hij; simp [List.getElem?_set_self hlt]
  · simp [List.getElem?_set_ne hij, hij]

section
variable {use : Lookup.Use} {number place : Nat} {query : Query} {k k' i i' : Nat}

theorem waitsFor_concat {w w' : Option Nat} {sent : List Sent} :
    WaitsFor { s with lookups := s.lookups ++ [⟨use, w⟩], sent } k w' ↔
      s.WaitsFor k w' ∨ (k = s.lookups.length ∧ w = w') := by
  simp only [WaitsFor, getElem?_concat_eq_some, Pending.mk.injEq]
  constructor
  · rintro ⟨use', h | ⟨hk, -, hw⟩⟩
    exacts [Or.inl ⟨use', h⟩, Or.inr ⟨hk, hw⟩]
  · rintro (⟨use', h⟩ | ⟨hk, hw⟩)
    exacts [⟨use', Or.inl h⟩, ⟨use, Or.inr ⟨hk, rfl, hw⟩⟩]

theorem waitsFor_set {w : Option Nat} {sent : List Sent} {pending : Pending}
    (h : s.lookups[k]? = some pending) :
    WaitsFor { s with lookups := s.lookups.set k ⟨use, none⟩, sent } k' w ↔
      (k = k' ∧ none = w) ∨ (k ≠ k' ∧ s.WaitsFor k' w) := by
  simp only [WaitsFor, getElem?_set_eq_some h, Pending.mk.injEq]
  constructor
  · rintro ⟨use', ⟨hk, -, hw⟩ | ⟨hne, h⟩⟩
    exacts [Or.inl ⟨hk, hw⟩, Or.inr ⟨hne, use', h⟩]
  · rintro (⟨hk, hw⟩ | ⟨hne, use', h⟩)
    exacts [⟨use, Or.inl ⟨hk, rfl, hw⟩⟩, ⟨use', Or.inr ⟨hne, h⟩⟩]

theorem hasQuery_concat {b : Bool} {lookups : List Pending} :
    HasQuery { s with sent := s.sent ++ [⟨place, query, true⟩], lookups } i b ↔
      s.HasQuery i b ∨ (i = s.sent.length ∧ true = b) := by
  simp only [HasQuery, getElem?_concat_eq_some]
  constructor
  · rintro ⟨sent, h | ⟨hi, rfl⟩, hb⟩
    exacts [Or.inl ⟨sent, h, hb⟩, Or.inr ⟨hi, hb⟩]
  · rintro (⟨sent, h, hb⟩ | ⟨hi, hb⟩)
    exacts [⟨sent, Or.inl h, hb⟩, ⟨_, Or.inr ⟨hi, rfl⟩, hb⟩]

theorem hasQuery_set {b : Bool} {lookups : List Pending} {sent : Sent}
    (h : s.sent[i]? = some sent) :
    HasQuery { s with sent := s.sent.set i ⟨place, query, false⟩, lookups } i' b ↔
      (i = i' ∧ false = b) ∨ (i ≠ i' ∧ s.HasQuery i' b) := by
  simp only [HasQuery, getElem?_set_eq_some h]
  constructor
  · rintro ⟨sent', ⟨hi, rfl⟩ | ⟨hne, h⟩, hb⟩
    exacts [Or.inl ⟨hi, hb⟩, Or.inr ⟨hne, sent', h, hb⟩]
  · rintro (⟨hi, hb⟩ | ⟨hne, sent', h, hb⟩)
    exacts [⟨_, Or.inl ⟨hi, rfl⟩, hb⟩, ⟨sent', Or.inr ⟨hne, h⟩, hb⟩]

end

/-- A chain has its tables from one row only. -/
theorem eq_of_chain_eq {loaded : List Hosts.Table}
    (h : tables.map Resolver.hosts ++ [last] = loaded.map .hosts ++ [last]) : tables = loaded := by
  have hmap : tables.map Resolver.hosts = loaded.map .hosts := List.append_cancel_right h
  exact List.map_injective_iff.2 (fun _ _ h => Resolver.hosts.inj h) hmap

/-- A session without lookups is tied. -/
theorem tied_start (tables : List Hosts.Table) (last : Resolver) :
    Tied tables last { chain := tables.map .hosts ++ [last] } where
  chain := rfl
  origin := by simp
  awaited := by simp [HasQuery, WaitsFor]
  single := by simp [WaitsFor]

/-- **A step keeps a session tied**, with as many tables as before. -/
theorem Effect.tied (ht : s.Tied tables last) (h : Effect tables last s step s' report) :
    ∃ loaded : List Hosts.Table, loaded.length = tables.length ∧ s'.Tied loaded last := by
  cases h with
  | idle loaded size =>
    exact ⟨loaded, size, rfl, fun sent hsent => size ▸ ht.origin sent hsent, ht.awaited, ht.single⟩
  | settled =>
    refine ⟨tables, rfl, ht.chain, ht.origin, ?_, ?_⟩
    · intro i
      change s.HasQuery i true ↔ _
      simpa [waitsFor_concat] using ht.awaited i
    · intro k k' i hk hk'
      simp only [waitsFor_concat, reduceCtorEq, and_false, or_false] at hk hk'
      exact ht.single hk hk'
  | @delegated link use q query _ _ _ _ sends =>
    have hfresh : ∀ k, ¬ s.WaitsFor k (some s.sent.length) := by
      intro k hk
      obtain ⟨sent, hsent, -⟩ := (ht.awaited _).2 ⟨k, hk⟩
      simp at hsent
    refine ⟨tables, rfl, ht.chain, ?_, ?_, ?_⟩
    · intro sent hsent
      rcases List.mem_append.1 hsent with h | h
      · exact ht.origin sent h
      · rw [List.mem_singleton.1 h]
        exact ⟨rfl, carrier_of_query sends⟩
    · intro i
      rw [hasQuery_concat, ht.awaited i]
      simp only [waitsFor_concat, Option.some.injEq, exists_or, exists_eq_left, and_true, eq_comm]
    · intro k k' i hk hk'
      simp only [waitsFor_concat, Option.some.injEq] at hk hk'
      rcases hk with hk | ⟨rfl, rfl⟩ <;> rcases hk' with hk' | ⟨rfl, hi⟩
      · exact ht.single hk hk'
      · exact absurd (hi ▸ hk) (hfresh k)
      · exact absurd hk' (hfresh k')
      · rfl
  | @ended k number use query _ waits sent =>
    -- one query less is open, and the one lookup that waited for it is over
    refine ⟨tables, rfl, ht.chain, ?_, ?_, ?_⟩
    · intro q hq
      rcases List.mem_or_eq_of_mem_set hq with h | rfl
      · exact ht.origin q h
      · exact ⟨rfl, (ht.origin _ (List.mem_of_getElem? sent)).2⟩
    · intro i
      rw [hasQuery_set sent]
      simp only [waitsFor_set waits, reduceCtorEq, and_false, false_or, ht.awaited i]
      constructor
      · rintro ⟨hne, j, hj⟩
        refine ⟨j, ?_, hj⟩
        rintro rfl
        obtain ⟨use', hj⟩ := hj
        rw [waits] at hj
        cases hj
        exact hne rfl
      · rintro ⟨j, hne, hj⟩
        refine ⟨?_, j, hj⟩
        rintro rfl
        exact hne (ht.single ⟨use, waits⟩ hj)
    · intro j j' i hj hj'
      simp only [waitsFor_set waits, reduceCtorEq, and_false, false_or] at hj hj'
      exact ht.single hj.2 hj'.2

/-- Tied, with so many tables. -/
def TiedBehind (place : Nat) (last : Resolver) (s : Session) : Prop :=
  ∃ tables : List Hosts.Table, tables.length = place ∧ s.Tied tables last

theorem TiedBehind.after (fs : FileSystem) (hlast : last.Waits)
    (ht : s.TiedBehind place last) (steps : List Step) :
    (s.after fs steps).TiedBehind place last := by
  induction steps generalizing s with
  | nil => exact ht
  | cons step steps ih =>
    obtain ⟨tables, rfl, ht⟩ := ht
    exact ih ((step_effect fs ht hlast step).tied ht)

/-! ## What is done is not done again -/

/-- Events that reports tell of happen once: a step leads to at most one of them, after
    which it is marked as done, and what is marked stays so and does not happen. -/
structure Once {β : Type} (last : Resolver) (events : Report → List β)
    (Done : Session → β → Prop) : Prop where
  one : ∀ {tables s step s' report}, Effect tables last s step s' report →
    (events report).Nodup ∧ ∀ b ∈ events report, Done s' b
  kept : ∀ {tables s step s' report}, Effect tables last s step s' report →
    ∀ b, Done s b → Done s' b ∧ b ∉ events report

theorem once_ended (last : Resolver) :
    Once last Report.ended fun s k => s.WaitsFor k none where
  one h := by
    cases h with
    | idle loaded size result silent => simp [Report.ended, silent.2.2]
    | settled => simp [Report.ended, waitsFor_concat]
    | delegated => simp [Report.ended]
    | ended waits => simp [Report.ended, waitsFor_set waits]
  kept h k hk := by
    cases h with
    | idle loaded size result silent => exact ⟨hk, by simp [Report.ended, silent.2.2]⟩
    | settled =>
      refine ⟨waitsFor_concat.2 (Or.inl hk), ?_⟩
      obtain ⟨use, hk⟩ := hk
      simpa [Report.ended] using (List.getElem?_eq_some_iff.1 hk).1.ne
    | delegated => exact ⟨waitsFor_concat.2 (Or.inl hk), by simp [Report.ended]⟩
    | @ended k' number use query reply waits =>
      have hne : k' ≠ k := by
        rintro rfl
        obtain ⟨use', hk⟩ := hk
        rw [waits] at hk
        cases hk
      exact ⟨(waitsFor_set waits).2 (Or.inr ⟨hne, hk⟩), by simpa [Report.ended] using hne.symm⟩

theorem mem_cancels {place number : Nat} {q : Nat × Nat} (h : q ∈ step.cancels place number) :
    q = (place, number) := by
  cases step with
  | cancel k => exact List.mem_singleton.1 h
  | _ => cases h

theorem nodup_cancels (step : Step) (place number : Nat) : (step.cancels place number).Nodup := by
  cases step <;> simp [Step.cancels]

theorem once_cancelled (last : Resolver) :
    Once last Report.cancelled fun s q => s.HasQuery q.2 false where
  one h := by
    cases h with
    | idle loaded size result silent => simp [silent.2.1]
    | settled => simp
    | delegated => simp
    | @ended k number use query reply waits sent decides =>
      refine ⟨nodup_cancels _ _ _, ?_⟩
      intro q hq
      rw [mem_cancels hq]
      exact (hasQuery_set sent).2 (Or.inl ⟨rfl, rfl⟩)
  kept h q hq := by
    cases h with
    | idle loaded size result silent => exact ⟨hq, by simp [silent.2.1]⟩
    | settled => exact ⟨hq, by simp⟩
    | delegated => exact ⟨hasQuery_concat.2 (Or.inl hq), by simp⟩
    | @ended k number use query reply waits sent =>
      have hne : number ≠ q.2 := by
        rintro rfl
        obtain ⟨sent', hsent', hclosed⟩ := hq
        rw [sent] at hsent'
        cases hsent'
        cases hclosed
      refine ⟨(hasQuery_set sent).2 (Or.inr ⟨hne, hq⟩), ?_⟩
      intro hmem
      exact hne (congrArg Prod.snd (mem_cancels hmem)).symm

/-- **What reports tell of happens once** in a whole run, and not at all if it is done
    before the run. -/
theorem Once.run {β : Type} {events : Report → List β} {Done : Session → β → Prop}
    (h : Once last events Done) (fs : FileSystem) (hlast : last.Waits)
    (ht : s.TiedBehind place last) (steps : List Step) :
    ((s.run fs steps).flatMap events).Nodup ∧
      (∀ b ∈ (s.run fs steps).flatMap events, Done (s.after fs steps) b) ∧
      ∀ b, Done s b → Done (s.after fs steps) b ∧ b ∉ (s.run fs steps).flatMap events := by
  induction steps generalizing s with
  | nil => simp [Session.run, Session.after]
  | cons step steps ih =>
    obtain ⟨tables, rfl, ht⟩ := ht
    have heffect := step_effect fs ht hlast step
    obtain ⟨hnodup, hdone, hrest⟩ := ih (heffect.tied ht)
    obtain ⟨hone, hmarks⟩ := h.one heffect
    rw [Session.run, List.flatMap_cons]
    refine ⟨List.nodup_append.2 ⟨hone, hnodup, ?_⟩, ?_, ?_⟩
    · -- what the first step tells of is marked from then on
      rintro b hb _ hb' rfl
      exact (hrest b (hmarks b hb)).2 hb'
    · intro b hb
      rcases List.mem_append.1 hb with hb | hb
      · exact (hrest b (hmarks b hb)).1
      · exact hdone b hb
    · intro b hb
      obtain ⟨hkept, hfresh⟩ := h.kept heffect b hb
      obtain ⟨hafter, hnever⟩ := hrest b hkept
      exact ⟨hafter, by simp [hfresh, hnever]⟩

end Session

end ResolverChain
