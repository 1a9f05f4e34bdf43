/-
  Hosts tables: what they hold, and which lines make one.

  * in a well-formed table (`Table.WellFormed`) the names are normal and differ in more
    than case, and each of them has an address; the table of any lines is well formed
    (`Table.wellFormed_of_ofLines`);
  * what is wrong with a line (`BadLine`) does not depend on the lines before it, so a
    source makes no table for the first thing that is wrong with it, and for that only
    (`Table.ofSource_eq_error_iff`).
-/
import Mathlib.Tactic
import ResolverChain.Hosts.Table
import ResolverChain.Proofs.NormalName

namespace ResolverChain

/-! ## Folds that stop -/

section
variable {α β ε : Type} {Bad : α → ε → Prop} {step : β → α → Except ε β} {xs : List α} {x : α}
  {b b' : β} {e : ε}

/-- The first of several items with which something is wrong, and what it is. -/
def FirstBad (Bad : α → ε → Prop) (xs : List α) (e : ε) : Prop :=
  ∃ before x after, xs = before ++ x :: after ∧ (∀ y ∈ before, ∀ e, ¬ Bad y e) ∧ Bad x e

theorem not_firstBad_nil : ¬ FirstBad Bad [] e := by
  rintro ⟨before, x, after, h, -⟩
  simp at h

theorem firstBad_cons :
    FirstBad Bad (x :: xs) e ↔ Bad x e ∨ ((∀ e, ¬ Bad x e) ∧ FirstBad Bad xs e) := by
  constructor
  · rintro ⟨before, y, after, h, hbefore, hy⟩
    cases before with
    | nil =>
      obtain ⟨rfl, rfl⟩ := List.cons.inj h
      exact Or.inl hy
    | cons z before =>
      obtain ⟨rfl, rfl⟩ := List.cons.inj h
      refine Or.inr ⟨hbefore x (by simp), before, y, after, rfl, ?_, hy⟩
      exact fun w hw => hbefore w (List.mem_cons_of_mem _ hw)
  · rintro (h | ⟨hx, before, y, after, rfl, hbefore, hy⟩)
    · exact ⟨[], x, xs, rfl, by simp, h⟩
    · refine ⟨x :: before, y, after, rfl, ?_, hy⟩
      intro w hw
      rcases List.mem_cons.1 hw with rfl | hw
      exacts [hx, hbefore w hw]

theorem exists_firstBad_iff : (∃ e, FirstBad Bad xs e) ↔ ∃ x ∈ xs, ∃ e, Bad x e := by
  induction xs with
  | nil => simp [not_firstBad_nil]
  | cons x xs ih =>
    simp only [firstBad_cons, exists_or, exists_and_left, ih, List.exists_mem_cons_iff]
    by_cases hx : ∃ e, Bad x e
    · exact iff_of_true (Or.inl hx) (Or.inl hx)
    · simp [not_exists.1 hx]

section
variable (hstep : ∀ b x e, step b x = .error e ↔ Bad x e)
include hstep

/-- A fold stops at the first bad item, if what is wrong with an item does not depend on
    what was folded before. -/
theorem foldlM_eq_error_iff : xs.foldlM step b = .error e ↔ FirstBad Bad xs e := by
  induction xs generalizing b with
  | nil =>
    rw [List.foldlM_nil]
    exact iff_of_false (by simp [pure, Except.pure]) not_firstBad_nil
  | cons x xs ih =>
    rw [List.foldlM_cons, firstBad_cons]
    cases hx : step b x with
    | error e' =>
      have hbad := (hstep b x e').1 hx
      constructor
      · intro h
        obtain rfl : e' = e := Except.error.inj h
        exact Or.inl hbad
      · rintro (h | ⟨h, -⟩)
        · exact hx.symm.trans ((hstep b x e).2 h)
        · exact absurd hbad (h e')
    | ok next =>
      have hgood : ∀ e, ¬ Bad x e := fun e h => by
        cases hx.symm.trans ((hstep b x e).2 h)
      refine Iff.trans ih ?_
      constructor
      · exact fun h => Or.inr ⟨hgood, h⟩
      · rintro (h | ⟨-, h⟩)
        exacts [absurd h (hgood e), h]

theorem exists_foldlM_eq_ok_iff :
    (∃ b', xs.foldlM step b = .ok b') ↔ ∀ x ∈ xs, ∀ e, ¬ Bad x e := by
  have hbad : (∃ e, FirstBad Bad xs e) ↔ ∃ x ∈ xs, ∃ e, Bad x e := exists_firstBad_iff
  cases hfold : xs.foldlM step b with
  | ok b' =>
    refine iff_of_true ⟨b', rfl⟩ fun x hx e he => ?_
    obtain ⟨e', he'⟩ := hbad.2 ⟨x, hx, e, he⟩
    cases hfold.symm.trans ((foldlM_eq_error_iff hstep).2 he')
  | error e =>
    refine iff_of_false (by simp) fun h => ?_
    obtain ⟨x, hx, e', he'⟩ := hbad.1 ⟨e, (foldlM_eq_error_iff hstep).1 hfold⟩
    exact h x hx e' he'

end

/-- What every step keeps, a whole fold keeps. -/
theorem foldlM_keeps {P : β → Prop} (hstep : ∀ b x b', P b → step b x = .ok b' → P b')
    (hb : P b) (hfold : xs.foldlM step b = .ok b') : P b' := by
  induction xs generalizing b with
  | nil =>
    obtain rfl : b = b' := Except.ok.inj hfold
    exact hb
  | cons x xs ih =>
    rw [List.foldlM_cons] at hfold
    cases hx : step b x with
    | error e => rw [hx] at hfold; cases hfold
    | ok next => rw [hx] at hfold; exact ih (hstep b x next hb hx) hfold

end

namespace DomainName

/-- Normal names that differ in case at most are equal. -/
theorem eq_of_same {m n : DomainName} (hm : normal m.bytes = m) (hn : normal n.bytes = n)
    (h : m.same n = true) : m = n := by
  have hlower : ∀ {k : DomainName}, normal k.bytes = k → lowerBytes k.bytes = k.bytes := by
    intro k hk
    exact lowerBytes_of_forall fun b hb => not_isUpper_of_mem_normal b (by rwa [hk])
  rw [same, hlower hm, hlower hn, beq_iff_eq] at h
  exact congrArg mk h

end DomainName

namespace Hosts

variable {t t' : Table} {a : Address} {n : DomainName} {host literal line : String}
  {failure : Failure}

/-! ## Well-formed tables -/

/-- The names of a table are normal and differ in more than case, and each of them has an
    address. -/
structure Table.WellFormed (t : Table) : Prop where
  normal : ∀ entry ∈ t, (Value.name entry.1).toDomain = .ok entry.1
  distinct : t.Pairwise fun entry later => entry.1.same later.1 = false
  listed : ∀ entry ∈ t, entry.2 ≠ []

theorem Table.mem_add {entry : DomainName × List Address} (h : entry ∈ t.add n a) :
    entry ∈ t ∨ (entry.1 = n ∧ entry.2 ≠ []) := by
  induction t with
  | nil =>
    rw [Table.add, List.mem_singleton] at h
    exact Or.inr (by simp [h])
  | cons head t ih =>
    obtain ⟨m, as⟩ := head
    rw [Table.add] at h
    split_ifs at h with hm
    · rcases List.mem_cons.1 h with rfl | h
      · exact Or.inr ⟨hm, by simp⟩
      · exact Or.inl (List.mem_cons_of_mem _ h)
    · rcases List.mem_cons.1 h with rfl | h
      · exact Or.inl List.mem_cons_self
      · exact (ih h).imp_left (List.mem_cons_of_mem _)

theorem Table.wellFormed_nil : Table.WellFormed [] := ⟨by simp, .nil, by simp⟩

/-- One more address for a normal name keeps a table well formed. -/
theorem Table.WellFormed.add (ht : t.WellFormed) (hn : DomainName.normal n.bytes = n) (a : Address) :
    (t.add n a).WellFormed := by
  have hname : (Value.name n).toDomain = .ok n := by rw [Value.toDomain, hn]
  refine ⟨?_, ?_, ?_⟩
  · intro entry h
    rcases Table.mem_add h with h | ⟨rfl, -⟩
    exacts [ht.normal entry h, hname]
  · obtain ⟨hnormal, hdistinct, -⟩ := ht
    induction t with
    | nil => exact List.pairwise_singleton _ _
    | cons head t ih =>
      obtain ⟨m, as⟩ := head
      obtain ⟨hhead, htail⟩ := List.pairwise_cons.1 hdistinct
      rw [Table.add]
      split_ifs with hm
      · exact List.pairwise_cons.2 ⟨hhead, htail⟩
      · refine List.pairwise_cons.2
          ⟨?_, ih (fun entry h => hnormal entry (List.mem_cons_of_mem _ h)) htail⟩
        intro entry h
        rcases Table.mem_add h with h | ⟨hentry, -⟩
        · exact hhead entry h
        · -- a name that is new to the table differs from all that stand before it
          have hmn : DomainName.normal m.bytes = m := by
            simpa [Value.toDomain] using hnormal (m, as) List.mem_cons_self
          rw [hentry]
          exact Bool.eq_false_iff.2 fun h => hm (DomainName.eq_of_same hmn hn h)
  · intro entry h
    rcases Table.mem_add h with h | ⟨-, h⟩
    exacts [ht.listed entry h, h]

/-! ## Hosts -/

theorem Table.addHost_eq (a : Address) (t : Table) (host : String) :
    t.addHost a host =
      match DomainName.ofText? host with
      | some n => .ok (t.add n a)
      | none => .error (.name (.unencodable host)) := by
  rw [Table.addHost, Value.toDomain]
  cases DomainName.ofText? host <;> rfl

/-- A host is bad if its name cannot be encoded. -/
def BadHost (host : String) (failure : Failure) : Prop :=
  DomainName.ofText? host = none ∧ failure = .name (.unencodable host)

theorem Table.addHost_eq_error_iff (a : Address) (t : Table) (host : String) (failure : Failure) :
    t.addHost a host = .error failure ↔ BadHost host failure := by
  rw [Table.addHost_eq, BadHost]
  cases DomainName.ofText? host <;> simp [eq_comm]

theorem Table.WellFormed.addHost (ht : t.WellFormed) (h : t.addHost a host = .ok t') :
    t'.WellFormed := by
  rw [Table.addHost_eq] at h
  cases hhost : DomainName.ofText? host with
  | none => simp [hhost] at h
  | some n =>
    simp only [hhost, Except.ok.injEq] at h
    exact h ▸ ht.add (DomainName.ofText?_normal hhost) a

/-! ## Lines -/

/-- What is wrong with a line. -/
inductive BadLine (line : String) : Failure → Prop
  /-- Its first field is no address.  The failure names the first host of the line. -/
  | address {literal host : String} {hosts : List String}
      (fields : lineFields line = literal :: host :: hosts)
      (illegible : Address.ofText? literal = none) :
      BadLine line (.address (.invalid (.text host) (.text literal)))
  /-- One of its hosts cannot be encoded. -/
  | host {literal host : String} {hosts : List String} {failure : Failure}
      (fields : lineFields line = literal :: host :: hosts)
      (legible : (Address.ofText? literal).isSome)
      (bad : FirstBad BadHost (host :: hosts) failure) : BadLine line failure

/-- A line of an address and at least one host. -/
theorem Table.addLine_of_fields {hosts : List String}
    (h : lineFields line = literal :: host :: hosts) :
    t.addLine line =
      match Address.ofText? literal with
      | some a => (host :: hosts).foldlM (Table.addHost a) t
      | none => .error (.address (.invalid (.text host) (.text literal))) := by
  have hread : (Value.text literal).toAddress? = Address.ofText? literal := rfl
  simp only [Table.addLine, h, Value.parseAddress, hread]
  cases Address.ofText? literal <;> rfl

/-- A line without a host counts for nothing. -/
theorem Table.addLine_of_short (h : ∀ literal host hosts,
    lineFields line ≠ literal :: host :: hosts) : t.addLine line = .ok t := by
  rw [Table.addLine]
  split
  · rename_i literal host hosts hfields
    exact absurd hfields (h literal host hosts)
  · rfl

theorem Table.addLine_eq_error_iff (t : Table) (line : String) (failure : Failure) :
    t.addLine line = .error failure ↔ BadLine line failure := by
  by_cases hfields : ∃ literal host hosts, lineFields line = literal :: host :: hosts
  · obtain ⟨literal, host, hosts, hfields⟩ := hfields
    rw [Table.addLine_of_fields hfields]
    cases ha : Address.ofText? literal with
    | none =>
      constructor
      · intro h
        obtain rfl := Except.error.inj h
        exact .address hfields ha
      · rintro (⟨hfields', -⟩ | ⟨hfields', hlegible, -⟩) <;> cases hfields.symm.trans hfields'
        · rfl
        · simp [ha] at hlegible
    | some a =>
      refine (foldlM_eq_error_iff (Table.addHost_eq_error_iff a)).trans ?_
      constructor
      · exact .host hfields (by simp [ha])
      · rintro (⟨hfields', hnone⟩ | ⟨hfields', -, hbad⟩) <;> cases hfields.symm.trans hfields'
        · cases ha.symm.trans hnone
        · exact hbad
  · simp only [not_exists] at hfields
    rw [Table.addLine_of_short hfields]
    refine iff_of_false (by simp) ?_
    rintro (⟨hfields', -⟩ | ⟨hfields', -, -⟩) <;> exact hfields _ _ _ hfields'

theorem Table.WellFormed.addLine (ht : t.WellFormed) (h : t.addLine line = .ok t') :
    t'.WellFormed := by
  by_cases hfields : ∃ literal host hosts, lineFields line = literal :: host :: hosts
  · obtain ⟨literal, host, hosts, hfields⟩ := hfields
    rw [Table.addLine_of_fields hfields] at h
    cases ha : Address.ofText? literal with
    | none => simp [ha] at h
    | some a =>
      simp only [ha] at h
      exact foldlM_keeps (fun _ _ _ => Table.WellFormed.addHost) ht h
  · simp only [not_exists] at hfields
    rw [Table.addLine_of_short hfields, Except.ok.injEq] at h
    exact h ▸ ht

/-! ## Sources -/

/-- **The table of any lines is well formed.** -/
theorem Table.wellFormed_of_ofLines {lines : List String} (h : Table.ofLines lines = .ok t) :
    t.WellFormed :=
  foldlM_keeps (fun _ _ _ => Table.WellFormed.addLine) Table.wellFormed_nil h

/-- A source can be read to its end: reading does not stop before it, and nothing is wrong
    with a line. -/
structure Source.Readable (source : Source) : Prop where
  complete : source.failure = none
  good : ∀ line ∈ source.lines, ∀ failure, ¬ BadLine line failure

/-- The first thing that is wrong with a source: with one of its lines or, behind them, with
    what the lines come from. -/
inductive Source.Fails (source : Source) : Failure → Prop
  | line {failure : Failure} (bad : FirstBad BadLine source.lines failure) : Fails source failure
  | behind {failure : Failure} (good : ∀ line ∈ source.lines, ∀ failure, ¬ BadLine line failure)
      (stopped : source.failure = some failure) : Fails source failure

variable {source : Source}

theorem Table.exists_ofLines_iff {lines : List String} :
    (∃ t, Table.ofLines lines = .ok t) ↔ ∀ line ∈ lines, ∀ failure, ¬ BadLine line failure :=
  exists_foldlM_eq_ok_iff Table.addLine_eq_error_iff

theorem Table.ofLines_eq_error_iff {lines : List String} :
    Table.ofLines lines = .error failure ↔ FirstBad BadLine lines failure :=
  foldlM_eq_error_iff Table.addLine_eq_error_iff

/-- **A source that can be read makes the table of its lines.** -/
theorem Source.Readable.exists_table (h : source.Readable) :
    ∃ t, Table.ofLines source.lines = .ok t ∧ Table.ofSource source = .ok t := by
  obtain ⟨t, ht⟩ := Table.exists_ofLines_iff.2 h.good
  refine ⟨t, ht, ?_⟩
  simp only [Table.ofSource, ht, h.complete]
  rfl

/-- **A source makes no table for the first thing that is wrong with it**, and for that
    only. -/
theorem Table.ofSource_eq_error_iff : Table.ofSource source = .error failure ↔ source.Fails failure := by
  cases hlines : Table.ofLines source.lines with
  | error e =>
    have hbad := Table.ofLines_eq_error_iff.1 hlines
    have hsource : Table.ofSource source = .error e := by simp only [Table.ofSource, hlines]; rfl
    rw [hsource]
    constructor
    · intro h
      obtain rfl := Except.error.inj h
      exact .line hbad
    · rintro (h | ⟨hgood, -⟩)
      · rw [← hlines]
        exact Table.ofLines_eq_error_iff.2 h
      · obtain ⟨line, hline, e', he'⟩ := exists_firstBad_iff.1 ⟨e, hbad⟩
        exact absurd he' (hgood line hline e')
  | ok t =>
    have hgood := Table.exists_ofLines_iff.1 ⟨t, hlines⟩
    have hline : ¬ FirstBad BadLine source.lines failure := fun h => by
      cases hlines.symm.trans (Table.ofLines_eq_error_iff.2 h)
    have hsource : Table.ofSource source = source.failure.elim (.ok t) .error := by
      simp only [Table.ofSource, hlines]
      cases source.failure <;> rfl
    rw [hsource]
    constructor
    · intro h
      cases hstopped : source.failure with
      | none => simp [hstopped] at h
      | some e =>
        simp only [hstopped, Option.elim_some, Except.error.injEq] at h
        exact .behind hgood (by rw [hstopped, h])
    · rintro (h | ⟨-, h⟩)
      · exact absurd h hline
      · simp [h]

/-- **A source can be read to its end, or something is wrong with it.** -/
theorem Source.readable_or_fails (source : Source) :
    source.Readable ∨ ∃ failure, source.Fails failure := by
  by_cases hgood : ∀ line ∈ source.lines, ∀ failure, ¬ BadLine line failure
  · cases hstopped : source.failure with
    | none => exact Or.inl ⟨hstopped, hgood⟩
    | some failure => exact Or.inr ⟨failure, .behind hgood hstopped⟩
  · simp only [not_forall, not_not] at hgood
    obtain ⟨line, hline, e, he⟩ := hgood
    obtain ⟨failure, hbad⟩ := exists_firstBad_iff.2 ⟨line, hline, e, he⟩
    exact Or.inr ⟨failure, .line hbad⟩

end Hosts

end ResolverChain
