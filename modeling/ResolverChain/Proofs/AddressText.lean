/-
  Printed addresses are read back.

  * four octets are read back from the text of an address of the older family
    (`quad?_toChars`);
  * eight groups are read back from their text, also when their longest run of
    zeros is shrunk (`groups?_compressed`);
  * so the bytes that a record takes from the text of an address are the packed
    bytes of the address (`quadBytes?_toChars`, `groupsBytes?_toChars`);
  * the text of an address without a scope is read back as the address
    (`ofText?_text`), and has no line end in it (`isLiteralChar_of_mem`);
  * so is the text of an address with a scope that fits (`ofText?_text_of_scopeFits`), and
    only such addresses are ever read (`scopeFits_of_ofText?`).
-/
import Mathlib.Data.List.TakeWhile
import Mathlib.Tactic
import ResolverChain.Address.Printer
import ResolverChain.Address.Reader
import ResolverChain.Proofs.Numeral

namespace ResolverChain

open Text

/-! ## Lists of parts -/

theorem mapM_map_of_forall {α β : Type} {f : β → Option α} {g : α → β} {xs : List α}
    (h : ∀ a ∈ xs, f (g a) = some a) : (xs.map g).mapM f = some xs := by
  induction xs with
  | nil => rfl
  | cons a as ih =>
    have ha : f (g a) = some a := h a (by simp)
    have has := ih fun b hb => h b (List.mem_cons_of_mem _ hb)
    simp [ha, has]

theorem mapM_eq_none {α β : Type} {f : α → Option β} {xs : List α} {x : α} (hx : x ∈ xs)
    (h : f x = none) : xs.mapM f = none := by
  induction xs with
  | nil => cases hx
  | cons y ys ih =>
    rw [List.mapM_cons]
    rcases List.mem_cons.1 hx with rfl | hx
    · rw [h]
      rfl
    · rw [ih hx]
      cases f y <;> rfl

theorem vectorOf?_toList {α : Type} {n : Nat} (v : Vector α n) : vectorOf? n v.toList = some v := by
  simp [vectorOf?, Vector.toArray_toList]

namespace Address

theorem splitOn_joined {c : Char} {ls : List (List Char)} (h : ∀ l ∈ ls, c ∉ l) (hne : ls ≠ []) :
    (joined c ls).splitOn c = ls :=
  List.splitOn_intercalate c h hne

theorem mem_joined {c x : Char} {ls : List (List Char)} (h : x ∈ joined c ls) :
    x = c ∨ ∃ l ∈ ls, x ∈ l := by
  induction ls with
  | nil => simp [joined] at h
  | cons k ls ih =>
    cases ls with
    | nil => exact Or.inr ⟨k, by simp, by simpa [joined] using h⟩
    | cons m ms =>
      simp only [joined, List.intercalate_cons_cons, List.mem_append, List.mem_singleton] at h
      rcases h with (h | h) | h
      · exact Or.inr ⟨k, by simp, h⟩
      · exact Or.inl h
      · rcases ih h with h | ⟨l, hl, hx⟩
        exacts [Or.inl h, Or.inr ⟨l, List.mem_cons_of_mem _ hl, hx⟩]

/-! ## Four octets -/

theorem octet?_digits (b : UInt8) : octet? (Numeral.digits 10 b.toNat) = some b := by
  have hb : b.toNat < 256 := b.toNat_lt
  have hlen : (Numeral.digits 10 b.toNat).length ≤ 3 :=
    Numeral.length_digits_le (by omega) (by omega) (by omega)
  have hzero : (Numeral.digits 10 b.toNat).head? ≠ some '0' ∨
      (Numeral.digits 10 b.toNat).length = 1 := by
    by_cases h : b.toNat = 0
    · exact Or.inr (by rw [h, Numeral.digits_of_lt (by omega)]; rfl)
    · exact Or.inl (Numeral.head?_digits (by omega) (by omega) h)
  rw [octet?, Numeral.value?_digits (by omega) (by omega)]
  simp [hlen, hb, hzero]

/-- **Octets are read back.** -/
theorem quad?_toChars (octets : Vector UInt8 4) : quad? (v4 octets).toChars = some octets := by
  have hsplit : (v4 octets).toChars.splitOn '.' =
      octets.toList.map fun b => Numeral.digits 10 b.toNat := by
    refine splitOn_joined (fun l hl => ?_) (by simp [← List.length_eq_zero_iff])
    obtain ⟨b, -, rfl⟩ := List.mem_map.1 hl
    exact Numeral.notMem_digits (by omega) (by omega) (Or.inl (by decide))
  rw [quad?, hsplit, mapM_map_of_forall fun b _ => octet?_digits b]
  exact vectorOf?_toList octets

/-! ## Groups one by one -/

/-- The hexadecimal digits of a group. -/
abbrev groupDigits (g : UInt16) : List Char := Numeral.digits 16 g.toNat

theorem colon_notMem_groupDigits (g : UInt16) : ':' ∉ groupDigits g :=
  Numeral.notMem_digits (by omega) (by omega) (Or.inr (by decide))

theorem dot_notMem_groupDigits (g : UInt16) : '.' ∉ groupDigits g :=
  Numeral.notMem_digits (by omega) (by omega) (Or.inl (by decide))

theorem groupsOfPart?_digits (g : UInt16) : groupsOfPart? (groupDigits g) = some [g] := by
  have hg : g.toNat < 65536 := g.toNat_lt
  have hlen : (groupDigits g).length ≤ 4 :=
    Numeral.length_digits_le (by omega) (by omega) (by omega)
  simp [groupsOfPart?, group?, Numeral.value?_digits, hlen]

theorem mapM_groupsOfPart? (gs : List UInt16) :
    (gs.map groupDigits).mapM groupsOfPart? = some (gs.map ([·])) := by
  induction gs with
  | nil => rfl
  | cons g gs ih => simp [groupsOfPart?_digits, ih]

theorem endGroups?_digits (gs : List UInt16) : endGroups? (gs.map groupDigits) = some gs := by
  induction gs with
  | nil => rfl
  | cons g gs ih =>
    cases gs with
    | nil =>
      simp [endGroups?, groupsOfLast?, dot_notMem_groupDigits g, groupsOfPart?_digits]
    | cons g' gs =>
      rw [List.map_cons, List.map_cons] at *
      simp [endGroups?, groupsOfPart?_digits, ih]

theorem parts_groupsText (gs : List UInt16) : parts (groupsText gs) = gs.map groupDigits := by
  cases gs with
  | nil => rfl
  | cons g gs =>
    have hne : (groupsText (g :: gs)).isEmpty = false := by
      have := Numeral.digits_ne_nil 16 g.toNat
      cases gs <;> simp [groupsText, joined, this]
    rw [parts, hne, if_neg Bool.false_ne_true]
    refine splitOn_joined (fun l hl => ?_) (by simp)
    obtain ⟨g', -, rfl⟩ := List.mem_map.1 hl
    exact colon_notMem_groupDigits g'

/-! ## The gap -/

theorem splitGap_cons {c : Char} {cs : List Char} (h : c ≠ ':' ∨ cs.head? ≠ some ':') :
    splitGap (c :: cs) = (splitGap cs).map fun (front, back) => (c :: front, back) := by
  rw [splitGap]
  rintro ds hc rfl
  exact h.elim (· hc) (by simp)

theorem splitGap_append {ds : List Char} (hds : ':' ∉ ds) (cs : List Char) :
    splitGap (ds ++ cs) = (splitGap cs).map fun (front, back) => (ds ++ front, back) := by
  induction ds with
  | nil => simp
  | cons d ds ih =>
    have hd : d ≠ ':' := fun h => hds (h ▸ List.mem_cons_self)
    rw [List.cons_append, splitGap_cons (Or.inl hd), ih fun h => hds (List.mem_cons_of_mem _ h)]
    simp [Function.comp_def]

theorem groupsText_cons_cons (g g' : UInt16) (gs : List UInt16) :
    groupsText (g :: g' :: gs) = groupDigits g ++ ':' :: groupsText (g' :: gs) := by
  simp [groupsText, joined]

theorem head?_groupsText_append (g : UInt16) (gs : List UInt16) (cs : List Char) :
    (groupsText (g :: gs) ++ cs).head? ≠ some ':' := by
  obtain ⟨d, ds, hds⟩ := List.exists_cons_of_ne_nil (Numeral.digits_ne_nil 16 g.toNat)
  have hd : d ≠ ':' := fun h => colon_notMem_groupDigits g (by rw [groupDigits, hds, h]; simp)
  have htext : ∃ r, groupsText (g :: gs) = d :: r := by
    cases gs <;> simp [groupsText, joined, hds]
  obtain ⟨r, hr⟩ := htext
  simpa [hr] using hd

/-- Groups have no gap between them: the first gap is the one behind them. -/
theorem splitGap_groupsText (gs : List UInt16) (cs : List Char) :
    splitGap (groupsText gs ++ cs) =
      (splitGap cs).map fun (front, back) => (groupsText gs ++ front, back) := by
  induction gs with
  | nil => simp [groupsText, joined]
  | cons g gs ih =>
    cases gs with
    | nil =>
      rw [show groupsText [g] = groupDigits g by simp [groupsText, joined]]
      exact splitGap_append (colon_notMem_groupDigits g) cs
    | cons g' gs =>
      rw [groupsText_cons_cons, List.append_assoc, List.cons_append,
        splitGap_append (colon_notMem_groupDigits g),
        splitGap_cons (Or.inr (head?_groupsText_append g' gs cs)), ih]
      simp [Function.comp_def]

/-! ## The longest run of zeros -/

/-- A run of zeros lies within the groups, and they are zero there. -/
structure ZeroRun.Within (z : ZeroRun) (start : Nat) (gs : List UInt16) : Prop where
  start_le : start ≤ z.start
  le_end : z.start + z.length ≤ start + gs.length
  zeros : (gs.drop (z.start - start)).take z.length = List.replicate z.length 0

theorem longestZeros_within (start : Nat) (gs : List UInt16) :
    (longestZeros start gs).Within start gs := by
  induction gs generalizing start with
  | nil => exact ⟨le_rfl, le_rfl, rfl⟩
  | cons g gs ih =>
    rw [longestZeros]
    split_ifs with hlater
    · -- the run that begins with the first group
      set run := (g :: gs).takeWhile (· == 0) with hrun
      refine ⟨le_rfl, ?_, ?_⟩
      · exact Nat.add_le_add_left (List.takeWhile_prefix _).length_le _
      · have hzero : ∀ x ∈ run, x = 0 := fun x hx => by
          simpa using List.mem_takeWhile_imp hx
        rw [Nat.sub_self, List.drop_zero,
          ← List.prefix_iff_eq_take.1 (List.takeWhile_prefix (· == 0))]
        exact List.eq_replicate_of_mem hzero
    · obtain ⟨h1, h2, h3⟩ := ih (start + 1)
      refine ⟨by omega, by simp only [List.length_cons]; omega, ?_⟩
      obtain ⟨k, hk⟩ : ∃ k, (longestZeros (start + 1) gs).start = start + 1 + k :=
        ⟨_, (Nat.add_sub_of_le h1).symm⟩
      rw [hk, show start + 1 + k - start = k + 1 by omega, List.drop_succ_cons]
      rwa [hk, show start + 1 + k - (start + 1) = k by omega] at h3

/-- Groups are what stands in front of a run, the run, and what stands behind it. -/
theorem ZeroRun.Within.split {z : ZeroRun} {gs : List UInt16} (h : z.Within 0 gs) :
    gs.take z.start ++ List.replicate z.length 0 ++ gs.drop (z.start + z.length) = gs := by
  rw [← h.zeros, Nat.sub_zero, List.append_assoc, ← List.drop_drop, List.take_append_drop,
    List.take_append_drop]

/-! ## Eight groups -/

/-- **Groups are read back**, whether or not a run of zeros is shrunk. -/
theorem groups?_compressed (groups : Vector UInt16 8) :
    groups? (compressed groups.toList) = some groups := by
  have hlen : groups.toList.length = 8 := by simp
  set gs := groups.toList with hgs
  have hz := longestZeros_within 0 gs
  unfold compressed
  set z := longestZeros 0 gs
  by_cases hshort : z.length < 2
  · have hgap : splitGap (groupsText gs) = none := by
      simpa [splitGap] using splitGap_groupsText gs []
    simp only [hshort, if_true]
    rw [groups?, hgap, parts_groupsText, endGroups?_digits, hgs]
    exact vectorOf?_toList groups
  · have hend := hz.le_end
    have hgap := splitGap_groupsText (gs.take z.start)
      (':' :: ':' :: groupsText (gs.drop (z.start + z.length)))
    simp only [splitGap, Option.map_some, List.append_nil] at hgap
    have hmid : 8 - ((gs.take z.start).length + (gs.drop (z.start + z.length)).length) =
        z.length := by
      simp only [List.length_take, List.length_drop]; omega
    have hfew : (gs.take z.start).length + (gs.drop (z.start + z.length)).length < 8 := by
      simp only [List.length_take, List.length_drop]; omega
    have hflat : ((gs.take z.start).map ([·])).flatten = gs.take z.start := by
      rw [← List.flatMap_def, List.flatMap_singleton']
    simp only [hshort, if_false]
    rw [groups?, hgap]
    simp only [parts_groupsText, mapM_groupsOfPart?, endGroups?_digits, Option.bind_eq_bind,
      Option.bind_some, hflat, if_pos hfew, hmid, hz.split]
    rw [hgs]
    exact vectorOf?_toList groups

/-! ## Packed bytes -/

theorem quadBytes?_toChars (octets : Vector UInt8 4) :
    quadBytes? (v4 octets).toChars = some (v4 octets).packed := by
  rw [quadBytes?, quad?_toChars]; rfl

theorem groupsBytes?_toChars (groups : Vector UInt16 8) :
    groupsBytes? (v6 groups none).toChars = some (v6 groups none).packed := by
  rw [groupsBytes?, toChars, groups?_compressed]; rfl

/-! ## Whole addresses -/

/-- A character that the text of an address without a scope may hold: a dot, a digit, a
    colon, or one of the letters `a` to `f`. -/
def IsLiteralChar (c : Char) : Prop :=
  c.toNat = 0x2E ∨ (0x30 ≤ c.toNat ∧ c.toNat ≤ 0x3A) ∨ (0x61 ≤ c.toNat ∧ c.toNat ≤ 0x66)

instance : DecidablePred IsLiteralChar := fun _ => inferInstanceAs (Decidable (_ ∨ _))

theorem isLiteralChar_of_mem_digits {base n : Nat} (hbase : 2 ≤ base) (hbase' : base ≤ 16)
    {c : Char} (h : c ∈ Numeral.digits base n) : IsLiteralChar c := by
  obtain ⟨d, hd, rfl⟩ := Numeral.mem_digits hbase c h
  have := Numeral.toNat_digit (show d < 16 by omega)
  unfold IsLiteralChar
  omega

theorem isLiteralChar_of_mem_groupsText {gs : List UInt16} {c : Char} (h : c ∈ groupsText gs) :
    IsLiteralChar c := by
  rcases mem_joined h with rfl | ⟨l, hl, hc⟩
  · exact Or.inr (Or.inl (by decide))
  · obtain ⟨g, -, rfl⟩ := List.mem_map.1 hl
    exact isLiteralChar_of_mem_digits (by omega) (by omega) hc

theorem isLiteralChar_of_mem_compressed {gs : List UInt16} {c : Char} (h : c ∈ compressed gs) :
    IsLiteralChar c := by
  unfold compressed at h
  dsimp only at h
  split_ifs at h
  · exact isLiteralChar_of_mem_groupsText h
  · simp only [List.mem_append, List.mem_cons] at h
    rcases h with h | rfl | rfl | h
    exacts [isLiteralChar_of_mem_groupsText h, Or.inr (Or.inl (by decide)),
      Or.inr (Or.inl (by decide)), isLiteralChar_of_mem_groupsText h]

/-- The text of an address without a scope holds no other characters. -/
theorem isLiteralChar_of_mem {a : Address} {c : Char} (h : c ∈ a.unscoped.toChars) :
    IsLiteralChar c := by
  cases a with
  | v4 octets =>
    rcases mem_joined h with rfl | ⟨l, hl, hc⟩
    · exact Or.inl (by decide)
    · obtain ⟨b, -, rfl⟩ := List.mem_map.1 hl
      exact isLiteralChar_of_mem_digits (by omega) (by omega) hc
  | v6 groups scope => exact isLiteralChar_of_mem_compressed h

theorem notMem_toChars {a : Address} {c : Char} (hc : ¬ IsLiteralChar c) :
    c ∉ a.unscoped.toChars := fun h => hc (isLiteralChar_of_mem h)

/-- Eight groups have at least two colons among them, also when their zeros are shrunk. -/
theorem two_le_count_colon (groups : Vector UInt16 8) :
    2 ≤ (compressed groups.toList).count ':' := by
  unfold compressed
  dsimp only
  split_ifs
  · obtain ⟨g₁, g₂, g₃, gs, hgs⟩ : ∃ g₁ g₂ g₃ gs, groups.toList = g₁ :: g₂ :: g₃ :: gs := by
      have hlength : groups.toList.length = 8 := by simp
      match h : groups.toList with
      | g₁ :: g₂ :: g₃ :: gs => exact ⟨g₁, g₂, g₃, gs, rfl⟩
      | [] | [_] | [_, _] => simp [h] at hlength
    rw [hgs, groupsText_cons_cons, groupsText_cons_cons]
    simp only [List.count_append, List.count_cons_self]
    omega
  · simp only [List.count_append, List.count_cons_self]
    omega

theorem colon_mem_compressed (groups : Vector UInt16 8) : ':' ∈ compressed groups.toList :=
  List.count_pos_iff.1 (zero_lt_two.trans_le (two_le_count_colon groups))

/-- What has a colon in it is no octet. -/
theorem octet?_of_colon {cs : List Char} (h : ':' ∈ cs) : octet? cs = none := by
  have hdigits : cs.mapM (Numeral.digitValue? 10) = none := mapM_eq_none h rfl
  rw [octet?, Numeral.value?, hdigits]
  split_ifs <;> rfl

/-- What has a colon in it is no dotted quad. -/
theorem quad?_of_colon {cs : List Char} (h : ':' ∈ cs) : quad? cs = none := by
  have hparts : ∃ part ∈ cs.splitOn '.', ':' ∈ part := by
    have hjoined : joined '.' (cs.splitOn '.') = cs := List.intercalate_splitOn '.'
    rw [← hjoined] at h
    rcases mem_joined h with h | h
    exacts [absurd h (by decide), h]
  obtain ⟨part, hpart, hcolon⟩ := hparts
  rw [quad?, mapM_eq_none hpart (octet?_of_colon hcolon)]
  rfl

theorem quad?_of_groups (groups : Vector UInt16 8) (scope : List Char) :
    quad? (compressed groups.toList ++ scope) = none :=
  quad?_of_colon (List.mem_append_left _ (colon_mem_compressed groups))

/-- No per cent sign stands in front of the scope. -/
theorem bne_percent_of_mem {groups : Vector UInt16 8} :
    ∀ c ∈ compressed groups.toList, (c != '%') = true := by
  rintro c hc
  refine bne_iff_ne.2 ?_
  rintro rfl
  exact absurd (isLiteralChar_of_mem_compressed hc) (by decide)

/-- **The text of an address without a scope is read back.** -/
theorem ofText?_text (a : Address) : ofText? a.unscoped.text = some a.unscoped := by
  have hslash : a.unscoped.toChars.contains '/' = false := by
    rw [← Bool.not_eq_true, List.contains_iff_mem]
    exact notMem_toChars (by decide)
  rw [ofText?, text, String.toList_ofList, ofChars?, hslash, if_neg Bool.false_ne_true]
  cases a with
  | v4 octets => rw [unscoped, quad?_toChars]
  | v6 groups scope =>
    have hquad : quad? (compressed groups.toList) = none := by
      simpa using quad?_of_groups groups []
    have hscope : splitScope (compressed groups.toList) = (compressed groups.toList, none) := by
      rw [splitScope, List.span_eq_takeWhile_dropWhile,
        List.takeWhile_eq_self_iff.2 bne_percent_of_mem,
        List.dropWhile_eq_nil_iff.2 bne_percent_of_mem]
    rw [unscoped, toChars, hquad]
    simp only [hscope, groups?_compressed, Option.map_some]

/-! ## Scopes -/

/-- The scope of the address, if it has one, can be written behind a per cent sign: it is not
    empty, and has neither another per cent sign nor a slash in it. -/
def ScopeFits : Address → Prop
  | v6 _ (some scope) => scope.toList ≠ [] ∧ '%' ∉ scope.toList ∧ '/' ∉ scope.toList
  | _ => True

instance : DecidablePred ScopeFits
  | v4 _ => .isTrue trivial
  | v6 _ none => .isTrue trivial
  | v6 _ (some scope) => inferInstanceAs
    (Decidable (scope.toList ≠ [] ∧ '%' ∉ scope.toList ∧ '/' ∉ scope.toList))

theorem splitScope_of_groups (groups : Vector UInt16 8) (scope : List Char) :
    splitScope (compressed groups.toList ++ '%' :: scope) =
      (compressed groups.toList, some scope) := by
  rw [splitScope, List.span_eq_takeWhile_dropWhile,
    List.takeWhile_append_of_pos bne_percent_of_mem,
    List.dropWhile_append_of_pos bne_percent_of_mem]
  simp

/-- **The text of an address is read back**, if its scope fits. -/
theorem ofText?_text_of_scopeFits {a : Address} (h : a.ScopeFits) : ofText? a.text = some a := by
  match a with
  | v4 octets => exact ofText?_text (v4 octets)
  | v6 groups none => exact ofText?_text (v6 groups none)
  | v6 groups (some scope) =>
    obtain ⟨hne, hpercent, hslash⟩ := h
    have hnoslash : ('/' : Char) ∉ compressed groups.toList ++ '%' :: scope.toList := by
      rw [List.mem_append, List.mem_cons, not_or, not_or]
      exact ⟨fun h => absurd (isLiteralChar_of_mem_compressed h) (by decide), by decide, hslash⟩
    have hfits : (scope.toList.isEmpty || scope.toList.contains '%') = false := by
      simpa using And.intro hne hpercent
    rw [ofText?, text, String.toList_ofList, ofChars?, toChars, quad?_of_groups,
      splitScope_of_groups, if_neg (by simpa using hnoslash)]
    simp only [hfits, groups?_compressed, Option.map_some, String.ofList_toList,
      Bool.false_eq_true, if_false]

/-- **The scope of an address that is read fits.** -/
theorem scopeFits_of_ofText? {s : String} {a : Address} (h : ofText? s = some a) : a.ScopeFits := by
  rw [ofText?, ofChars?] at h
  split_ifs at h with hslash
  cases hquad : quad? s.toList with
  | some octets =>
    rw [hquad] at h
    cases h
    exact trivial
  | none =>
    rw [hquad, splitScope, List.span_eq_takeWhile_dropWhile] at h
    cases hrest : s.toList.dropWhile (· != '%') with
    | nil =>
      rw [hrest] at h
      obtain ⟨groups, -, rfl⟩ := Option.map_eq_some_iff.1 h
      exact trivial
    | cons c scope =>
      rw [hrest] at h
      simp only at h
      split_ifs at h with hbad
      obtain ⟨groups, -, rfl⟩ := Option.map_eq_some_iff.1 h
      rw [Bool.or_eq_true, not_or] at hbad
      have hin : '/' ∉ scope := by
        intro hin
        have hmem : '/' ∈ s.toList.dropWhile (· != '%') := by
          rw [hrest]
          exact List.mem_cons_of_mem c hin
        exact hslash (by simpa using (List.dropWhile_sublist _).mem hmem)
      rw [ScopeFits, String.toList_ofList]
      exact ⟨by simpa using hbad.1, by simpa using hbad.2, hin⟩

end Address

end ResolverChain
