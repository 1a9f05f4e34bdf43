/-
  Line feeds in bytes that are shown as text.

  * bytes that begin a character of UTF-8 and do not complete it are never ASCII
    (`Begun.high`);
  * so with one more byte there is a character that is a line feed exactly if the byte is, or
    a fault that takes no line feed in (`Reckons`, `Begun.reckons`), and reading byte after
    byte keeps that (`first_reckons`);
  * so a text has the line feeds of the bytes that it shows (`count_lenientText`).
-/
import ResolverChain.Proofs.Numeral
import ResolverChain.Proofs.TextEncoding
import ResolverChain.Text.Encoding.Lenient

namespace ResolverChain.Text

/-! ## Characters that are begun -/

/-- Bytes that begin a character of UTF-8 but do not complete it. -/
inductive Begun : List UInt8 → Prop
  | none : Begun []
  | one {a : UInt8} (first : 0xC2 ≤ a.toNat) (last : a.toNat < 0xF5) : Begun [a]
  | two {a b : UInt8} (first : 0xE0 ≤ a.toNat) (last : a.toNat < 0xF5)
      (second : Units.secondFits a b = true) : Begun [a, b]
  | three {a b c : UInt8} (first : 0xF0 ≤ a.toNat) (last : a.toNat < 0xF5)
      (second : Units.secondFits a b = true) (third : Units.continues c = true) :
      Begun [a, b, c]

variable {begun bs : List UInt8} {a b : UInt8} {c : Char} {n : Nat}

theorem secondFits_bounds (h : Units.secondFits a b = true) :
    0x80 ≤ b.toNat ∧ b.toNat < 0xC0 ∧ (a.toNat = 0xE0 → 0xA0 ≤ b.toNat) ∧
      (a.toNat = 0xF0 → 0x90 ≤ b.toNat) := by
  simp only [Units.secondFits, Bool.and_eq_true, Bool.not_eq_true', continues_iff,
    Bool.and_eq_false_iff, beq_eq_false_iff_ne, decide_eq_false_iff_not, ne_eq,
    ← UInt8.toNat_inj, UInt8.lt_iff_toNat_lt, UInt8.le_iff_toNat_le] at h
  obtain ⟨⟨⟨⟨hlow, hhigh⟩, hlong⟩, hlong'⟩, -⟩ := h
  refine ⟨hlow, hhigh, fun ha => ?_, fun ha => ?_⟩
  · exact Nat.not_lt.1 (hlong.resolve_left (not_not_intro ha))
  · exact Nat.not_lt.1 (hlong'.resolve_left (not_not_intro ha))

/-- **A character is not begun with ASCII.** -/
theorem Begun.high (h : Begun bs) : ∀ x ∈ bs, 0x80 ≤ x.toNat := by
  cases h with
  | none => simp
  | one first last => simp; omega
  | two first last second =>
    have := secondFits_bounds second
    simp; omega
  | three first last second third =>
    have := secondFits_bounds second
    have := continues_iff.1 third
    simp; omega

/-! ## Line feeds -/

theorem count_eq_zero_of_high (h : ∀ x ∈ bs, 0x80 ≤ x.toNat) : bs.count 0x0A = 0 := by
  refine List.count_eq_zero_of_not_mem fun hin => ?_
  exact absurd (h _ hin) (by decide)

theorem ofNat_eq_lineFeed_iff : Char.ofNat n = '\n' ↔ n = 0x0A := by
  constructor
  · intro h
    by_cases hvalid : n.isValidChar
    · rw [Char.ofNat, dif_pos hvalid] at h
      exact congrArg Char.toNat h
    · rw [Char.ofNat, dif_neg hvalid] at h
      cases h
  · rintro rfl
    rfl

/-- Only the byte of a line feed is one as a character. -/
theorem beq_lineFeed (b : UInt8) : (Char.ofNat b.toNat == '\n') = (b == 0x0A) := by
  rw [Bool.eq_iff_iff, beq_iff_eq, beq_iff_eq, ofNat_eq_lineFeed_iff, ← UInt8.toNat_inj]
  rfl

/-- A character of several bytes is beyond ASCII. -/
theorem count_of_large (hn : 0x80 ≤ n) (hc : Char.ofNat n = c)
    (hbs : ∀ x ∈ bs, 0x80 ≤ x.toNat) : [c].count '\n' = bs.count 0x0A := by
  have hother : c ≠ '\n' := by
    rintro rfl
    have := ofNat_eq_lineFeed_iff.1 hc
    omega
  rw [count_eq_zero_of_high hbs, List.count_singleton, beq_false_of_ne hother]
  rfl

theorem high_concat (h : ∀ x ∈ bs, 0x80 ≤ x.toNat) (hb : 0x80 ≤ b.toNat) :
    ∀ x ∈ bs ++ [b], 0x80 ≤ x.toNat := by
  intro x hx
  rcases List.mem_append.1 hx with hx | hx
  · exact h x hx
  · exact List.mem_singleton.1 hx ▸ hb

/-! ## Byte after byte -/

/-- What the first bytes of a text come to, as far as line feeds go: a character has those
    of its bytes, and a fault takes none in. -/
inductive Reckons (bs : List UInt8) : Progress → Prop
  | complete {c : Char} (takes : 1 ≤ bs.length) (kept : [c].count '\n' = bs.count 0x0A) :
      Reckons bs (.complete c)
  | incomplete (isBegun : Begun bs) : Reckons bs .incomplete
  | faulty {width : Nat} {reason : FaultReason} (takes : 1 ≤ width) (within : width ≤ bs.length)
      (high : ∀ x ∈ bs.take width, 0x80 ≤ x.toNat) : Reckons bs (.faulty width reason)

/-- **One more byte** completes a character that is begun, leaves it begun or is at fault. -/
theorem Begun.reckons (h : Begun bs) (b : UInt8) :
    Reckons (bs ++ [b]) (Units.utf8.progress (bs ++ [b])) := by
  have hhigh := h.high
  cases h with
  | none =>
    simp only [List.nil_append, Units.progress, Units.progressUtf8]
    split_ifs with hlow hbad
    · refine .complete le_rfl ?_
      rw [List.count_singleton, List.count_singleton, beq_lineFeed]
    · have hbeyond : 0x80 ≤ b.toNat := Nat.not_lt.1 fun h => hlow (UInt8.lt_iff_toNat_lt.2 h)
      exact .faulty le_rfl le_rfl (by simpa using hbeyond)
    · have hbounds : 0xC2 ≤ b.toNat ∧ b.toNat < 0xF5 := by
        simpa [UInt8.lt_iff_toNat_lt, UInt8.le_iff_toNat_le] using hbad
      exact .incomplete (.one hbounds.1 hbounds.2)
  | @one a first last =>
    simp only [List.cons_append, List.nil_append, Units.progress, Units.progressUtf8]
    split_ifs with hfits hshort
    · exact .faulty le_rfl (by simp) (by simpa using hhigh)
    · have hsecond := secondFits_bounds (by simpa using hfits)
      have hfirst : a.toNat < 0xE0 := UInt8.lt_iff_toNat_lt.1 hshort
      refine .complete (by simp) (count_of_large ?_ rfl (high_concat hhigh hsecond.1))
      rw [Units.payload]
      omega
    · have hlong : 0xE0 ≤ a.toNat := Nat.not_lt.1 fun h => hshort (UInt8.lt_iff_toNat_lt.2 h)
      exact .incomplete (.two hlong last (by simpa using hfits))
  | @two a e first last second =>
    simp only [List.cons_append, List.nil_append, Units.progress, Units.progressUtf8]
    split_ifs with hhalf hcontinues hshort
    · exact .faulty le_rfl (by simp) (by simpa using (List.forall_mem_cons.1 hhigh).1)
    · exact .faulty (by simp) (by simp) (by simpa using hhigh)
    · have hsecond := secondFits_bounds second
      have hthird := continues_iff.1 (by simpa using hcontinues)
      have hfirst : a.toNat < 0xF0 := UInt8.lt_iff_toNat_lt.1 hshort
      refine .complete (by simp) (count_of_large ?_ rfl (high_concat hhigh hthird.1))
      rw [Units.payload, Units.payload]
      omega
    · have hlong : 0xF0 ≤ a.toNat := Nat.not_lt.1 fun h => hshort (UInt8.lt_iff_toNat_lt.2 h)
      exact .incomplete (.three hlong last second (by simpa using hcontinues))
  | @three a e f first last second third =>
    simp only [List.cons_append, List.nil_append, Units.progress, Units.progressUtf8]
    split_ifs with hcontinues
    · exact .faulty (by simp) (by simp) (by simpa using hhigh)
    · have hsecond := secondFits_bounds second
      have hfourth := continues_iff.1 (by simpa using hcontinues)
      refine .complete (by simp) (count_of_large ?_ rfl (high_concat hhigh hfourth.1))
      rw [Units.payload, Units.payload, Units.payload]
      omega

/-- **Reading bytes one by one** ends with the first that decides a character, or with the
    last one. -/
theorem first_reckons (h : Begun begun) (bs : List UInt8) :
    ∃ taken rest, begun ++ bs = taken ++ rest ∧
      (Units.utf8.first begun bs).2 = taken.length ∧
      Reckons taken (Units.utf8.first begun bs).1 ∧
      ((Units.utf8.first begun bs).1 = .incomplete → rest = []) := by
  induction bs generalizing begun with
  | nil => exact ⟨begun, [], rfl, rfl, .incomplete h, fun _ => rfl⟩
  | cons b bs ih =>
    have hreckons := h.reckons b
    by_cases hp : Units.utf8.progress (begun ++ [b]) = .incomplete
    · rw [hp] at hreckons
      have hnext : Begun (begun ++ [b]) := by
        cases hreckons with
        | incomplete isBegun => exact isBegun
      have hlater := ih hnext
      rw [List.append_assoc, List.singleton_append] at hlater
      rw [Units.first, hp]
      exact hlater
    · have hfirst : Units.utf8.first begun (b :: bs) =
          (Units.utf8.progress (begun ++ [b]), begun.length + 1) := by
        rw [Units.first]
        split
        · exact absurd ‹_› hp
        · rfl
      rw [hfirst]
      exact ⟨begun ++ [b], bs, by simp, by simp, hreckons, fun h => absurd h hp⟩

/-! ## Texts -/

theorem count_escapeBytes (bs : List UInt8) : (escapeBytes bs).count '\n' = 0 := by
  refine List.count_eq_zero_of_not_mem fun h => ?_
  obtain ⟨b, -, hb⟩ := List.mem_flatMap.1 h
  simp only [hexEscape, Numeral.padded, List.mem_cons, List.mem_append] at hb
  rcases hb with hb | hb | hb | hb
  · exact absurd hb (by decide)
  · exact absurd hb (by decide)
  · exact absurd (List.eq_of_mem_replicate hb) (by decide)
  · exact Numeral.notMem_digits (by omega) (by omega) (Or.inl (by decide)) hb

/-- What is shown for the first bytes has the line feeds of those that it takes. -/
theorem count_firstShown (bs : List UInt8) :
    (firstShown bs).1.count '\n' = (bs.take (max 1 (firstShown bs).2)).count 0x0A := by
  obtain ⟨taken, rest, hbs, hwidth, hreckons, hend⟩ := first_reckons .none bs
  rw [List.nil_append] at hbs
  rw [firstShown]
  generalize Units.utf8.first [] bs = first at hwidth hreckons hend
  obtain ⟨progress, width⟩ := first
  cases hreckons with
  | complete takes kept =>
    simp only at hwidth ⊢
    rw [hbs, hwidth, max_eq_right takes, List.take_left' rfl]
    exact kept
  | faulty takes within high =>
    simp only [count_escapeBytes, max_eq_right takes]
    rw [hbs, List.take_append_of_le_length within, count_eq_zero_of_high high]
  | incomplete isBegun =>
    have hhigh : ∀ width, ∀ x ∈ bs.take width, 0x80 ≤ x.toNat := by
      intro width x hx
      rw [hbs, hend rfl, List.append_nil] at hx
      exact isBegun.high x (List.mem_of_mem_take hx)
    simp only [count_escapeBytes, count_eq_zero_of_high (hhigh _)]

/-- **Shown as text, bytes have the line feeds that they hold**, and no others. -/
theorem count_lenientText (bs : List UInt8) : (lenientText bs).count '\n' = bs.count 0x0A := by
  induction bs using lenientText.induct with
  | case1 bs hempty =>
    rw [lenientText, if_pos hempty, List.isEmpty_iff.1 hempty]
    rfl
  | case2 bs hsome ih =>
    rw [lenientText, if_neg hsome, List.count_append, ih, count_firstShown, ← List.count_append,
      List.take_append_drop]

end ResolverChain.Text
