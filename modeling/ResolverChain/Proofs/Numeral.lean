/-
  Numerals are read back.

  * the digits of a number are digits of its base, have the value of the number,
    and begin with a zero for zero only (`value?_digits`, `head?_digits`);
  * a number below a power of the base has no more digits than the exponent
    (`length_digits_le`);
  * the lenient reader reads decimal digits back too, unless there are too many of them
    (`Integer.read?_digits`); so many are not written either (`Integer.text?_eq_none_iff`),
    but those of a number of one digit are (`Integer.text?_of_lt`).
-/
import Mathlib.Tactic
import Mathlib.Data.List.TakeWhile
import Mathlib.Data.List.DropRight
import ResolverChain.Text.Numeral

namespace ResolverChain.Text

namespace Numeral

variable {base n : Nat}

/-! ## Single digits -/

theorem digitValue?_digit {d : Nat} (hd : d < base) (hbase : base ≤ 16) :
    digitValue? base (digit d) = some d := by
  have hd16 : d < 16 := by omega
  unfold digitValue?
  interval_cases d <;> simp [digit, hd]

/-- Digits are the ASCII digits and the letters `a` to `f`. -/
theorem toNat_digit {d : Nat} (hd : d < 16) :
    (0x30 ≤ (digit d).toNat ∧ (digit d).toNat ≤ 0x39) ∨
      (0x61 ≤ (digit d).toNat ∧ (digit d).toNat ≤ 0x66) := by
  interval_cases d <;> decide

theorem digit_eq_zero_iff {d : Nat} (hd : d < 16) : digit d = '0' ↔ d = 0 := by
  interval_cases d <;> decide

/-! ## Rows of digits -/

theorem digits_of_lt (h : n < base) : digits base n = [digit n] := by
  rw [digits, if_pos (Or.inr h)]

theorem digits_of_le (hbase : 2 ≤ base) (h : base ≤ n) :
    digits base n = digits base (n / base) ++ [digit (n % base)] := by
  rw [digits, if_neg (by omega)]

/-- Induction on the digits of a number: it has one digit, or one more than its
    quotient by the base. -/
theorem digits_induction (hbase : 2 ≤ base) {P : Nat → Prop} (single : ∀ n < base, P n)
    (more : ∀ n, base ≤ n → P (n / base) → P n) (n : Nat) : P n := by
  induction n using Nat.strong_induction_on with
  | _ n ih =>
    by_cases h : n < base
    · exact single n h
    · exact more n (by omega) (ih _ (Nat.div_lt_self (by omega) (by omega)))

theorem digits_ne_nil (base n : Nat) : digits base n ≠ [] := by
  rw [digits]; split_ifs <;> simp

theorem mem_digits (hbase : 2 ≤ base) : ∀ c ∈ digits base n, ∃ d < base, c = digit d := by
  induction n using digits_induction hbase with
  | single n h =>
    rw [digits_of_lt h]
    intro c hc
    exact ⟨n, h, List.mem_singleton.1 hc⟩
  | more n h ih =>
    rw [digits_of_le hbase h]
    intro c hc
    rcases List.mem_append.1 hc with hc | hc
    · exact ih c hc
    · exact ⟨n % base, Nat.mod_lt _ (by omega), List.mem_singleton.1 hc⟩

/-- No separator of an address is a digit. -/
theorem notMem_digits (hbase : 2 ≤ base) (hbase' : base ≤ 16) {c : Char}
    (hc : c.toNat < 0x30 ∨ (0x39 < c.toNat ∧ c.toNat < 0x61)) : c ∉ digits base n := by
  intro h
  obtain ⟨d, hd, rfl⟩ := mem_digits hbase c h
  have := toNat_digit (show d < 16 by omega)
  omega

theorem length_digits_le (hbase : 2 ≤ base) {k : Nat} (hk : 1 ≤ k) (h : n < base ^ k) :
    (digits base n).length ≤ k := by
  induction n using digits_induction hbase generalizing k with
  | single n hn => rw [digits_of_lt hn]; simpa using hk
  | more n hn ih =>
    obtain ⟨j, rfl⟩ : ∃ j, k = j + 1 := ⟨k - 1, by omega⟩
    have hj : 1 ≤ j := by
      by_contra hj
      obtain rfl : j = 0 := by omega
      rw [zero_add, pow_one] at h; omega
    have hquot : n / base < base ^ j := by
      rw [Nat.div_lt_iff_lt_mul (by omega), ← pow_succ]; exact h
    rw [digits_of_le hbase hn, List.length_append, List.length_singleton]
    exact Nat.succ_le_succ (ih hj hquot)

theorem head?_digits (hbase : 2 ≤ base) (hbase' : base ≤ 16) (hn : n ≠ 0) :
    (digits base n).head? ≠ some '0' := by
  induction n using digits_induction hbase with
  | single n h =>
    rw [digits_of_lt h, List.head?_cons]
    intro h0
    exact hn ((digit_eq_zero_iff (by omega)).1 (Option.some.inj h0))
  | more n h ih =>
    rw [digits_of_le hbase h, List.head?_append_of_ne_nil _ (digits_ne_nil _ _)]
    exact ih (Nat.div_pos h (by omega)).ne'

theorem ofDigitValues_concat (ds : List Nat) (d : Nat) :
    ofDigitValues base (ds ++ [d]) = ofDigitValues base ds * base + d := by
  simp [ofDigitValues]

/-- The values of the digits of a number make up the number, whoever reads the digits. -/
theorem mapM_digits (hbase : 2 ≤ base) {value : Char → Option Nat}
    (hvalue : ∀ d < base, value (digit d) = some d) (n : Nat) :
    ∃ ds, (digits base n).mapM value = some ds ∧ ds.length = (digits base n).length ∧
      ofDigitValues base ds = n := by
  induction n using digits_induction hbase with
  | single n h =>
    exact ⟨[n], by simp [digits_of_lt h, hvalue n h], by simp [digits_of_lt h],
      by simp [ofDigitValues]⟩
  | more n h ih =>
    obtain ⟨ds, hds, hlength, hval⟩ := ih
    have hmod : n % base < base := Nat.mod_lt _ (by omega)
    refine ⟨ds ++ [n % base], ?_, ?_, ?_⟩
    · rw [digits_of_le hbase h, List.mapM_append, hds]
      simp [hvalue _ hmod]
    · rw [digits_of_le hbase h, List.length_append, List.length_append, hlength]
      rfl
    · rw [ofDigitValues_concat, hval, mul_comm]
      exact Nat.div_add_mod n base

/-- **Digits are read back** as the number that was written. -/
theorem value?_digits (hbase : 2 ≤ base) (hbase' : base ≤ 16) (n : Nat) :
    value? base (digits base n) = some n := by
  obtain ⟨ds, hds, -, hval⟩ := mapM_digits hbase (fun d hd => digitValue?_digit hd hbase') n
  have hne : (digits base n).isEmpty = false := by simpa using digits_ne_nil base n
  simp [value?, hne, hds, hval]

end Numeral

/-! ## The lenient reader -/

namespace Integer

variable {cs : List Char} {n : Nat}

theorem decimalValue?_digit {d : Nat} (hd : d < 10) : decimalValue? (Numeral.digit d) = some d := by
  interval_cases d <;> rfl

/-- Digits without an underscore between them are read one by one. -/
theorem digitValues?_eq_mapM (hne : cs ≠ []) (h : '_' ∉ cs) :
    digitValues? cs = cs.mapM decimalValue? := by
  induction cs with
  | nil => exact absurd rfl hne
  | cons c cs ih =>
    cases cs with
    | nil =>
      rw [digitValues?, List.mapM_cons, List.mapM_nil]
      cases decimalValue? c <;> rfl
    | cons d ds =>
      have hrest : '_' ∉ d :: ds := fun hin => h (List.mem_cons_of_mem c hin)
      have hplain : ∀ later, d :: ds ≠ '_' :: later := by
        intro later hlater
        exact hrest (by simp [hlater])
      rw [List.mapM_cons, ← ih (by simp) hrest, digitValues?]
      · exact fun h => by cases h
      · exact hplain

/-- A digit is neither a blank, nor a sign, nor an underscore. -/
theorem plain_of_mem_digits {c : Char} (h : c ∈ Numeral.digits 10 n) :
    isMargin c = false ∧ c ≠ '-' ∧ c ≠ '+' ∧ c ≠ '_' := by
  obtain ⟨d, hd, rfl⟩ := Numeral.mem_digits (by omega) c h
  interval_cases d <;> decide

/-- **Decimal digits are read back**, unless there are more of them than the reader takes. -/
theorem read?_digits (h : n < 10 ^ maxDigits) : read? (Numeral.digits 10 n) = some (n : Int) := by
  obtain ⟨ds, hds, hlength, hval⟩ :=
    Numeral.mapM_digits (by omega) (fun d hd => decimalValue?_digit hd) n
  have hne := Numeral.digits_ne_nil 10 n
  have hfew : ¬ maxDigits < ds.length := by
    rw [hlength, Nat.not_lt]
    exact Numeral.length_digits_le (by omega) (by decide) h
  have hnat : readNat? (Numeral.digits 10 n) = some n := by
    have hplain : '_' ∉ Numeral.digits 10 n := fun hin => (plain_of_mem_digits hin).2.2.2 rfl
    simp only [readNat?, digitValues?_eq_mapM hne hplain, hds, Option.bind_eq_bind,
      Option.bind_some, if_neg hfew, hval]
  have hmargin : dropTrailing isMargin ((Numeral.digits 10 n).dropWhile isMargin) =
      Numeral.digits 10 n := by
    have hblank : ∀ c ∈ Numeral.digits 10 n, ¬ isMargin c = true := fun c hc => by
      simp [(plain_of_mem_digits hc).1]
    rw [List.dropWhile_eq_self_iff.2 fun hpos => hblank _ (List.getElem_mem hpos)]
    exact List.rdropWhile_eq_self_iff.2 fun hl => hblank _ (List.getLast_mem hl)
  obtain ⟨c, cs, hcs⟩ := List.exists_cons_of_ne_nil hne
  obtain ⟨-, hminus, hplus, -⟩ := plain_of_mem_digits (n := n) (c := c) (by simp [hcs])
  rw [read?, hmargin]
  rw [hcs] at hnat ⊢
  split
  · simp_all
  · simp_all
  · rw [hnat]; rfl

/-! ## Numbers that can be written -/

variable {m : Int} {digits : String}

theorem text?_eq_none_iff : text? m = none ↔ isLong m = true := by simp [text?]

theorem isLong_of_text? (h : text? m = some digits) : isLong m = false := by
  rw [← Bool.not_eq_true, ← text?_eq_none_iff, h]
  exact Option.some_ne_none digits

theorem isLong_of_lt (h : m.natAbs < 10) : isLong m = false := by
  have hlimit : ∀ places : Nat, 0 < places → 10 ≤ Nat.pow 10 places := fun _ => Nat.le_pow
  rw [isLong, decide_eq_false_iff_not, Nat.not_le]
  exact h.trans_le (hlimit maxDigits (by decide))

end Integer

end ResolverChain.Text
