/-
  Normal names.

  * a normal name is its own normal name (`normal_normal`), and so is every name
    that a value is read as (`toDomain_name`);
  * reverse names are normal (`normal_reverseName`), so that every kind of lookup
    asks for a normal name (`normal_target`).
-/
import Mathlib.Data.List.DropRight
import ResolverChain.Lookup.Kind
import ResolverChain.Proofs.AddressText

namespace ResolverChain

open Text

namespace DomainName

/-! ## Bytes in lower case -/

/-- Whether the byte is an ASCII letter in upper case. -/
def IsUpper (b : UInt8) : Prop := 0x41 ≤ b.toNat ∧ b.toNat ≤ 0x5A

instance : DecidablePred IsUpper := fun _ => inferInstanceAs (Decidable (_ ∧ _))

theorem lowerByte_of_not_isUpper {b : UInt8} (h : ¬ IsUpper b) : lowerByte b = b := by
  unfold lowerByte
  rw [if_neg]
  simpa [IsUpper, UInt8.le_iff_toNat_le] using h

theorem not_isUpper_lowerByte (b : UInt8) : ¬ IsUpper (lowerByte b) := by
  unfold lowerByte IsUpper
  split_ifs with h
  · simp only [Bool.and_eq_true, decide_eq_true_eq, UInt8.le_iff_toNat_le] at h
    obtain ⟨h1, h2⟩ := h
    have h1 : 0x41 ≤ b.toNat := h1
    have h2 : b.toNat ≤ 0x5A := h2
    rw [UInt8.toNat_add]
    simp only [UInt8.reduceToNat]
    omega
  · simpa [UInt8.le_iff_toNat_le] using h

/-- Changing the case of letters makes no dot. -/
theorem lowerByte_eq_dot_iff (b : UInt8) : lowerByte b = dot ↔ b = dot := by
  by_cases hb : IsUpper b
  · have hne : b ≠ dot := by rintro rfl; exact absurd hb (by decide)
    refine iff_of_false ?_ hne
    intro h
    unfold lowerByte at h
    obtain ⟨h1, h2⟩ := hb
    have hb' : (0x41 ≤ b && b ≤ 0x5A) = true := by
      simp only [Bool.and_eq_true, decide_eq_true_eq, UInt8.le_iff_toNat_le]
      exact ⟨h1, h2⟩
    rw [if_pos hb'] at h
    have := congrArg UInt8.toNat h
    rw [UInt8.toNat_add] at this
    simp only [UInt8.reduceToNat, dot] at this
    omega
  · rw [lowerByte_of_not_isUpper hb]

theorem lowerBytes_of_forall {bs : List UInt8} (h : ∀ b ∈ bs, ¬ IsUpper b) : lowerBytes bs = bs := by
  unfold lowerBytes
  exact (List.map_congr_left fun b hb => lowerByte_of_not_isUpper (h b hb)).trans (List.map_id bs)

/-! ## Normal names -/

/-- A name in lower case without a dot at its end is normal. -/
theorem normal_of_forall {bs : List UInt8} (hlower : ∀ b ∈ bs, ¬ IsUpper b)
    (hend : ∀ h : bs ≠ [], bs.getLast h ≠ dot) : normal bs = ⟨bs⟩ := by
  have hdrop : dropTrailing (· == dot) bs = bs :=
    List.rdropWhile_eq_self_iff.2 fun h => by simpa using hend h
  rw [normal, hdrop, lowerBytes_of_forall hlower]

theorem not_isUpper_of_mem_normal {bs : List UInt8} : ∀ b ∈ (normal bs).bytes, ¬ IsUpper b := by
  intro b hb
  obtain ⟨c, -, rfl⟩ := List.mem_map.1 hb
  exact not_isUpper_lowerByte c

theorem getLast_normal {bs : List UInt8} (h : (normal bs).bytes ≠ []) :
    (normal bs).bytes.getLast h ≠ dot := by
  have hne : dropTrailing (· == dot) bs ≠ [] := by
    rintro h'; exact h (by simp [normal, lowerBytes, h'])
  have hlast : (dropTrailing (· == dot) bs).getLast hne ≠ dot := fun h' =>
    List.rdropWhile_last_not (· == dot) bs hne (beq_iff_eq.2 h')
  simp only [normal, lowerBytes, List.getLast_map]
  exact fun h' => hlast ((lowerByte_eq_dot_iff _).1 h')

/-- **A normal name is its own normal name.** -/
theorem normal_normal (bs : List UInt8) : normal (normal bs).bytes = normal bs :=
  normal_of_forall not_isUpper_of_mem_normal getLast_normal

/-- The name that a text spells is normal. -/
theorem ofText?_normal {s : String} {d : DomainName} (h : ofText? s = some d) :
    normal d.bytes = d := by
  obtain ⟨cs, -, rfl⟩ := Option.map_eq_some_iff.1 h
  exact normal_normal _

end DomainName

/-! ## Values -/

theorem Value.toDomain_normal {v : Value} {d : DomainName} (h : v.toDomain = .ok d) :
    DomainName.normal d.bytes = d := by
  cases v with
  | name n => cases h; exact DomainName.normal_normal _
  | bytes bs => cases h; exact DomainName.normal_normal _
  | text s =>
    simp only [Value.toDomain] at h
    split at h
    · rename_i n hn
      cases h
      exact DomainName.ofText?_normal hn
    · cases h
  | _ => cases h

/-- A name that a value was read as is read as itself. -/
theorem Value.toDomain_name {v : Value} {d : DomainName} (h : v.toDomain = .ok d) :
    (Value.name d).toDomain = .ok d := by
  rw [Value.toDomain, Value.toDomain_normal h]

/-! ## Reverse names -/

namespace Address

theorem exists_joined_concat (c : Char) (ls : List (List Char)) (l : List Char) :
    ∃ front, joined c (ls ++ [l]) = front ++ l := by
  induction ls with
  | nil => exact ⟨[], by simp [joined]⟩
  | cons k ls ih =>
    obtain ⟨front, hfront⟩ := ih
    refine ⟨k ++ c :: front, ?_⟩
    rw [joined, List.cons_append, List.intercalate_cons_of_ne_nil (by simp), ← joined, hfront]
    simp

/-- A character that a reverse name may be written with. -/
def IsReverseChar (c : Char) : Prop := c.toNat < 0x41 ∨ (0x5A < c.toNat ∧ c.toNat < 0x80)

instance : DecidablePred IsReverseChar := fun _ => inferInstanceAs (Decidable (_ ∨ _))

theorem isReverseChar_digit {d : Nat} (hd : d < 16) : IsReverseChar (Numeral.digit d) := by
  rcases Numeral.toNat_digit hd with h | h
  exacts [Or.inl (by omega), Or.inr (by omega)]

theorem isReverseChar_of_mem_label {a : Address} {l : List Char} (hl : l ∈ a.reverseLabels)
    {c : Char} (hc : c ∈ l) : IsReverseChar c := by
  cases a with
  | v4 octets =>
    obtain ⟨b, -, rfl⟩ := List.mem_map.1 hl
    obtain ⟨d, hd, rfl⟩ := Numeral.mem_digits (by omega) c hc
    exact isReverseChar_digit (by omega)
  | v6 groups scope =>
    obtain ⟨d, hd, rfl⟩ := List.mem_map.1 hl
    obtain ⟨b, -, hb⟩ := List.mem_flatMap.1 (List.mem_reverse.1 hd)
    have hb256 : b.toNat < 256 := b.toNat_lt
    have hd16 : d < 16 := by
      simp only [nibbles, List.mem_cons, List.not_mem_nil, or_false] at hb
      omega
    rw [List.mem_singleton.1 hc]
    exact isReverseChar_digit hd16

theorem isReverseChar_of_mem_zone {a : Address} {c : Char} (hc : c ∈ a.reverseZone) :
    IsReverseChar c := by
  have hzones : (zoneV4 ++ zoneV6).all (decide <| IsReverseChar ·) = true := by decide
  refine of_decide_eq_true (List.all_eq_true.1 hzones c (List.mem_append.2 ?_))
  unfold reverseZone at hc
  split_ifs at hc
  exacts [Or.inl hc, Or.inr hc]

theorem isReverseChar_of_mem {a : Address} {c : Char} (hc : c ∈ a.reverseChars) :
    IsReverseChar c := by
  rcases mem_joined hc with rfl | ⟨l, hl, hcl⟩
  · decide
  · rcases List.mem_append.1 hl with hl | hl
    · exact isReverseChar_of_mem_label hl hcl
    · exact isReverseChar_of_mem_zone (List.mem_singleton.1 hl ▸ hcl)

theorem exists_reverseChars_concat (a : Address) : ∃ front, a.reverseChars = front ++ ['a'] := by
  obtain ⟨front, hfront⟩ := exists_joined_concat '.' a.reverseLabels a.reverseZone
  have hzone : ∃ r, a.reverseZone = r ++ ['a'] := by
    unfold reverseZone
    split_ifs
    exacts [⟨"in-addr.arp".toList, by decide⟩, ⟨"ip6.arp".toList, by decide⟩]
  obtain ⟨r, hr⟩ := hzone
  exact ⟨front ++ r, by rw [reverseChars, hfront, hr, List.append_assoc]⟩

/-- **Reverse names are normal.** -/
theorem normal_reverseName (a : Address) : DomainName.normal a.reverseName.bytes = a.reverseName := by
  refine DomainName.normal_of_forall ?_ ?_
  · intro b hb
    obtain ⟨c, hc, rfl⟩ := List.mem_map.1 hb
    have hc := isReverseChar_of_mem hc
    simp only [IsReverseChar, DomainName.IsUpper, Nat.toUInt8_eq, UInt8.toNat_ofNat'] at hc ⊢
    omega
  · intro _
    obtain ⟨front, hfront⟩ := exists_reverseChars_concat a
    simp only [reverseName, DomainName.bytesOfAscii, hfront, List.map_append, List.map_cons,
      List.map_nil, List.getLast_concat]
    decide

end Address

theorem Value.exists_reverseName {v : Value} {d : DomainName} (h : v.reverseDomain = .ok d) :
    ∃ a : Address, a.reverseName = d := by
  unfold Value.reverseDomain at h
  split at h
  · cases h
  · exact ⟨_, Except.ok.inj h⟩
  · split at h
    · exact ⟨_, Except.ok.inj h⟩
    · cases h

theorem Value.reverseDomain_normal {v : Value} {d : DomainName} (h : v.reverseDomain = .ok d) :
    DomainName.normal d.bytes = d := by
  obtain ⟨a, rfl⟩ := Value.exists_reverseName h
  exact Address.normal_reverseName a

/-- A kind reads its argument as an address or as a name. -/
theorem Lookup.Kind.read_of_target {kind : Lookup.Kind} {v : Value} {d : DomainName}
    (h : kind.target v = .ok d) :
    (kind = .reverse ∧ v.reverseDomain = .ok d) ∨ (kind ≠ .reverse ∧ v.toDomain = .ok d) := by
  cases kind with
  | reverse => left; cases hv : v.reverseDomain <;> simp_all [Lookup.Kind.target, Except.mapError]
  | _ => right; cases hv : v.toDomain <;> simp_all [Lookup.Kind.target, Except.mapError]

/-- **Every kind of lookup asks for a normal name.** -/
theorem Lookup.Kind.normal_target {kind : Lookup.Kind} {v : Value} {d : DomainName}
    (h : kind.target v = .ok d) : DomainName.normal d.bytes = d := by
  rcases Lookup.Kind.read_of_target h with ⟨-, h⟩ | ⟨-, h⟩
  exacts [Value.reverseDomain_normal h, Value.toDomain_normal h]

end ResolverChain
