/-
  The names that are looked up for texts are ASCII.

  * punycode is ASCII (`Punycode.isAscii_of_mem_encode`), so every label of an encoded
    name is (`isAscii_of_mem_encode?`);
  * the names that texts spell are ASCII, and so are reverse names (`ascii_target`);
  * such names can be written (`Ascii.text?`).
-/
import ResolverChain.Proofs.NormalName

namespace ResolverChain

open Text

namespace DomainName

/-! ## Punycode -/

namespace Punycode

theorem isAscii_digit {d : Nat} (hd : d < 36) : isAscii (digit d) = true := by
  interval_cases d <;> decide

theorem threshold_le (bias position : Nat) : threshold bias position ≤ 26 := Nat.min_le_left _ _

theorem exists_digit_of_mem_encodeNumber {bias position n : Nat} {c : Char}
    (h : c ∈ encodeNumber bias position n) : ∃ d < 36, c = digit d := by
  fun_induction encodeNumber bias position n with
  | case1 position n t hlt =>
    have ht : t ≤ 26 := threshold_le bias position
    exact ⟨n, by omega, List.mem_singleton.1 h⟩
  | case2 position n t hge ih =>
    have ht : t ≤ 26 := threshold_le bias position
    rcases List.mem_cons.1 h with rfl | h
    · have hmod : (n - t) % (36 - t) < 36 - t := Nat.mod_lt _ (by omega)
      exact ⟨_, by omega, rfl⟩
    · exact ih h

theorem exists_digit_of_mem_encodeDeltas {bias length : Nat} {isFirst : Bool} {ds : List Nat}
    {c : Char} (h : c ∈ encodeDeltas bias isFirst length ds) : ∃ d < 36, c = digit d := by
  induction ds generalizing bias isFirst length with
  | nil => cases h
  | cons d ds ih =>
    rcases List.mem_append.1 h with h | h
    exacts [exists_digit_of_mem_encodeNumber h, ih h]

/-- Punycode is written with the ASCII characters of the text, hyphens and digits. -/
theorem mem_encode {cs : List Char} {c : Char} (h : c ∈ encode cs) :
    (c ∈ cs ∧ isAscii c = true) ∨ c = '-' ∨ ∃ d < 36, c = digit d := by
  rcases List.mem_append.1 h with h | h
  · rcases List.mem_append.1 h with h | h
    · exact Or.inl (List.mem_filter.1 h)
    · split_ifs at h
      · cases h
      · exact Or.inr (Or.inl (List.mem_singleton.1 h))
  · exact Or.inr (Or.inr (exists_digit_of_mem_encodeDeltas h))

/-- **Punycode is ASCII**, whatever it encodes. -/
theorem isAscii_of_mem_encode {cs : List Char} {c : Char} (h : c ∈ encode cs) :
    isAscii c = true := by
  rcases mem_encode h with ⟨-, h⟩ | rfl | ⟨d, hd, rfl⟩
  exacts [h, by decide, isAscii_digit hd]

end Punycode

/-! ## Encoded names -/

open Punycode (isAscii)

theorem eq_of_sized? {label cs : List Char} (h : sized? label = some cs) : cs = label := by
  rw [sized?] at h
  split_ifs at h
  exact (Option.some.inj h).symm

theorem length_of_sized? {label cs : List Char} (h : sized? label = some cs) :
    0 < cs.length ∧ cs.length ≤ maxLabel := by
  have hcs := eq_of_sized? h
  rw [sized?] at h
  split_ifs at h with hfits
  rwa [hcs]

/-- What a label is encoded to. -/
inductive Encodes (label : List Char) : List Char → Prop
  | plain (ascii : label.all isAscii = true) : Encodes label label
  | prepared {prepared : List Char} (foreign : label.all isAscii = false)
      (prepares : prepare? label = some prepared) (ascii : prepared.all isAscii = true) :
      Encodes label prepared
  | punycode {prepared : List Char} (foreign : label.all isAscii = false)
      (prepares : prepare? label = some prepared) :
      Encodes label (acePrefix ++ Punycode.encode prepared)

/-- **An encoded label** is the label, its prepared form, or that in punycode, and its length
    is allowed. -/
theorem encodes_of_encodeLabel? {label cs : List Char} (h : encodeLabel? label = some cs) :
    Encodes label cs ∧ 0 < cs.length ∧ cs.length ≤ maxLabel := by
  rw [encodeLabel?] at h
  split_ifs at h with hlabel
  · rw [← eq_of_sized? h] at hlabel
    exact ⟨eq_of_sized? h ▸ .plain hlabel, length_of_sized? h⟩
  · rw [Bool.not_eq_true] at hlabel
    cases hprepared : prepare? label with
    | none => simp [hprepared] at h
    | some prepared =>
      simp only [hprepared, Option.bind_eq_bind, Option.bind_some] at h
      split_ifs at h with hascii
      · refine ⟨?_, length_of_sized? h⟩
        rw [eq_of_sized? h]
        exact .prepared hlabel hprepared hascii
      · refine ⟨?_, length_of_sized? h⟩
        rw [eq_of_sized? h]
        exact .punycode hlabel hprepared

theorem isAscii_of_mem_encodeLabel? {label cs : List Char} (h : encodeLabel? label = some cs) :
    ∀ c ∈ cs, isAscii c = true := by
  cases (encodes_of_encodeLabel? h).1 with
  | plain ascii => exact List.all_eq_true.1 ascii
  | prepared foreign prepares ascii => exact List.all_eq_true.1 ascii
  | punycode foreign prepares =>
    intro c hc
    rcases List.mem_append.1 hc with hc | hc
    · have hprefix : acePrefix.all isAscii = true := by decide
      exact List.all_eq_true.1 hprefix c hc
    · exact Punycode.isAscii_of_mem_encode hc

theorem map_of_mapM {labels encoded : List (List Char)}
    (h : labels.mapM encodeLabel? = some encoded) :
    labels.map encodeLabel? = encoded.map some := by
  induction labels generalizing encoded with
  | nil =>
    cases h
    rfl
  | cons label labels ih =>
    simp only [List.mapM_cons, Option.bind_eq_bind, Option.bind_eq_some_iff] at h
    obtain ⟨first, hfirst, others, hothers, hencoded⟩ := h
    cases hencoded
    rw [List.map_cons, hfirst, ih hothers, List.map_cons]

theorem isAscii_of_mem_labels {labels encoded : List (List Char)}
    (h : labels.mapM encodeLabel? = some encoded) : ∀ l ∈ encoded, ∀ c ∈ l, isAscii c = true := by
  intro l hl
  have hin : some l ∈ labels.map encodeLabel? := by
    rw [map_of_mapM h]
    exact List.mem_map_of_mem hl
  obtain ⟨label, -, hlabel⟩ := List.mem_map.1 hin
  exact isAscii_of_mem_encodeLabel? hlabel

theorem isAscii_of_mem_joinLabels {ls : List (List Char)}
    (h : ∀ l ∈ ls, ∀ c ∈ l, isAscii c = true) : ∀ c ∈ joinLabels ls, isAscii c = true := by
  intro c hc
  rcases Address.mem_joined hc with rfl | ⟨l, hl, hcl⟩
  exacts [by decide, h l hl c hcl]

/-- **An encoded name is ASCII.** -/
theorem isAscii_of_mem_encode? {cs encoded : List Char} (h : encode? cs = some encoded) :
    ∀ c ∈ encoded, isAscii c = true := by
  rw [encode?] at h
  dsimp only at h
  split_ifs at h with hascii hfit hlast
  · rw [← Option.some.inj h]
    exact List.all_eq_true.1 hascii
  · obtain ⟨ls, hls, rfl⟩ := Option.map_eq_some_iff.1 h
    intro c hc
    rcases List.mem_append.1 hc with hc | hc
    · exact isAscii_of_mem_joinLabels (isAscii_of_mem_labels hls) c hc
    · rw [List.mem_singleton.1 hc]
      decide
  · obtain ⟨ls, hls, rfl⟩ := Option.map_eq_some_iff.1 h
    exact isAscii_of_mem_joinLabels (isAscii_of_mem_labels hls)

/-! ## Names in ASCII -/

/-- All bytes of the name are ASCII. -/
def Ascii (n : DomainName) : Prop := ∀ b ∈ n.bytes, b.toNat < 0x80

/-- **A name in ASCII can be written.** -/
theorem Ascii.text? {n : DomainName} (h : n.Ascii) : ∃ s, n.text? = some s := by
  have hall : n.bytes.all (· < 0x80) = true := by
    refine List.all_eq_true.2 fun b hb => decide_eq_true ?_
    exact UInt8.lt_iff_toNat_lt.2 (h b hb)
  exact ⟨_, by rw [DomainName.text?, if_pos hall]⟩

theorem toNat_lowerByte_lt {b : UInt8} (h : b.toNat < 0x80) : (lowerByte b).toNat < 0x80 := by
  unfold lowerByte
  split_ifs with hupper
  · simp only [Bool.and_eq_true, decide_eq_true_eq, UInt8.le_iff_toNat_le] at hupper
    have hle : b.toNat ≤ 0x5A := hupper.2
    rw [UInt8.toNat_add]
    simp only [UInt8.reduceToNat]
    omega
  · exact h

theorem mem_of_mem_dropTrailing {α : Type} {p : α → Bool} {x : α} {xs : List α}
    (h : x ∈ dropTrailing p xs) : x ∈ xs := by
  rw [dropTrailing, List.mem_reverse] at h
  exact List.mem_reverse.1 ((List.dropWhile_sublist p).mem h)

/-- The byte of an ASCII character has its number. -/
theorem toNat_byte {c : Char} (h : c.toNat < 0x80) : c.toNat.toUInt8.toNat = c.toNat := by
  simp only [Nat.toUInt8_eq, UInt8.toNat_ofNat']
  omega

/-- The normal name of characters in ASCII is ASCII. -/
theorem ascii_normal {cs : List Char} (h : ∀ c ∈ cs, isAscii c = true) :
    (normal (bytesOfAscii cs)).Ascii := by
  intro b hb
  obtain ⟨b', hb', rfl⟩ := List.mem_map.1 hb
  obtain ⟨c, hc, rfl⟩ := List.mem_map.1 (mem_of_mem_dropTrailing hb')
  have hlt : c.toNat < 0x80 := of_decide_eq_true (h c hc)
  exact toNat_lowerByte_lt ((toNat_byte hlt).trans_lt hlt)

/-- **The name that a text spells is ASCII.** -/
theorem ascii_ofText? {s : String} {d : DomainName} (h : ofText? s = some d) : d.Ascii := by
  obtain ⟨cs, hcs, rfl⟩ := Option.map_eq_some_iff.1 h
  exact ascii_normal (isAscii_of_mem_encode? hcs)

end DomainName

/-- **Reverse names are ASCII.** -/
theorem Address.ascii_reverseName (a : Address) : a.reverseName.Ascii := by
  intro b hb
  obtain ⟨c, hc, rfl⟩ := List.mem_map.1 hb
  have hlt : c.toNat < 0x80 := by
    rcases Address.isReverseChar_of_mem hc with h | h <;> omega
  exact (DomainName.toNat_byte hlt).trans_lt hlt

/-- **Every kind of lookup asks for a name in ASCII**, if it is given a text. -/
theorem Lookup.Kind.ascii_target {kind : Lookup.Kind} {s : String} {d : DomainName}
    (h : kind.target (.text s) = .ok d) : d.Ascii := by
  rcases Lookup.Kind.read_of_target h with ⟨-, h⟩ | ⟨-, h⟩
  · obtain ⟨a, rfl⟩ := Value.exists_reverseName h
    exact Address.ascii_reverseName a
  · rw [Value.toDomain] at h
    split at h
    · rename_i n hn
      cases h
      exact DomainName.ascii_ofText? hn
    · cases h

end ResolverChain
