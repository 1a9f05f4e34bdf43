/-
  The normal name as a canonical form of spellings.

  * ASCII letters of either case fold to the same character (`fold_toLower`), so a text is
    encoded alike in any case, but for the case of what is encoded
    (`encode?_lowered`), which the normal name drops;
  * dots at the end of a text are dropped before it is encoded (`dropTrailing_append`);
  * so a value and any other that differs from it in case and in dots at the end
    (`Value.Varies`) are read as the same name, or both as none (`toDomain_canonical`).
-/
import ResolverChain.Proofs.WellFormedName

namespace ResolverChain

open Text

/-! ## Letters of either case -/

theorem toLower_cases (c : Char) :
    c.toLower = c ∨ ∃ n < 26, c = Char.ofNat (0x41 + n) ∧ c.toLower = Char.ofNat (0x61 + n) := by
  by_cases h : c.val ≥ 'A'.val ∧ c.val ≤ 'Z'.val
  · right
    obtain ⟨hA, hZ⟩ : 0x41 ≤ c.toNat ∧ c.toNat ≤ 0x5A := h
    have hc : c = Char.ofNat (0x41 + (c.toNat - 0x41)) := by
      rw [Nat.add_sub_of_le hA, Char.ofNat_toNat]
    have hlower : ∀ n < 26, (Char.ofNat (0x41 + n)).toLower = Char.ofNat (0x61 + n) := by decide
    refine ⟨c.toNat - 0x41, by omega, hc, ?_⟩
    rw [← hlower _ (by omega), ← hc]
  · left
    exact dif_neg h

/-- What does not tell the capital letters of ASCII from the small ones does not tell a
    character from its lower case. -/
theorem toLower_keeps {α : Type} {f : Char → α}
    (h : ∀ n < 26, f (Char.ofNat (0x61 + n)) = f (Char.ofNat (0x41 + n))) (c : Char) :
    f c.toLower = f c := by
  rcases toLower_cases c with hc | ⟨n, hn, rfl, hlower⟩
  · rw [hc]
  · rw [hlower, h n hn]

theorem dropTrailing_append {α : Type} {p : α → Bool} {ys : List α} (h : ∀ y ∈ ys, p y = true)
    (xs : List α) : dropTrailing p (xs ++ ys) = dropTrailing p xs := by
  rw [dropTrailing, List.reverse_append,
    List.dropWhile_append_of_pos fun y hy => h y (List.mem_reverse.1 hy), dropTrailing]

theorem dropTrailing_map {α β : Type} {f : α → β} {p : β → Bool} {q : α → Bool}
    (h : ∀ x, p (f x) = q x) (xs : List α) :
    dropTrailing p (xs.map f) = (dropTrailing q xs).map f := by
  have hpq : p ∘ f = q := funext h
  rw [dropTrailing, ← List.map_reverse, List.dropWhile_map, hpq, ← List.map_reverse, dropTrailing]

namespace DomainName

open Punycode (isAscii)

/-- The text in lower case, as far as its letters are ASCII. -/
def lowered (cs : List Char) : List Char := cs.map Char.toLower

variable {cs ds label : List Char}

theorem fold_toLower (c : Char) : Unicode.CaseFolding.fold c.toLower = Unicode.CaseFolding.fold c :=
  toLower_keeps (by decide +kernel) c

theorem isAscii_toLower (c : Char) : isAscii c.toLower = isAscii c := toLower_keeps (by decide) c

theorem isDot_toLower (c : Char) : isDot c.toLower = isDot c := toLower_keeps (by decide) c

theorem beq_dot_toLower (c : Char) : (c.toLower == '.') = (c == '.') :=
  toLower_keeps (f := (· == '.')) (by decide) c

theorem byte_toLower {c : Char} (hc : isAscii c = true) :
    c.toLower.toNat.toUInt8 = lowerByte c.toNat.toUInt8 := by
  have hall : ∀ n < 0x80, (Char.ofNat n).toLower.toNat.toUInt8 =
      lowerByte (Char.ofNat n).toNat.toUInt8 := by decide
  have h := hall c.toNat (of_decide_eq_true hc)
  rwa [Char.ofNat_toNat] at h

/-! ## Labels of either case -/

theorem all_isAscii_lowered (cs : List Char) : (lowered cs).all isAscii = cs.all isAscii := by
  rw [lowered, List.all_map]
  exact congrArg cs.all (funext isAscii_toLower)

theorem prepare?_lowered (label : List Char) : prepare? (lowered label) = prepare? label := by
  have hfold : (lowered label).flatMap Unicode.CaseFolding.fold =
      label.flatMap Unicode.CaseFolding.fold := by
    rw [lowered, List.flatMap_map]
    exact List.flatMap_congr fun c _ => fold_toLower c
  rw [prepare?, folded, hfold, prepare?, folded]

theorem sized?_lowered (label : List Char) :
    sized? (lowered label) = (sized? label).map lowered := by
  rw [sized?, sized?, lowered, List.length_map]
  split_ifs <;> rfl

theorem lowered_lowered (cs : List Char) : lowered (lowered cs) = lowered cs := by
  rw [lowered, lowered, List.map_map]
  exact List.map_congr_left fun c _ => toLower_keeps (f := Char.toLower) (by decide) c

/-- A label is encoded alike in either case: one in ASCII stands for itself, and the letters of
    any other are folded. -/
theorem encodeLabel?_lowered (label : List Char) :
    (encodeLabel? (lowered label)).map lowered = (encodeLabel? label).map lowered := by
  by_cases hascii : label.all isAscii = true
  · have hlowered : (lowered label).all isAscii = true := by rwa [all_isAscii_lowered]
    rw [encodeLabel?, if_pos hlowered, encodeLabel?, if_pos hascii, sized?_lowered, Option.map_map]
    exact congrArg (Option.map · (sized? label)) (funext lowered_lowered)
  · have hlowered : ¬ (lowered label).all isAscii = true := by rwa [all_isAscii_lowered]
    rw [encodeLabel?, if_neg hlowered, prepare?_lowered, encodeLabel?, if_neg hascii]

theorem map_mapM_cons (label : List Char) (labels : List (List Char)) :
    ((label :: labels).mapM encodeLabel?).map (List.map lowered) =
      ((encodeLabel? label).map lowered).bind fun first =>
        ((labels.mapM encodeLabel?).map (List.map lowered)).map (first :: ·) := by
  rw [List.mapM_cons]
  cases encodeLabel? label with
  | none => rfl
  | some first => cases labels.mapM encodeLabel? <;> rfl

theorem mapM_encodeLabel?_lowered (labels : List (List Char)) :
    ((labels.map lowered).mapM encodeLabel?).map (List.map lowered) =
      (labels.mapM encodeLabel?).map (List.map lowered) := by
  induction labels with
  | nil => rfl
  | cons label labels ih =>
    rw [List.map_cons, map_mapM_cons, map_mapM_cons, encodeLabel?_lowered, ih]

theorem lowered_joinLabels (labels : List (List Char)) :
    lowered (joinLabels labels) = joinLabels (labels.map lowered) := by
  induction labels with
  | nil => rfl
  | cons label labels ih =>
    cases labels with
    | nil => simp [joinLabels]
    | cons next labels =>
      have hjoin : ∀ (l m : List Char) (ls : List (List Char)),
          joinLabels (l :: m :: ls) = l ++ '.' :: joinLabels (m :: ls) := by
        intro l m ls
        simp [joinLabels, List.intercalate_cons_cons]
      have hdot : lowered ('.' :: joinLabels (next :: labels)) =
          '.' :: lowered (joinLabels (next :: labels)) := rfl
      rw [hjoin, List.map_cons, List.map_cons, hjoin, ← List.map_cons, ← ih, ← hdot, lowered,
        List.map_append]
      rfl

/-! ## Names of either case -/

theorem splitOnP_isDot_lowered (cs : List Char) :
    (lowered cs).splitOnP isDot = (cs.splitOnP isDot).map lowered := by
  rw [lowered, splitOnP_map]
  have hdot : (fun c : Char => isDot c.toLower) = isDot := funext isDot_toLower
  rw [hdot]
  rfl

theorem splitOn_lowered (cs : List Char) :
    (lowered cs).splitOn '.' = (cs.splitOn '.').map lowered := by
  rw [List.splitOn_eq_splitOnP, List.splitOn_eq_splitOnP, lowered, splitOnP_map]
  have hdot : (fun c : Char => c.toLower == '.') = (· == '.') := funext beq_dot_toLower
  rw [hdot]
  rfl

theorem asciiLabelsFit_lowered (labels : List (List Char)) :
    asciiLabelsFit (labels.map lowered) = asciiLabelsFit labels := by
  rcases List.eq_nil_or_concat' labels with rfl | ⟨front, last, rfl⟩
  · rfl
  · rw [Bool.eq_iff_iff, List.map_append, List.map_singleton, asciiLabelsFit_concat,
      asciiLabelsFit_concat]
    simp [lowered]

/-- Labels are joined alike in either case. -/
theorem map_mapM_lowered {join : List (List Char) → List Char}
    (hjoin : ∀ labels, lowered (join labels) = join (labels.map lowered))
    (labels : List (List Char)) :
    (((labels.map lowered).mapM encodeLabel?).map join).map lowered =
      ((labels.mapM encodeLabel?).map join).map lowered := by
  have hcomm : lowered ∘ join = join ∘ List.map lowered := funext hjoin
  rw [Option.map_map, hcomm, ← Option.map_map, mapM_encodeLabel?_lowered, Option.map_map, ← hcomm,
    ← Option.map_map]

/-- **A text is encoded alike in either case**, but for the case of what is encoded. -/
theorem encode?_lowered (cs : List Char) :
    (encode? (lowered cs)).map lowered = (encode? cs).map lowered := by
  have hlast : ((cs.splitOnP isDot).map lowered).getLast? = some [] ↔
      (cs.splitOnP isDot).getLast? = some [] := by
    rw [List.getLast?_map, Option.map_eq_some_iff]
    simp [lowered]
  have hdot : ∀ labels, lowered (joinLabels labels ++ ['.']) =
      joinLabels (labels.map lowered) ++ ['.'] := by
    intro labels
    rw [← lowered_joinLabels, lowered, List.map_append]
    rfl
  rw [encode?, encode?, all_isAscii_lowered, splitOn_lowered, asciiLabelsFit_lowered,
    splitOnP_isDot_lowered]
  dsimp only
  simp only [hlast, ← List.map_dropLast]
  split_ifs
  · exact congrArg some (lowered_lowered cs)
  · rfl
  · exact map_mapM_lowered hdot _
  · exact map_mapM_lowered lowered_joinLabels _

/-! ## Normal names of either case -/

theorem lowerBytes_bytesOfAscii (hcs : ∀ c ∈ cs, isAscii c = true) :
    lowerBytes (bytesOfAscii cs) = bytesOfAscii (lowered cs) := by
  rw [lowerBytes, bytesOfAscii, bytesOfAscii, lowered, List.map_map, List.map_map]
  exact List.map_congr_left fun c hc => (byte_toLower (hcs c hc)).symm

/-- Bytes that differ in case at most have the same normal name. -/
theorem normal_congr {bs bs' : List UInt8} (h : lowerBytes bs' = lowerBytes bs) :
    normal bs' = normal bs := by
  have hdrop : ∀ xs : List UInt8, lowerBytes (dropTrailing (· == dot) xs) =
      dropTrailing (· == dot) (lowerBytes xs) := by
    intro xs
    have hdot : ∀ b, (lowerByte b == dot) = (b == dot) := fun b => by
      rw [Bool.eq_iff_iff, beq_iff_eq, beq_iff_eq, lowerByte_eq_dot_iff]
    exact (dropTrailing_map hdot xs).symm
  rw [normal, normal, hdrop, hdrop, h]

theorem normal_append_dots (bs : List UInt8) (k : Nat) :
    normal (bs ++ List.replicate k dot) = normal bs := by
  have hdots : ∀ b ∈ List.replicate k dot, (b == dot) = true := fun b hb => by
    rw [List.eq_of_mem_replicate hb]
    rfl
  rw [normal, dropTrailing_append hdots, normal]

/-- **A text spells the same name in either case.** -/
theorem ofText?_congr {s t : String} (h : lowered t.toList = lowered s.toList) :
    ofText? t = ofText? s := by
  have hdrop : ∀ xs : List Char, lowered (dropTrailing (· == '.') xs) =
      dropTrailing (· == '.') (lowered xs) :=
    fun xs => (dropTrailing_map beq_dot_toLower xs).symm
  have hencode : (encode? (dropTrailing (· == '.') t.toList)).map lowered =
      (encode? (dropTrailing (· == '.') s.toList)).map lowered := by
    rw [← encode?_lowered, ← encode?_lowered (dropTrailing _ s.toList), hdrop, hdrop, h]
  rw [ofText?, ofText?]
  cases hs : encode? (dropTrailing (· == '.') s.toList) with
  | none =>
    rw [hs, Option.map_none, Option.map_eq_none_iff] at hencode
    rw [hencode]
  | some encoded =>
    rw [hs, Option.map_some, Option.map_eq_some_iff] at hencode
    obtain ⟨encoded', ht, hcase⟩ := hencode
    rw [ht, Option.map_some, Option.map_some]
    refine congrArg some (normal_congr ?_)
    rw [lowerBytes_bytesOfAscii (isAscii_of_mem_encode? ht),
      lowerBytes_bytesOfAscii (isAscii_of_mem_encode? hs), hcase]

theorem ofText?_append_dots (s : String) (k : Nat) :
    ofText? (String.ofList (s.toList ++ List.replicate k '.')) = ofText? s := by
  have hdots : ∀ c ∈ List.replicate k '.', (c == '.') = true := fun c hc => by
    rw [List.eq_of_mem_replicate hc]
    rfl
  rw [ofText?, String.toList_ofList, dropTrailing_append hdots, ofText?]

end DomainName

/-! ## Spellings of one name -/

namespace Value

/-- The second value is the first one with ASCII letters in another case, and with dots added
    at its end. -/
inductive Varies : Value → Value → Prop
  | text {s t : String} (dots : Nat)
      (letters : DomainName.lowered t.toList =
        DomainName.lowered (s.toList ++ List.replicate dots '.')) : Varies (.text s) (.text t)
  | bytes {bs bs' : List UInt8} (dots : Nat)
      (letters : DomainName.lowerBytes bs' =
        DomainName.lowerBytes (bs ++ List.replicate dots DomainName.dot)) :
      Varies (.bytes bs) (.bytes bs')
  | name {n n' : DomainName} (dots : Nat)
      (letters : DomainName.lowerBytes n'.bytes =
        DomainName.lowerBytes (n.bytes ++ List.replicate dots DomainName.dot)) :
      Varies (.name n) (.name n')

variable {x y : Value} {d : DomainName}

theorem Varies.toDomain_iff (h : Varies x y) : y.toDomain = .ok d ↔ x.toDomain = .ok d := by
  cases h with
  | @text s t dots letters =>
    have hsame : DomainName.ofText? t = DomainName.ofText? s := by
      rw [← DomainName.ofText?_append_dots s dots]
      exact DomainName.ofText?_congr (by rw [letters, String.toList_ofList])
    rw [toDomain_text, toDomain_text, hsame]
    cases DomainName.ofText? s <;> simp
  | bytes dots letters =>
    rw [toDomain, toDomain, DomainName.normal_congr letters, DomainName.normal_append_dots]
  | name dots letters =>
    rw [toDomain, toDomain, DomainName.normal_congr letters, DomainName.normal_append_dots]

/-- **The normal name is a canonical form.**  Another case of ASCII letters, and dots at the
    end, change neither whether a value is read as a name nor the name; the name has no capital
    letter of ASCII and no dot at its end, and is read as itself, as a name and as bytes. -/
theorem toDomain_canonical (h : Varies x y) :
    (∀ d, y.toDomain = .ok d ↔ x.toDomain = .ok d) ∧
    ∀ d, x.toDomain = .ok d →
      (∀ b ∈ d.bytes, ¬ DomainName.IsUpper b) ∧ d.bytes.getLast? ≠ some DomainName.dot ∧
      (Value.name d).toDomain = .ok d ∧ (Value.bytes d.bytes).toDomain = .ok d := by
  refine ⟨fun d => h.toDomain_iff, fun d hd => ?_⟩
  have hnormal := toDomain_normal hd
  refine ⟨?_, ?_, toDomain_name hd, by rw [toDomain, hnormal]⟩
  · rw [← hnormal]
    exact DomainName.not_isUpper_of_mem_normal
  · intro hlast
    have hne : d.bytes ≠ [] := by
      rintro hnil
      rw [hnil] at hlast
      cases hlast
    rw [List.getLast?_eq_some_getLast hne, Option.some.injEq] at hlast
    exact DomainName.getLast_ne_dot hnormal hne hlast

/-- A text in another script, of which the other spelling has capital letters and dots. -/
theorem toDomain_canonical_capitals :
    (Value.text "BüCHER.Example...").toDomain =
      .ok ⟨DomainName.bytesOfAscii "xn--bcher-kva.example".toList⟩ := by
  have hname : (Value.text "bücher.example").toDomain =
      .ok ⟨DomainName.bytesOfAscii "xn--bcher-kva.example".toList⟩ := by
    have hencoded : DomainName.ofText? "bücher.example" =
        some ⟨DomainName.bytesOfAscii "xn--bcher-kva.example".toList⟩ := by decide +kernel
    rw [toDomain_text, hencoded]
  have hvaries : Varies (.text "bücher.example") (.text "BüCHER.Example...") :=
    .text 3 (by decide)
  exact ((toDomain_canonical hvaries).1 _).2 hname

end Value

end ResolverChain
