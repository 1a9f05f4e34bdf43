/-
  Texts with full stops for all of their dots.

  * `plainDots` writes a full stop for every dot of a text, which keeps its labels
    (`splitOnP_plainDots`);
  * a text without a dot at its end is encoded label by label, whether it is ASCII as a whole
    or not (`encode?_of_endsSolid`), so it is encoded alike with full stops for its dots
    (`encode?_plainDots`);
  * a dot that is not ASCII, at the end of a text, makes a full stop at the end of the encoded
    name (`encode?_concat_dot`), which the normal name drops;
  * so a text is read as a name if and only if the text with full stops is read as the same
    one, and no label but the last is empty when the full stops at the end are dropped
    (`toDomain_plainDots_iff`).
-/
import ResolverChain.Proofs.CanonicalName

namespace ResolverChain

open Text

namespace DomainName

open Punycode (isAscii)

variable {cs : List Char} {c : Char}

/-! ## Full stops for dots -/

/-- A full stop for a dot, and any other character as it is. -/
def plainDot (c : Char) : Char := if isDot c then '.' else c

/-- The text with a full stop for every dot. -/
def plainDots (cs : List Char) : List Char := cs.map plainDot

/-- A label of the text is empty, and it is not the last one: the text begins with a dot, or
    has a dot behind another. -/
def HasEmptyLabel (cs : List Char) : Prop := [] ∈ (cs.splitOnP isDot).dropLast

instance : DecidablePred HasEmptyLabel := fun _ => inferInstanceAs (Decidable (_ ∈ _))

theorem isDot_plainDot (c : Char) : isDot (plainDot c) = isDot c := by
  rw [plainDot]
  split_ifs with hc
  · rw [hc]
    rfl
  · rfl

theorem plainDot_beq (c : Char) : (plainDot c == '.') = isDot c := by
  rw [plainDot]
  split_ifs with hc
  · rw [hc]
    rfl
  · rw [Bool.not_eq_true] at hc
    rw [hc, beq_eq_false_iff_ne]
    rintro rfl
    exact absurd hc (by decide)

/-- **Full stops for dots keep the labels.** -/
theorem splitOnP_plainDots (cs : List Char) :
    (plainDots cs).splitOnP isDot = cs.splitOnP isDot := by
  have hdots : (fun c => isDot (plainDot c)) = isDot := funext isDot_plainDot
  have hkept : ∀ label ∈ cs.splitOnP isDot, label.map plainDot = label := by
    intro label hlabel
    have hsolid : ∀ c ∈ label, plainDot c = c := fun c hc => by
      rw [plainDot, (mem_of_mem_splitOnP hlabel hc).2]
      rfl
    exact (List.map_congr_left hsolid).trans (List.map_id label)
  rw [plainDots, splitOnP_map, hdots]
  exact (List.map_congr_left hkept).trans (List.map_id _)

theorem dropTrailing_plainDots (cs : List Char) :
    dropTrailing (· == '.') (plainDots cs) = plainDots (dropTrailing isDot cs) :=
  dropTrailing_map plainDot_beq cs

/-! ## Texts without a dot at the end -/

/-- The text does not end with a dot. -/
def EndsSolid (cs : List Char) : Prop := ∃ front c, cs = front ++ [c] ∧ isDot c = false

theorem EndsSolid.plainDots (h : EndsSolid cs) : EndsSolid (plainDots cs) := by
  obtain ⟨front, c, rfl, hc⟩ := h
  refine ⟨DomainName.plainDots front, plainDot c, ?_, ?_⟩
  · rw [DomainName.plainDots, List.map_append, DomainName.plainDots, List.map_singleton]
  · rw [isDot_plainDot, hc]

theorem EndsSolid.exists_labels (h : EndsSolid cs) :
    ∃ front last, cs.splitOnP isDot = front ++ [last] ∧ last ≠ [] := by
  obtain ⟨before, c, rfl, hc⟩ := h
  obtain ⟨front, last, hlabels⟩ := exists_splitOnP_concat_neg hc before
  exact ⟨front, last ++ [c], hlabels, by simp⟩

theorem EndsSolid.dropTrailing_eq (h : EndsSolid cs) : dropTrailing isDot cs = cs := by
  obtain ⟨front, c, rfl, hc⟩ := h
  exact List.rdropWhile_concat_neg isDot front c (by rw [hc]; decide)

/-- Labels in ASCII stand for themselves, if all of them are as long as they may be. -/
theorem mapM_encodeLabel?_of_isAscii {labels : List (List Char)}
    (hlabels : ∀ label ∈ labels, ∀ c ∈ label, isAscii c = true) :
    labels.mapM encodeLabel? =
      if ∀ label ∈ labels, 0 < label.length ∧ label.length ≤ maxLabel then some labels
      else none := by
  induction labels with
  | nil => rfl
  | cons label labels ih =>
    obtain ⟨hlabel, hrest⟩ := List.forall_mem_cons.1 hlabels
    rw [List.mapM_cons, ih hrest, encodeLabel?_of_isAscii hlabel, sized?]
    simp only [List.forall_mem_cons]
    by_cases hfits : 0 < label.length ∧ label.length ≤ maxLabel
    · simp only [if_pos hfits, and_iff_right hfits]
      split_ifs <;> rfl
    · simp only [hfits, false_and, if_false]
      rfl

/-- **A text without a dot at its end is encoded label by label**, also when it is ASCII as a
    whole. -/
theorem encode?_of_endsSolid (h : EndsSolid cs) :
    encode? cs = ((cs.splitOnP isDot).mapM encodeLabel?).map joinLabels := by
  obtain ⟨front, last, hlabels, hlast⟩ := h.exists_labels
  by_cases hascii : cs.all isAscii = true
  · have hcs : ∀ c ∈ cs, isAscii c = true := List.all_eq_true.1 hascii
    have hparts : ∀ label ∈ cs.splitOnP isDot, ∀ c ∈ label, isAscii c = true :=
      fun label hlabel c hc => hcs c (mem_of_mem_splitOnP hlabel hc).1
    have hjoin : joinLabels (cs.splitOnP isDot) = cs := by
      rw [splitOnP_isDot_of_isAscii hcs]
      exact List.intercalate_splitOn '.'
    -- the last label may be empty in a name that is ASCII, but it is not
    have hfit : asciiLabelsFit (cs.splitOnP isDot) = true ↔
        ∀ label ∈ cs.splitOnP isDot, 0 < label.length ∧ label.length ≤ maxLabel := by
      rw [hlabels, asciiLabelsFit_concat, List.forall_mem_append, List.forall_mem_singleton,
        and_iff_right (List.length_pos_of_ne_nil hlast)]
    rw [encode?, if_pos hascii, ← splitOnP_isDot_of_isAscii hcs,
      mapM_encodeLabel?_of_isAscii hparts]
    simp only [hfit]
    split_ifs
    · rw [Option.map_some, hjoin]
    · rfl
  · have hsome : (cs.splitOnP isDot).getLast? ≠ some [] := by
      rw [hlabels, List.getLast?_concat]
      exact fun h => hlast (Option.some.inj h)
    rw [encode?, if_neg hascii]
    exact if_neg hsome

/-- The text without its dots at the end is empty, or does not end with a dot. -/
theorem endsSolid_dropTrailing (cs : List Char) :
    dropTrailing isDot cs = [] ∨ EndsSolid (dropTrailing isDot cs) := by
  rcases List.eq_nil_or_concat' (dropTrailing isDot cs) with hnil | ⟨front, c, hconcat⟩
  · exact Or.inl hnil
  · have hne : dropTrailing isDot cs ≠ [] := by
      rw [hconcat]
      simp
    have hlast := List.rdropWhile_last_not isDot cs hne
    refine Or.inr ⟨front, c, hconcat, ?_⟩
    have hc : (dropTrailing isDot cs).getLast hne = c := by simp [hconcat]
    rw [Bool.not_eq_true] at hlast
    rw [← hc]
    exact hlast

/-- **A text without dots at its end is encoded alike with full stops for its dots.** -/
theorem encode?_plainDots (cs : List Char) :
    encode? (plainDots (dropTrailing isDot cs)) = encode? (dropTrailing isDot cs) := by
  rcases endsSolid_dropTrailing cs with hnil | hsolid
  · rw [hnil]
    rfl
  · rw [encode?_of_endsSolid hsolid.plainDots, encode?_of_endsSolid hsolid, splitOnP_plainDots]

/-! ## Texts with a dot at the end -/

/-- A dot that is not ASCII, at the end of a text, is a full stop at the end of what is
    encoded. -/
theorem encode?_concat_dot (hdot : isDot c = true) (hstop : c ≠ '.') (cs : List Char) :
    encode? (cs ++ [c]) =
      ((cs.splitOnP isDot).mapM encodeLabel?).map fun labels => joinLabels labels ++ ['.'] := by
  have hforeign : ¬ (cs ++ [c]).all isAscii = true := by
    intro hall
    have hc : isAscii c = true := List.all_eq_true.1 hall c (by simp)
    rw [isDot_of_isAscii hc, beq_iff_eq] at hdot
    exact hstop hdot
  rw [encode?, if_neg hforeign]
  dsimp only
  rw [splitOnP_concat_pos hdot, if_pos List.getLast?_concat, List.dropLast_concat]

/-- A text that has no empty label but the last one has something in front of a dot at its
    end, and no dot before that. -/
theorem endsSolid_of_concat (hdot : isDot c = true) (h : ¬ HasEmptyLabel (cs ++ [c])) :
    EndsSolid cs := by
  rw [HasEmptyLabel, splitOnP_concat_pos hdot, List.dropLast_concat] at h
  rcases List.eq_nil_or_concat' cs with rfl | ⟨front, x, rfl⟩
  · exact absurd (by simp) h
  · cases hx : isDot x with
    | false => exact ⟨front, x, rfl, hx⟩
    | true =>
      rw [splitOnP_concat_pos hx] at h
      exact absurd (by simp) h

/-- No text with an empty label but the last one is encoded. -/
theorem encode?_of_hasEmptyLabel (h : HasEmptyLabel cs) : encode? cs = none := by
  cases hencoded : encode? cs with
  | none => rfl
  | some encoded =>
    obtain ⟨front, last, hlabels, hfront, -⟩ := labels_of_encode? hencoded
    rw [HasEmptyLabel, hlabels, List.dropLast_concat] at h
    obtain ⟨e, he⟩ := hfront [] h
    rw [encodeLabel?_nil] at he
    cases he

/-- The name of what is encoded, with one full stop more or less at the end. -/
theorem normal_bytesOfAscii_concat (encoded : List Char) :
    normal (bytesOfAscii (encoded ++ ['.'])) = normal (bytesOfAscii encoded) := by
  rw [bytesOfAscii, List.map_append]
  exact normal_append_dots _ 1

/-- Dropping some of the dots at the end, and then all of them, drops all of them. -/
theorem dropTrailing_dropTrailing {α : Type} {p q : α → Bool} (hpq : ∀ x, p x = true → q x = true)
    (xs : List α) : dropTrailing q (dropTrailing p xs) = dropTrailing q xs := by
  induction xs using List.reverseRecOn with
  | nil => rfl
  | append_singleton xs x ih =>
    by_cases hx : p x = true
    · have hp : dropTrailing p (xs ++ [x]) = dropTrailing p xs :=
        List.rdropWhile_concat_pos p xs x hx
      have hq : dropTrailing q (xs ++ [x]) = dropTrailing q xs :=
        List.rdropWhile_concat_pos q xs x (hpq x hx)
      rw [hp, hq, ih]
    · have hp : dropTrailing p (xs ++ [x]) = xs ++ [x] := List.rdropWhile_concat_neg p xs x hx
      rw [hp]

/-- A text without full stops at its end has the same name as without any dots there, unless
    a label but the last one is empty. -/
theorem name_dropTrailing (hcs : dropTrailing (· == '.') cs = cs) (h : ¬ HasEmptyLabel cs) :
    (encode? cs).map (normal ∘ bytesOfAscii) =
      (encode? (dropTrailing isDot cs)).map (normal ∘ bytesOfAscii) := by
  rcases List.eq_nil_or_concat' cs with rfl | ⟨front, c, rfl⟩
  · rfl
  · cases hdot : isDot c with
    | false =>
      have hsolid : EndsSolid (front ++ [c]) := ⟨front, c, rfl, hdot⟩
      rw [hsolid.dropTrailing_eq]
    | true =>
      have hstop : c ≠ '.' := by
        have hlast := List.rdropWhile_eq_self_iff.1 hcs (by simp)
        simpa using hlast
      have hfront : EndsSolid front := endsSolid_of_concat hdot h
      have hdrop : dropTrailing isDot (front ++ [c]) = front := by
        rw [dropTrailing_append (by simpa using hdot), hfront.dropTrailing_eq]
      have hname : ∀ labels, (normal ∘ bytesOfAscii) (joinLabels labels ++ ['.']) =
          (normal ∘ bytesOfAscii) (joinLabels labels) :=
        fun labels => normal_bytesOfAscii_concat _
      rw [hdrop, encode?_concat_dot hdot hstop, encode?_of_endsSolid hfront, Option.map_map,
        Option.map_map]
      exact congrArg (Option.map · _) (funext hname)

/-- **A text spells the name that it spells with full stops for its dots**, unless a label but
    the last is empty when the full stops at the end are dropped; then it spells none. -/
theorem ofText?_plainDots (s : String) :
    ofText? s =
      if HasEmptyLabel (dropTrailing (· == '.') s.toList) then none
      else ofText? (String.ofList (plainDots s.toList)) := by
  have hstop : ∀ c : Char, (c == '.') = true → isDot c = true := by
    intro c hc
    rw [beq_iff_eq.1 hc]
    rfl
  have hcs : dropTrailing (· == '.') (dropTrailing (· == '.') s.toList) =
      dropTrailing (· == '.') s.toList := dropTrailing_dropTrailing (fun _ hc => hc) _
  split_ifs with hempty
  · rw [ofText?, encode?_of_hasEmptyLabel hempty]
    rfl
  · have hname := name_dropTrailing hcs hempty
    rw [dropTrailing_dropTrailing hstop, ← encode?_plainDots, ← dropTrailing_plainDots] at hname
    rw [ofText?, ofText?, String.toList_ofList]
    exact hname

end DomainName

namespace Value

variable {s : String} {d : DomainName}

theorem toDomain_text_iff : (Value.text s).toDomain = .ok d ↔ DomainName.ofText? s = some d := by
  refine ⟨ofText?_of_toDomain, fun h => ?_⟩
  rw [toDomain_text, h]

/-- **Dots may be written as full stops.**  A text is read as a name if and only if the text
    with a full stop for each of its dots is read as the same name, and no label but the last
    is empty once the full stops at its end are dropped. -/
theorem toDomain_plainDots_iff (s : String) (d : DomainName) :
    (Value.text s).toDomain = .ok d ↔
      (Value.text (String.ofList (DomainName.plainDots s.toList))).toDomain = .ok d ∧
        ¬ DomainName.HasEmptyLabel (dropTrailing (· == '.') s.toList) := by
  rw [toDomain_text_iff, toDomain_text_iff, DomainName.ofText?_plainDots s]
  split_ifs with hempty
  · exact iff_of_false (by simp) fun h => h.2 hempty
  · exact (and_iff_left hempty).symm

/-- One dot at the end is dropped, whichever it is; a second one is an empty label, unless both
    are full stops. -/
example :
    DomainName.ofText? "bücher\uFF61de\u3002" = DomainName.ofText? "bücher.de." ∧
      DomainName.ofText? "de\u3002\u3002" = none ∧
      DomainName.ofText? "de.." = some ⟨DomainName.bytesOfAscii "de".toList⟩ := by
  decide +kernel

end Value

end ResolverChain
