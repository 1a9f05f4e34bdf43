/-
  Names in labels that the domain name system can take.

  * a row of labels has a gap (`HasGap`) if an empty label stands before one that is not,
    and a name is well formed if its labels have 1 to 63 bytes (`WellFormed`);
  * an encoded name is split into the labels of the text, encoded one by one
    (`splitOn_encode?`), so a text with a gap spells no name (`not_hasGap_of_ofText?`);
  * but a label may be prepared to one with a full stop in it (`HidesDot`), and only so can
    a name come to have a gap (`wellFormed_of_not_hidesDot`);
  * the names that are read back from their own text are the well-formed ones
    (`ofText?_chars`).
-/
import ResolverChain.Proofs.AsciiName

namespace ResolverChain

open Text

namespace DomainName

open Punycode (isAscii)

variable {α β : Type}

/-! ## Rows of labels -/

/-- An empty label stands before one that is not empty. -/
def HasGap (labels : List (List α)) : Prop := [] ∈ dropTrailing List.isEmpty labels

theorem hasGap_concat_nil (labels : List (List α)) : HasGap (labels ++ [[]]) ↔ HasGap labels := by
  have h : dropTrailing List.isEmpty (labels ++ [[]]) = dropTrailing List.isEmpty labels :=
    List.rdropWhile_concat_pos _ _ _ rfl
  rw [HasGap, HasGap, h]

theorem hasGap_concat {label : List α} (hlabel : label ≠ []) (labels : List (List α)) :
    HasGap (labels ++ [label]) ↔ [] ∈ labels := by
  have h : dropTrailing List.isEmpty (labels ++ [label]) = labels ++ [label] :=
    List.rdropWhile_concat_neg _ _ _ (by simpa using hlabel)
  rw [HasGap, h, List.mem_append, List.mem_singleton, or_iff_left hlabel.symm]

theorem not_hasGap_of_not_mem {labels : List (List α)} (h : [] ∉ labels) : ¬ HasGap labels :=
  fun hgap => h (mem_of_mem_dropTrailing hgap)

theorem hasGap_append_replicate (labels : List (List α)) (k : Nat) :
    HasGap (labels ++ List.replicate k []) ↔ HasGap labels := by
  induction k with
  | zero => rw [List.replicate_zero, List.append_nil]
  | succ k ih => rw [List.replicate_succ', ← List.append_assoc, hasGap_concat_nil, ih]

theorem hasGap_map (f : α → β) (labels : List (List α)) :
    HasGap (labels.map (List.map f)) ↔ HasGap labels := by
  induction labels using List.reverseRecOn with
  | nil => simp [HasGap, dropTrailing]
  | append_singleton labels label ih =>
    rw [List.map_append, List.map_singleton]
    cases label with
    | nil => rw [List.map_nil, hasGap_concat_nil, hasGap_concat_nil, ih]
    | cons x xs =>
      rw [hasGap_concat (by simp), hasGap_concat (by simp)]
      simp

/-! ## Splitting -/

theorem splitOnP_congr {p q : α → Bool} {xs : List α} (h : ∀ x ∈ xs, p x = q x) :
    xs.splitOnP p = xs.splitOnP q := by
  induction xs with
  | nil => rw [List.splitOnP_nil, List.splitOnP_nil]
  | cons x xs ih =>
    have hx : p x = q x := h x List.mem_cons_self
    have hxs : ∀ y ∈ xs, p y = q y := fun y hy => h y (List.mem_cons_of_mem x hy)
    rw [List.splitOnP_cons_eq_if_modifyHead, List.splitOnP_cons_eq_if_modifyHead, hx, ih hxs]

theorem splitOnP_map (f : α → β) (p : β → Bool) (xs : List α) :
    (xs.map f).splitOnP p = (xs.splitOnP fun x => p (f x)).map (List.map f) := by
  induction xs with
  | nil => rw [List.map_nil, List.splitOnP_nil, List.splitOnP_nil]; rfl
  | cons x xs ih =>
    rw [List.map_cons, List.splitOnP_cons_eq_if_modifyHead, List.splitOnP_cons_eq_if_modifyHead, ih]
    split_ifs
    · rfl
    · cases xs.splitOnP fun x => p (f x) <;> rfl

/-- What stands between dots are stretches of what is no dot. -/
theorem sublist_of_mem_splitOnP {p : α → Bool} {xs part : List α} (h : part ∈ xs.splitOnP p) :
    part.Sublist (xs.filter fun x => !p x) := by
  induction xs generalizing part with
  | nil =>
    rw [List.splitOnP_nil, List.mem_singleton] at h
    rw [h]
    exact List.nil_sublist _
  | cons x xs ih =>
    rw [List.splitOnP_cons_eq_if_modifyHead] at h
    split_ifs at h with hx
    · rw [List.filter_cons_of_neg (by simpa using hx)]
      rcases List.mem_cons.1 h with rfl | h
      exacts [List.nil_sublist _, ih h]
    · rw [List.filter_cons_of_pos (by simpa using hx)]
      cases hsplit : xs.splitOnP p with
      | nil => exact absurd hsplit (List.splitOnP_ne_nil p xs)
      | cons first rest =>
        rw [hsplit] at h ih
        rcases List.mem_cons.1 h with rfl | h
        · exact (ih List.mem_cons_self).cons_cons x
        · exact (ih (List.mem_cons_of_mem first h)).cons x

theorem mem_of_mem_splitOnP {p : α → Bool} {xs part : List α} (h : part ∈ xs.splitOnP p) {x : α}
    (hx : x ∈ part) : x ∈ xs ∧ p x = false := by
  simpa using (sublist_of_mem_splitOnP h).mem hx

theorem splitOnP_concat_pos {p : α → Bool} {x : α} (hx : p x = true) (xs : List α) :
    (xs ++ [x]).splitOnP p = xs.splitOnP p ++ [[]] := by
  rw [List.splitOnP_append_cons xs [] hx, List.splitOnP_nil]

theorem exists_splitOnP_concat_neg {p : α → Bool} {x : α} (hx : p x = false) (xs : List α) :
    ∃ front last, (xs ++ [x]).splitOnP p = front ++ [last ++ [x]] := by
  induction xs with
  | nil => exact ⟨[], [], by simp [List.splitOnP_cons_eq_if_modifyHead, hx]⟩
  | cons y xs ih =>
    obtain ⟨front, last, h⟩ := ih
    rw [List.cons_append, List.splitOnP_cons_eq_if_modifyHead, h]
    split_ifs
    · exact ⟨[] :: front, last, rfl⟩
    · cases front with
      | nil => exact ⟨[], y :: last, rfl⟩
      | cons first front => exact ⟨(y :: first) :: front, last, rfl⟩

/-- Dots at the end of a text make empty labels behind all others. -/
theorem exists_splitOnP_dropTrailing {p q : α → Bool} (hpq : ∀ x, p x = true → q x = true)
    (xs : List α) :
    ∃ k, xs.splitOnP q = (dropTrailing p xs).splitOnP q ++ List.replicate k [] := by
  induction xs using List.reverseRecOn with
  | nil => exact ⟨0, by simp [dropTrailing]⟩
  | append_singleton xs x ih =>
    by_cases hx : p x = true
    · obtain ⟨k, hk⟩ := ih
      have hdrop : dropTrailing p (xs ++ [x]) = dropTrailing p xs :=
        List.rdropWhile_concat_pos p xs x hx
      refine ⟨k + 1, ?_⟩
      rw [splitOnP_concat_pos (hpq x hx), hdrop, hk, List.append_assoc, List.replicate_succ']
    · have hdrop : dropTrailing p (xs ++ [x]) = xs ++ [x] :=
        List.rdropWhile_concat_neg p xs x hx
      exact ⟨0, by rw [hdrop, List.replicate_zero, List.append_nil]⟩

theorem splitOn_joinLabels {labels : List (List Char)} (hlabels : labels ≠ []) :
    (joinLabels labels).splitOn '.' = labels.flatMap fun label => label.splitOn '.' := by
  induction labels with
  | nil => exact absurd rfl hlabels
  | cons label labels ih =>
    by_cases hrest : labels = []
    · simp [hrest, joinLabels]
    · have hjoin : joinLabels (label :: labels) = label ++ '.' :: joinLabels labels := by
        rw [joinLabels, List.intercalate_cons_of_ne_nil hrest, joinLabels]
        simp
      rw [hjoin, List.splitOn_append_cons_self, ih hrest, List.flatMap_cons]

/-! ## Labels one by one -/

theorem encodeLabel?_nil : encodeLabel? [] = none := by rw [encodeLabel?]; rfl

/-- A label that is not ASCII is prepared to one with a full stop in it. -/
def HidesDot (label : List Char) : Prop :=
  label.all isAscii = false ∧ ∃ prepared ∈ prepare? label, '.' ∈ prepared

instance : DecidablePred HidesDot := fun _ => inferInstanceAs (Decidable (_ ∧ _))

theorem Punycode.digit_ne_dot {d : Nat} (hd : d < 36) : Punycode.digit d ≠ '.' := by
  interval_cases d <;> decide

theorem dot_not_mem_of_encodeLabel? {label cs : List Char} (hdot : '.' ∉ label)
    (hhides : ¬ HidesDot label) (h : encodeLabel? label = some cs) : '.' ∉ cs := by
  cases (encodes_of_encodeLabel? h).1 with
  | plain ascii => exact hdot
  | prepared foreign prepares ascii => exact fun hin => hhides ⟨foreign, _, prepares, hin⟩
  | punycode foreign prepares =>
    rw [List.mem_append, not_or]
    refine ⟨by decide, fun hin => ?_⟩
    rcases Punycode.mem_encode hin with ⟨hin, -⟩ | hin | ⟨d, hd, hin⟩
    exacts [hhides ⟨foreign, _, prepares, hin⟩, absurd hin (by decide),
      Punycode.digit_ne_dot hd hin.symm]

/-- The labels of a name whose text has these labels: each is encoded, and split again if
    that makes full stops. -/
def encodedLabels (labels : List (List Char)) : List (List Char) :=
  labels.flatMap fun label => ((encodeLabel? label).getD []).splitOn '.'

theorem encodedLabels_concat_nil (labels : List (List Char)) :
    encodedLabels (labels ++ [[]]) = encodedLabels labels ++ [[]] := by
  simp [encodedLabels, encodeLabel?_nil]

theorem encodedLabels_append_replicate (labels : List (List Char)) (k : Nat) :
    encodedLabels (labels ++ List.replicate k []) = encodedLabels labels ++ List.replicate k [] := by
  induction k with
  | zero => simp
  | succ k ih =>
    rw [List.replicate_succ', ← List.append_assoc, encodedLabels_concat_nil, ih, List.append_assoc]

theorem length_le_of_mem_encodedLabels {labels : List (List Char)} {cs : List Char}
    (h : cs ∈ encodedLabels labels) : cs.length ≤ maxLabel := by
  obtain ⟨label, -, hcs⟩ := List.mem_flatMap.1 h
  have hle : cs.length ≤ ((encodeLabel? label).getD []).length := by
    rw [List.splitOn_eq_splitOnP] at hcs
    exact (sublist_of_mem_splitOnP hcs).length_le.trans (List.length_filter_le _ _)
  cases hlabel : encodeLabel? label with
  | none =>
    rw [hlabel] at hle
    exact hle.trans (Nat.zero_le _)
  | some encoded =>
    rw [hlabel] at hle
    exact hle.trans (encodes_of_encodeLabel? hlabel).2.2

theorem encodedLabels_of_mapM {labels encoded : List (List Char)}
    (h : labels.mapM encodeLabel? = some encoded) :
    encodedLabels labels = encoded.flatMap fun cs => cs.splitOn '.' := by
  have hmap := map_of_mapM h
  have hlabels : encodedLabels labels =
      (labels.map encodeLabel?).flatMap fun cs => (cs.getD []).splitOn '.' := by
    rw [List.flatMap_map, encodedLabels]
  rw [hlabels, hmap, List.flatMap_map]
  rfl

theorem exists_of_mapM {labels encoded : List (List Char)}
    (h : labels.mapM encodeLabel? = some encoded) :
    ∀ label ∈ labels, ∃ cs, encodeLabel? label = some cs := by
  intro label hlabel
  have hin : encodeLabel? label ∈ encoded.map some := by
    rw [← map_of_mapM h]
    exact List.mem_map_of_mem hlabel
  obtain ⟨cs, -, hcs⟩ := List.mem_map.1 hin
  exact ⟨cs, hcs.symm⟩

/-! ## Encoded names -/

theorem isDot_of_isAscii {c : Char} (hc : isAscii c = true) : isDot c = (c == '.') := by
  have hne : ∀ d : Char, isAscii d = false → (c == d) = false := by
    rintro d hd
    refine beq_eq_false_iff_ne.2 ?_
    rintro rfl
    rw [hc] at hd
    cases hd
  rw [isDot, hne '\u3002' (by decide), hne '\uFF0E' (by decide), hne '\uFF61' (by decide)]
  simp

/-- Of a text in ASCII, only the full stop is a dot. -/
theorem splitOnP_isDot_of_isAscii {cs : List Char} (hcs : ∀ c ∈ cs, isAscii c = true) :
    cs.splitOnP isDot = cs.splitOn '.' := by
  rw [List.splitOn_eq_splitOnP]
  exact splitOnP_congr fun c hc => isDot_of_isAscii (hcs c hc)

theorem encodeLabel?_of_isAscii {label : List Char} (hlabel : ∀ c ∈ label, isAscii c = true) :
    encodeLabel? label = sized? label := by
  rw [encodeLabel?, if_pos (List.all_eq_true.2 hlabel)]

theorem asciiLabelsFit_concat (front : List (List Char)) (last : List Char) :
    asciiLabelsFit (front ++ [last]) = true ↔
      (∀ label ∈ front, 0 < label.length ∧ label.length ≤ maxLabel) ∧ last.length ≤ maxLabel := by
  simp [asciiLabelsFit]

/-- Of a name that can be encoded, so can every label, but that the last may be empty. -/
theorem labels_of_encode? {cs encoded : List Char} (h : encode? cs = some encoded) :
    ∃ front last, cs.splitOnP isDot = front ++ [last] ∧
      (∀ label ∈ front, ∃ e, encodeLabel? label = some e) ∧
      (last = [] ∨ ∃ e, encodeLabel? last = some e) := by
  obtain ⟨front, last, hlabels⟩ : ∃ front last, cs.splitOnP isDot = front ++ [last] :=
    (List.eq_nil_or_concat' _).resolve_left (List.splitOnP_ne_nil _ _)
  refine ⟨front, last, hlabels, ?_⟩
  rw [encode?] at h
  dsimp only at h
  split_ifs at h with hascii hfit hlast
  · have hcs : ∀ c ∈ cs, isAscii c = true := List.all_eq_true.1 hascii
    have hencode : ∀ label ∈ front ++ [last], encodeLabel? label = sized? label := by
      intro label hlabel
      rw [← hlabels] at hlabel
      exact encodeLabel?_of_isAscii fun c hc => hcs c (mem_of_mem_splitOnP hlabel hc).1
    rw [← splitOnP_isDot_of_isAscii hcs, hlabels, asciiLabelsFit_concat] at hfit
    refine ⟨fun label hlabel => ⟨label, ?_⟩, ?_⟩
    · rw [hencode label (List.mem_append_left _ hlabel), sized?, if_pos (hfit.1 label hlabel)]
    · rcases List.eq_nil_or_concat' last with hnil | ⟨xs, x, hconcat⟩
      · exact Or.inl hnil
      · refine Or.inr ⟨last, ?_⟩
        rw [hencode last (by simp), sized?, if_pos ⟨by simp [hconcat], hfit.2⟩]
  · obtain ⟨es, hes, -⟩ := Option.map_eq_some_iff.1 h
    rw [hlabels, List.dropLast_concat] at hes
    rw [hlabels, List.getLast?_concat, Option.some.injEq] at hlast
    exact ⟨exists_of_mapM hes, Or.inl hlast⟩
  · obtain ⟨es, hes, -⟩ := Option.map_eq_some_iff.1 h
    rw [hlabels] at hes
    have hall := exists_of_mapM hes
    exact ⟨fun label hlabel => hall label (List.mem_append_left _ hlabel),
      Or.inr (hall last (by simp))⟩

/-- **A text with a gap spells no name.** -/
theorem not_hasGap_of_encode? {cs encoded : List Char} (h : encode? cs = some encoded) :
    ¬ HasGap (cs.splitOnP isDot) := by
  obtain ⟨front, last, hlabels, hfront, -⟩ := labels_of_encode? h
  have hnil : [] ∉ front := by
    intro hin
    obtain ⟨e, he⟩ := hfront [] hin
    rw [encodeLabel?_nil] at he
    cases he
  rw [hlabels]
  cases last with
  | nil =>
    rw [hasGap_concat_nil]
    exact not_hasGap_of_not_mem hnil
  | cons x xs => rwa [hasGap_concat (by simp)]

theorem splitOn_encodeLabel?_of_isAscii {label : List Char}
    (hascii : ∀ c ∈ label, isAscii c = true) (hdot : '.' ∉ label)
    (hencoded : label = [] ∨ ∃ e, encodeLabel? label = some e) :
    ((encodeLabel? label).getD []).splitOn '.' = [label] := by
  have hsame : (encodeLabel? label).getD [] = label := by
    rcases hencoded with rfl | ⟨e, he⟩
    · rw [encodeLabel?_nil]
      rfl
    · rw [he]
      rw [encodeLabel?_of_isAscii hascii] at he
      exact eq_of_sized? he
  rw [hsame, List.splitOn_eq_singleton hdot]

theorem dot_not_mem_of_mem_splitOnP {cs label : List Char} (h : label ∈ cs.splitOnP isDot) :
    '.' ∉ label := by
  intro hin
  have hdot := (mem_of_mem_splitOnP h hin).2
  cases hdot

theorem eq_nil_of_splitOnP {p : α → Bool} {xs : List α} (h : xs.splitOnP p = [[]]) : xs = [] := by
  rcases List.eq_nil_or_concat' xs with hnil | ⟨front, x, rfl⟩
  · exact hnil
  · cases hx : p x with
    | true => simp [splitOnP_concat_pos hx, List.splitOnP_ne_nil] at h
    | false =>
      obtain ⟨before, last, hlast⟩ := exists_splitOnP_concat_neg hx front
      have hends := congrArg List.getLast? (hlast.symm.trans h)
      simp at hends

theorem eq_nil_of_mapM {labels : List (List Char)} (h : labels.mapM encodeLabel? = some []) :
    labels = [] := by
  simpa using map_of_mapM h

/-- **The labels of an encoded name** are the labels of the text, each encoded. -/
theorem splitOn_encode? {cs encoded : List Char} (h : encode? cs = some encoded) :
    encoded.splitOn '.' = encodedLabels (cs.splitOnP isDot) := by
  obtain ⟨front, last, hlabels, hfront, hlast⟩ := labels_of_encode? h
  rw [encode?] at h
  dsimp only at h
  split_ifs at h with hascii hfit hempty
  · have hcs : ∀ c ∈ cs, isAscii c = true := List.all_eq_true.1 hascii
    have hkept : ∀ label ∈ cs.splitOnP isDot,
        ((encodeLabel? label).getD []).splitOn '.' = [label] := by
      intro label hlabel
      refine splitOn_encodeLabel?_of_isAscii
        (fun c hc => hcs c (mem_of_mem_splitOnP hlabel hc).1)
        (dot_not_mem_of_mem_splitOnP hlabel) ?_
      rw [hlabels] at hlabel
      rcases List.mem_append.1 hlabel with hin | hin
      · exact Or.inr (hfront label hin)
      · rw [List.mem_singleton.1 hin]
        exact hlast
    rw [← Option.some.inj h, encodedLabels, List.flatMap_congr hkept, List.flatMap_singleton',
      splitOnP_isDot_of_isAscii hcs]
  · obtain ⟨es, hes, rfl⟩ := Option.map_eq_some_iff.1 h
    rw [hlabels, List.dropLast_concat] at hes
    rw [hlabels, List.getLast?_concat, Option.some.injEq] at hempty
    have hne : es ≠ [] := by
      rintro rfl
      rw [eq_nil_of_mapM hes, hempty] at hlabels
      exact hascii (by rw [eq_nil_of_splitOnP hlabels]; rfl)
    rw [List.splitOn_append_cons_self, splitOn_joinLabels hne, List.splitOn_nil, hlabels, hempty,
      encodedLabels_concat_nil, encodedLabels_of_mapM hes]
  · obtain ⟨es, hes, rfl⟩ := Option.map_eq_some_iff.1 h
    have hne : es ≠ [] := by
      rintro rfl
      exact List.splitOnP_ne_nil _ _ (eq_nil_of_mapM hes)
    rw [splitOn_joinLabels hne, encodedLabels_of_mapM hes]

/-- If no label hides a full stop, the encoded labels have no gap either. -/
theorem not_hasGap_encodedLabels {cs encoded : List Char} (h : encode? cs = some encoded)
    (hhides : ∀ label ∈ cs.splitOnP isDot, ¬ HidesDot label) :
    ¬ HasGap (encodedLabels (cs.splitOnP isDot)) := by
  obtain ⟨front, last, hlabels, hfront, hlast⟩ := labels_of_encode? h
  have hsolid : ∀ label ∈ cs.splitOnP isDot, (∃ e, encodeLabel? label = some e) →
      [] ∉ ((encodeLabel? label).getD []).splitOn '.' := by
    rintro label hlabel ⟨e, he⟩ hin
    have hdot : '.' ∉ e :=
      dot_not_mem_of_encodeLabel? (dot_not_mem_of_mem_splitOnP hlabel) (hhides label hlabel) he
    rw [he, Option.getD_some, List.splitOn_eq_singleton hdot, List.mem_singleton] at hin
    have hpos := (encodes_of_encodeLabel? he).2.1
    rw [← hin] at hpos
    exact absurd hpos (by simp)
  have hnil : [] ∉ encodedLabels front := by
    intro hin
    obtain ⟨label, hlabel, hin⟩ := List.mem_flatMap.1 hin
    exact hsolid label (by simp [hlabels, hlabel]) (hfront label hlabel) hin
  rw [hlabels]
  rcases hlast with rfl | hlast
  · rw [encodedLabels_concat_nil, hasGap_concat_nil]
    exact not_hasGap_of_not_mem hnil
  · refine not_hasGap_of_not_mem ?_
    rw [encodedLabels, List.flatMap_append, List.mem_append, not_or]
    refine ⟨hnil, ?_⟩
    rw [List.flatMap_singleton]
    exact hsolid last (by simp [hlabels]) hlast

/-! ## Well-formed names -/

/-- The labels of a name, between its dots. -/
def labels (n : DomainName) : List (List UInt8) := n.bytes.splitOn dot

/-- The name is ASCII and, unless it is empty, its labels have 1 to 63 bytes. -/
def WellFormed (n : DomainName) : Prop :=
  n.Ascii ∧ (n.bytes = [] ∨ ∀ label ∈ n.labels, 0 < label.length ∧ label.length ≤ maxLabel)

instance : DecidablePred Ascii := fun n => inferInstanceAs (Decidable (∀ b ∈ n.bytes, _))

instance : DecidablePred WellFormed := fun _ => inferInstanceAs (Decidable (_ ∧ _))

theorem splitOn_bytesOfAscii {cs : List Char} (hcs : ∀ c ∈ cs, isAscii c = true) :
    (bytesOfAscii cs).splitOn dot = (cs.splitOn '.').map bytesOfAscii := by
  have hdot : ∀ c ∈ cs, (c.toNat.toUInt8 == dot) = (c == '.') := by
    intro c hc
    have hlt : c.toNat < 0x80 := of_decide_eq_true (hcs c hc)
    rw [Bool.eq_iff_iff, beq_iff_eq, beq_iff_eq, ← UInt8.toNat_inj, toNat_byte hlt,
      ← Char.toNat_inj]
    rfl
  rw [bytesOfAscii, List.splitOn_eq_splitOnP, splitOnP_map, splitOnP_congr hdot,
    List.splitOn_eq_splitOnP]
  rfl

theorem splitOn_lowerBytes (bs : List UInt8) :
    (lowerBytes bs).splitOn dot = (bs.splitOn dot).map lowerBytes := by
  have hdot : ∀ b ∈ bs, (lowerByte b == dot) = (b == dot) := by
    intro b _
    rw [Bool.eq_iff_iff, beq_iff_eq, beq_iff_eq]
    exact lowerByte_eq_dot_iff b
  rw [lowerBytes, List.splitOn_eq_splitOnP, splitOnP_map, splitOnP_congr hdot,
    List.splitOn_eq_splitOnP]
  rfl

/-- A normal name has the labels of the bytes, without the empty ones at the end. -/
theorem exists_labels_normal (bs : List UInt8) :
    ∃ k, (bs.splitOn dot).map lowerBytes = (normal bs).labels ++ List.replicate k [] := by
  obtain ⟨k, hk⟩ := exists_splitOnP_dropTrailing (p := (· == dot)) (fun _ h => h) bs
  refine ⟨k, ?_⟩
  rw [labels, normal, splitOn_lowerBytes, List.splitOn_eq_splitOnP, List.splitOn_eq_splitOnP, hk]
  simp [lowerBytes]

theorem getLast_ne_dot {n : DomainName} (hnormal : normal n.bytes = n) (hne : n.bytes ≠ []) :
    n.bytes.getLast hne ≠ dot := by
  have hends : ∀ h, n.bytes.getLast h ≠ dot := by
    rw [← hnormal]
    exact fun h => getLast_normal h
  exact hends hne

/-- The last label of a normal name is empty only if the name is. -/
theorem exists_labels_concat {n : DomainName} (hnormal : normal n.bytes = n) (hne : n.bytes ≠ []) :
    ∃ front last, n.labels = front ++ [last] ∧ last ≠ [] := by
  obtain ⟨front, last, hlabels⟩ := exists_splitOnP_concat_neg (p := (· == dot))
    (beq_eq_false_iff_ne.2 (getLast_ne_dot hnormal hne)) n.bytes.dropLast
  rw [List.dropLast_concat_getLast, ← List.splitOn_eq_splitOnP] at hlabels
  exact ⟨front, _, hlabels, by simp⟩

/-- **A normal name in labels that are not too long is well formed unless it has a gap.** -/
theorem wellFormed_iff_not_hasGap {n : DomainName} (hascii : n.Ascii)
    (hnormal : normal n.bytes = n) (hlong : ∀ label ∈ n.labels, label.length ≤ maxLabel) :
    n.WellFormed ↔ ¬ HasGap n.labels := by
  by_cases hnil : n.bytes = []
  · simp [WellFormed, hascii, hnil, labels, HasGap, dropTrailing]
  · obtain ⟨front, last, hlabels, hlast⟩ := exists_labels_concat hnormal hnil
    have hgap : HasGap n.labels ↔ [] ∈ n.labels := by
      rw [hlabels, hasGap_concat hlast, List.mem_append, List.mem_singleton, or_iff_left hlast.symm]
    rw [WellFormed, and_iff_right hascii, or_iff_right hnil, hgap]
    constructor
    · intro h hin
      exact absurd (h [] hin).1 (by simp)
    · intro h label hlabel
      refine ⟨List.length_pos_of_ne_nil ?_, hlong label hlabel⟩
      rintro rfl
      exact h hlabel

/-! ## Names read back -/

/-- The characters of a name. -/
def chars (n : DomainName) : List Char := n.bytes.map fun b => Char.ofNat b.toNat

theorem toNat_char {b : UInt8} (hb : b.toNat < 0x80) : (Char.ofNat b.toNat).toNat = b.toNat := by
  have hvalid : b.toNat.isValidChar := Or.inl (by omega)
  rw [Char.ofNat, dif_pos hvalid]
  rfl

theorem Ascii.isAscii_chars {n : DomainName} (h : n.Ascii) : ∀ c ∈ n.chars, isAscii c = true := by
  intro c hc
  obtain ⟨b, hb, rfl⟩ := List.mem_map.1 hc
  rw [isAscii, toNat_char (h b hb)]
  exact decide_eq_true (h b hb)

theorem Ascii.bytesOfAscii_chars {n : DomainName} (h : n.Ascii) : bytesOfAscii n.chars = n.bytes := by
  have hbyte : ∀ b ∈ n.bytes, (Char.ofNat b.toNat).toNat.toUInt8 = b := by
    intro b hb
    rw [toNat_char (h b hb), Nat.toUInt8_eq, UInt8.ofNat_toNat]
  rw [bytesOfAscii, chars, List.map_map]
  exact (List.map_congr_left hbyte).trans (List.map_id _)

theorem Ascii.text?_eq {n : DomainName} (h : n.Ascii) : n.text? = some (String.ofList n.chars) := by
  obtain ⟨s, hs⟩ := h.text?
  rw [DomainName.text?] at hs ⊢
  split_ifs at hs ⊢
  rfl

theorem dropTrailing_chars {n : DomainName} (hascii : n.Ascii) (hnormal : normal n.bytes = n) :
    dropTrailing (· == '.') n.chars = n.chars := by
  refine List.rdropWhile_eq_self_iff.2 fun hne hdot => ?_
  have hbytes : n.bytes ≠ [] := by
    rintro hnil
    exact hne (by rw [chars, hnil, List.map_nil])
  have hlast : Char.ofNat (n.bytes.getLast hbytes).toNat = '.' := by
    simpa [chars, List.getLast_map] using hdot
  refine getLast_ne_dot hnormal hbytes (UInt8.toNat_inj.1 ?_)
  rw [← toNat_char (hascii _ (List.getLast_mem hbytes)), hlast]
  rfl

/-- The labels of a normal name have the lengths allowed in ASCII if it is well formed. -/
theorem asciiLabelsFit_chars {n : DomainName} (hascii : n.Ascii) (hnormal : normal n.bytes = n) :
    asciiLabelsFit (n.chars.splitOn '.') = true ↔ n.WellFormed := by
  have hlabels : n.labels = (n.chars.splitOn '.').map bytesOfAscii := by
    rw [← splitOn_bytesOfAscii hascii.isAscii_chars, hascii.bytesOfAscii_chars, labels]
  obtain ⟨front, last, hsplit⟩ : ∃ front last, n.chars.splitOn '.' = front ++ [last] :=
    (List.eq_nil_or_concat' _).resolve_left (List.splitOn_ne_nil _ _)
  have hlength : ∀ label, (bytesOfAscii label).length = label.length := fun label =>
    List.length_map _
  rw [hsplit, asciiLabelsFit_concat, WellFormed, and_iff_right hascii]
  by_cases hnil : n.bytes = []
  · have hparts : front = [] ∧ last = [] := by
      have hempty : [[]] = front ++ [last] := by
        rw [← hsplit, chars, hnil, List.map_nil, List.splitOn_nil]
      cases front <;> simp_all
    simp [hparts, hnil]
  · have hlast : 0 < last.length := by
      obtain ⟨before, final, hconcat, hfinal⟩ := exists_labels_concat hnormal hnil
      have hends := congrArg List.getLast? (hlabels.symm.trans hconcat)
      simp only [hsplit, List.map_append, List.map_cons, List.map_nil, List.getLast?_concat,
        Option.some.injEq] at hends
      rw [← hlength, hends]
      exact List.length_pos_of_ne_nil hfinal
    rw [or_iff_right hnil, hlabels, hsplit]
    simp only [List.map_append, List.forall_mem_append, List.forall_mem_map, hlength,
      List.map_cons, List.map_nil, List.forall_mem_singleton, hlast, true_and]

/-- **The names that are read back from their own text are the well-formed ones.** -/
theorem ofText?_chars {n : DomainName} (hascii : n.Ascii) (hnormal : normal n.bytes = n) :
    ofText? (String.ofList n.chars) = if n.WellFormed then some n else none := by
  have hall : n.chars.all isAscii = true := List.all_eq_true.2 hascii.isAscii_chars
  rw [ofText?, String.toList_ofList, dropTrailing_chars hascii hnormal, encode?, if_pos hall]
  simp only [asciiLabelsFit_chars hascii hnormal]
  split_ifs
  · rw [Option.map_some, hascii.bytesOfAscii_chars, hnormal]
  · rfl

/-! ## Names that texts spell -/

theorem exists_labels_of_text (s : String) :
    ∃ k, s.toList.splitOnP isDot =
      (dropTrailing (· == '.') s.toList).splitOnP isDot ++ List.replicate k [] :=
  exists_splitOnP_dropTrailing
    (fun c hc => by simp [isDot, beq_iff_eq.1 hc]) s.toList

/-- **A text with a gap spells no name.** -/
theorem not_hasGap_of_ofText? {s : String} {d : DomainName} (h : ofText? s = some d) :
    ¬ HasGap (s.toList.splitOnP isDot) := by
  obtain ⟨cs, hcs, -⟩ := Option.map_eq_some_iff.1 h
  obtain ⟨k, hk⟩ := exists_labels_of_text s
  rw [hk, hasGap_append_replicate]
  exact not_hasGap_of_encode? hcs

/-- The name of a text has its encoded labels in lower case, without the empty ones at the
    end. -/
theorem exists_encodedLabels_of_ofText? {s : String} {d : DomainName} (h : ofText? s = some d) :
    ∃ k, ((encodedLabels (s.toList.splitOnP isDot)).map bytesOfAscii).map lowerBytes =
      d.labels ++ List.replicate k [] := by
  obtain ⟨encoded, hencoded, rfl⟩ := Option.map_eq_some_iff.1 h
  obtain ⟨j, hj⟩ := exists_labels_of_text s
  obtain ⟨k, hk⟩ := exists_labels_normal (bytesOfAscii encoded)
  rw [splitOn_bytesOfAscii (isAscii_of_mem_encode? hencoded), splitOn_encode? hencoded] at hk
  refine ⟨k + j, ?_⟩
  rw [hj, encodedLabels_append_replicate, List.map_append, List.map_append, hk, List.append_assoc,
    List.replicate_add]
  simp [bytesOfAscii, lowerBytes]

theorem hasGap_labels_of_ofText? {s : String} {d : DomainName} (h : ofText? s = some d) :
    HasGap d.labels ↔ HasGap (encodedLabels (s.toList.splitOnP isDot)) := by
  obtain ⟨k, hk⟩ := exists_encodedLabels_of_ofText? h
  rw [← hasGap_append_replicate d.labels k, ← hk]
  exact (hasGap_map lowerByte _).trans (hasGap_map _ _)

theorem length_le_of_mem_labels {s : String} {d : DomainName} (h : ofText? s = some d) :
    ∀ label ∈ d.labels, label.length ≤ maxLabel := by
  intro label hlabel
  obtain ⟨k, hk⟩ := exists_encodedLabels_of_ofText? h
  have hin : label ∈ ((encodedLabels (s.toList.splitOnP isDot)).map bytesOfAscii).map lowerBytes := by
    rw [hk]
    exact List.mem_append_left _ hlabel
  obtain ⟨bs, hbs, rfl⟩ := List.mem_map.1 hin
  obtain ⟨cs, hcs, rfl⟩ := List.mem_map.1 hbs
  rw [lowerBytes, List.length_map, bytesOfAscii, List.length_map]
  exact length_le_of_mem_encodedLabels hcs

theorem wellFormed_ofText?_iff {s : String} {d : DomainName} (h : ofText? s = some d) :
    d.WellFormed ↔ ¬ HasGap (encodedLabels (s.toList.splitOnP isDot)) := by
  rw [← hasGap_labels_of_ofText? h]
  exact wellFormed_iff_not_hasGap (ascii_ofText? h) (ofText?_normal h) (length_le_of_mem_labels h)

/-- **If no label of a text hides a full stop, its name is well formed.** -/
theorem wellFormed_of_not_hidesDot {s : String} {d : DomainName} (h : ofText? s = some d)
    (hhides : ∀ label ∈ s.toList.splitOnP isDot, ¬ HidesDot label) : d.WellFormed := by
  obtain ⟨cs, hcs, -⟩ := Option.map_eq_some_iff.1 h
  obtain ⟨k, hk⟩ := exists_labels_of_text s
  rw [wellFormed_ofText?_iff h, hk, encodedLabels_append_replicate, hasGap_append_replicate]
  refine not_hasGap_encodedLabels hcs fun label hlabel => hhides label ?_
  rw [hk]
  exact List.mem_append_left _ hlabel

end DomainName

/-! ## Texts read as names -/

theorem Value.toDomain_text (s : String) :
    (Value.text s).toDomain =
      match DomainName.ofText? s with
      | some d => .ok d
      | none => .error (.unencodable s) := rfl

theorem Value.ofText?_of_toDomain {s : String} {d : DomainName}
    (h : (Value.text s).toDomain = .ok d) : DomainName.ofText? s = some d := by
  rw [toDomain_text] at h
  cases hname : DomainName.ofText? s with
  | none =>
    rw [hname] at h
    cases h
  | some n =>
    rw [hname] at h
    cases h
    rfl

/-- **The names that texts are read as.**  No text with an empty label before another is
    read as a name, whatever its dots are.  The name of any other is ASCII, in labels of at
    most 63 bytes; it is well formed if and only if its labels, once they are encoded, have no
    gap, so it is if no label hides a full stop; and if it is, its own text is read as the
    same name, or else as none. -/
theorem Value.name_of_text_wellFormed_iff (s : String) :
    (DomainName.HasGap (s.toList.splitOnP DomainName.isDot) →
      (Value.text s).toDomain = .error (.unencodable s)) ∧
    ∀ d, (Value.text s).toDomain = .ok d →
      d.Ascii ∧ (∀ label ∈ d.labels, label.length ≤ DomainName.maxLabel) ∧
      (d.WellFormed ↔
        ¬ DomainName.HasGap
          (DomainName.encodedLabels (s.toList.splitOnP DomainName.isDot))) ∧
      ((∀ label ∈ s.toList.splitOnP DomainName.isDot, ¬ DomainName.HidesDot label) →
        d.WellFormed) ∧
      ∃ ace, d.text? = some ace ∧
        (Value.text ace).toDomain =
          if d.WellFormed then .ok d else .error (.unencodable ace) := by
  refine ⟨fun hgap => ?_, fun d h => ?_⟩
  · rw [toDomain_text]
    cases hname : DomainName.ofText? s with
    | none => rfl
    | some d => exact absurd hgap (DomainName.not_hasGap_of_ofText? hname)
  · have hname := ofText?_of_toDomain h
    have hascii := DomainName.ascii_ofText? hname
    refine ⟨hascii, DomainName.length_le_of_mem_labels hname,
      DomainName.wellFormed_ofText?_iff hname, DomainName.wellFormed_of_not_hidesDot hname,
      String.ofList d.chars, hascii.text?_eq, ?_⟩
    rw [toDomain_text, DomainName.ofText?_chars hascii (DomainName.ofText?_normal hname)]
    split_ifs <;> rfl

/-- A name in another script, with one of the other dots, is well formed. -/
theorem Value.name_of_text_wellFormed_iff_ideographic :
    (⟨DomainName.bytesOfAscii "xn--bcher-kva.example".toList⟩ : DomainName).WellFormed := by
  have hname : (Value.text "Bücher\u3002example").toDomain =
      .ok ⟨DomainName.bytesOfAscii "xn--bcher-kva.example".toList⟩ := by
    have hencoded : DomainName.ofText? "Bücher\u3002example" =
        some ⟨DomainName.bytesOfAscii "xn--bcher-kva.example".toList⟩ := by decide +kernel
    rw [toDomain_text, hencoded]
  exact ((Value.name_of_text_wellFormed_iff _).2 _ hname).2.2.2.1 (by decide +kernel)

/-- Two one-dot leaders are no dots when labels are split, but are prepared to full stops:
    so this text is read as a name with an empty label, and the name's own text is not. -/
theorem Value.leaders_read_as_gap :
    (Value.text "a\u2024\u2024b").toDomain = .ok ⟨DomainName.bytesOfAscii "a..b".toList⟩ ∧
      ¬ (⟨DomainName.bytesOfAscii "a..b".toList⟩ : DomainName).WellFormed ∧
      (Value.text "a..b").toDomain = .error (.unencodable "a..b") := by
  have hencoded : DomainName.ofText? "a\u2024\u2024b" =
      some ⟨DomainName.bytesOfAscii "a..b".toList⟩ := by decide +kernel
  have hown : DomainName.ofText? "a..b" = none := by decide +kernel
  refine ⟨?_, by decide +kernel, ?_⟩
  · rw [toDomain_text, hencoded]
  · rw [toDomain_text, hown]

end ResolverChain
