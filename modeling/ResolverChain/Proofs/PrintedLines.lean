/-
  The lines that lookups print.

  * an output is read as lines, each with a line feed behind it (`writtenLines`): what is
    written line by line is read back if no line holds one itself, and has more lines
    otherwise (`length_writtenLines`, `writtenLines_eq_iff`);
  * the text of a result has the line feeds that the result holds (`count_of_text?`), which
    may be any number in a name or a text, but none in an address of an answer
    (`unscoped_of_found`);
  * so the lines of the output are the results if and only if no result holds a line feed,
    which an answer may well do (`printed_lines_are_results_iff`).
-/
import ResolverChain.Proofs.FirstAddress
import ResolverChain.Proofs.LenientText
import ResolverChain.Proofs.PrintedLookup

namespace ResolverChain

/-! ## Lines of an output -/

namespace Text

/-- The lines of an output, each of which has a line feed behind it. -/
def writtenLines (output : String) : List String :=
  ((output.toList.splitOn '\n').dropLast).map String.ofList

theorem length_splitOn (cs : List Char) : (cs.splitOn '\n').length = cs.count '\n' + 1 := by
  rw [List.splitOn_eq_splitOnP]
  induction cs with
  | nil => rfl
  | cons c cs ih =>
    rw [List.splitOnP_cons_eq_if_modifyHead, List.count_cons]
    split_ifs
    · rw [List.length_cons, ih]
    · rw [List.length_modifyHead, ih, add_zero]

variable {lines : List String}

theorem splitOn_join (lines : List String) :
    (String.join (lines.map (· ++ "\n"))).toList.splitOn '\n' =
      lines.flatMap (fun line => line.toList.splitOn '\n') ++ [[]] := by
  induction lines with
  | nil => simp
  | cons line lines ih =>
    have hcons : (String.join ((line :: lines).map (· ++ "\n"))).toList =
        line.toList ++ '\n' :: (String.join (lines.map (· ++ "\n"))).toList := by
      simp
    rw [hcons, List.splitOn_eq_splitOnP, List.splitOnP_append_cons _ _ (by simp),
      ← List.splitOn_eq_splitOnP, ← List.splitOn_eq_splitOnP, ih, List.flatMap_cons,
      List.append_assoc]

theorem writtenLines_join (lines : List String) :
    writtenLines (String.join (lines.map (· ++ "\n"))) =
      lines.flatMap fun line => (line.toList.splitOn '\n').map String.ofList := by
  rw [writtenLines, splitOn_join, List.dropLast_concat, List.map_flatMap]

/-- **An output has a line for each line that was written**, and one more for each line feed
    that they hold. -/
theorem length_writtenLines (lines : List String) :
    (writtenLines (String.join (lines.map (· ++ "\n")))).length =
      lines.length + (lines.map fun line => line.toList.count '\n').sum := by
  rw [writtenLines_join]
  induction lines with
  | nil => rfl
  | cons line lines ih =>
    rw [List.flatMap_cons, List.length_append, ih, List.length_map, length_splitOn,
      List.length_cons, List.map_cons, List.sum_cons]
    omega

/-- **The lines that were written are read back** if and only if no line feed is in them. -/
theorem writtenLines_eq_iff :
    writtenLines (String.join (lines.map (· ++ "\n"))) = lines ↔
      ∀ line ∈ lines, line.toList.count '\n' = 0 := by
  constructor
  · intro h line hline
    have hlength := length_writtenLines lines
    rw [h] at hlength
    have hsum : (lines.map fun line => line.toList.count '\n').sum = 0 := by omega
    exact List.sum_eq_zero_iff.1 hsum _ (List.mem_map_of_mem hline)
  · intro h
    have hsplit : ∀ line ∈ lines, (line.toList.splitOn '\n').map String.ofList = [line] := by
      intro line hline
      rw [List.splitOn_eq_singleton (List.count_eq_zero.1 (h line hline)), List.map_singleton,
        String.ofList_toList]
    rw [writtenLines_join, List.flatMap_congr hsplit, List.flatMap_singleton']

end Text

/-! ## Line feeds in results -/

open Text

theorem Address.unscoped_of_ofPacked? {bytes : List UInt8} {a : Address}
    (h : ofPacked? bytes = some a) : a.unscoped = a := by
  rw [ofPacked?] at h
  split_ifs at h
  · obtain ⟨octets, -, rfl⟩ := Option.map_eq_some_iff.1 h
    rfl
  · obtain ⟨groups, -, rfl⟩ := Option.map_eq_some_iff.1 h
    rfl

namespace Lookup

variable {kind : Kind} {answer : Answer} {found : Found} {records : List Record}
  {families : Families} {item : Item} {text : String}

/-- The line feeds that a result holds. -/
def Item.lineFeeds : Item → Nat
  | .address _ => 0
  | .name n => n.bytes.count 0x0A
  | .text bytes => bytes.count 0x0A

theorem unscoped_of_unpack {bytes : List UInt8} {a : Address} (h : unpack bytes = .ok a) :
    a.unscoped = a := by
  rw [unpack] at h
  split at h
  · cases h
    exact Address.unscoped_of_ofPacked? ‹_›
  · cases h

theorem unscoped_of_allAddresses {all : List Address} (h : allAddresses families records = .ok all) :
    ∀ a ∈ all, a.unscoped = a := by
  induction records generalizing all with
  | nil =>
    cases h
    simp
  | cons record records ih =>
    cases hpacked : packedAddress? families record with
    | none =>
      rw [allAddresses_cons_of_none hpacked] at h
      exact ih h
    | some bytes =>
      obtain ⟨a, rest, rfl, ha, hrest⟩ := exists_of_allAddresses_cons hpacked h
      exact List.forall_mem_cons.2 ⟨Address.unscoped_of_ofPacked? ha, ih hrest⟩

theorem unscoped_of_firstAddress {first : Option Address}
    (h : firstAddress families records = .ok first) : ∀ a ∈ first.toList, a.unscoped = a := by
  rw [firstAddress] at h
  cases hfirst : records.findSome? (packedAddress? families) with
  | none =>
    rw [hfirst] at h
    cases h
    simp
  | some bytes =>
    rw [hfirst] at h
    cases ha : unpack bytes with
    | error failure => simp [ha, Except.map] at h
    | ok a =>
      simp only [ha, Except.map] at h
      cases h
      simpa using unscoped_of_unpack ha

theorem ok_of_map_ok {α β : Type} {x : Except Failure α} {f : α → β} {b : β}
    (h : x.map f = .ok b) : ∃ a, x = .ok a ∧ f a = b := by
  cases x with
  | error failure => cases h
  | ok a => exact ⟨a, rfl, Except.ok.inj h⟩

theorem found_of_typed
    (h : (Use.typed kind).conclude (.ok answer) = ⟨.ok (.found found), ""⟩) :
    kind.found answer = .ok found := by
  obtain ⟨_, hfound, hsame⟩ := ok_of_map_ok (congrArg Conclusion.outcome h)
  cases hsame
  exact hfound

/-- **Addresses in an answer have no scopes.** -/
theorem unscoped_of_found (h : kind.found answer = .ok found) {a : Address}
    (ha : .address a ∈ found.items) : a.unscoped = a := by
  have hok : answer.code = some ResultCode.ok := by
    by_contra hfailed
    rw [Kind.found_of_failed hfailed] at h
    cases h
  rw [Kind.found_of_ok hok] at h
  cases kind with
  | allAddresses | allIPv4 | allIPv6 =>
    obtain ⟨all, hall, rfl⟩ := ok_of_map_ok h
    exact unscoped_of_allAddresses hall a (by simpa [Found.items] using ha)
  | address | ipv4 | ipv6 =>
    obtain ⟨first, hfirst, rfl⟩ := ok_of_map_ok h
    exact unscoped_of_firstAddress hfirst a (by simpa [Found.items] using ha)
  | reverse | text =>
    cases h
    simp [Found.items] at ha

/-- **The text of a result has the line feeds that the result holds.** -/
theorem count_of_text? (haddress : ∀ a, item = .address a → a.unscoped = a)
    (h : item.text? = some text) : text.toList.count '\n' = item.lineFeeds := by
  cases item with
  | address a =>
    cases h
    rw [← haddress a rfl, Address.text, String.toList_ofList]
    exact List.count_eq_zero_of_not_mem (Address.notMem_toChars (by decide))
  | name n =>
    rw [Item.text?, DomainName.text?] at h
    split_ifs at h
    cases h
    rw [String.toList_ofList, List.count, List.countP_map, Item.lineFeeds, List.count]
    exact List.countP_congr fun b _ => by rw [Function.comp_apply, beq_lineFeed]
  | text bytes =>
    cases h
    rw [String.toList_ofList]
    exact count_lenientText bytes

/-- **What a lookup that prints writes** are the texts of its results, each as a line. -/
theorem conclude_printed {texts : List String} (name : String)
    (hfound : kind.found answer = .ok found) (hsome : found.items ≠ [])
    (htexts : found.items.map Item.text? = texts.map some) :
    (Use.printed kind name).conclude (.ok answer) =
      ⟨.ok .done, String.join (texts.map (· ++ "\n"))⟩ := by
  have hlines : found.lines? = .ok texts := by
    rcases found.lines?_cases with ⟨lines, hlines, hsame⟩ | ⟨-, target, rfl, hforeign⟩
    · have hmap : lines.map some = texts.map some := hsame.symm.trans htexts
      rw [hlines, List.map_injective_iff.2 (Option.some_injective String) hmap]
    · have hnone : target.text? = none := DomainName.text?_eq_none_iff.2 hforeign
      cases texts with
      | nil => cases htexts
      | cons text texts => simp [Found.items, Item.text?, hnone] at htexts
  cases texts with
  | nil => exact absurd (List.map_eq_nil_iff.1 htexts) hsome
  | cons text texts =>
    simp only [Use.conclude, Except.bind, hfound, printed, printFound, hlines]
    rfl

/-- The texts of results have the line feeds of the results, one by one. -/
theorem map_count_of_items {items : List Item} {texts : List String}
    (haddress : ∀ a, .address a ∈ items → a.unscoped = a)
    (htexts : items.map Item.text? = texts.map some) :
    (texts.map fun text => text.toList.count '\n') = items.map Item.lineFeeds := by
  induction items generalizing texts with
  | nil =>
    cases texts with
    | nil => rfl
    | cons text texts => cases htexts
  | cons item items ih =>
    cases texts with
    | nil => cases htexts
    | cons text texts =>
      rw [List.map_cons, List.map_cons, List.cons.injEq] at htexts
      have hrest := ih (fun a ha => haddress a (List.mem_cons_of_mem item ha)) htexts.2
      have hitem : ∀ a, item = .address a → a.unscoped = a := fun a ha =>
        haddress a (ha ▸ List.mem_cons_self)
      rw [List.map_cons, List.map_cons, hrest, count_of_text? hitem htexts.1]

end Lookup

/-! ## Lookups that print -/

namespace Session

open Lookup (Kind Use Item Found)

/-- **The lines that are printed are the results** if and only if no result holds a line feed.
    A lookup that prints writes the texts of its results, each with a line feed behind it:
    a line for each result and one more for each line feed in it, so that results which hold
    some look like more than they are. -/
theorem printed_lines_are_results_iff (kind : Kind) (name : String) {answer : Answer}
    {found : Found} {texts : List String}
    (htyped : (Use.typed kind).conclude (.ok answer) = ⟨.ok (.found found), ""⟩)
    (hsome : found.items ≠ []) (htexts : found.items.map Item.text? = texts.map some) :
    let output := String.join (texts.map (· ++ "\n"))
    (∀ (fs : FileSystem) (s : Session) (step : Step) (k : Nat),
      s.Delivers step k (.printed kind name) (.ok answer) →
        (s.step fs step).2.fired = [(k, ⟨.ok .done, output⟩)]) ∧
    (writtenLines output).length = found.items.length + (found.items.map Item.lineFeeds).sum ∧
    (writtenLines output = texts ↔ ∀ item ∈ found.items, item.lineFeeds = 0) := by
  have hfound := Lookup.found_of_typed htyped
  have hcounts : (texts.map fun text => text.toList.count '\n') =
      found.items.map Item.lineFeeds :=
    Lookup.map_count_of_items (fun a ha => Lookup.unscoped_of_found hfound ha) htexts
  have hlength : texts.length = found.items.length := by
    simpa using (congrArg List.length htexts).symm
  refine ⟨fun fs s step k h => ?_, ?_, ?_⟩
  · rw [h.fired, Lookup.conclude_printed name hfound hsome htexts]
  · rw [length_writtenLines, hcounts, hlength]
  · rw [writtenLines_eq_iff]
    calc (∀ text ∈ texts, text.toList.count '\n' = 0)
        ↔ ∀ n ∈ texts.map fun text => text.toList.count '\n', n = 0 := by
          rw [List.forall_mem_map]
      _ ↔ ∀ item ∈ found.items, item.lineFeeds = 0 := by rw [hcounts, List.forall_mem_map]

/-- Two texts of an answer without a line feed, of which one is not UTF-8, are two lines. -/
theorem printed_lines_are_results_iff_texts :
    let fs : FileSystem := { directory := "/", state := fun _ => .directory }
    let record (bytes : List UInt8) : Record :=
      ⟨⟨[97]⟩, RecordType.txt, RecordClass.internet, 0, some ⟨.texts [bytes], 0⟩⟩
    let s : Session :=
      { chain := [.hosts [], .fixed ResultCode.ok [record [104], record [0xFF, 0x20]]] }
    (s.step fs (.printed 0 "text" "A.")).2.fired = [(0, ⟨.ok .done, "h\n\\xff \n"⟩)] ∧
      writtenLines "h\n\\xff \n" = ["h", "\\xff "] := by
  intro fs record s
  let answer : Answer :=
    ⟨.name ⟨[97]⟩, some RecordClass.internet, some RecordType.txt, some ResultCode.ok,
      [record [104], record [0xFF, 0x20]]⟩
  have hdelivers : s.Delivers (.printed 0 "text" "A.") 0 (.printed .text "A.") (.ok answer) :=
    .atOnce rfl rfl rfl
  have htyped : (Use.typed .text).conclude (.ok answer) =
      ⟨.ok (.found (.texts [[104], [0xFF, 0x20]])), ""⟩ := rfl
  have htexts : (Found.texts [[104], [0xFF, 0x20]]).items.map Item.text? =
      ["h", "\\xff "].map some := by decide +kernel
  obtain ⟨hfired, -, hlines⟩ :=
    printed_lines_are_results_iff .text "A." htyped (by simp [Found.items]) htexts
  have houtput : String.join (["h", "\\xff "].map (· ++ "\n")) = "h\n\\xff \n" := by
    decide +kernel
  rw [houtput] at hfired hlines
  exact ⟨hfired fs s _ 0 hdelivers, hlines.2 (by simp [Found.items, Item.lineFeeds])⟩

/-- The one text of an answer, with a line feed in it, is printed as two lines. -/
theorem line_feed_splits_printed_result :
    let fs : FileSystem := { directory := "/", state := fun _ => .directory }
    let record : Record :=
      ⟨⟨[97]⟩, RecordType.txt, RecordClass.internet, 0, some ⟨.texts [[97, 0x0A, 98]], 0⟩⟩
    let s : Session := { chain := [.fixed ResultCode.ok [record]] }
    (s.step fs (.typed 0 .text (.text "A."))).2.fired =
        [(0, ⟨.ok (.found (.texts [[97, 0x0A, 98]])), ""⟩)] ∧
      (s.step fs (.printed 0 "text" "A.")).2.fired = [(0, ⟨.ok .done, "a\nb\n"⟩)] ∧
      writtenLines "a\nb\n" = ["a", "b"] := by
  intro fs record s
  let answer : Answer :=
    ⟨.name ⟨[97]⟩, some RecordClass.internet, some RecordType.txt, some ResultCode.ok, [record]⟩
  have hdelivers : s.Delivers (.printed 0 "text" "A.") 0 (.printed .text "A.") (.ok answer) :=
    .atOnce rfl rfl rfl
  have htexts : (Found.texts [[97, 0x0A, 98]]).items.map Item.text? = ["a\nb"].map some := by
    decide +kernel
  refine ⟨rfl, ?_, by decide +kernel⟩
  rw [hdelivers.fired, Lookup.conclude_printed "A." rfl (by simp [Found.items]) htexts]
  rfl

end Session

end ResolverChain
