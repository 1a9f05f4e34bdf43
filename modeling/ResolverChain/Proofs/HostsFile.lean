/-
  Hosts files, line by line.

  * a text is made of lines with ends behind them, of any of three kinds; the last end
    may be absent (`Terminated`);
  * the lines that are read in it are these but for empty ones, which may come or go where
    a carriage return and a line feed meet (`linesOf_of_terminated`), and an empty line
    lists nothing (`foldlM_addLine_nonempty`);
  * every other blank separates the fields of a line and ends none (`SeparatesFields`);
  * so a file is loaded like the lines that were written to it, in every encoding
    (`files_load_as_lines`).
-/
import ResolverChain.Proofs.HostsListing
import ResolverChain.Proofs.LastLoad
import ResolverChain.Proofs.TextEncoding

namespace ResolverChain

/-! ## Ends of lines -/

namespace Text

/-- What may stand behind a line. -/
inductive LineEnd where
  | lineFeed
  /-- A carriage return and a line feed. -/
  | both
  | carriageReturn
deriving DecidableEq, Repr

/-- The characters of an end of a line. -/
def LineEnd.chars : LineEnd → List Char
  | lineFeed => ['\n']
  | both => ['\r', '\n']
  | carriageReturn => ['\r']

/-- Whether the character belongs to ends of lines. -/
def endsLine (c : Char) : Bool := c == '\n' || c == '\r'

/-- A text is made of lines, each with an end behind it; the last one may have none. -/
inductive Terminated : List String → List Char → Prop
  | none : Terminated [] []
  | last (line : String) : Terminated [line] line.toList
  | line (line : String) (behind : LineEnd) {lines : List String} {text : List Char}
      (later : Terminated lines text) :
      Terminated (line :: lines) (line.toList ++ behind.chars ++ text)

/-- Lines without an end of a line inside. -/
def Solid (lines : List String) : Prop := ∀ line ∈ lines, ∀ c ∈ line.toList, endsLine c = false

variable {lines : List String} {line text : List Char}

theorem unifyLineEnds_append (h : ∀ c ∈ line, endsLine c = false) (text : List Char) :
    unifyLineEnds (line ++ text) = line ++ unifyLineEnds text := by
  induction line with
  | nil => rfl
  | cons c line ih =>
    rw [List.forall_mem_cons] at h
    have hreturn : c ≠ '\r' := by rintro rfl; exact absurd h.1 (by decide)
    rw [List.cons_append, unifyLineEnds, ih h.2, List.cons_append]
    · exact fun _ hc _ => hreturn hc
    · exact hreturn

theorem unifyLineEnds_of_solid (h : ∀ c ∈ line, endsLine c = false) :
    unifyLineEnds line = line := by
  simpa [unifyLineEnds] using unifyLineEnds_append h []

theorem unifyLineEnds_lineFeed (text : List Char) :
    unifyLineEnds ('\n' :: text) = '\n' :: unifyLineEnds text := by
  rw [unifyLineEnds] <;> simp

/-- An end of a line is a line feed, which may take one behind it in, and then the empty
    line between them is gone. -/
theorem unifyLineEnds_lineEnd (behind : LineEnd) (text : List Char) :
    ∃ later, unifyLineEnds (behind.chars ++ text) = '\n' :: later ∧
      stretches (· == '\n') later = stretches (· == '\n') (unifyLineEnds text) := by
  cases behind with
  | lineFeed => exact ⟨unifyLineEnds text, unifyLineEnds_lineFeed text, rfl⟩
  | both => exact ⟨unifyLineEnds text, by simp [LineEnd.chars, unifyLineEnds], rfl⟩
  | carriageReturn =>
    by_cases hfeed : ∃ later, text = '\n' :: later
    · obtain ⟨later, rfl⟩ := hfeed
      refine ⟨unifyLineEnds later, by simp [LineEnd.chars, unifyLineEnds], ?_⟩
      rw [unifyLineEnds_lineFeed, stretches_cons rfl]
    · refine ⟨unifyLineEnds text, ?_, rfl⟩
      have hlone : ∀ later, text ≠ '\n' :: later := fun later h => hfeed ⟨later, h⟩
      rw [LineEnd.chars, List.singleton_append, unifyLineEnds]
      exact hlone

theorem beq_lineFeed_of_solid (h : ∀ c ∈ line, endsLine c = false) :
    ∀ c ∈ line, (c == '\n') = false :=
  fun c hc => (Bool.or_eq_false_iff.1 (h c hc)).1

theorem stretches_lineFeed_of_solid (h : ∀ c ∈ line, endsLine c = false) :
    stretches (· == '\n') line = [line].filter (!·.isEmpty) :=
  stretches_of_solid (beq_lineFeed_of_solid h)

theorem stretches_of_terminated (h : Terminated lines text) (hlines : Solid lines) :
    stretches (· == '\n') (unifyLineEnds text) =
      (lines.map String.toList).filter (!·.isEmpty) := by
  induction h with
  | none => rfl
  | last line =>
    have hline := hlines line List.mem_cons_self
    rw [unifyLineEnds_of_solid hline, stretches_lineFeed_of_solid hline]
    rfl
  | @line line behind lines text later ih =>
    obtain ⟨hline, hlines⟩ := List.forall_mem_cons.1 hlines
    obtain ⟨rest, hrest, hsame⟩ := unifyLineEnds_lineEnd behind text
    calc stretches (· == '\n') (unifyLineEnds (line.toList ++ behind.chars ++ text))
        = stretches (· == '\n') (line.toList ++ '\n' :: rest) := by
          rw [List.append_assoc, unifyLineEnds_append hline, hrest]
      _ = stretches (· == '\n') line.toList ++ stretches (· == '\n') (unifyLineEnds text) := by
          rw [stretches_append_cons rfl, hsame]
      _ = ((line :: lines).map String.toList).filter (!·.isEmpty) := by
          rw [stretches_lineFeed_of_solid hline, ih hlines, ← List.filter_append]
          rfl

/-- **The lines of a text are those it is made of**, but for empty ones. -/
theorem linesOf_of_terminated (h : Terminated lines text) (hlines : Solid lines) :
    (linesOf text false).filter (!·.isEmpty) = lines.filter (!·.isEmpty) := by
  have hempty : ((!·.isEmpty) : String → Bool) ∘ String.ofList = (!·.isEmpty) := by
    funext cs
    cases cs <;> simp
  have hread := congrArg (List.map String.ofList) (stretches_of_terminated h hlines)
  rw [stretches, ← List.splitOn_eq_splitOnP, ← hempty, ← List.filter_map, ← List.filter_map,
    List.map_map] at hread
  simpa [linesOf, Function.comp_def] using hread

/-- A text without an end of a line inside is one line. -/
theorem linesOf_of_solid (h : ∀ c ∈ line, endsLine c = false) :
    linesOf line false = [String.ofList line] := by
  rw [linesOf, if_neg Bool.false_ne_true, unifyLineEnds_of_solid h, List.splitOn_eq_splitOnP,
    List.splitOnP_eq_singleton (beq_lineFeed_of_solid h)]
  rfl

/-- The name under which an encoding is usually asked for. -/
def Encoding.commonName : Encoding → String
  | utf8 => "utf-8"
  | utf8Signed => "utf-8-sig"
  | utf16 => "utf-16"
  | utf16Little => "utf-16-le"
  | utf16Big => "utf-16-be"
  | latin1 => "latin-1"
  | ascii => "ascii"

/-- An encoding is built in under its usual name, whatever other names stand for. -/
theorem Codecs.charset?_commonName (codecs : Codecs) (encoding : Encoding) :
    codecs.charset? (some encoding.commonName) = .ok encoding := by
  cases encoding <;> with_unfolding_all rfl

/-- Blanks inside a line that might be taken for ends of lines: the vertical tab, the form
    feed, the file separator, the next line and the line separator. -/
def inlineSeparators : List Char := ['\x0b', '\x0c', '\x1c', '\x85', '\u2028']

theorem of_mem_inlineSeparators {c : Char} (h : c ∈ inlineSeparators) :
    isBlank c = true ∧ endsLine c = false := by
  have hall : inlineSeparators.all (fun c => isBlank c && !endsLine c) = true := rfl
  simpa using List.all_eq_true.1 hall c h

end Text

/-! ## Tables of files -/

namespace Hosts

variable {fs : FileSystem} {path : String} {name : Option String} {bytes : List UInt8}
  {encoding : Text.Encoding} {bigEndian : Bool} {lines : List String} {text : List Char}

/-- A file that holds a text in an encoding gives the lines of the text. -/
theorem ofContent_of_encode (h : encoding.encode? bigEndian text = some bytes) :
    Source.ofContent encoding { bytes } = ⟨Text.linesOf text false, none⟩ := by
  simp only [Source.ofContent, Option.isNone_none, Text.decode_of_encode h]
  rfl

/-- Empty lines count for nothing. -/
theorem foldlM_addLine_nonempty (t : Table) (lines : List String) :
    (lines.filter (!·.isEmpty)).foldlM Table.addLine t = lines.foldlM Table.addLine t := by
  induction lines generalizing t with
  | nil => rfl
  | cons line lines ih =>
    by_cases hempty : line = ""
    · subst hempty
      have hkept : t.addLine "" = .ok t := rfl
      rw [List.filter_cons_of_neg (by simp), ih, List.foldlM_cons, hkept]
      rfl
    · rw [List.filter_cons_of_pos (by simpa using hempty), List.foldlM_cons, List.foldlM_cons]
      congr 1
      funext t'
      exact ih t'

theorem ofLines_of_terminated (h : Text.Terminated lines text) (hlines : Text.Solid lines) :
    Table.ofLines (Text.linesOf text false) = Table.ofLines lines := by
  rw [Table.ofLines, ← foldlM_addLine_nonempty, Text.linesOf_of_terminated h hlines,
    foldlM_addLine_nonempty, Table.ofLines]

/-- A file that holds lines in an encoding is loaded like the lines. -/
theorem loadFile_of_terminated (hread : fs.read path = .ok { bytes })
    (hname : fs.codecs.charset? name = .ok encoding)
    (hbytes : encoding.encode? bigEndian text = some bytes) (h : Text.Terminated lines text)
    (hlines : Text.Solid lines) :
    loadFile fs path name =
      ⟨(load ⟨lines, none⟩).table,
        ⟨.debug, origin, some ("Reading hosts file " ++ fs.resolve path)⟩ ::
          (load ⟨lines, none⟩).log⟩ := by
  have hload : load ⟨Text.linesOf text false, none⟩ = load ⟨lines, none⟩ := by
    simp only [load, Table.ofSource, ofLines_of_terminated h hlines]
  simp only [loadFile, ofFile_of_known hread hname, ofContent_of_encode hbytes, hload]

/-- A blank separates the fields in front of it from those behind it, unless it is in a
    comment. -/
theorem lineFields_append_cons {c : Char} (hblank : Text.isBlank c = true) {front : List Char}
    (hlisted : '#' ∉ front) (back : List Char) :
    lineFields (String.ofList (front ++ c :: back)) =
      lineFields (String.ofList front) ++ lineFields (String.ofList back) := by
  have hkept : ∀ d ∈ front, (d != '#') = true := fun d hd => bne_iff_ne.2 fun h => hlisted (h ▸ hd)
  have hc : (c != '#') = true := bne_iff_ne.2 fun h => absurd (h ▸ hblank) (by decide)
  have htake : (c :: back).takeWhile (· != '#') = c :: back.takeWhile (· != '#') :=
    List.takeWhile_cons_of_pos hc
  have hfields := Text.stretches_append_cons hblank front (back.takeWhile (· != '#'))
  simp only [lineFields, String.toList_ofList, List.takeWhile_append_of_pos hkept, htake,
    List.takeWhile_eq_self_iff.2 hkept, ← List.map_append]
  exact congrArg (List.map String.ofList) hfields

/-- A comment goes on to the end of the line. -/
theorem lineFields_of_commented {front : List Char} (h : '#' ∈ front) (back : List Char) :
    lineFields (String.ofList (front ++ back)) = lineFields (String.ofList front) := by
  obtain ⟨listed, comment, rfl, hlisted⟩ := List.eq_append_cons_of_mem h
  have htake (comment : List Char) : (listed ++ '#' :: comment).takeWhile (· != '#') = listed :=
    takeWhile_listed hlisted (by simp)
  simp only [lineFields, String.toList_ofList, List.append_assoc, List.cons_append, htake]

/-- The character separates the fields of a line, but no lines. -/
structure SeparatesFields (c : Char) : Prop where
  /-- A file that holds one line has no more for it, in any encoding. -/
  line : ∀ front back : List Char, (∀ d ∈ front ++ back, Text.endsLine d = false) →
    ∀ (encoding : Text.Encoding) (bigEndian : Bool) (bytes : List UInt8),
      encoding.encode? bigEndian (front ++ c :: back) = some bytes →
        Source.ofContent encoding { bytes } = ⟨[String.ofList (front ++ c :: back)], none⟩
  /-- A comment is not ended by it. -/
  fields : ∀ front back : List Char,
    lineFields (String.ofList (front ++ c :: back)) =
      lineFields (String.ofList front) ++
        if '#' ∈ front then [] else lineFields (String.ofList back)

/-- **Blanks that do not belong to ends of lines separate fields**, but no lines. -/
theorem separatesFields_of_isBlank {c : Char} (hblank : Text.isBlank c = true)
    (hinside : Text.endsLine c = false) : SeparatesFields c := by
  refine ⟨?_, ?_⟩
  · intro front back hends encoding bigEndian bytes hbytes
    have hsolid : ∀ d ∈ front ++ c :: back, Text.endsLine d = false := by
      simp only [List.forall_mem_append, List.forall_mem_cons] at hends ⊢
      exact ⟨hends.1, hinside, hends.2⟩
    rw [ofContent_of_encode hbytes, Text.linesOf_of_solid hsolid]
  · intro front back
    split_ifs with hcomment
    · rw [lineFields_of_commented hcomment, List.append_nil]
    · exact lineFields_append_cons hblank hcomment back

end Hosts

namespace Session

open Hosts (Table Source)

variable {s : Session} {link : Nat} {old : Table}

/-- What was noted before a load is reported in front of what the load notes. -/
theorem install_noted (hlink : s.chain[link]? = some (.hosts old)) (loaded : Hosts.Loaded)
    (noted : List Log.Event) :
    s.install link ⟨loaded.table, noted ++ loaded.log⟩ =
      ((s.install link loaded).1,
        { (s.install link loaded).2 with log := noted ++ (s.install link loaded).2.log }) := by
  simp only [install, hlink]
  cases loaded.table <;> rfl

/-- A load ends with the table of its lines, or with what is wrong with them. -/
theorem step_load_lines (fs : FileSystem) (hlink : s.chain[link]? = some (.hosts old))
    (lines : List String) :
    (∃ table, Table.ofLines lines = .ok table ∧
      s.step fs (.load link ⟨lines, none⟩) =
        ({ s with chain := s.chain.set link (.hosts table) },
          { result := .loaded table.length, log := [Hosts.loadedEvent table] })) ∨
    (∃ failure, Table.ofLines lines = .error failure ∧
      s.step fs (.load link ⟨lines, none⟩) = (s, { result := .failed failure })) := by
  cases htable : Table.ofLines lines with
  | ok table =>
    refine Or.inl ⟨table, rfl, ?_⟩
    simp only [step, install, hlink, Hosts.load, Table.ofSource, htable]
    rfl
  | error failure =>
    refine Or.inr ⟨failure, rfl, ?_⟩
    simp only [step, install, hlink, Hosts.load, Table.ofSource, htable]
    rfl

/-- **A file is loaded like the lines that were written to it**, in whatever encoding has
    their characters, in either byte order and with whatever ends of lines: the session is
    the same afterwards and so is the result, a new table or the first thing wrong with the
    lines; only that the file is read is noted besides.  Separators inside a line separate
    its fields, but no lines. -/
theorem files_load_as_lines (fs : FileSystem) (s : Session) (link : Nat) (old : Table)
    (hlink : s.chain[link]? = some (.hosts old)) (lines : List String)
    (hlines : Text.Solid lines) (text : List Char) (htext : Text.Terminated lines text)
    (name : Option String) (encoding : Text.Encoding)
    (hname : fs.codecs.charset? name = .ok encoding) (bigEndian : Bool) (bytes : List UInt8)
    (hbytes : encoding.encode? bigEndian text = some bytes) (path : String)
    (hread : fs.read path = .ok { bytes }) :
    let ofLines := s.step fs (.load link ⟨lines, none⟩)
    (s.step fs (.loadFile link path name) =
      (ofLines.1,
        { ofLines.2 with log := (Step.loadFile link path name).reading fs ++ ofLines.2.log })) ∧
    ((∃ table, Table.ofLines lines = .ok table ∧
        ofLines = ({ s with chain := s.chain.set link (.hosts table) },
          { result := .loaded table.length, log := [Hosts.loadedEvent table] })) ∨
      (∃ failure, Table.ofLines lines = .error failure ∧
        ofLines = (s, { result := .failed failure }))) ∧
    (∀ encoding : Text.Encoding,
      fs.codecs.charset? (some encoding.commonName) = .ok encoding ∧
      ∀ (bigEndian : Bool) (text : List Char),
        (∃ bytes, encoding.encode? bigEndian text = some bytes) ↔ ∀ c ∈ text, encoding.Has c) ∧
    ∀ separator ∈ Text.inlineSeparators, Hosts.SeparatesFields separator := by
  intro ofLines
  refine ⟨?_, step_load_lines fs hlink lines,
    fun encoding => ⟨fs.codecs.charset?_commonName encoding, fun _ _ => Text.exists_encode_iff⟩, ?_⟩
  · rw [step, Hosts.loadFile_of_terminated hread hname hbytes htext hlines]
    exact install_noted hlink (Hosts.load ⟨lines, none⟩) ((Step.loadFile link path name).reading fs)
  · intro separator hseparator
    obtain ⟨hblank, hinside⟩ := Text.of_mem_inlineSeparators hseparator
    exact Hosts.separatesFields_of_isBlank hblank hinside

/-- Two lines about one name, in UTF-16 with a mark, with a line separator and a vertical
    tab for blanks.  The first line ends with a carriage return; the line feed behind it
    is that of an empty line. -/
theorem files_load_as_lines_merged :
    let bytes : List UInt8 :=
      [0xFE, 0xFF, 0, 58, 0, 58, 0, 49, 0x20, 0x28, 0, 97, 0, 13, 0, 10, 0, 58, 0, 58, 0, 50, 0, 11,
        0, 97]
    let fs : FileSystem := { directory := "/", state := fun _ => .file { bytes } }
    let s : Session := { chain := [.hosts [], .terminal ResultCode.name] }
    let lines := ["::1\u2028a", "", "::2\x0ba"]
    let text := "::1\u2028a\r\n::2\x0ba".toList
    Text.Solid lines ∧ Text.Terminated lines text ∧
      Text.Encoding.utf16.encode? true text = some bytes ∧ fs.read "hosts" = .ok { bytes } ∧
      (s.step fs (.loadFile 0 "hosts" (some "utf-16"))).1.chain[0]? =
        some (.hosts [(⟨[97]⟩,
          [.v6 #v[0, 0, 0, 0, 0, 0, 0, 1] none, .v6 #v[0, 0, 0, 0, 0, 0, 0, 2] none])]) := by
  intro bytes fs s lines text
  have hlines : Text.Solid lines := by simp [Text.Solid, lines, Text.endsLine]
  have htext : Text.Terminated lines text :=
    .line "::1\u2028a" .carriageReturn (.line "" .lineFeed (.last "::2\x0ba"))
  have hbytes : Text.Encoding.utf16.encode? true text = some bytes := rfl
  have hloaded := files_load_as_lines fs s 0 [] rfl lines hlines text htext (some "utf-16") .utf16
    (fs.codecs.charset?_commonName .utf16) true bytes hbytes "hosts" rfl
  refine ⟨hlines, htext, hbytes, rfl, ?_⟩
  rw [hloaded.1]
  rfl

end Session

end ResolverChain
