/-
  Texts written in an encoding, and read back from a file.

  * `Encoding.encode?` writes a text, behind its mark: every character as the encoding has
    it, if it has the character at all (`Units.write?`, `exists_encode_iff`);
  * `Reads` says what settled units make of bytes, one byte after the other: it holds of
    what a scan without a fault gives (`scan_of_reads`), wherever the bytes are cut in two
    (`Reads.split`, `Reads.append`), and so of any row of blocks (`readBlocks_settled`);
  * every character is read back from the bytes it is written in, and not before the last
    of them (`reads_of_write`), so a file holds the text that was written to it
    (`decode_of_encode`).
-/
import Mathlib.Tactic
import ResolverChain.Text.Encoding.File

namespace ResolverChain.Text

/-! ## Writing -/

namespace Units

/-- The two bytes of a unit. -/
def unitBytes (bigEndian : Bool) (u : Nat) : List UInt8 :=
  let high := UInt8.ofNat (u / 0x100)
  let low := UInt8.ofNat (u % 0x100)
  if bigEndian then [high, low] else [low, high]

/-- The units of a code point: itself, or the two halves of a pair. -/
def unitsOf (n : Nat) : List Nat :=
  if n < 0x10000 then [n]
  else [0xD800 + (n - 0x10000) / 0x400, 0xDC00 + (n - 0x10000) % 0x400]

/-- The bytes of a character, if there are any for it. -/
def write? : Units → Char → Option (List UInt8)
  | utf8, c => some (String.utf8EncodeChar c)
  | utf16 bigEndian, c => some ((unitsOf c.toNat).flatMap (unitBytes bigEndian))
  | latin1, c => if c.toNat < 0x100 then some [UInt8.ofNat c.toNat] else none
  | ascii, c => if c.toNat < 0x80 then some [UInt8.ofNat c.toNat] else none

/-- The bytes of a text, if there are any for each of its characters. -/
def encode? (units : Units) : List Char → Option (List UInt8)
  | [] => some []
  | c :: cs => do return (← units.write? c) ++ (← units.encode? cs)

end Units

namespace Encoding

/-- How characters are written in an encoding; one that leaves the byte order open takes
    that which is given. -/
def unitsIn (bigEndian : Bool) : Encoding → Units
  | utf8 | utf8Signed => .utf8
  | utf16 => .utf16 bigEndian
  | utf16Little => .utf16 false
  | utf16Big => .utf16 true
  | latin1 => .latin1
  | ascii => .ascii

/-- The characters in front of a text: the mark, where there has to be one. -/
def front : Encoding → List Char
  | utf8Signed | utf16 => ['\uFEFF']
  | _ => []

/-- The bytes of a text in an encoding, if it has all of its characters. -/
def encode? (bigEndian : Bool) (encoding : Encoding) (cs : List Char) : Option (List UInt8) :=
  (encoding.unitsIn bigEndian).encode? (encoding.front ++ cs)

/-- Whether an encoding has the character. -/
def Has : Encoding → Char → Prop
  | latin1, c => c.toNat < 0x100
  | ascii, c => c.toNat < 0x80
  | _, _ => True

end Encoding

section Writing

variable {units : Units} {bs : List UInt8} {c : Char} {cs : List Char} {encoding : Encoding}
  {bigEndian : Bool}

theorem exists_of_encode_cons (h : units.encode? (c :: cs) = some bs) :
    ∃ w later, units.write? c = some w ∧ units.encode? cs = some later ∧ bs = w ++ later := by
  simp only [Units.encode?, Option.bind_eq_bind, Option.bind_eq_some_iff] at h
  obtain ⟨w, hw, later, hlater, h⟩ := h
  exact ⟨w, later, hw, hlater, (Option.some.inj h).symm⟩

theorem exists_units_encode_iff :
    (∃ bs, units.encode? cs = some bs) ↔ ∀ c ∈ cs, ∃ w, units.write? c = some w := by
  induction cs with
  | nil => simp [Units.encode?]
  | cons c cs ih =>
    rw [List.forall_mem_cons, ← ih]
    constructor
    · rintro ⟨bs, h⟩
      obtain ⟨w, later, hw, hlater, -⟩ := exists_of_encode_cons h
      exact ⟨⟨w, hw⟩, later, hlater⟩
    · rintro ⟨⟨w, hw⟩, later, hlater⟩
      exact ⟨w ++ later, by rw [Units.encode?, hw, hlater]; rfl⟩

/-- **A text can be written in the encodings that have all of its characters.** -/
theorem exists_encode_iff :
    (∃ bs, encoding.encode? bigEndian cs = some bs) ↔ ∀ c ∈ cs, encoding.Has c := by
  have hwrite : ∀ c, (∃ w, (encoding.unitsIn bigEndian).write? c = some w) ↔ encoding.Has c := by
    intro c
    cases encoding <;> simp [Encoding.unitsIn, Units.write?, Encoding.Has]
  have hfront : ∀ c ∈ encoding.front, encoding.Has c := by
    cases encoding <;> simp [Encoding.front, Encoding.Has]
  rw [Encoding.encode?, exists_units_encode_iff, List.forall_mem_append]
  simp only [hwrite]
  exact and_iff_right hfront

end Writing

/-! ## Reading in settled units -/

/-- Behind the beginning of a character, bytes are read as some characters and the
    beginning of one more. -/
inductive Reads (units : Units) : List UInt8 → List UInt8 → List Char → List UInt8 → Prop
  | nil {begun} : Reads units begun [] [] begun
  | complete {begun b bs c cs rest} (ends : units.progress (begun ++ [b]) = .complete c)
      (later : Reads units [] bs cs rest) : Reads units begun (b :: bs) (c :: cs) rest
  | incomplete {begun b bs cs rest} (goesOn : units.progress (begun ++ [b]) = .incomplete)
      (later : Reads units (begun ++ [b]) bs cs rest) : Reads units begun (b :: bs) cs rest

variable {units : Units} {begun bs mid more rest w : List UInt8} {c : Char} {cs ds : List Char}

theorem scan_of_reads (h : Reads units begun bs cs rest) (position : Nat) :
    units.scan position begun bs = ⟨cs, rest, none⟩ := by
  induction h generalizing position with
  | nil => rfl
  | complete ends later ih => simp only [Units.scan, ends, ih]
  | incomplete goesOn later ih => simp only [Units.scan, goesOn, ih]

theorem Reads.append (h : Reads units begun bs cs mid) (hmore : Reads units mid more ds rest) :
    Reads units begun (bs ++ more) (cs ++ ds) rest := by
  induction h with
  | nil => exact hmore
  | complete ends later ih => exact .complete ends (ih hmore)
  | incomplete goesOn later ih => exact .incomplete goesOn (ih hmore)

theorem Reads.split (h : Reads units begun (bs ++ more) cs rest) :
    ∃ before after mid, cs = before ++ after ∧ Reads units begun bs before mid ∧
      Reads units mid more after rest := by
  induction bs generalizing begun cs with
  | nil => exact ⟨[], cs, begun, rfl, .nil, h⟩
  | cons b bs ih =>
    cases h with
    | @complete _ _ _ c cs _ ends later =>
      obtain ⟨before, after, mid, rfl, hbefore, hafter⟩ := ih later
      exact ⟨c :: before, after, mid, rfl, .complete ends hbefore, hafter⟩
    | incomplete goesOn later =>
      obtain ⟨before, after, mid, rfl, hbefore, hafter⟩ := ih later
      exact ⟨before, after, mid, rfl, .incomplete goesOn hbefore, hafter⟩

/-- The beginning of a character is kept until the rest of it comes, and read again then. -/
theorem Reads.kept (h : Reads units begun bs cs mid) (hbegun : Reads units [] begun [] begun) :
    Reads units [] mid [] mid := by
  induction h with
  | nil => exact hbegun
  | complete ends later ih => exact ih .nil
  | incomplete goesOn later ih => exact ih (hbegun.append (.incomplete goesOn .nil))

/-! ## Blocks -/

namespace Decoder

variable {d : Decoder} {block : List UInt8} {blocks : List (List UInt8)} {position : Nat}

theorem decode_of_reads (h : Reads units [] bs cs rest) :
    units.decode position false bs = ⟨cs, rest, none⟩ := by
  rw [Units.decode, scan_of_reads h]; rfl

theorem decode_end_of_reads (h : Reads units [] bs cs []) :
    units.decode position true bs = ⟨cs, [], none⟩ := by
  rw [Units.decode, scan_of_reads h]; rfl

/-- A block gives the characters that end in it; the beginning of one more is kept for
    the next. -/
theorem run_of_reads (d : Decoder) (position : Nat) (h : Reads units [] (bs ++ more) cs []) :
    ∃ before after mid, cs = before ++ after ∧
      d.run units position false bs = .ok (before, { d with units := some units, kept := mid }) ∧
      Reads units [] (mid ++ more) after [] := by
  obtain ⟨before, after, mid, hcs, hbefore, hafter⟩ := h.split
  refine ⟨before, after, mid, hcs, ?_, (hbefore.kept .nil).append hafter⟩
  rw [run, decode_of_reads hbefore]

/-- **However a text is cut into blocks, it is read as a whole.** -/
theorem readBlocks_settled (hunits : d.units = some units)
    (h : Reads units [] (d.kept ++ blocks.flatten) cs []) : d.readBlocks true blocks = (cs, none) := by
  induction blocks generalizing d cs with
  | nil =>
    rw [List.flatten_nil] at h
    simp only [readBlocks, feed, hunits, run, decode_end_of_reads h, if_true]
  | cons block blocks ih =>
    rw [List.flatten_cons, ← List.append_assoc] at h
    obtain ⟨before, after, mid, rfl, hrun, hlater⟩ := run_of_reads d 0 h
    simp only [readBlocks, feed, hunits, hrun]
    rw [ih rfl hlater]

/-- The same when the first block settles the units. -/
theorem readBlocks_begun (hfeed : d.feed false block = d.run units position false bs)
    (h : Reads units [] (bs ++ blocks.flatten) cs []) :
    d.readBlocks true (block :: blocks) = (cs, none) := by
  obtain ⟨before, after, mid, rfl, hrun, hlater⟩ := run_of_reads d position h
  simp only [readBlocks, hfeed, hrun]
  rw [readBlocks_settled rfl hlater]

end Decoder

/-! ## Characters -/

section Characters

variable {a b e f : UInt8} {n : Nat}

/-- A code point is no half of a pair. -/
theorem valid_toNat (c : Char) : c.toNat < 0xD800 ∨ 0xDFFF < c.toNat ∧ c.toNat < 0x110000 :=
  c.valid

theorem continues_iff : Units.continues b = true ↔ 0x80 ≤ b.toNat ∧ b.toNat < 0xC0 := by
  simp [Units.continues, UInt8.le_iff_toNat_le]
  omega

/-- The first byte of several. -/
theorem progress_first (hlow : 0xC2 ≤ a.toNat) (hhigh : a.toNat < 0xF5) :
    Units.utf8.progress [a] = .incomplete := by
  have hbeyond : 0x80 ≤ a.toNat := by omega
  have hlong : ¬ a < 0x80 := UInt8.not_lt.2 (UInt8.le_iff_toNat_le.2 hbeyond)
  have hstarts : ¬ (a < 0xC2 ∨ 0xF5 ≤ a) := by
    rw [UInt8.lt_iff_toNat_lt, UInt8.le_iff_toNat_le]
    exact not_or.2 ⟨Nat.not_lt.2 hlow, Nat.not_le.2 hhigh⟩
  simp [Units.progress, Units.progressUtf8, hlong, hstarts]

theorem secondFits_of_bounds (hb : Units.continues b = true)
    (hlong : a.toNat = 0xE0 → 0xA0 ≤ b.toNat) (hlong' : a.toNat = 0xF0 → 0x90 ≤ b.toNat)
    (hlarge : a.toNat = 0xF4 → b.toNat < 0x90) : Units.secondFits a b = true := by
  simp [Units.secondFits, hb, ← UInt8.toNat_inj, UInt8.le_iff_toNat_le, UInt8.lt_iff_toNat_lt]
  omega

/-- The second byte of more than two. -/
theorem progress_second (hlow : 0xE0 ≤ a.toNat) (hfits : Units.secondFits a b = true) :
    Units.utf8.progress [a, b] = .incomplete := by
  have hlong : ¬ a < 0xE0 := UInt8.not_lt.2 (UInt8.le_iff_toNat_le.2 hlow)
  simp [Units.progress, Units.progressUtf8, hfits, hlong]

theorem reads_one (ha : a.toNat < 0x80) : Reads .utf8 [] [a] [Char.ofNat a.toNat] [] := by
  have hshort : a < 0x80 := UInt8.lt_iff_toNat_lt.2 ha
  exact .complete (by simp [Units.progress, Units.progressUtf8, hshort]) .nil

theorem reads_two (hlow : 0xC2 ≤ a.toNat) (hhigh : a.toNat < 0xE0) (hb : Units.continues b = true) :
    Reads .utf8 [] [a, b] [Char.ofNat (a.toNat % 0x20 * 0x40 + Units.payload b)] [] := by
  have hfits : Units.secondFits a b = true :=
    secondFits_of_bounds hb (by omega) (by omega) (by omega)
  have hshort : a < 0xE0 := UInt8.lt_iff_toNat_lt.2 hhigh
  refine .incomplete (progress_first hlow (by omega)) (.complete ?_ .nil)
  simp [Units.progress, Units.progressUtf8, hfits, hshort]

theorem reads_three (hlow : 0xE0 ≤ a.toNat) (hhigh : a.toNat < 0xF0)
    (hb : Units.continues b = true) (he : Units.continues e = true)
    (hlong : a.toNat = 0xE0 → 0xA0 ≤ b.toNat) (hhalf : a.toNat = 0xED → b.toNat < 0xA0) :
    Reads .utf8 [] [a, b, e]
      [Char.ofNat (a.toNat % 0x10 * 0x1000 + Units.payload b * 0x40 + Units.payload e)] [] := by
  have hfits : Units.secondFits a b = true :=
    secondFits_of_bounds hb hlong (by omega) (by omega)
  have hwhole : Units.beginsHalf a b = false := by
    simp [Units.beginsHalf, ← UInt8.toNat_inj, UInt8.le_iff_toNat_le]
    omega
  have hshort : a < 0xF0 := UInt8.lt_iff_toNat_lt.2 hhigh
  refine .incomplete (progress_first (by omega) (by omega))
    (.incomplete (progress_second hlow hfits) (.complete ?_ .nil))
  simp [Units.progress, Units.progressUtf8, hwhole, he, hshort]

theorem reads_four (hlow : 0xF0 ≤ a.toNat) (hhigh : a.toNat < 0xF5)
    (hb : Units.continues b = true) (he : Units.continues e = true)
    (hf : Units.continues f = true) (hlong : a.toNat = 0xF0 → 0x90 ≤ b.toNat)
    (hlarge : a.toNat = 0xF4 → b.toNat < 0x90) :
    Reads .utf8 [] [a, b, e, f]
      [Char.ofNat (a.toNat % 0x08 * 0x40000 + Units.payload b * 0x1000 + Units.payload e * 0x40 +
        Units.payload f)] [] := by
  have hfits : Units.secondFits a b = true := secondFits_of_bounds hb (by omega) hlong hlarge
  have hwhole : Units.beginsHalf a b = false := by
    simp [Units.beginsHalf, ← UInt8.toNat_inj]
    omega
  have hlonger : ¬ a < 0xF0 := UInt8.not_lt.2 (UInt8.le_iff_toNat_le.2 hlow)
  have hthird : Units.utf8.progress [a, b, e] = .incomplete := by
    simp [Units.progress, Units.progressUtf8, hwhole, he, hlonger]
  refine .incomplete (progress_first (by omega) hhigh)
    (.incomplete (progress_second (by omega) hfits) (.incomplete hthird (.complete ?_ .nil)))
  simp [Units.progress, Units.progressUtf8, hf]

/-- A byte that carries on a character, with its six bits. -/
theorem continuing (k : Nat) :
    Units.continues (UInt8.ofNat (k % 64 + 128)) = true ∧
      Units.payload (UInt8.ofNat (k % 64 + 128)) = k % 64 ∧
      (UInt8.ofNat (k % 64 + 128)).toNat = k % 64 + 128 := by
  have hnat : (UInt8.ofNat (k % 64 + 128)).toNat = k % 64 + 128 :=
    UInt8.toNat_ofNat_of_lt' (show k % 64 + 128 < 0x100 by omega)
  refine ⟨continues_iff.2 ?_, ?_, hnat⟩
  · omega
  · rw [Units.payload, hnat]; omega

theorem reads_utf8 (c : Char) : Reads .utf8 [] (String.utf8EncodeChar c) [c] [] := by
  have hvalid := valid_toNat c
  have hchar : Char.ofNat c.toNat = c := Char.ofNat_toNat c
  generalize hn : c.toNat = n at hvalid hchar
  have hnext (k : Nat) := continuing k
  have hfirst : ∀ {k}, k < 0x100 → (UInt8.ofNat k).toNat = k := UInt8.toNat_ofNat_of_lt'
  simp only [String.utf8EncodeChar, show c.val.toNat = n from hn]
  -- one case for each number of bytes; the bits of the bytes make up the code point
  split_ifs with h1 h2 h3
  · have h := reads_one (a := UInt8.ofNat n) (by rw [hfirst] <;> omega)
    rwa [hfirst (by omega), hchar] at h
  · have h := reads_two (a := UInt8.ofNat (n / 64 % 32 + 192)) (by rw [hfirst] <;> omega)
      (by rw [hfirst] <;> omega) (hnext n).1
    have hbits : (n / 64 % 32 + 192) % 0x20 * 0x40 + n % 64 = n := by omega
    rwa [hfirst (by omega), (hnext n).2.1, hbits, hchar] at h
  · have h := reads_three (a := UInt8.ofNat (n / 4096 % 16 + 224)) (by rw [hfirst] <;> omega)
      (by rw [hfirst] <;> omega) (hnext (n / 64)).1 (hnext n).1
      (by rw [hfirst, (hnext _).2.2] <;> omega) (by rw [hfirst, (hnext _).2.2] <;> omega)
    have hbits : (n / 4096 % 16 + 224) % 0x10 * 0x1000 + n / 64 % 64 * 0x40 + n % 64 = n := by
      omega
    rwa [hfirst (by omega), (hnext n).2.1, (hnext (n / 64)).2.1, hbits, hchar] at h
  · have h := reads_four (a := UInt8.ofNat (n / 262144 % 8 + 240)) (by rw [hfirst] <;> omega)
      (by rw [hfirst] <;> omega) (hnext (n / 4096)).1 (hnext (n / 64)).1 (hnext n).1
      (by rw [hfirst, (hnext _).2.2] <;> omega) (by rw [hfirst, (hnext _).2.2] <;> omega)
    have hbits : (n / 262144 % 8 + 240) % 0x08 * 0x40000 + n / 4096 % 64 * 0x1000 +
        n / 64 % 64 * 0x40 + n % 64 = n := by omega
    rwa [hfirst (by omega), (hnext n).2.1, (hnext (n / 64)).2.1, (hnext (n / 4096)).2.1, hbits,
      hchar] at h

theorem exists_unitBytes (bigEndian : Bool) (h : n < 0x10000) :
    ∃ a b, Units.unitBytes bigEndian n = [a, b] ∧ Units.unit bigEndian a b = n := by
  have hhigh : (UInt8.ofNat (n / 0x100)).toNat = n / 0x100 :=
    UInt8.toNat_ofNat_of_lt' (show n / 0x100 < 0x100 by omega)
  have hlow : (UInt8.ofNat (n % 0x100)).toNat = n % 0x100 :=
    UInt8.toNat_ofNat_of_lt' (Nat.mod_lt n (by decide))
  cases bigEndian with
  | false =>
    refine ⟨_, _, rfl, ?_⟩
    simp only [Units.unit, hhigh, hlow, Bool.false_eq_true, if_false]
    omega
  | true =>
    refine ⟨_, _, rfl, ?_⟩
    simp only [Units.unit, hhigh, hlow, if_true]
    omega

theorem reads_utf16 (bigEndian : Bool) (c : Char) :
    Reads (.utf16 bigEndian) [] ((Units.unitsOf c.toNat).flatMap (Units.unitBytes bigEndian)) [c]
      [] := by
  have hvalid := valid_toNat c
  have hchar : Char.ofNat c.toNat = c := Char.ofNat_toNat c
  generalize c.toNat = n at hvalid hchar
  rw [Units.unitsOf]
  split_ifs with hsmall
  · obtain ⟨a, b, hbytes, hunit⟩ := exists_unitBytes bigEndian hsmall
    have hfirst : Units.isFirstHalf n = false := by simp [Units.isFirstHalf]; omega
    have hsecond : Units.isSecondHalf n = false := by simp [Units.isSecondHalf]; omega
    rw [List.flatMap_singleton, hbytes]
    refine .incomplete rfl (.complete ?_ .nil)
    simp [Units.progress, Units.progressUtf16, hunit, hfirst, hsecond, hchar]
  · obtain ⟨a, b, hbytes, hunit⟩ :=
      exists_unitBytes bigEndian (n := 0xD800 + (n - 0x10000) / 0x400) (by omega)
    obtain ⟨e, f, hbytes', hunit'⟩ :=
      exists_unitBytes bigEndian (n := 0xDC00 + (n - 0x10000) % 0x400) (by omega)
    have hfirst : Units.isFirstHalf (0xD800 + (n - 0x10000) / 0x400) = true := by
      simp [Units.isFirstHalf]; omega
    have hsecond : Units.isSecondHalf (0xDC00 + (n - 0x10000) % 0x400) = true := by
      simp [Units.isSecondHalf]; omega
    have hbits : 0x10000 + (0xD800 + (n - 0x10000) / 0x400) % 0x400 * 0x400 +
        (0xDC00 + (n - 0x10000) % 0x400) % 0x400 = n := by omega
    rw [List.flatMap_cons, List.flatMap_singleton, hbytes, hbytes']
    refine .incomplete rfl (.incomplete ?_ (.incomplete rfl (.complete ?_ .nil)))
    · simp [Units.progress, Units.progressUtf16, hunit, hfirst]
    · simp only [Units.progress, List.nil_append, List.cons_append, Units.progressUtf16, hunit,
        hunit', hsecond, if_true, hbits, hchar]

/-- **A character is read back from the bytes that it is written in**, and not before the
    last of them. -/
theorem reads_of_write (h : units.write? c = some w) : Reads units [] w [c] [] := by
  have hchar : Char.ofNat c.toNat = c := Char.ofNat_toNat c
  have hbyte : ∀ {k}, c.toNat < k → k ≤ 0x100 → (UInt8.ofNat c.toNat).toNat = c.toNat :=
    fun hk hle => UInt8.toNat_ofNat_of_lt' (hk.trans_le hle)
  cases units with
  | utf8 => cases h; exact reads_utf8 c
  | utf16 bigEndian => cases h; exact reads_utf16 bigEndian c
  | latin1 =>
    obtain ⟨hlt, hw⟩ := Option.ite_none_right_eq_some.1 h
    cases hw
    refine .complete ?_ .nil
    simp [Units.progress, hbyte hlt, hchar]
  | ascii =>
    obtain ⟨hlt, hw⟩ := Option.ite_none_right_eq_some.1 h
    cases hw
    refine .complete ?_ .nil
    have hshort : UInt8.ofNat c.toNat < 0x80 := by
      rw [UInt8.lt_iff_toNat_lt, hbyte hlt (by omega)]; exact hlt
    simp [Units.progress, hshort, hbyte hlt, hchar]

end Characters

/-! ## Files -/

theorem reads_of_encode (h : units.encode? cs = some bs) : Reads units [] bs cs [] := by
  induction cs generalizing bs with
  | nil => cases h; exact .nil
  | cons c cs ih =>
    obtain ⟨w, later, hw, hlater, rfl⟩ := exists_of_encode_cons h
    exact (reads_of_write hw).append (ih hlater)

theorem flatten_blocks (bs : List UInt8) : (blocks bs).flatten = bs := by
  fun_induction blocks bs with
  | case1 bs hempty => simpa using hempty.symm
  | case2 bs hsome ih => rw [List.flatten_cons, ih, List.take_append_drop]

/-- The mark in front of a text is wholly in the first block. -/
theorem blocks_append {front : List UInt8} (hsome : front ≠ []) (hshort : front.length ≤ blockSize)
    (bs : List UInt8) :
    ∃ block later, blocks (front ++ bs) = (front ++ block) :: later ∧
      block ++ later.flatten = bs := by
  refine ⟨bs.take (blockSize - front.length), blocks ((front ++ bs).drop blockSize), ?_, ?_⟩
  · rw [blocks, if_neg (by simp [hsome]), List.take_append, List.take_of_length_le hshort]
  · rw [flatten_blocks, List.drop_append, List.drop_of_length_le hshort, List.nil_append,
      List.take_append_drop]

theorem readBlocks_of_settled {d : Decoder} (hunits : d.units = some units) (hkept : d.kept = [])
    (h : units.encode? cs = some bs) : d.readBlocks true (blocks bs) = (cs, none) := by
  refine Decoder.readBlocks_settled hunits ?_
  rw [hkept, List.nil_append, flatten_blocks]
  exact reads_of_encode h

theorem readBlocks_of_marked {d : Decoder} (position : Nat) (hmark : units.write? '\uFEFF' = some w)
    (hsome : w ≠ []) (hshort : w.length ≤ blockSize)
    (hfeed : ∀ block, d.feed false (w ++ block) = d.run units position false block)
    (h : units.encode? ('\uFEFF' :: cs) = some bs) : d.readBlocks true (blocks bs) = (cs, none) := by
  obtain ⟨w', later, hmark', hlater, rfl⟩ := exists_of_encode_cons h
  obtain rfl : w = w' := Option.some.inj (hmark.symm.trans hmark')
  obtain ⟨block, behind, hblocks, hbehind⟩ := blocks_append hsome hshort later
  rw [hblocks]
  refine Decoder.readBlocks_begun (hfeed block) ?_
  rw [hbehind]
  exact reads_of_encode hlater

variable {encoding : Encoding} {bigEndian : Bool}

/-- **A file holds the text that was written to it**, whatever the encoding, the mark in
    front and the blocks in which the file is read. -/
theorem decode_of_encode (h : encoding.encode? bigEndian cs = some bs) :
    (encoding : Charset).decode true bs = (cs, none) := by
  rw [Charset.decode]
  cases encoding with
  | utf8Signed =>
    have hmark : Units.utf8.write? '\uFEFF' = some Decoder.utf8Mark := rfl
    exact readBlocks_of_marked 0 hmark (by decide) (by decide) (fun _ => rfl) h
  | utf16 =>
    cases bigEndian with
    | false =>
      have hmark : (Units.utf16 false).write? '\uFEFF' = some Decoder.littleMark := rfl
      exact readBlocks_of_marked 2 hmark (by decide) (by decide) (fun _ => rfl) h
    | true =>
      have hmark : (Units.utf16 true).write? '\uFEFF' = some Decoder.bigMark := rfl
      exact readBlocks_of_marked 2 hmark (by decide) (by decide) (fun _ => rfl) h
  | utf8 | utf16Little | utf16Big | latin1 | ascii => exact readBlocks_of_settled rfl rfl h

end ResolverChain.Text
