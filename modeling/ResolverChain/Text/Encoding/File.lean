/-
  Text files, as they are read: block by block.

  * a `Decoder` keeps, between blocks, the units it has settled on and the bytes
    of a character that is not complete; `Decoder.feed` decodes one block;
  * `readBlocks` gives the text before the first fault, and that fault, and so does
    `Charset.decode` for every encoding;
  * `linesOf` are the lines that can be handed on: all of them, or of a text that is
    cut off those whose ends are certain; a line ends with a line feed, a carriage
    return, or both.
-/
import ResolverChain.Text.Encoding.Units

namespace ResolverChain.Text

/-- The state of decoding between two blocks. -/
structure Decoder where
  encoding : Encoding
  /-- The units, once the beginning of the text has told them. -/
  units : Option Units
  /-- Bytes that wait for the next block. -/
  kept : List UInt8
deriving DecidableEq, Repr

namespace Decoder

/-- The state before the first block. -/
def start (encoding : Encoding) : Decoder :=
  let units :=
    match encoding with
    | .utf8 => some .utf8
    | .utf16Little => some (.utf16 false)
    | .utf16Big => some (.utf16 true)
    | .latin1 => some .latin1
    | .ascii => some .ascii
    | .utf8Signed | .utf16 => none
  ⟨encoding, units, []⟩

/-- The mark in front of a text in UTF-8. -/
def utf8Mark : List UInt8 := [0xEF, 0xBB, 0xBF]

/-- The mark in front of a text in UTF-16 with the low byte first. -/
def littleMark : List UInt8 := [0xFF, 0xFE]

/-- The mark in front of a text in UTF-16 with the high byte first. -/
def bigMark : List UInt8 := [0xFE, 0xFF]

/-- Decodes bytes that begin at a position, in settled units. -/
def run (d : Decoder) (units : Units) (position : Nat) (isEnd : Bool) (bs : List UInt8) :
    Except Fault (List Char × Decoder) :=
  let scanned := units.decode position isEnd bs
  match scanned.fault with
  | some fault => .error fault
  | none => .ok (scanned.chars, { d with units := some units, kept := scanned.rest })

/-- The beginning of a text in UTF-8 with an optional mark.  While it could still
    become the mark it is kept. -/
def beginSigned (d : Decoder) (isEnd : Bool) (bs : List UInt8) :
    Except Fault (List Char × Decoder) :=
  if utf8Mark.isPrefixOf bs then d.run .utf8 0 isEnd (bs.drop utf8Mark.length)
  else if bs.isPrefixOf utf8Mark then .ok ([], { d with kept := bs })
  else d.run .utf8 0 isEnd bs

/-- The beginning of a text in UTF-16, which has to be a mark. -/
def beginMarked (d : Decoder) (isEnd : Bool) (bs : List UInt8) :
    Except Fault (List Char × Decoder) :=
  if littleMark.isPrefixOf bs then d.run (.utf16 false) 2 isEnd (bs.drop 2)
  else if bigMark.isPrefixOf bs then d.run (.utf16 true) 2 isEnd (bs.drop 2)
  else
    let scanned := (Units.utf16 false).decode 0 isEnd bs
    match scanned.fault with
    | some fault => .error fault
    | none =>
      if scanned.chars.isEmpty then .ok ([], { d with kept := scanned.rest })
      else .error .unmarked

/-- Decodes the next block; an empty one ends the text. -/
def feed (d : Decoder) (isEnd : Bool) (block : List UInt8) : Except Fault (List Char × Decoder) :=
  let bs := d.kept ++ block
  match d.units, d.encoding with
  | some units, _ => d.run units 0 isEnd bs
  | none, .utf16 => d.beginMarked isEnd bs
  | none, _ => d.beginSigned isEnd bs

/-- Decodes blocks, and behind them the end of the text if they are the whole of it:
    the characters before the first block with a fault, and the fault. -/
def readBlocks (d : Decoder) (isWhole : Bool) : List (List UInt8) → List Char × Option Fault
  | [] =>
    if isWhole then
      match d.feed true [] with
      | .ok (cs, _) => (cs, none)
      | .error fault => ([], some fault)
    else ([], none)
  | block :: blocks =>
    match d.feed false block with
    | .ok (cs, next) =>
      let (later, fault) := next.readBlocks isWhole blocks
      (cs ++ later, fault)
    | .error fault => ([], some fault)

end Decoder

/-! ## Lines -/

/-- The text with every end of line written as a line feed. -/
def unifyLineEnds : List Char → List Char
  | '\r' :: '\n' :: cs => '\n' :: unifyLineEnds cs
  | '\r' :: cs => '\n' :: unifyLineEnds cs
  | c :: cs => c :: unifyLineEnds cs
  | [] => []

/-- A text without a carriage return at its very end. -/
def withoutOpenReturn (cs : List Char) : List Char :=
  if cs.getLast? = some '\r' then cs.dropLast else cs

/-- The lines of a text, which may be cut off at its end. -/
def linesOf (cs : List Char) (isCut : Bool) : List String :=
  if isCut then ((unifyLineEnds (withoutOpenReturn cs)).splitOn '\n').dropLast.map String.ofList
  else ((unifyLineEnds cs).splitOn '\n').map String.ofList

/-! ## Files -/

/-- How many bytes of a file are decoded at a time. -/
def blockSize : Nat := 8192

/-- The blocks of a file. -/
def blocks (bs : List UInt8) : List (List UInt8) :=
  if bs.isEmpty then [] else bs.take blockSize :: blocks (bs.drop blockSize)
termination_by bs.length
decreasing_by
  rename_i h
  have : bs ≠ [] := by simpa using h
  have : 0 < bs.length := List.length_pos_iff.2 this
  simp only [List.length_drop, blockSize]
  omega

/-- The text that reading a file gives, and the fault behind it.  Without a fault it may
    still be cut off, if the bytes are not the whole file. -/
def Charset.decode (charset : Charset) (isWhole : Bool) (bs : List UInt8) :
    List Char × Option Fault :=
  match charset with
  | builtIn encoding => (Decoder.start encoding).readBlocks isWhole (blocks bs)
  | further decode => decode isWhole bs

end ResolverChain.Text
