/-
  Characters out of bytes, one byte after the other.

  * `Units` says how characters are made of bytes, once the byte order is known;
  * `Units.progress` tells what some bytes from the beginning of a character come
    to: a character, a part of one, or a fault;
  * `Units.scan` runs over bytes and stops at the first fault; bytes of a
    character that is not complete are kept for what follows.
-/
import ResolverChain.Text.Encoding.Basic

namespace ResolverChain.Text

/-- How characters are made of bytes. -/
inductive Units where
  | utf8
  | utf16 (bigEndian : Bool)
  | latin1
  | ascii
deriving DecidableEq, Repr

/-- What bytes from the beginning of a character come to. -/
inductive Progress where
  | complete (c : Char)
  | incomplete
  /-- The first `width` of the bytes are at fault. -/
  | faulty (width : Nat) (reason : FaultReason)
deriving DecidableEq, Repr

namespace Units

/-! ## Single characters -/

/-- Whether a byte carries on a character of UTF-8. -/
def continues (b : UInt8) : Bool := 0x80 ≤ b && b ≤ 0xBF

/-- The six bits that a continuing byte carries. -/
def payload (b : UInt8) : Nat := b.toNat % 0x40

/-- Whether the second byte keeps the code point away from the forms that are too
    long and from those too large. -/
def secondFits (a b : UInt8) : Bool :=
  continues b && !(a == 0xE0 && b < 0xA0) && !(a == 0xF0 && b < 0x90) && !(a == 0xF4 && 0x90 ≤ b)

/-- Whether the bytes begin half of a pair, which UTF-8 does not write. -/
def beginsHalf (a b : UInt8) : Bool := a == 0xED && 0xA0 ≤ b && b ≤ 0xBF

/-- Bytes of UTF-8.  The beginning of half a pair is found at fault only with the
    byte after it. -/
def progressUtf8 : List UInt8 → Progress
  | [a] =>
    if a < 0x80 then .complete (Char.ofNat a.toNat)
    else if a < 0xC2 || 0xF5 ≤ a then .faulty 1 .startByte
    else .incomplete
  | [a, b] =>
    if !secondFits a b then .faulty 1 .continuationByte
    else if a < 0xE0 then .complete (Char.ofNat (a.toNat % 0x20 * 0x40 + payload b))
    else .incomplete
  | [a, b, c] =>
    if beginsHalf a b then .faulty 1 .continuationByte
    else if !continues c then .faulty 2 .continuationByte
    else if a < 0xF0 then
      .complete (Char.ofNat (a.toNat % 0x10 * 0x1000 + payload b * 0x40 + payload c))
    else .incomplete
  | [a, b, c, d] =>
    if !continues d then .faulty 3 .continuationByte
    else
      .complete (Char.ofNat
        (a.toNat % 0x08 * 0x40000 + payload b * 0x1000 + payload c * 0x40 + payload d))
  | _ => .incomplete

/-- The unit of two bytes. -/
def unit (bigEndian : Bool) (a b : UInt8) : Nat :=
  if bigEndian then a.toNat * 0x100 + b.toNat else b.toNat * 0x100 + a.toNat

/-- Whether the unit is the first half of a pair. -/
def isFirstHalf (u : Nat) : Bool := 0xD800 ≤ u && u ≤ 0xDBFF

/-- Whether the unit is the second half of a pair. -/
def isSecondHalf (u : Nat) : Bool := 0xDC00 ≤ u && u ≤ 0xDFFF

/-- Bytes of UTF-16. -/
def progressUtf16 (bigEndian : Bool) : List UInt8 → Progress
  | [a, b] =>
    let u := unit bigEndian a b
    if isFirstHalf u then .incomplete
    else if isSecondHalf u then .faulty 2 .loneHalf
    else .complete (Char.ofNat u)
  | [a, b, c, d] =>
    let u := unit bigEndian a b
    let v := unit bigEndian c d
    if isSecondHalf v then .complete (Char.ofNat (0x10000 + u % 0x400 * 0x400 + v % 0x400))
    else .faulty 2 .brokenPair
  | _ => .incomplete

/-- What bytes from the beginning of a character come to. -/
def progress : Units → List UInt8 → Progress
  | utf8, bs => progressUtf8 bs
  | utf16 bigEndian, bs => progressUtf16 bigEndian bs
  | latin1, [a] => .complete (Char.ofNat a.toNat)
  | ascii, [a] => if a < 0x80 then .complete (Char.ofNat a.toNat) else .faulty 1 .notAscii
  | _, _ => .incomplete

/-- Why the bytes of an incomplete character may not end a text. -/
def endFault : Units → List UInt8 → Nat × FaultReason
  | utf8, [a, b] => if beginsHalf a b then (1, .continuationByte) else (2, .endOfData)
  | utf16 _, [_] => (1, .truncatedUnit)
  | _, bs => (bs.length, .endOfData)

/-- The name under which faults are reported. -/
def codec : Units → String
  | utf8 => "utf-8"
  | utf16 false => "utf-16-le"
  | utf16 true => "utf-16-be"
  | latin1 => "latin-1"
  | ascii => "ascii"

/-! ## Runs of bytes -/

/-- What was read: the characters before the first fault, and the bytes of a last
    character that is incomplete. -/
structure Scanned where
  chars : List Char
  rest : List UInt8
  fault : Option Fault
deriving DecidableEq, Repr

/-- Reads bytes behind the beginning of a character, which stands at a position. -/
def scan (units : Units) (position : Nat) (begun : List UInt8) : List UInt8 → Scanned
  | [] => ⟨[], begun, none⟩
  | b :: bs =>
    let bytes := begun ++ [b]
    match units.progress bytes with
    | .complete c =>
      let later := scan units (position + bytes.length) [] bs
      { later with chars := c :: later.chars }
    | .incomplete => scan units position bytes bs
    | .faulty width reason =>
      ⟨[], [], some (.invalid units.codec position (bytes.take width) reason)⟩

/-- Reads bytes that begin at a position.  At the end of a text, no character may
    be incomplete. -/
def decode (units : Units) (position : Nat) (isEnd : Bool) (bs : List UInt8) : Scanned :=
  let scanned := scan units position [] bs
  if isEnd && scanned.fault.isNone && !scanned.rest.isEmpty then
    let (width, reason) := units.endFault scanned.rest
    let start := position + bs.length - scanned.rest.length
    { scanned with
      rest := [], fault := some (.invalid units.codec start (scanned.rest.take width) reason) }
  else scanned

end Units

end ResolverChain.Text
