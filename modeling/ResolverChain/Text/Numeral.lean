/-
  Numerals: how numbers are written with digits, and read.

  * `digits` writes a number in a base from two to sixteen, without leading
    zeros, and `padded` with a least number of digits;
  * `value?` reads digits of a base back, and nothing else;
  * `Integer.read?` is the lenient reader for numbers that a user types: blanks
    around, a sign, single underscores between digits, and the decimal digits
    of any script; `Integer.text?` writes a number.  Both give up on too many digits.
-/
import ResolverChain.Text.Blank

namespace ResolverChain.Text

namespace Numeral

/-- The digit for a value below sixteen. -/
def digit (d : Nat) : Char := Char.ofNat (if d < 10 then 0x30 + d else 0x57 + d)

/-- The value of a digit of the base, whose letters may be of either case. -/
def digitValue? (base : Nat) (c : Char) : Option Nat :=
  let n := c.toNat
  let d? :=
    if 0x30 ≤ n ∧ n ≤ 0x39 then some (n - 0x30)
    else if 0x61 ≤ n ∧ n ≤ 0x66 then some (n - 0x57)
    else if 0x41 ≤ n ∧ n ≤ 0x46 then some (n - 0x37)
    else none
  d?.filter (· < base)

/-- A number in a base of at least two. -/
def digits (base n : Nat) : List Char :=
  if base < 2 ∨ n < base then [digit n]
  else digits base (n / base) ++ [digit (n % base)]
termination_by n
decreasing_by exact Nat.div_lt_self (by omega) (by omega)

/-- A number in a base, filled with zeros in front up to a width. -/
def padded (base width n : Nat) : List Char :=
  let ds := digits base n
  List.replicate (width - ds.length) '0' ++ ds

/-- The number that digit values stand for, the first one weighing most. -/
def ofDigitValues (base : Nat) (ds : List Nat) : Nat := ds.foldl (fun n d => n * base + d) 0

/-- The number that a non-empty row of digits stands for. -/
def value? (base : Nat) (cs : List Char) : Option Nat :=
  if cs.isEmpty then none else (cs.mapM (digitValue? base)).map (ofDigitValues base)

/-- A number in decimal digits. -/
def ofNat (n : Nat) : String := String.ofList (digits 10 n)

/-- A number in decimal digits, with its sign when it is negative. -/
def ofInt : Int → String
  | .ofNat n => ofNat n
  | .negSucc n => "-" ++ ofNat (n + 1)

end Numeral

namespace Integer

/-- The zeros of the decimal digits; each is followed by its nine other digits. -/
def zeros : List Nat :=
  [0x30, 0x660, 0x6F0, 0x7C0, 0x966, 0x9E6, 0xA66, 0xAE6, 0xB66, 0xBE6, 0xC66, 0xCE6, 0xD66,
    0xDE6, 0xE50, 0xED0, 0xF20, 0x1040, 0x1090, 0x17E0, 0x1810, 0x1946, 0x19D0, 0x1A80, 0x1A90,
    0x1B50, 0x1BB0, 0x1C40, 0x1C50, 0xA620, 0xA8D0, 0xA900, 0xA9D0, 0xA9F0, 0xAA50, 0xABF0,
    0xFF10, 0x104A0, 0x10D30, 0x11066, 0x110F0, 0x11136, 0x111D0, 0x112F0, 0x11450, 0x114D0,
    0x11650, 0x116C0, 0x11730, 0x118E0, 0x11950, 0x11C50, 0x11D50, 0x11DA0, 0x16A60, 0x16AC0,
    0x16B50, 0x1D7CE, 0x1D7D8, 0x1D7E2, 0x1D7EC, 0x1D7F6, 0x1E140, 0x1E2F0, 0x1E950, 0x1FBF0]

/-- The value of a decimal digit of some script. -/
def decimalValue? (c : Char) : Option Nat :=
  (zeros.find? fun z => z ≤ c.toNat && c.toNat ≤ z + 9).map (c.toNat - ·)

/-- The blanks allowed around a number: all but the four ASCII separators. -/
def isMargin (c : Char) : Bool := isBlank c && !(0x1C ≤ c.toNat && c.toNat ≤ 0x1F)

/-- Numbers of more digits than this are neither read nor written. -/
def maxDigits : Nat := 4300

/-- Whether a number has too many digits to be written. -/
def isLong (n : Int) : Bool := Nat.pow 10 maxDigits ≤ n.natAbs

/-- The text of a number. -/
def text? (n : Int) : Option String := if isLong n then none else some (Numeral.ofInt n)

/-- The values of a row of digits in which single underscores may stand between
    two digits. -/
def digitValues? : List Char → Option (List Nat)
  | [] => none
  | [c] => (decimalValue? c).map ([·])
  | c :: '_' :: cs => do return (← decimalValue? c) :: (← digitValues? cs)
  | c :: cs => do return (← decimalValue? c) :: (← digitValues? cs)

/-- An unsigned number. -/
def readNat? (cs : List Char) : Option Nat := do
  let ds ← digitValues? cs
  if maxDigits < ds.length then none else some (Numeral.ofDigitValues 10 ds)

/-- A number with blanks and a sign allowed. -/
def read? (cs : List Char) : Option Int :=
  match dropTrailing isMargin (cs.dropWhile isMargin) with
  | '-' :: ds => (readNat? ds).map fun n => -(n : Int)
  | '+' :: ds => (readNat? ds).map Int.ofNat
  | ds => (readNat? ds).map Int.ofNat

end Integer

end ResolverChain.Text
