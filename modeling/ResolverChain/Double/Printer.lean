/-
  How numbers of double precision are written.

  * `shortest` are the fewest decimal digits that are read back as the same
    double, and among as few digits the nearest ones;
  * `text` lays them out: positionally while the point falls near the digits, and
    with a power of ten beyond.
-/
import ResolverChain.Double.Basic
import ResolverChain.Text.Numeral

namespace ResolverChain.Double

open Text

/-! ## Which digits -/

/-- The numbers that are read back as one double: between two ends, in quarters of
    a unit. -/
structure Range where
  lower : Nat
  upper : Nat
  /-- Whether the ends themselves belong to it. -/
  isClosed : Bool
deriving DecidableEq, Repr

/-- The range of a double: to the middle between it and each of its neighbours.
    Below a power of two the neighbour is half as far away; the middles are read
    as the double with the even last digit. -/
def range (units : Nat) : Range :=
  let step := spacing units
  let below := if 1 < step ∧ units = Nat.pow 2 units.log2 then step else 2 * step
  ⟨4 * units - below, 4 * units + 2 * step, units / step % 2 == 0⟩

/-- Whether a quotient, in quarters of a unit, belongs to a range. -/
def Range.holds (r : Range) (num den : Nat) : Bool :=
  if r.isClosed then r.lower * den ≤ num && num ≤ r.upper * den
  else r.lower * den < num && num < r.upper * den

/-- The number `digits * 10 ^ exponent`. -/
structure Decimal where
  digits : Nat
  exponent : Int
deriving DecidableEq, Repr

/-- The decimal of a given exponent that is read back as the double, if there is
    one: the nearer of the two neighbours, or the even one. -/
def decimalAt? (units : Nat) (exponent : Int) : Option Decimal :=
  let num := 4 * unitsPerOne * Nat.pow 10 exponent.toNat
  let den := Nat.pow 10 (-exponent).toNat
  let size := 4 * units * den
  let low := size / num
  let isRead (digits : Nat) := (range units).holds (digits * num) den
  let nearer := nearest size num
  if isRead nearer then some ⟨nearer, exponent⟩
  else if isRead low then some ⟨low, exponent⟩
  else if isRead (low + 1) then some ⟨low + 1, exponent⟩
  else none

/-- The place of the point in a number above zero, counted from in front of its
    first digit. -/
def pointOf (units : Nat) : Int :=
  if unitsPerOne ≤ units then (Numeral.digits 10 (units / unitsPerOne)).length
  else
    let inverse := (unitsPerOne + units - 1) / units
    1 - (Numeral.digits 10 (inverse - 1)).length

/-- So many decimal digits always suffice. -/
def maxDigits : Nat := 17

/-- The exact decimal, with all its digits. -/
def exact (units : Nat) : Decimal := ⟨units * Nat.pow 5 unitPlaces, -unitPlaces⟩

/-- The shortest decimal that is read back as the double. -/
def shortest (units : Nat) : Decimal :=
  let point := pointOf units
  let exponents := (List.range maxDigits).map fun (n : Nat) => point - 1 - n
  (exponents.findSome? (decimalAt? units)).getD (exact units)

/-! ## Layout -/

/-- From this power of ten on, a number is written with an exponent. -/
def largeExponent : Int := 16

/-- Below this power of ten, a number is written with an exponent. -/
def smallExponent : Int := -4

/-- Digits with the point in its place, and a zero on a side that would be empty. -/
def positional (ds : List Char) (point : Int) : List Char :=
  if point ≤ 0 then '0' :: '.' :: (List.replicate (-point).toNat '0' ++ ds)
  else
    let p := point.toNat
    let whole := ds.take p ++ List.replicate (p - ds.length) '0'
    let fraction := ds.drop p
    whole ++ '.' :: (if fraction.isEmpty then ['0'] else fraction)

/-- Digits with the point behind the first, times a power of ten. -/
def scientific (ds : List Char) (exponent : Int) : List Char :=
  let fraction := if ds.length ≤ 1 then [] else '.' :: ds.drop 1
  let sign := if exponent < 0 then '-' else '+'
  ds.take 1 ++ fraction ++ 'e' :: sign :: Numeral.padded 10 2 exponent.natAbs

/-- A decimal without needless zeros. -/
def Decimal.layout (d : Decimal) : List Char :=
  let ds := Numeral.digits 10 d.digits
  let point := ds.length + d.exponent
  let ds := dropTrailing (· == '0') ds
  if smallExponent ≤ point - 1 ∧ point - 1 < largeExponent then positional ds point
  else scientific ds (point - 1)

/-- A number without its sign. -/
def size : Double → List Char
  | finite _ 0 => ['0', '.', '0']
  | finite _ units => (shortest units).layout
  | infinite _ => ['i', 'n', 'f']
  | undefined _ => ['n', 'a', 'n']

/-- The number as text. -/
def text (x : Double) : String := String.ofList (if x.isNegative then '-' :: x.size else x.size)

end ResolverChain.Double
