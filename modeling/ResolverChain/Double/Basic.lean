/-
  Numbers of double precision.

  * a finite `Double` is a whole number of units, each of the size of the
    smallest number above zero, with at most fifty-three significant binary
    digits; zero has a sign, too;
  * neighbouring doubles are a `spacing` apart, and `nearest` is the whole number
    nearest to a quotient;
  * `inUnits?` is the exact size of a finite double, by which doubles are compared
    (`Double.same`).
-/

namespace ResolverChain

/-- A number of double precision. -/
inductive Double where
  /-- So many units above zero, or below it. -/
  | finite (isNegative : Bool) (units : Nat)
  /-- Beyond all finite numbers. -/
  | infinite (isNegative : Bool)
  /-- No number at all, such as the product of zero and an infinite one; each that was
      made is one of its own. -/
  | undefined (which : Nat)
deriving DecidableEq, Repr, Inhabited

namespace Double

/-! ## The grid of finite numbers -/

/-- How many significant binary digits a double has. -/
def precision : Nat := 53

/-- A unit is one divided by two to this power. -/
def unitPlaces : Nat := 1074

/-- How many units the number one has. -/
def unitsPerOne : Nat := Nat.pow 2 unitPlaces

/-- The units between two neighbours among the doubles that have as many binary
    digits as a number of units. -/
def spacing (units : Nat) : Nat := Nat.pow 2 (units.log2 + 1 - precision)

/-! ## Rounding -/

/-- The whole number nearest to a quotient; of two the even one. -/
def nearest (num den : Nat) : Nat :=
  let quotient := num / den
  let twice := 2 * (num % den)
  if den < twice ∨ (twice = den ∧ quotient % 2 = 1) then quotient + 1 else quotient

/-! ## Size -/

/-- The exact size of a whole number, in units. -/
def unitsOfInt (n : Int) : Int := n * unitsPerOne

/-- The exact size of a finite double, in units. -/
def inUnits? : Double → Option Int
  | finite isNegative units => some (if isNegative then -units else units)
  | _ => none

/-- Whether the number has a sign in front. -/
def isNegative : Double → Bool
  | finite isNegative _ => isNegative
  | infinite isNegative => isNegative
  | undefined _ => false

/-- Whether two doubles are of one size.  What is no number is of no size, not even of
    its own. -/
def same : Double → Double → Bool
  | finite s a, finite t b => (finite s a).inUnits? == (finite t b).inUnits?
  | infinite s, infinite t => s == t
  | _, _ => false

end Double

end ResolverChain
