/-
  Normal form of a text: characters that look alike in it are written alike.

  * `decomposed` takes every character apart and puts the marks that follow a
    letter in the order of their combining classes;
  * `composed` joins letters with the marks that follow them, as far as no
    mark of the same or a lower class stands between;
  * `normalized` does both, one after the other.
-/
import ResolverChain.Unicode.CombiningClass
import ResolverChain.Unicode.Composition
import ResolverChain.Unicode.Decomposition

namespace ResolverChain.Unicode

/-! ## Decomposition -/

/-- Puts a mark into a text whose marks are in order, behind the marks at its
    front that have a lower class. -/
def insertMark (m : Char) : List Char → List Char
  | [] => [m]
  | c :: cs =>
    if combiningClass c ≠ 0 ∧ combiningClass c < combiningClass m then c :: insertMark m cs
    else m :: c :: cs

/-- Puts the marks behind each letter in the order of their classes; marks of
    one class keep their order. -/
def orderMarks : List Char → List Char
  | [] => []
  | c :: cs => if combiningClass c = 0 then c :: orderMarks cs else insertMark c (orderMarks cs)

/-- The text with every character taken apart and the marks in order. -/
def decomposed (cs : List Char) : List Char :=
  orderMarks (cs.flatMap Decomposition.decompose)

/-! ## Composition -/

/-- Joins `base` with the characters behind it.  `passed` holds, last first,
    the marks behind `base` that did not join it; the class of the last of them
    bars every mark of the same or a lower class. -/
def composeFrom (base : Char) (passed : List Char) : List Char → List Char
  | [] => base :: passed.reverse
  | c :: cs =>
    let barred := passed.head?.any fun p => combiningClass c ≤ combiningClass p
    match if barred then none else Composition.compose? base c with
    | some joined => composeFrom joined passed cs
    | none =>
      if combiningClass c = 0 then base :: (passed.reverse ++ composeFrom c [] cs)
      else composeFrom base (c :: passed) cs

/-- The text with letters and marks joined. -/
def composed : List Char → List Char
  | [] => []
  | c :: cs => if combiningClass c = 0 then composeFrom c [] cs else c :: composed cs

/-- The normal form of a text. -/
def normalized (cs : List Char) : List Char := composed (decomposed cs)

end ResolverChain.Unicode
