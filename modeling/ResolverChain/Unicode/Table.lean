/-
  Tables of code points: the forms in which properties of characters are
  written down, and how they are searched.

  * a property that holds or not is a list of ranges (`inRanges`);
  * a mapping of regular stretches of code points is a list of `Span`s, and one
    of single code points, or to several characters, a list of `Run`s;
    `image?` looks a code point up in both.
-/

namespace ResolverChain.Unicode

/-- Whether some range (first and last code point) holds the code point `c`. -/
def inRanges (ranges : List (Nat × Nat)) (c : Nat) : Bool :=
  ranges.any fun (first, last) => first ≤ c && c ≤ last

/-- The code points `first`, `first + step`, … up to `last`, mapped in step to
    the code points from `image` on. -/
structure Span where
  first : Nat
  last : Nat
  step : Nat
  image : Nat

/-- The image of a code point of the span. -/
def Span.image? (s : Span) (c : Nat) : Option Nat :=
  if s.first ≤ c ∧ c ≤ s.last ∧ (c - s.first) % s.step = 0 then some (s.image + (c - s.first))
  else none

/-- Consecutive code points from `first` on, with the image of each. -/
structure Run where
  first : Nat
  images : List (List Nat)

/-- The image of a code point of the run. -/
def Run.image? (r : Run) (c : Nat) : Option (List Nat) :=
  if r.first ≤ c then r.images[c - r.first]? else none

/-- The image of a code point under spans and runs, as characters. -/
def image? (spans : List Span) (runs : List Run) (c : Nat) : Option (List Char) :=
  match spans.findSome? (·.image? c) with
  | some image => some [Char.ofNat image]
  | none => (runs.findSome? (·.image? c)).map (·.map Char.ofNat)

end ResolverChain.Unicode
