/-
  Punycode: any text written in ASCII letters, digits and hyphens.

  * the ASCII characters come first, followed by a hyphen if there are any;
  * then every other character is inserted, in the order of the code points:
    `deltas` counts how many possible insertions are passed over before each,
    and `encodeDeltas` writes the counts as numbers of varying length, whose
    digits tell by a threshold which of them is the last;
  * the thresholds follow a `bias` that adapts to the counts written so far.
-/

namespace ResolverChain.DomainName.Punycode

/-! ## Numbers of varying length -/

/-- The digit for a value below thirty-six: the letters, then the ten digits. -/
def digit (d : Nat) : Char := Char.ofNat (if d < 26 then 0x61 + d else 0x30 + (d - 26))

/-- The threshold of the digit at a position, between 1 and 26. -/
def threshold (bias position : Nat) : Nat := min 26 (max 1 (36 * (position + 1) - bias))

theorem threshold_pos (bias position : Nat) : 0 < threshold bias position := by
  simp only [threshold]; omega

/-- The digits of a number from a position on: a digit below the threshold is
    the last one. -/
def encodeNumber (bias position n : Nat) : List Char :=
  let t := threshold bias position
  if n < t then [digit n]
  else digit (t + (n - t) % (36 - t)) :: encodeNumber bias (position + 1) ((n - t) / (36 - t))
termination_by n
decreasing_by
  have : 0 < threshold bias position := threshold_pos bias position
  exact Nat.lt_of_le_of_lt (Nat.div_le_self _ _) (by omega)

/-- How often a count is scaled down before it fits the bias, and what is left. -/
def scaled (delta : Nat) : Nat × Nat :=
  if 455 < delta then
    let (steps, rest) := scaled (delta / 35)
    (steps + 1, rest)
  else (0, delta)
termination_by delta
decreasing_by omega

/-- The bias after a count was written, the first or a later one, when `length`
    characters are in place. -/
def adapt (isFirst : Bool) (length delta : Nat) : Nat :=
  let delta := if isFirst then delta / 700 else delta / 2
  let (steps, rest) := scaled (delta + delta / length)
  36 * steps + 36 * rest / (rest + 38)

/-- The bias before the first count. -/
def initialBias : Nat := 72

/-- Counts one after the other, when `length` characters are in place. -/
def encodeDeltas (bias : Nat) (isFirst : Bool) (length : Nat) : List Nat → List Char
  | [] => []
  | delta :: deltas =>
    encodeNumber bias 0 delta ++
      encodeDeltas (adapt isFirst (length + 1) delta) false (length + 1) deltas

/-! ## Insertions -/

/-- The first code point outside ASCII. -/
def firstExtended : Nat := 0x80

/-- Whether the character is ASCII. -/
def isAscii (c : Char) : Bool := c.toNat < firstExtended

/-- Puts a number into an ascending list without repetitions. -/
def insertDistinct (n : Nat) : List Nat → List Nat
  | [] => [n]
  | m :: ms => if n < m then n :: m :: ms else if n = m then m :: ms else m :: insertDistinct n ms

/-- The code points outside ASCII, ascending and each once. -/
def extendedPoints (cs : List Char) : List Nat :=
  (cs.filter (!isAscii ·)).foldr (fun c ns => insertDistinct c.toNat ns) []

/-- Passes over the text to insert the code point `n`, with `delta` insertions
    passed over so far: the counts at each place of `n`, and what is left. -/
def placesOf (n delta : Nat) : List Char → List Nat × Nat
  | [] => ([], delta)
  | c :: cs =>
    if c.toNat < n then placesOf n (delta + 1) cs
    else if c.toNat = n then
      let (deltas, rest) := placesOf n 0 cs
      (delta :: deltas, rest)
    else placesOf n delta cs

/-- The counts for ascending code points, when all below `next` are in place,
    `length` characters in all. -/
def deltas (text : List Char) (next length delta : Nat) : List Nat → List Nat
  | [] => []
  | n :: ns =>
    let (here, rest) := placesOf n (delta + (n - next) * (length + 1)) text
    here ++ deltas text (n + 1) (length + here.length) (rest + 1) ns

/-! ## Whole texts -/

/-- The text in punycode. -/
def encode (cs : List Char) : List Char :=
  let basic := cs.filter isAscii
  let counts := deltas cs firstExtended basic.length 0 (extendedPoints cs)
  basic ++ (if basic.isEmpty then [] else ['-']) ++
    encodeDeltas initialBias true basic.length counts

end ResolverChain.DomainName.Punycode
