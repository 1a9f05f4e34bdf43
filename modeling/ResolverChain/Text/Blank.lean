/-
  White space: the characters that separate fields of a line.

  * `isBlank` holds of the characters that Unicode counts as white space, and
    of the four separators below the blank in ASCII;
  * `fields` are the words of a line, what stands between blanks;
  * `dropTrailing` drops characters of a kind from the end of a text.
-/

namespace ResolverChain.Text

/-- Whether the character is white space. -/
def isBlank (c : Char) : Bool :=
  let n := c.toNat
  (0x09 ≤ n && n ≤ 0x0D) || (0x1C ≤ n && n ≤ 0x20) || n == 0x85 || n == 0xA0 || n == 0x1680 ||
    (0x2000 ≤ n && n ≤ 0x200A) || n == 0x2028 || n == 0x2029 || n == 0x202F || n == 0x205F ||
    n == 0x3000

/-- The words of a line: the longest stretches of it without a blank. -/
def fields (cs : List Char) : List (List Char) :=
  (cs.splitOnP isBlank).filter (!·.isEmpty)

/-- The text without the characters of a kind at its end. -/
def dropTrailing {α : Type} (p : α → Bool) (cs : List α) : List α :=
  (cs.reverse.dropWhile p).reverse

end ResolverChain.Text
