/-
  Bytes shown as text, whatever they hold.

  * `lenientText` decodes UTF-8; bytes that are at fault are shown as escapes, and
    decoding goes on behind them.
-/
import ResolverChain.Text.Encoding.Units
import ResolverChain.Text.Quoted

namespace ResolverChain.Text

/-- What the shortest beginning of the bytes that is decided comes to, and how
    many bytes it takes.  `begun` bytes are already taken. -/
def Units.first (units : Units) (begun : List UInt8) : List UInt8 → Progress × Nat
  | [] => (.incomplete, begun.length)
  | b :: bs =>
    match units.progress (begun ++ [b]) with
    | .incomplete => units.first (begun ++ [b]) bs
    | decided => (decided, begun.length + 1)

/-- Bytes as escapes. -/
def escapeBytes (bs : List UInt8) : List Char := bs.flatMap fun b => hexEscape 'x' 2 b.toNat

/-- How the first bytes are shown, and how many of them that takes. -/
def firstShown (bs : List UInt8) : List Char × Nat :=
  match Units.first .utf8 [] bs with
  | (.complete c, width) => ([c], width)
  | (.faulty width _, _) => (escapeBytes (bs.take width), width)
  | (.incomplete, _) =>
    let width := (Units.endFault .utf8 bs).1
    (escapeBytes (bs.take width), width)

/-- Bytes as text, with escapes where they are not UTF-8. -/
def lenientText (bs : List UInt8) : List Char :=
  if bs.isEmpty then []
  else (firstShown bs).1 ++ lenientText (bs.drop (max 1 (firstShown bs).2))
termination_by bs.length
decreasing_by
  rename_i h
  have : bs ≠ [] := by simpa using h
  have : 0 < bs.length := List.length_pos_iff.2 this
  simp only [List.length_drop]
  omega

end ResolverChain.Text
