/-
  Quoted texts and byte strings, as messages show them.

  * a text stands between single quotes, or between double ones when it holds a
    single quote and no double one; the quote in use and the backslash are
    written behind a backslash;
  * characters that cannot be printed, and bytes outside printable ASCII, are
    written as escapes;
  * `quoteText` and `quoteBytes` write a whole literal.
-/
import ResolverChain.Text.Numeral
import ResolverChain.Text.Printable

namespace ResolverChain.Text

/-- The quote to put around a text: a single one, unless only that occurs in it. -/
def quoteFor (cs : List Char) : Char :=
  if cs.contains '\'' && !cs.contains '"' then '"' else '\''

/-- An escape that gives a code point in `width` hexadecimal digits. -/
def hexEscape (kind : Char) (width : Nat) (n : Nat) : List Char :=
  '\\' :: kind :: Numeral.padded 16 width n

/-- An escape for a code point, as short as it allows. -/
def escapeCode (n : Nat) : List Char :=
  if n < 0x100 then hexEscape 'x' 2 n
  else if n < 0x10000 then hexEscape 'u' 4 n
  else hexEscape 'U' 8 n

/-- A character inside quotes `q`. -/
def escapeChar (q c : Char) : List Char :=
  if c = q ∨ c = '\\' then ['\\', c]
  else if c = '\t' then ['\\', 't']
  else if c = '\n' then ['\\', 'n']
  else if c = '\r' then ['\\', 'r']
  else if isPrintable c then [c]
  else escapeCode c.toNat

/-- A text between quotes. -/
def quoteText (s : String) : String :=
  let q := quoteFor s.toList
  String.ofList (q :: (s.toList.flatMap (escapeChar q) ++ [q]))

/-- A byte inside quotes `q`: printable ASCII as it is, all else as an escape. -/
def escapeByte (q : Char) (b : UInt8) : List Char :=
  if b < 0x7F then escapeChar q (Char.ofNat b.toNat) else hexEscape 'x' 2 b.toNat

/-- A byte string between quotes, marked as one by a letter in front. -/
def quoteBytes (bs : List UInt8) : String :=
  let q := quoteFor (bs.map fun b => Char.ofNat b.toNat)
  String.ofList ('b' :: q :: (bs.flatMap (escapeByte q) ++ [q]))

end ResolverChain.Text
