/-
  The text of an address.

  * four octets are written in decimal digits, with dots between them;
  * eight groups are written in hexadecimal digits, with colons between them;
    the longest run of two or more zero groups, of several the first, shrinks
    to two colons; a scope follows a per cent sign.
-/
import ResolverChain.Address.Basic
import ResolverChain.Text.Numeral

namespace ResolverChain.Address

open Text

/-- Parts with a separator between them. -/
def joined (separator : Char) (parts : List (List Char)) : List Char :=
  [separator].intercalate parts

/-! ## The longest run of zeros -/

/-- A run of zero groups: where it begins, and how many groups it takes. -/
structure ZeroRun where
  start : Nat
  length : Nat
deriving DecidableEq, Repr

/-- The longest run of zeros in groups that begin at position `start`, of equally
    long ones the first. -/
def longestZeros (start : Nat) : List UInt16 → ZeroRun
  | [] => ⟨start, 0⟩
  | g :: gs =>
    let here : ZeroRun := ⟨start, ((g :: gs).takeWhile (· == 0)).length⟩
    let later := longestZeros (start + 1) gs
    if later.length ≤ here.length then here else later

/-! ## Writing -/

/-- Groups in hexadecimal digits, with colons between them. -/
def groupsText (gs : List UInt16) : List Char :=
  joined ':' (gs.map fun g => Numeral.digits 16 g.toNat)

/-- Eight groups with their longest run of zeros shrunk. -/
def compressed (gs : List UInt16) : List Char :=
  let zeros := longestZeros 0 gs
  if zeros.length < 2 then groupsText gs
  else
    groupsText (gs.take zeros.start) ++ ':' :: ':' ::
      groupsText (gs.drop (zeros.start + zeros.length))

/-- The characters of an address. -/
def toChars : Address → List Char
  | v4 octets => joined '.' (octets.toList.map fun b => Numeral.digits 10 b.toNat)
  | v6 groups none => compressed groups.toList
  | v6 groups (some scope) => compressed groups.toList ++ '%' :: scope.toList

/-- The text of an address. -/
def text (a : Address) : String := String.ofList a.toChars

end ResolverChain.Address
