/-
  Addresses of the two families.

  * an address is four octets, or eight groups of sixteen bits with an optional
    scope, the part of the network in which it counts;
  * `packed` are its bytes in the order of the network, and `ofPacked?` the
    address of four or sixteen bytes;
  * `ofNumber?` is the address with a given number, of the older family when
    the number is small enough;
  * `unscoped` drops the scope.
-/

namespace ResolverChain

/-- An address. -/
inductive Address where
  /-- Four octets. -/
  | v4 (octets : Vector UInt8 4)
  /-- Eight groups, and the scope in which the address counts. -/
  | v6 (groups : Vector UInt16 8) (scope : Option String)
deriving DecidableEq, Repr

/-- The list as a vector, if it has the right length. -/
def vectorOf? {α : Type} (n : Nat) (xs : List α) : Option (Vector α n) :=
  if h : xs.length = n then some ⟨xs.toArray, by simpa using h⟩ else none

namespace Address

/-- The two bytes of a group, the high one first. -/
def groupBytes (g : UInt16) : List UInt8 := [(g >>> 8).toUInt8, g.toUInt8]

/-- The bytes in the order of the network. -/
def packed : Address → List UInt8
  | v4 octets => octets.toList
  | v6 groups _ => groups.toList.flatMap groupBytes

/-- The group of two bytes, the high one first. -/
def groupOf (high low : UInt8) : UInt16 := high.toUInt16 <<< 8 ||| low.toUInt16

/-- Bytes joined to groups, a last odd one left out. -/
def groupsOf : List UInt8 → List UInt16
  | high :: low :: bs => groupOf high low :: groupsOf bs
  | _ => []

/-- The address of four or sixteen bytes. -/
def ofPacked? (bs : List UInt8) : Option Address :=
  if bs.length = 4 then (vectorOf? 4 bs).map v4
  else if bs.length = 16 then (vectorOf? 8 (groupsOf bs)).map (v6 · none)
  else none

/-- The lowest `count` bytes of a number, the highest of them first. -/
def bytesOfNumber (count n : Nat) : List UInt8 :=
  (List.range count).reverse.map fun i => (n / Nat.pow 256 i % 256).toUInt8

/-- The address with a given number. -/
def ofNumber? : Int → Option Address
  | .ofNat n =>
    if n < Nat.pow 2 32 then ofPacked? (bytesOfNumber 4 n)
    else if n < Nat.pow 2 128 then ofPacked? (bytesOfNumber 16 n)
    else none
  | .negSucc _ => none

/-- The address without its scope. -/
def unscoped : Address → Address
  | v4 octets => v4 octets
  | v6 groups _ => v6 groups none

/-- Whether the address is of the older, shorter family. -/
def isV4 : Address → Bool
  | v4 _ => true
  | v6 _ _ => false

end Address

end ResolverChain
