/-
  Reverse names: the domain names under which the owners of addresses publish
  the names of their hosts.

  * the octets of an address of the older family are written in decimal digits,
    the last one first, below `in-addr.arpa`;
  * of the newer family, the thirty-two hexadecimal digits are written one by
    one, the last one first, below `ip6.arpa`.
-/
import ResolverChain.Address.Printer
import ResolverChain.DomainName.Basic

namespace ResolverChain.Address

open Text

/-- The domain below which addresses of the older family have their names. -/
def zoneV4 : List Char := "in-addr.arpa".toList
/-- The domain below which addresses of the newer family have their names. -/
def zoneV6 : List Char := "ip6.arpa".toList

/-- The two hexadecimal digits of a byte. -/
def nibbles (b : UInt8) : List Nat := [b.toNat / 16, b.toNat % 16]

/-- The labels of a reverse name in front of its zone. -/
def reverseLabels : Address → List (List Char)
  | v4 octets => octets.toList.reverse.map fun b => Numeral.digits 10 b.toNat
  | v6 groups scope =>
    ((v6 groups scope).packed.flatMap nibbles).reverse.map fun d => [Numeral.digit d]

/-- The domain below which the reverse name stands. -/
def reverseZone (a : Address) : List Char := if a.isV4 then zoneV4 else zoneV6

/-- The characters of the reverse name. -/
def reverseChars (a : Address) : List Char := joined '.' (a.reverseLabels ++ [a.reverseZone])

/-- The reverse name of an address. -/
def reverseName (a : Address) : DomainName := ⟨DomainName.bytesOfAscii a.reverseChars⟩

end ResolverChain.Address
