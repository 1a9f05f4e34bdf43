/-
  Domain names, as the bytes that name a host.

  * a `DomainName` holds any bytes; two names are the same to the domain name
    system when they differ in the case of ASCII letters only (`same`);
  * `normal` is the form under which a name is looked up: in lower case, and
    without dots at its end.
-/
import ResolverChain.Text.Blank

namespace ResolverChain

/-- A domain name. -/
structure DomainName where
  bytes : List UInt8
deriving DecidableEq, Repr

namespace DomainName

/-- The byte of the dot between labels. -/
def dot : UInt8 := 0x2E

/-- An ASCII letter in lower case, and any other byte as it is. -/
def lowerByte (b : UInt8) : UInt8 := if 0x41 ≤ b && b ≤ 0x5A then b + 0x20 else b

/-- The bytes with all ASCII letters in lower case. -/
def lowerBytes (bs : List UInt8) : List UInt8 := bs.map lowerByte

/-- Whether two names differ in the case of ASCII letters at most. -/
def same (a b : DomainName) : Bool := lowerBytes a.bytes == lowerBytes b.bytes

/-- The name under which bytes are looked up. -/
def normal (bs : List UInt8) : DomainName := ⟨lowerBytes (Text.dropTrailing (· == dot) bs)⟩

/-- The bytes of ASCII characters. -/
def bytesOfAscii (cs : List Char) : List UInt8 := cs.map fun c => c.toNat.toUInt8

/-- The name as text, if it is ASCII. -/
def text? (n : DomainName) : Option String :=
  if n.bytes.all (· < 0x80) then some (String.ofList (n.bytes.map fun b => Char.ofNat b.toNat))
  else none

end DomainName

end ResolverChain
