/-
  Values: what callers may hand in where a name or an address is wanted.

  * a `Value` is nothing, a truth value, a number, a text, bytes, a domain name,
    an address or a list of values;
  * `Value.same` compares two values: names without regard to the case of ASCII
    letters, and numbers and truth values by their size.  What is no number is not equal
    to itself, but lists that hold the very same are.
-/
import ResolverChain.Address.Basic
import ResolverChain.DomainName.Basic
import ResolverChain.Double.Basic

namespace ResolverChain

/-- A value. -/
inductive Value where
  /-- No value at all. -/
  | nothing
  | truth (b : Bool)
  | whole (n : Int)
  | double (x : Double)
  | text (s : String)
  | bytes (bs : List UInt8)
  | name (n : DomainName)
  | address (a : Address)
  | list (items : List Value)
deriving Repr, Inhabited

namespace Value

/-- The exact size of a truth value or a finite number, in units of a double. -/
def inUnits? : Value → Option Int
  | truth b => some (Double.unitsOfInt (if b then 1 else 0))
  | whole n => some (Double.unitsOfInt n)
  | double x => x.inUnits?
  | _ => none

/-- Whether the two values are the very same double that is no number. -/
def isSameUndefined : Value → Value → Bool
  | double (.undefined i), double (.undefined j) => i == j
  | _, _ => false

mutual

/-- Whether two values are equal. -/
def same : Value → Value → Bool
  | nothing, nothing => true
  | text s, text t => s == t
  | bytes bs, bytes cs => bs == cs
  | name n, name m => n.same m
  | address a, address b => a == b
  | list xs, list ys => sameItems xs ys
  | double x, double y => x.same y
  | x, y =>
    match x.inUnits?, y.inUnits? with
    | some a, some b => a == b
    | _, _ => false

/-- Whether two lists hold equal values in the same places.  A value of a list that is the
    very same one is equal without a look at it, and what is no number is equal only then. -/
def sameItems : List Value → List Value → Bool
  | [], [] => true
  | x :: xs, y :: ys => (same x y || isSameUndefined x y) && sameItems xs ys
  | _, _ => false

end

end Value

end ResolverChain
