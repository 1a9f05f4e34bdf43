/-
  How values are shown.

  * `quoted` shows a value so that its kind can be seen: a text in quotes, an
    address with its family; messages quote what was given to them;
  * `quoted?` does so unless a number in the value has too many digits;
  * `shown?` shows a text, a name or an address by its own characters, and any
    other value as `quoted?` does; a name that is not ASCII cannot be shown;
  * `Unwritable` is the reason why something cannot be shown.
-/
import ResolverChain.Address.Printer
import ResolverChain.Double.Printer
import ResolverChain.Text.Quoted
import ResolverChain.Value

namespace ResolverChain

/-- Why something cannot be put into words. -/
inductive Unwritable where
  /-- A name is not ASCII. -/
  | name
  /-- A number has too many digits. -/
  | number
  /-- There is no result code to tell. -/
  | code
deriving DecidableEq, Repr

/-- What is reported of the reason. -/
def Unwritable.message : Unwritable → String
  | name => "the name is not ASCII"
  | number =>
    "Exceeds the limit (" ++ Text.Numeral.ofNat Text.Integer.maxDigits ++
      " digits) for integer string conversion; " ++
      "use sys.set_int_max_str_digits() to increase the limit"
  | code => "%d format: a real number is required, not NoneType"

namespace Value

open Text

/-- An address with its family. -/
def quotedAddress (a : Address) : String :=
  (if a.isV4 then "IPv4Address(" else "IPv6Address(") ++ quoteText a.text ++ ")"

mutual

/-- The value with its kind. -/
def quoted : Value → String
  | nothing => "None"
  | truth b => if b then "True" else "False"
  | whole n => Numeral.ofInt n
  | double x => x.text
  | text s => quoteText s
  | bytes bs => quoteBytes bs
  | name n => "Name(" ++ quoteBytes n.bytes ++ ")"
  | address a => quotedAddress a
  | list items => "[" ++ ", ".intercalate (quotedItems items) ++ "]"

/-- Each value of a list with its kind. -/
def quotedItems : List Value → List String
  | [] => []
  | x :: xs => quoted x :: quotedItems xs

end

mutual

/-- Whether a number in the value has too many digits to be written. -/
def hasLongNumber : Value → Bool
  | whole n => Integer.isLong n
  | list items => anyLongNumber items
  | _ => false

/-- Whether a number in one of the values has too many digits. -/
def anyLongNumber : List Value → Bool
  | [] => false
  | x :: xs => hasLongNumber x || anyLongNumber xs

end

/-- The value with its kind, if it can be written. -/
def quoted? (v : Value) : Except Unwritable String :=
  if v.hasLongNumber then .error .number else .ok v.quoted

/-- The value by its own characters. -/
def shown? : Value → Except Unwritable String
  | text s => .ok s
  | name n => n.text?.elim (.error .name) .ok
  | address a => .ok a.text
  | v => v.quoted?

end Value

end ResolverChain
