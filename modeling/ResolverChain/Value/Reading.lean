/-
  Values read as names and as addresses.

  * `toDomain` is the normal name of a value: of a name or bytes as they are,
    of a text once it is encoded;
  * `toAddress?` is the address of a value: of a number or packed bytes
    directly, of any other value by its characters;
  * `parseAddress` and `reverseDomain` report what could not be read.
-/
import ResolverChain.Address.Reader
import ResolverChain.Address.Reverse
import ResolverChain.DomainName.Encoding
import ResolverChain.Value.Shown

namespace ResolverChain

/-- Why a value is no name. -/
inductive NameError where
  /-- There is no value. -/
  | missing
  /-- Values of this kind are never names. -/
  | unsupported (value : Value)
  /-- The same of a value that cannot be told. -/
  | untellable (reason : Unwritable)
  /-- The text cannot be encoded. -/
  | unencodable (name : String)
deriving Repr

/-- Why a value is no address. -/
inductive AddressError where
  /-- There is no value. -/
  | missing
  /-- The literal, given for a host if that is known, is no address. -/
  | invalid (host literal : Value)
deriving Repr

namespace Value

/-- Why a value is no name that is of a kind that never is. -/
def unsupportedError (v : Value) : NameError :=
  match v.quoted? with
  | .ok _ => .unsupported v
  | .error reason => .untellable reason

/-- The normal name of a value. -/
def toDomain : Value → Except NameError DomainName
  | nothing => .error .missing
  | name n => .ok (DomainName.normal n.bytes)
  | bytes bs => .ok (DomainName.normal bs)
  | text s =>
    match DomainName.ofText? s with
    | some n => .ok n
    | none => .error (.unencodable s)
  | v => .error v.unsupportedError

/-- The address of a value. -/
def toAddress? : Value → Option Address
  | truth b => Address.ofNumber? (if b then 1 else 0)
  | whole n => Address.ofNumber? n
  | bytes bs => Address.ofPacked? bs
  | v => v.shown?.toOption.bind Address.ofText?

/-- The address that a literal for a host stands for. -/
def parseAddress (host literal : Value) : Except AddressError Address :=
  match literal.toAddress? with
  | some a => .ok a
  | none => .error (.invalid host literal)

/-- The reverse name of a value's address. -/
def reverseDomain : Value → Except AddressError DomainName
  | nothing => .error .missing
  | address a => .ok a.reverseName
  | v =>
    match v.toAddress? with
    | some a => .ok a.reverseName
    | none => .error (.invalid nothing v)

end Value

/-- What is reported of a value that is no name. -/
def NameError.message : NameError → String
  | .missing => "name is None"
  | .unsupported value => value.quoted ++ " is not a domain name"
  | .untellable reason => reason.message
  | .unencodable name => name

/-- What is reported of a value that is no address. -/
def AddressError.message? : AddressError → Except Unwritable String
  | .missing => .ok "address is None"
  | .invalid .nothing literal => literal.quoted?.map ("Invalid address " ++ ·)
  | .invalid host literal => do
    return "Invalid address " ++ (← literal.quoted?) ++ " for host " ++ (← host.quoted?)

end ResolverChain
