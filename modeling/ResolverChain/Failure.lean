/-
  Failures: the ways in which a lookup, or loading a table, comes to nothing.

  * `ServerError` lists what a resolver of the network reports of a query that
    it could not answer; `ServerError.code?` is the result code that a report
    stands for, if it stands for one;
  * `Failure` collects the failures of the whole library;
  * `Failure.message?` words a failure.
-/
import ResolverChain.Answer.Result
import ResolverChain.File.System
import ResolverChain.Text.Encoding.Basic
import ResolverChain.Value.Reading

namespace ResolverChain

/-! ## Reports from the network -/

/-- What a resolver of the network reports of a query. -/
inductive ServerError where
  | format
  | server
  | name
  | notImplemented
  | refused
  /-- The server gave a code that has no meaning of its own. -/
  | unknown
  /-- The name is not known, without a code to say so. -/
  | domain
  /-- The name is not known to a server that has the last word on it. -/
  | authoritative
  /-- No answer came in time. -/
  | timeout
  /-- The query could not be made. -/
  | resolver
deriving DecidableEq, Repr

namespace ServerError

/-- Whether the report is one about the domain asked for, with or without a code. -/
def isAboutDomain : ServerError → Bool
  | format | server | name | notImplemented | refused | unknown | domain => true
  | authoritative | timeout | resolver => false

/-- Whether a report is of a kind: every report about the domain is also of the kind
    of those that give no code. -/
def isOf (e kind : ServerError) : Bool := e == kind || (kind == domain && e.isAboutDomain)

/-- The kinds of reports that stand for a result code, in the order in which they are
    tried. -/
def codes : List (ServerError × Int) :=
  [(format, ResultCode.format), (server, ResultCode.server), (name, ResultCode.name),
    (notImplemented, ResultCode.notImplemented), (refused, ResultCode.refused),
    (domain, ResultCode.name)]

/-- The result code that a report stands for: that of the first of the kinds that it
    is of. -/
def code? (e : ServerError) : Option Int := (codes.find? fun (kind, _) => e.isOf kind).map (·.2)

end ServerError

/-! ## Failures -/

/-- Why a lookup, or loading a table, came to nothing. -/
inductive Failure where
  /-- A value is no name. -/
  | name (e : NameError)
  /-- A value is no address. -/
  | address (e : AddressError)
  /-- The query was not answered with success. -/
  | result (e : ResultError)
  /-- The bytes of an address record are no address. -/
  | packed (bytes : List UInt8)
  /-- A reply has another number of sections than three. -/
  | sections (count : Nat)
  /-- What is to be written, or told, cannot be put into words. -/
  | unwritable (reason : Unwritable)
  /-- The resolver answers no queries at all. -/
  | unanswerable
  /-- The resolver has no next one to ask. -/
  | unlinked
  /-- The resolver has no hosts table. -/
  | tableless
  /-- The resolver takes bare questions only. -/
  | untyped
  /-- There is no kind of lookup with this name. -/
  | unknownKind (kind : String)
  /-- The lookup was cancelled. -/
  | cancelled
  /-- The query has been completed before. -/
  | completed
  /-- A file cannot be opened. -/
  | file (e : FileError) (path : String)
  /-- Reading a file stopped before its end. -/
  | reading (e : FileError)
  /-- A file is not text. -/
  | decoding (fault : Text.Fault)
  /-- An encoding is not known. -/
  | encoding (e : Text.EncodingError)
  /-- A resolver of the network reported an error. -/
  | server (e : ServerError) (text : String)
  /-- A resolver failed in a way of its own. -/
  | foreign (kind text : String)
  /-- The command ends with a message. -/
  | exit (text : String)
deriving Repr

namespace Failure

/-- How a wrong number of sections is reported. -/
def sectionsMessage (count : Nat) : String :=
  if count < 3 then
    "not enough values to unpack (expected 3, got " ++ Text.Numeral.ofNat count ++ ")"
  else "too many values to unpack (expected 3)"

/-- What is reported of a failure, if what it shows can be written. -/
def message? : Failure → Except Unwritable String
  | name e => .ok e.message
  | address e => e.message?
  | result e => e.message?
  | packed bytes =>
    .ok (Text.quoteBytes bytes ++ " does not appear to be an IPv4 or IPv6 address")
  | sections count => .ok (sectionsMessage count)
  | unwritable reason => .ok reason.message
  | unanswerable => .ok "ResolverBase._resolve"
  | unlinked => .ok "'NoneType' object has no attribute 'resolve'"
  | tableless => .ok "the resolver has no hosts table"
  | untyped => .ok "the resolver takes bare questions only"
  | unknownKind kind => .ok (Text.quoteText kind)
  | cancelled => .ok ""
  | completed => .ok ""
  | file e path => .ok (e.message path)
  | reading e => .ok e.words
  | decoding fault => .ok fault.message
  | encoding e => .ok e.message
  | server _ text => .ok text
  | foreign _ text => .ok text
  | exit text => .ok text

end Failure

end ResolverChain
