/-
  Result codes: how a query went.

  * `ResultKind` tells the known codes of failed queries apart;
  * a `ResultError` reports a failed query, with the name that was asked for if
    it is known.
-/
import ResolverChain.Value.Shown

namespace ResolverChain

namespace ResultCode

/-- The query was answered. -/
def ok : Int := 0
/-- The server could not interpret the query. -/
def format : Int := 1
/-- The server could not process the query. -/
def server : Int := 2
/-- The name does not exist. -/
def name : Int := 3
/-- The server does not support this kind of query. -/
def notImplemented : Int := 4
/-- The server refused the query. -/
def refused : Int := 5

end ResultCode

/-- What a result code other than success means. -/
inductive ResultKind where
  /-- The server could not interpret the query. -/
  | format
  /-- The server could not process the query. -/
  | server
  /-- The name does not exist. -/
  | name
  /-- The server does not support this kind of query. -/
  | notImplemented
  /-- The server refused the query. -/
  | refused
  /-- The code has no meaning of its own. -/
  | unknown
deriving DecidableEq, Repr

/-- The meaning of a result code. -/
def ResultKind.ofCode (code : Int) : ResultKind :=
  if code = ResultCode.format then format
  else if code = ResultCode.server then server
  else if code = ResultCode.name then name
  else if code = ResultCode.notImplemented then notImplemented
  else if code = ResultCode.refused then refused
  else unknown

/-- A query that was not answered with success. -/
structure ResultError where
  /-- The result code, unless it was left open. -/
  code : Option Int
  /-- The name that was asked for, if it is known. -/
  name : Value
deriving Repr

namespace ResultError

/-- What the code means. -/
def kind (e : ResultError) : ResultKind := e.code.elim .unknown ResultKind.ofCode

/-- What was queried. -/
def subject? (e : ResultError) : Except Unwritable String :=
  match e.name with
  | .nothing => .ok "DNS query"
  | name => name.shown?.map ("DNS query for " ++ ·)

/-- The code in digits. -/
def codeText? (e : ResultError) : Except Unwritable String :=
  match e.code with
  | none => .error .code
  | some code => (Text.Integer.text? code).elim (.error .number) .ok

/-- What is reported. -/
def message? (e : ResultError) : Except Unwritable String := do
  let subject ← e.subject?
  let code ← e.codeText?
  return subject ++ " failed with result code " ++ code

end ResultError

end ResolverChain
