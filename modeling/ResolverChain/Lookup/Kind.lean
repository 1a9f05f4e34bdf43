/-
  Kinds of lookups: what can be asked about a host.

  * every kind asks one query, of a type of its own, for the normal name of its
    argument (`Kind.recordType`, `Kind.target`);
  * `Kind.found` makes of the answer what the kind looks for: addresses, the
    name behind an address, or texts; an answer without success is an error,
    and an answer without such records finds nothing.
-/
import ResolverChain.Answer.Basic
import ResolverChain.Failure

namespace ResolverChain.Lookup

/-- What is looked up. -/
inductive Kind where
  | allAddresses
  /-- The first address. -/
  | address
  | allIPv4
  | ipv4
  | allIPv6
  | ipv6
  /-- The name of the host with an address. -/
  | reverse
  | text
deriving DecidableEq, Repr

/-- What a lookup found. -/
inductive Found where
  | addresses (all : List Address)
  | address (first : Option Address)
  | pointer (target : Option DomainName)
  | texts (all : List (List UInt8))
deriving DecidableEq, Repr

/-! ## Queries -/

namespace Kind

/-- All kinds. -/
def all : List Kind :=
  [allAddresses, address, allIPv4, ipv4, allIPv6, ipv6, reverse, text]

/-- The name of a kind on the command line. -/
def name : Kind → String
  | allAddresses => "all-addresses"
  | address => "address"
  | allIPv4 => "all-ipv4"
  | ipv4 => "ipv4"
  | allIPv6 => "all-ipv6"
  | ipv6 => "ipv6"
  | reverse => "reverse"
  | text => "text"

/-- The kind with a name. -/
def ofName? (s : String) : Option Kind := all.find? (·.name == s)

/-- The type of the records that a kind asks for. -/
def recordType : Kind → Int
  | allAddresses | address => RecordType.all
  | allIPv4 | ipv4 => RecordType.a
  | allIPv6 | ipv6 => RecordType.aaaa
  | reverse => RecordType.ptr
  | text => RecordType.txt

/-- The name that a kind asks for. -/
def target (kind : Kind) (argument : Value) : Except Failure DomainName :=
  match kind with
  | reverse => argument.reverseDomain.mapError .address
  | _ => argument.toDomain.mapError .name

end Kind

/-! ## Contents of records -/

/-- The families of addresses that a lookup takes. -/
inductive Families where
  | both
  | onlyV4
  | onlyV6
deriving DecidableEq, Repr

/-- The packed address of a record, if it is of a family that is wanted. -/
def packedAddress? (families : Families) (record : Record) : Option (List UInt8) :=
  match families, record.content? with
  | .both, some (.a bytes) | .onlyV4, some (.a bytes) => some bytes
  | .both, some (.aaaa bytes) | .onlyV6, some (.aaaa bytes) => some bytes
  | _, _ => none

/-- The address of packed bytes. -/
def unpack (bytes : List UInt8) : Except Failure Address :=
  match Address.ofPacked? bytes with
  | some a => .ok a
  | none => .error (.packed bytes)

/-- The addresses of records, in order. -/
def allAddresses (families : Families) (records : List Record) : Except Failure (List Address) :=
  (records.filterMap (packedAddress? families)).mapM unpack

/-- The first address of records; no later one is looked at. -/
def firstAddress (families : Families) (records : List Record) :
    Except Failure (Option Address) :=
  match records.findSome? (packedAddress? families) with
  | none => .ok none
  | some bytes => (unpack bytes).map some

/-- The name that a record points to. -/
def pointerOf? (record : Record) : Option DomainName :=
  match record.content? with
  | some (.pointer target) => some target
  | _ => none

/-- The text of a record, its parts put together. -/
def textOf? (record : Record) : Option (List UInt8) :=
  match record.content? with
  | some (.texts data) => some data.flatten
  | _ => none

/-! ## Answers -/

/-- What a kind looks for, among the records of a successful answer. -/
def Kind.foundIn (kind : Kind) (records : List Record) : Except Failure Found :=
  match kind with
  | allAddresses => (Lookup.allAddresses .both records).map .addresses
  | address => (firstAddress .both records).map .address
  | allIPv4 => (Lookup.allAddresses .onlyV4 records).map .addresses
  | ipv4 => (firstAddress .onlyV4 records).map .address
  | allIPv6 => (Lookup.allAddresses .onlyV6 records).map .addresses
  | ipv6 => (firstAddress .onlyV6 records).map .address
  | reverse => .ok (.pointer (records.findSome? pointerOf?))
  | text => .ok (.texts (records.filterMap textOf?))

/-- What a kind finds in an answer. -/
def Kind.found (kind : Kind) (answer : Answer) : Except Failure Found := do
  let records ← answer.checked.mapError .result
  kind.foundIn records

end ResolverChain.Lookup
