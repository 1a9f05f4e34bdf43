/-
  Hosts tables: the addresses that a hosts file lists for each name.

  * a line of a hosts file is an address and names for it, between blanks;
    what follows a number sign is a comment, and a line without a name counts
    for nothing;
  * a `Table` keeps the names in the order in which they first occur, and for
    each name all its addresses in the order of the file;
  * `Table.ofSource` is the table of a whole file; the first thing in it that
    cannot be read is reported, and then there is no table.
-/
import ResolverChain.Hosts.Source

namespace ResolverChain.Hosts

/-- The addresses of each name. -/
abbrev Table := List (DomainName × List Address)

namespace Table

/-- The table with one more address for a name. -/
def add (n : DomainName) (a : Address) : Table → Table
  | [] => [(n, [a])]
  | (m, as) :: t => if m = n then (m, as ++ [a]) :: t else (m, as) :: add n a t

/-- The addresses of a name, if the table lists it. -/
def addresses? (t : Table) (n : DomainName) : Option (List Address) := t.lookup n

end Table

/-! ## Lines -/

/-- The fields of a line, without its comment. -/
def lineFields (line : String) : List String :=
  (Text.fields (line.toList.takeWhile (· != '#'))).map String.ofList

/-- The table with one more address for the name of a host. -/
def Table.addHost (a : Address) (t : Table) (host : String) : Except Failure Table := do
  return t.add (← ((Value.text host).toDomain).mapError .name) a

/-- The table with what a line lists. -/
def Table.addLine (t : Table) (line : String) : Except Failure Table :=
  match lineFields line with
  | literal :: host :: hosts => do
    let a ← (Value.parseAddress (.text host) (.text literal)).mapError .address
    (host :: hosts).foldlM (addHost a) t
  | _ => .ok t

/-! ## Files -/

/-- The table of some lines. -/
def Table.ofLines (lines : List String) : Except Failure Table := lines.foldlM addLine []

/-- The table of a source. -/
def Table.ofSource (source : Source) : Except Failure Table := do
  let t ← ofLines source.lines
  match source.failure with
  | none => return t
  | some failure => throw failure

end ResolverChain.Hosts
