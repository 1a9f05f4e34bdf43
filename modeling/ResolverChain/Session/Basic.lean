/-
  Sessions: a chain of resolvers with the lookups made on it.

  * a `Session` keeps the chain, every query that left it, and every lookup; a
    lookup that is not over waits for the reply to one of the queries;
  * `build` sets up the chain, from its end to its front, since each link is
    built in front of the next one.
-/
import ResolverChain.Hosts.Loading
import ResolverChain.Lookup.Use

namespace ResolverChain

namespace Session

/-- A query that left the chain. -/
structure Sent where
  /-- The link that it left from. -/
  origin : Nat
  query : Query
  /-- Whether it still waits for a reply. -/
  isOpen : Bool
deriving Repr

/-- A lookup. -/
structure Pending where
  use : Lookup.Use
  /-- The number of the query that the lookup waits for, while it is not over. -/
  waitsFor : Option Nat
deriving Repr

end Session

/-- A chain of resolvers with the lookups made on it. -/
structure Session where
  chain : List Resolver
  /-- The queries that left the chain, in order. -/
  sent : List Session.Sent := []
  /-- The lookups, in order. -/
  lookups : List Session.Pending := []
deriving Repr

namespace Session

/-! ## Setting up a chain -/

/-- How a link is to be built. -/
inductive Link where
  /-- A hosts table, empty at first. -/
  | hosts
  /-- A hosts table loaded from a file, or from the platform's hosts file; at the
      end of a chain it is followed by a link that knows no names. -/
  | loaded (path encoding : Option String) (platformFile : String)
  | terminal (code : Int)
  | network
  | recorder
  | fixed (code : Int) (records : List Record)
  | bare
deriving Repr

/-- The end of a chain in which names that no table lists do not exist. -/
def defaultEnd : Resolver := .terminal ResultCode.name

/-- The chain with one more link in front, and what was noted. -/
def addLink (fs : FileSystem) (link : Link) (next : List Resolver) :
    Except Failure (List Resolver) × List Log.Event :=
  match link with
  | .hosts => (.ok (.hosts [] :: next), [])
  | .loaded path encoding platformFile =>
    let loaded := Hosts.createTable fs platformFile path encoding
    let next := if next.isEmpty then [defaultEnd] else next
    (loaded.table.map fun table => .hosts table :: next, loaded.log)
  | .terminal code => (.ok (.terminal code :: next), [])
  | .network => (.ok (.network :: next), [])
  | .recorder => (.ok (.recorder :: next), [])
  | .fixed code records => (.ok (.fixed code records :: next), [])
  | .bare => (.ok (.bare :: next), [])

/-- The chain of some links, and what was noted while it was built. -/
def buildChain (fs : FileSystem) : List Link → Except Failure (List Resolver) × List Log.Event
  | [] => (.ok [], [])
  | link :: links =>
    match buildChain fs links with
    | (.error failure, log) => (.error failure, log)
    | (.ok next, log) =>
      let (chain, more) := addLink fs link next
      (chain, log ++ more)

/-- A session on the chain of some links, without any lookup. -/
def build (fs : FileSystem) (links : List Link) : Except Failure Session × List Log.Event :=
  let (chain, log) := buildChain fs links
  (chain.map fun chain => { chain }, log)

end Session

end ResolverChain
