/-
  Steps of a session.

  * a `Step` loads or shows a table, starts a lookup, replies to a query or
    cancels a lookup;
  * `Session.step` is the session after a step, and the step's `Report`: its
    result, and all that could be noticed meanwhile;
  * a lookup ends in the step that starts it, if no query has to be waited for,
    or else with the first reply to its query or when it is cancelled
    (`complete`).
-/
import ResolverChain.Session.Basic

namespace ResolverChain.Session

/-! ## Steps and their reports -/

/-- One step. -/
inductive Step where
  /-- Replace the table of a link by that of a source. -/
  | load (link : Nat) (source : Hosts.Source)
  /-- Replace the table of a link by that of a file. -/
  | loadFile (link : Nat) (path : String) (encoding : Option String)
  /-- Show the table of a link. -/
  | table (link : Nat)
  /-- Put a question to a link. -/
  | resolve (link : Nat) (question : Question)
  /-- Put a question to a link as one message. -/
  | query (link : Nat) (question : Question)
  /-- Look up what a kind looks for. -/
  | typed (link : Nat) (kind : Lookup.Kind) (argument : Value)
  /-- Look up what a kind looks for and print it. -/
  | printed (link : Nat) (kind : String) (name : String)
  /-- Show a link. -/
  | shown (link : Nat)
  /-- Reply to a query, counted among those that left from the link. -/
  | reply (link : Nat) (number : Nat) (reply : Reply)
  /-- Cancel a lookup. -/
  | cancel (lookup : Nat)
deriving Repr

/-- The result of a step. -/
inductive Result where
  | failed (failure : Failure)
  /-- A table was loaded that lists so many names. -/
  | loaded (names : Nat)
  | table (t : Hosts.Table)
  /-- A lookup was started; what it has written so far, if it prints. -/
  | lookup (number : Nat) (output : Option String)
  | shown (text : String)
  | done
  /-- There is no such query or lookup. -/
  | skipped
deriving Repr

/-- The result of a step, and all that could be noticed meanwhile. -/
structure Report where
  result : Result
  /-- The queries that left the chain, each with the link that it left from. -/
  queries : List (Nat × Query) := []
  /-- The queries that were cancelled: their links, and their numbers there. -/
  cancelled : List (Nat × Nat) := []
  /-- The lookups that ended, each with its end. -/
  fired : List (Nat × Lookup.Conclusion) := []
  log : List Log.Event := []
deriving Repr

/-! ## Tables -/

/-- The session with the table of a link replaced by what was loaded, if it was. -/
def install (s : Session) (link : Nat) (loaded : Hosts.Loaded) : Session × Report :=
  match s.chain[link]?, loaded.table with
  | some (.hosts _), .ok table =>
    ({ s with chain := s.chain.set link (.hosts table) },
      { result := .loaded table.length, log := loaded.log })
  | some (.hosts _), .error failure => (s, { result := .failed failure, log := loaded.log })
  | _, _ => (s, { result := .failed .tableless })

/-- The table of a link. -/
def tableAt (s : Session) (link : Nat) : Result :=
  match s.chain[link]? with
  | some (.hosts table) => .table table
  | _ => .failed .tableless

/-- A link as it shows itself; without one there is nothing to show. -/
def shownAt (s : Session) (link : Nat) : Result :=
  match s.chain[link]? with
  | none => .shown ""
  | some resolver => resolver.text?.elim (.failed (.unwritable .number)) .shown

/-! ## Starting lookups -/

/-- What a lookup that prints has written so far. -/
def shownOutput (use : Lookup.Use) (output : String) : Option String :=
  match use with
  | .printed _ _ => some output
  | _ => none

/-- A lookup that ends at once. -/
def settle (s : Session) (use : Lookup.Use) (answer : Except Failure Answer) :
    Session × Report :=
  let number := s.lookups.length
  let conclusion := use.conclude answer
  ({ s with lookups := s.lookups ++ [⟨use, none⟩] },
    { result := .lookup number (shownOutput use conclusion.output)
      fired := [(number, conclusion)] })

/-- The query that left the chain in a reaction, if one did. -/
def sentIn (link : Nat) (reaction : Reaction) : Option Sent :=
  reaction.sent.map fun (depth, query) =>
    ⟨link + depth, query, match reaction.course with | .waiting => true | _ => false⟩

/-- A lookup that waits for the query with a number. -/
def wait (s : Session) (use : Lookup.Use) (query : Nat) : Session × Report :=
  ({ s with lookups := s.lookups ++ [⟨use, some query⟩] },
    { result := .lookup s.lookups.length (shownOutput use "") })

/-- Starts a lookup after what came of its question; `query` is the number of the
    query that left the chain, if one did.  A question that is refused starts no
    lookup, unless the lookup prints: then the refusal is its outcome. -/
def follow (s : Session) (use : Lookup.Use) (query : Nat) : Course → Session × Report
  | .waiting => s.wait use query
  | .settled answer => s.settle use answer
  | .refused failure =>
    match use with
    | .printed _ _ => s.settle use (.error failure)
    | _ => (s, { result := .failed failure })

/-- Puts a question to a link and starts a lookup. -/
def start (s : Session) (link : Nat) (use : Lookup.Use) (question : Question) :
    Session × Report :=
  let reaction := ask (s.chain.drop link) question
  let sent := (sentIn link reaction).toList
  let asked : Session := { s with sent := s.sent ++ sent }
  let (after, report) := asked.follow use s.sent.length reaction.course
  (after,
    { report with
      queries := sent.map fun q => (q.origin, q.query)
      log := reaction.log })

/-- Whether a link takes bare questions only, neither messages nor lookups of a
    kind. -/
def isUntyped (s : Session) (link : Nat) : Bool :=
  match s.chain[link]? with
  | some .recorder => true
  | _ => false

/-- Puts a question to a link as one message. -/
def startQuery (s : Session) (link : Nat) (question : Question) : Session × Report :=
  if s.isUntyped link then (s, { result := .failed .untyped })
  else s.start link .plain question

/-- The question of a kind about its argument. -/
def questionOf (kind : Lookup.Kind) (argument : Value) : Except Failure Question :=
  (kind.target argument).map fun domain => { name := .name domain, type := kind.recordType }

/-- Starts a lookup of a kind. -/
def startTyped (s : Session) (link : Nat) (kind : Lookup.Kind) (argument : Value) :
    Session × Report :=
  if s.isUntyped link then (s, { result := .failed .untyped })
  else
    match questionOf kind argument with
    | .ok question => s.start link (.typed kind) question
    | .error failure => (s, { result := .failed failure })

/-- Starts a lookup of a kind that prints. -/
def startPrinted (s : Session) (link : Nat) (kind : Lookup.Kind) (name : String) :
    Session × Report :=
  if s.isUntyped link then (s, { result := .failed .untyped })
  else
    match questionOf kind (.text name) with
    | .ok question => s.start link (.printed kind name) question
    | .error failure => s.settle (.printed kind name) (.error failure)

/-! ## Ending lookups -/

/-- The number of the lookup that waits for a query. -/
def waiterOf (s : Session) (query : Nat) : Option Nat :=
  s.lookups.findIdx? (·.waitsFor == some query)

/-- Closes a query with a reply; the lookup that waits for it ends. -/
def complete (s : Session) (number : Nat) (reply : Reply) : Session × Report :=
  match s.sent[number]? with
  | none => (s, { result := .skipped })
  | some sent =>
    let (answer, log) := sent.query.conclude reply
    let closed := { s with sent := s.sent.set number { sent with isOpen := false } }
    match s.waiterOf number with
    | none => (closed, { result := .done, log })
    | some waiter =>
      match s.lookups[waiter]? with
      | none => (closed, { result := .done, log })
      | some pending =>
        ({ closed with lookups := s.lookups.set waiter { pending with waitsFor := none } },
          { result := .done, fired := [(waiter, pending.use.conclude answer)], log })

/-- The numbers of the queries that left from a link. -/
def numbersFrom (s : Session) (link : Nat) : List Nat :=
  (List.range s.sent.length).filter fun i => s.sent[i]?.any fun q => q.origin == link

/-- Replies to a query of a link; each query takes one reply. -/
def replyTo (s : Session) (link number : Nat) (reply : Reply) : Session × Report :=
  match (s.numbersFrom link)[number]? with
  | none => (s, { result := .skipped })
  | some i =>
    match s.sent[i]? with
    | none => (s, { result := .skipped })
    | some sent =>
      if sent.isOpen then s.complete i reply
      else if sent.query.carrier = .fixed then (s, { result := .skipped })
      else (s, { result := .failed .completed })

/-- Cancels a lookup; one that is over stays as it is. -/
def cancelLookup (s : Session) (number : Nat) : Session × Report :=
  match s.lookups[number]? with
  | none => (s, { result := .skipped })
  | some pending =>
    match pending.waitsFor with
    | none => (s, { result := .done })
    | some i =>
      let (after, report) := s.complete i (.failed .cancelled)
      let places := (s.sent[i]?).toList.map fun q =>
        (q.origin, ((s.numbersFrom q.origin).takeWhile (· != i)).length)
      (after, { report with cancelled := places })

/-! ## Steps -/

/-- The session after a step, and what the step came to. -/
def step (fs : FileSystem) (s : Session) : Step → Session × Report
  | .load link source => s.install link (Hosts.load source)
  | .loadFile link path encoding => s.install link (Hosts.loadFile fs path encoding)
  | .table link => (s, { result := s.tableAt link })
  | .resolve link question => s.start link .plain question
  | .query link question => s.startQuery link question
  | .typed link kind argument => s.startTyped link kind argument
  | .printed link kind name =>
    match Lookup.Kind.ofName? kind with
    | some kind => s.startPrinted link kind name
    | none => (s, { result := .failed (.unknownKind kind) })
  | .shown link => (s, { result := s.shownAt link })
  | .reply link number reply => s.replyTo link number reply
  | .cancel number => s.cancelLookup number

/-- The reports of several steps. -/
def run (fs : FileSystem) (s : Session) : List Step → List Report
  | [] => []
  | step :: steps => (s.step fs step).2 :: run fs (s.step fs step).1 steps

end ResolverChain.Session
