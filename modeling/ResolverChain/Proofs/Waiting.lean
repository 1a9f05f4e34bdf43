/-
  Lookups that wait, and the queries that they wait for.

  * some ends of a chain leave their queries open (`Resolver.Waits`); a call is either
    settled by the tables in front of them (`Step.atOnce?`) or becomes a query
    (`Resolver.query`);
  * a call that a session accepts starts the lookup of its question, or fails with the
    error of its argument (`step_of_accepted`, `step_of_unread`);
  * `Tied` is the invariant of sessions on such a chain: every open query is waited for
    by one lookup, and every lookup that waits, waits for an open query;
  * the lookup that waits ends in the step that decides it (`Step.decides?`), with the
    outcome that its query makes of the reply (`step_of_decides`).
-/
import ResolverChain.Proofs.Front

namespace ResolverChain

/-! ## Ends that leave queries open -/

/-- An end of a chain that leaves its queries open. -/
def Resolver.Waits (last : Resolver) : Prop := last = .recorder ∨ last = .network

/-- The query that such an end makes of a question. -/
def Resolver.query (last : Resolver) (q : Question) : Except Failure Query :=
  match last with
  | .network => q.domain.map fun domain => ⟨.network, { q with name := .name domain }⟩
  | _ => .ok ⟨.recorder, q⟩

section
variable {last : Resolver} {q : Question} {query : Query} {failure : Failure}

theorem ask_of_query (hlast : last.Waits) (h : last.query q = .ok query) :
    ask [last] q = { course := .waiting, heard := [(0, q)], sent := some (0, query) } := by
  rcases hlast with rfl | rfl
  · cases h; rfl
  · cases hq : q.domain with
    | error e => simp [Resolver.query, hq, Except.map] at h
    | ok domain =>
      simp only [Resolver.query, hq, Except.map, Except.ok.injEq] at h
      subst h
      simp [ask, hq, Reaction.hearing]

theorem ask_of_query_error (hlast : last.Waits) (h : last.query q = .error failure) :
    ask [last] q = { course := .refused failure, heard := [(0, q)] } := by
  rcases hlast with rfl | rfl
  · cases h
  · cases hq : q.domain with
    | error e =>
      simp only [Resolver.query, hq, Except.map, Except.error.injEq] at h
      subst h
      simp [ask, hq, Reaction.hearing, Reaction.refusal]
    | ok domain => simp [Resolver.query, hq, Except.map] at h

theorem carrier_of_query (h : last.query q = .ok query) : query.carrier ≠ .fixed := by
  unfold Resolver.query at h
  split at h
  · cases hq : q.domain with
    | error e => simp [hq, Except.map] at h
    | ok domain =>
      simp only [hq, Except.map, Except.ok.injEq] at h
      subst h; simp
  · cases h; simp

end

/-! ## Answers without any query -/

namespace Hosts

/-- The answer of the first table that lists the name of a question. -/
def firstAnswer? (tables : List Table) (q : Question) : Option Answer :=
  if answersClass q.cls then
    match q.domain with
    | .ok domain => (tables.findSome? (·.addresses? domain)).map (plainAnswer domain q.cls q.type)
    | .error _ => none
  else none

variable {tables : List Table} {q : Question} {place : Nat} {domain : DomainName}
  {addresses : List Address}

theorem firstAnswer?_of_answeredAt (h : AnsweredAt tables q place domain addresses) :
    firstAnswer? tables q = some (plainAnswer domain q.cls q.type addresses) := by
  obtain ⟨hcls, hname, hearlier, table, hplace, hsome⟩ := h
  obtain ⟨hlt, rfl⟩ := List.getElem?_eq_some_iff.1 hplace
  have hfirst : tables.findSome? (·.addresses? domain) = some addresses :=
    List.findSome?_eq_some_iff.2 ⟨tables.take place, tables[place], tables.drop (place + 1),
      by rw [← List.drop_eq_getElem_cons hlt, List.take_append_drop], hsome, hearlier⟩
  simp [firstAnswer?, answersClass_iff.2 hcls, domain_of_ok hname, hfirst]

theorem firstAnswer?_of_passedOn (h : PassedOn tables q) : firstAnswer? tables q = none := by
  unfold firstAnswer?
  split_ifs with hcls
  · cases hq : q.domain with
    | error failure => rfl
    | ok domain =>
      have hnone : tables.findSome? (·.addresses? domain) = none := by
        rw [List.findSome?_eq_none_iff]
        intro table htable
        obtain ⟨d, hname, hnone⟩ := h (answersClass_iff.1 hcls) table htable
        rw [domain_of_ok hname] at hq
        exact Except.ok.inj hq ▸ hnone
      simp [hnone]
  · rfl

end Hosts

/-! ## Calls and decisions -/

namespace Session

namespace Step

/-- The link that a step calls, what the lookup is wanted for, and its question. -/
def call? : Step → Option (Nat × Lookup.Use × Except Failure Question)
  | .resolve link q | .query link q => some (link, .plain, .ok q)
  | .typed link kind argument => some (link, .typed kind, questionOf kind argument)
  | .printed link kind name =>
    (Lookup.Kind.ofName? kind).map fun kind =>
      (link, .printed kind name, questionOf kind (.text name))
  | _ => none

/-- How a call ends if no query is needed: its argument cannot be read, there is no such
    link, or a table lists the name. -/
def atOnce? (tables : List Hosts.Table) (step : Step) : Option Lookup.Conclusion :=
  match step.call? with
  | some (link, use, .ok q) =>
    if tables.length < link then some (use.conclude (.error .unlinked))
    else (Hosts.firstAnswer? (tables.drop link) q).map fun a => use.conclude (.ok a)
  | some (_, use, .error failure) => some (use.conclude (.error failure))
  | none => none

/-- The reply with which a step decides a lookup, the query of which has a number among
    those that left from a place. -/
def decides? (place number lookup : Nat) : Step → Option Reply
  | .reply link n r => if link = place ∧ n = number then some r else none
  | .cancel k => if k = lookup then some (.failed .cancelled) else none
  | _ => none

/-- The query that a step cancels, if it decides the lookup that waits for it. -/
def cancels (place number : Nat) : Step → List (Nat × Nat)
  | .cancel _ => [(place, number)]
  | _ => []

end Step

/-! ## Accepted calls -/

section
variable {fs : FileSystem} {s : Session} {step : Step} {link : Nat} {use : Lookup.Use}
  {q : Question}

/-- The link that a step calls takes such calls. -/
def accepts (s : Session) : Step → Bool
  | .query link _ | .typed link _ _ | .printed link _ _ => !s.isUntyped link
  | _ => true

/-- A call that is accepted puts its question to the link. -/
theorem step_of_accepted (haccepts : s.accepts step = true)
    (hcall : step.call? = some (link, use, .ok q)) : s.step fs step = s.start link use q := by
  cases step with
  | resolve l q' => cases hcall; rfl
  | query l q' =>
    cases hcall
    rw [accepts, Bool.not_eq_true'] at haccepts
    simp [Session.step, startQuery, haccepts]
  | typed l kind argument =>
    simp only [Step.call?, Option.some.injEq, Prod.mk.injEq] at hcall
    obtain ⟨rfl, rfl, hq⟩ := hcall
    rw [accepts, Bool.not_eq_true'] at haccepts
    simp [Session.step, startTyped, haccepts, hq]
  | printed l kindName name =>
    simp only [Step.call?, Option.map_eq_some_iff, Prod.mk.injEq] at hcall
    obtain ⟨kind, hkind, rfl, rfl, hq⟩ := hcall
    rw [accepts, Bool.not_eq_true'] at haccepts
    simp [Session.step, hkind, startPrinted, haccepts, hq]
  | _ => cases hcall

/-- A lookup that prints ends at once if there is no question. -/
theorem step_of_unread {kind : Lookup.Kind} {name : String} {failure : Failure}
    (haccepts : s.accepts step = true)
    (hcall : step.call? = some (link, .printed kind name, .error failure)) :
    s.step fs step = s.settle (.printed kind name) (.error failure) := by
  cases step with
  | printed l kindName name =>
    simp only [Step.call?, Option.map_eq_some_iff, Prod.mk.injEq, Lookup.Use.printed.injEq]
      at hcall
    obtain ⟨kind, hkind, -, ⟨rfl, rfl⟩, hq⟩ := hcall
    rw [accepts, Bool.not_eq_true'] at haccepts
    simp [Session.step, hkind, startPrinted, haccepts, hq]
  | resolve | query | typed => simp [Step.call?] at hcall
  | _ => cases hcall

end

/-! ## Sessions that are tied -/

/-- The lookup waits for a query, or is over. -/
def WaitsFor (s : Session) (lookup : Nat) (query : Option Nat) : Prop :=
  ∃ use, s.lookups[lookup]? = some ⟨use, query⟩

/-- The query still waits for a reply, or does not. -/
def HasQuery (s : Session) (number : Nat) (isOpen : Bool) : Prop :=
  ∃ sent, s.sent[number]? = some sent ∧ sent.isOpen = isOpen

/-- **Every open query is waited for by one lookup**, on a chain of tables and a last
    link that leaves its queries open. -/
structure Tied (tables : List Hosts.Table) (last : Resolver) (s : Session) : Prop where
  chain : s.chain = tables.map .hosts ++ [last]
  /-- All queries left from the last link. -/
  origin : ∀ sent ∈ s.sent, sent.origin = tables.length ∧ sent.query.carrier ≠ .fixed
  awaited : ∀ number, s.HasQuery number true ↔ ∃ lookup, s.WaitsFor lookup (some number)
  single : ∀ {k k' number}, s.WaitsFor k (some number) → s.WaitsFor k' (some number) → k = k'

variable {tables : List Hosts.Table} {last : Resolver} {s : Session}

/-! ## Decisions -/

section
variable {k number : Nat} {use : Lookup.Use} {query : Query} {reply : Reply}

theorem waiterOf_eq (ht : s.Tied tables last) (h : s.WaitsFor k (some number)) :
    s.waiterOf number = some k := by
  obtain ⟨use, hk⟩ := h
  obtain ⟨hlt, heq⟩ := List.getElem?_eq_some_iff.1 hk
  refine List.findIdx?_eq_some_iff_getElem.2 ⟨hlt, by simp [heq], ?_⟩
  intro j hj hwaits
  have hj' : s.WaitsFor j (some number) := by
    refine ⟨s.lookups[j].use, List.getElem?_eq_some_iff.2 ⟨by omega, ?_⟩⟩
    rw [← beq_iff_eq.1 hwaits]
  exact absurd (ht.single hj' ⟨use, hk⟩) (by omega)

theorem numbersFrom_eq (ht : s.Tied tables last) :
    s.numbersFrom tables.length = List.range s.sent.length := by
  refine List.filter_eq_self.2 ?_
  intro i hi
  have hlt := List.mem_range.1 hi
  simp [List.getElem?_eq_getElem hlt, (ht.origin _ (List.getElem_mem hlt)).1]

theorem numbersFrom_eq_nil (ht : s.Tied tables last) {link : Nat} (h : link ≠ tables.length) :
    s.numbersFrom link = [] := by
  refine List.filter_eq_nil_iff.2 ?_
  intro i hi
  have hlt := List.mem_range.1 hi
  simp [List.getElem?_eq_getElem hlt, (ht.origin _ (List.getElem_mem hlt)).1, h.symm]

theorem complete_eq (ht : s.Tied tables last) (hk : s.lookups[k]? = some ⟨use, some number⟩)
    (hsent : s.sent[number]? = some ⟨tables.length, query, true⟩) :
    s.complete number reply =
      ({ s with
          sent := s.sent.set number ⟨tables.length, query, false⟩
          lookups := s.lookups.set k ⟨use, none⟩ },
        { result := .done
          fired := [(k, use.conclude (query.conclude reply).1)]
          log := (query.conclude reply).2 }) := by
  simp [complete, hsent, waiterOf_eq ht ⟨use, hk⟩, hk]

theorem length_takeWhile_range {n i : Nat} (h : i < n) :
    ((List.range n).takeWhile (· != i)).length = i := by
  obtain ⟨m, rfl⟩ := Nat.exists_eq_add_of_lt h
  rw [Nat.add_assoc, List.range_add, List.range_succ_eq_map, List.takeWhile_append_of_pos]
  · simp
  · intro j hj
    have := List.mem_range.1 hj
    simp only [bne_iff_ne]; omega

/-- **A decided lookup ends**, with the outcome that its query makes of the reply. -/
theorem step_of_decides (fs : FileSystem) (ht : s.Tied tables last)
    (hk : s.lookups[k]? = some ⟨use, some number⟩)
    (hsent : s.sent[number]? = some ⟨tables.length, query, true⟩) {step : Step}
    (hdecides : step.decides? tables.length number k = some reply) :
    s.step fs step =
      ({ s with
          sent := s.sent.set number ⟨tables.length, query, false⟩
          lookups := s.lookups.set k ⟨use, none⟩ },
        { result := .done
          cancelled := step.cancels tables.length number
          fired := [(k, use.conclude (query.conclude reply).1)]
          log := (query.conclude reply).2 }) := by
  have hlt := (List.getElem?_eq_some_iff.1 hsent).1
  cases step with
  | reply link n r =>
    simp only [Step.decides?, Option.ite_none_right_eq_some, Option.some.injEq] at hdecides
    obtain ⟨⟨rfl, rfl⟩, rfl⟩ := hdecides
    have hn : (s.numbersFrom tables.length)[n]? = some n := by
      rw [numbersFrom_eq ht, List.getElem?_range hlt]
    simp only [Session.step, replyTo, hn, hsent, if_true, complete_eq ht hk hsent]
    rfl
  | cancel k' =>
    simp only [Step.decides?, Option.ite_none_right_eq_some, Option.some.injEq] at hdecides
    obtain ⟨rfl, rfl⟩ := hdecides
    simp only [Session.step, cancelLookup, hk, complete_eq ht hk hsent, hsent, Option.toList_some,
      List.map_cons, List.map_nil, numbersFrom_eq ht, length_takeWhile_range hlt]
    rfl
  | _ => cases hdecides

end

end Session

end ResolverChain
