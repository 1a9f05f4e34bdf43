/-
  What a step can do to a session.

  * `Effect` lists it: nothing to any lookup, a lookup that ends at once, one that is
    started and waits for a query of its own, or the end of one that waits;
  * `step_effect` says that nothing else can happen.
-/
import ResolverChain.Proofs.Waiting

namespace ResolverChain

namespace Session

/-- What a step can do to a session that is tied. -/
inductive Effect (tables : List Hosts.Table) (last : Resolver) (s : Session) :
    Step → Session → Report → Prop
  /-- Nothing happens to lookups and queries. -/
  | idle {step : Step} {report : Report} (reloaded : List Hosts.Table)
      (size : reloaded.length = tables.length)
      (result : ∀ k output, report.result ≠ .lookup k output)
      (silent : report.queries = [] ∧ report.cancelled = [] ∧ report.fired = [])
      (undecided : ∀ k number, s.WaitsFor k (some number) →
        step.decides? tables.length number k = none) :
      Effect tables last s step { s with chain := reloaded.map .hosts ++ [last] } report
  /-- A lookup ends in the step that starts it. -/
  | settled {step : Step} {use : Lookup.Use} {conclusion : Lookup.Conclusion}
      {output : Option String} {log : List Log.Event}
      (atOnce : step.atOnce? tables = some conclusion) :
      Effect tables last s step { s with lookups := s.lookups ++ [⟨use, none⟩] }
        { result := .lookup s.lookups.length output
          fired := [(s.lookups.length, conclusion)]
          log }
  /-- A lookup is started that waits for a query. -/
  | delegated {step : Step} {link : Nat} {use : Lookup.Use} {q : Question} {query : Query}
      {output : Option String} {log : List Log.Event}
      (atOnce : step.atOnce? tables = none)
      (call : step.call? = some (link, use, .ok q)) (sends : last.query q = .ok query) :
      Effect tables last s step
        { s with
          sent := s.sent ++ [⟨tables.length, query, true⟩]
          lookups := s.lookups ++ [⟨use, some s.sent.length⟩] }
        { result := .lookup s.lookups.length output
          queries := [(tables.length, query)]
          log }
  /-- A lookup that waits is decided. -/
  | ended {step : Step} {k number : Nat} {use : Lookup.Use} {query : Query} {reply : Reply}
      (waits : s.lookups[k]? = some ⟨use, some number⟩)
      (sent : s.sent[number]? = some ⟨tables.length, query, true⟩)
      (decides : step.decides? tables.length number k = some reply) :
      Effect tables last s step
        { s with
          sent := s.sent.set number ⟨tables.length, query, false⟩
          lookups := s.lookups.set k ⟨use, none⟩ }
        { result := .done
          cancelled := step.cancels tables.length number
          fired := [(k, use.conclude (query.conclude reply).1)]
          log := (query.conclude reply).2 }

variable {tables : List Hosts.Table} {last : Resolver} {s : Session}

/-! ## Steps that call nothing -/

theorem sent_of_open (ht : s.Tied tables last) {number : Nat} (h : s.HasQuery number true) :
    ∃ query, s.sent[number]? = some ⟨tables.length, query, true⟩ := by
  obtain ⟨⟨origin, query, isOpen⟩, hsent, hopen⟩ := h
  obtain rfl : isOpen = true := hopen
  obtain ⟨rfl, -⟩ : origin = tables.length ∧ _ := ht.origin _ (List.mem_of_getElem? hsent)
  exact ⟨query, hsent⟩

/-- A step that leaves a session as it is and reports no event. -/
theorem Effect.unchanged {step : Step} {report : Report} (ht : s.Tied tables last)
    (result : ∀ k output, report.result ≠ .lookup k output)
    (silent : report.queries = [] ∧ report.cancelled = [] ∧ report.fired = [])
    (undecided : ∀ k number, s.WaitsFor k (some number) →
      step.decides? tables.length number k = none) :
    Effect tables last s step s report := by
  have h : Effect tables last s step { s with chain := tables.map .hosts ++ [last] } report :=
    .idle tables rfl result silent undecided
  rwa [← ht.chain] at h

theorem decides?_of_call {step : Step} {call : Nat × Lookup.Use × Except Failure Question}
    (h : step.call? = some call) (place number lookup : Nat) :
    step.decides? place number lookup = none := by
  cases step <;> first | rfl | cases h

/-- A table that is replaced stands in front of the last link, and its successor too. -/
theorem chain_set_hosts (hend : ∀ table, last ≠ .hosts table)
    (hchain : s.chain = tables.map .hosts ++ [last]) {link : Nat} {old : Hosts.Table}
    (hlink : s.chain[link]? = some (.hosts old)) (table : Hosts.Table) :
    s.chain.set link (.hosts table) = (tables.set link table).map .hosts ++ [last] := by
  have hlt : link < tables.length := by
    by_contra hge
    rw [hchain, List.getElem?_append_right (by simpa using hge), List.getElem?_singleton] at hlink
    split_ifs at hlink
    exact hend old (Option.some.inj hlink)
  rw [hchain, List.set_append, if_pos (by simpa using hlt), List.map_set]

/-- Loading a table does nothing to lookups and queries. -/
theorem install_effect (ht : s.Tied tables last) (hlast : last.Waits) {step : Step}
    (undecided : ∀ k number, step.decides? tables.length number k = none) (link : Nat)
    (loaded : Hosts.Loaded) :
    Effect tables last s step (s.install link loaded).1 (s.install link loaded).2 := by
  have hend : ∀ table, last ≠ .hosts table := by rcases hlast with rfl | rfl <;> simp
  unfold install
  split
  · rename_i old table hlink htable
    rw [chain_set_hosts hend ht.chain hlink table]
    exact .idle _ (by simp) (by simp) (by simp) fun k number _ => undecided k number
  all_goals exact .unchanged ht (by simp) (by simp) fun k number _ => undecided k number

/-- A query takes one reply. -/
theorem replyTo_closed (ht : s.Tied tables last) {sent : Sent} {n : Nat}
    (hsent : s.sent[n]? = some sent) (hclosed : sent.isOpen = false) (r : Reply) :
    s.replyTo tables.length n r = (s, { result := .failed .completed }) := by
  have hn : (s.numbersFrom tables.length)[n]? = some n := by
    rw [numbersFrom_eq ht, List.getElem?_range (List.getElem?_eq_some_iff.1 hsent).1]
  have hcarrier := (ht.origin _ (List.mem_of_getElem? hsent)).2
  simp [replyTo, hn, hsent, hclosed, hcarrier]

/-- There is nothing to reply to at a link that sent no such query. -/
theorem replyTo_skipped (ht : s.Tied tables last) {link n : Nat}
    (h : link ≠ tables.length ∨ s.sent.length ≤ n) (r : Reply) :
    s.replyTo link n r = (s, { result := .skipped }) := by
  by_cases hlink : link = tables.length
  · subst hlink
    have hle : s.sent.length ≤ n := h.resolve_left fun h => h rfl
    simp [replyTo, numbersFrom_eq ht, hle]
  · simp [replyTo, numbersFrom_eq_nil ht hlink]

theorem reply_effect (fs : FileSystem) (ht : s.Tied tables last) (link n : Nat) (r : Reply) :
    Effect tables last s (.reply link n r) (s.replyTo link n r).1 (s.replyTo link n r).2 := by
  by_cases hopen : link = tables.length ∧ s.HasQuery n true
  · obtain ⟨rfl, hopen⟩ := hopen
    obtain ⟨query, hsent⟩ := sent_of_open ht hopen
    obtain ⟨k, use, hk⟩ := (ht.awaited n).1 hopen
    have hdecides : (Step.reply tables.length n r).decides? tables.length n k = some r := by
      simp [Step.decides?]
    have hstep := step_of_decides fs ht hk hsent hdecides
    rw [Session.step] at hstep
    rw [hstep]
    exact .ended hk hsent hdecides
  · have hundecided : ∀ k number, s.WaitsFor k (some number) →
        (Step.reply link n r).decides? tables.length number k = none := by
      intro k number hk
      refine if_neg fun h => hopen ⟨h.1, ?_⟩
      rw [h.2]
      exact (ht.awaited number).2 ⟨k, hk⟩
    by_cases hlink : link ≠ tables.length ∨ s.sent.length ≤ n
    · rw [replyTo_skipped ht hlink]
      exact .unchanged ht (by simp) (by simp) hundecided
    · obtain ⟨rfl, hlt⟩ := not_or.1 hlink |>.imp not_not.1 not_le.1
      have hsent := List.getElem?_eq_getElem hlt
      have hclosed : s.sent[n].isOpen = false :=
        Bool.eq_false_iff.2 fun h => hopen ⟨rfl, _, hsent, h⟩
      rw [replyTo_closed ht hsent hclosed]
      exact .unchanged ht (by simp) (by simp) hundecided

theorem cancel_effect (fs : FileSystem) (ht : s.Tied tables last) (k : Nat) :
    Effect tables last s (.cancel k) (s.cancelLookup k).1 (s.cancelLookup k).2 := by
  by_cases hwaits : ∃ number, s.WaitsFor k (some number)
  · obtain ⟨number, use, hk⟩ := hwaits
    obtain ⟨query, hsent⟩ := sent_of_open ht ((ht.awaited number).2 ⟨k, use, hk⟩)
    have hdecides : (Step.cancel k).decides? tables.length number k =
        some (.failed .cancelled) := by simp [Step.decides?]
    have hstep := step_of_decides fs ht hk hsent hdecides
    rw [Session.step] at hstep
    rw [hstep]
    exact .ended hk hsent hdecides
  · have hundecided : ∀ k' number, s.WaitsFor k' (some number) →
        (Step.cancel k).decides? tables.length number k' = none := by
      intro k' number hk'
      refine if_neg fun h => hwaits ⟨number, ?_⟩
      rw [h]; exact hk'
    unfold cancelLookup
    split
    · exact .unchanged ht (by simp) (by simp) hundecided
    · rename_i pending hk
      obtain ⟨use, waitsFor⟩ := pending
      cases waitsFor with
      | none => exact .unchanged ht (by simp) (by simp) hundecided
      | some number => exact absurd ⟨number, use, hk⟩ hwaits

/-! ## Calls -/

/-- A refusal is the outcome of a lookup that prints. -/
theorem start_of_refused_printed {link : Nat} {q : Question} {kind : Lookup.Kind} {name : String}
    {r : Reaction} {failure : Failure} (hask : ask (s.chain.drop link) q = r)
    (hcourse : r.course = .refused failure) (hsent : r.sent = none) :
    s.start link (.printed kind name) q =
      ({ s with lookups := s.lookups ++ [⟨.printed kind name, none⟩] },
        { result := .lookup s.lookups.length
            (some ((Lookup.Use.printed kind name).conclude (.error failure)).output)
          fired := [(s.lookups.length, (Lookup.Use.printed kind name).conclude (.error failure))]
          log := r.log }) := by
  simp [start, hask, sentIn, hsent, hcourse, follow, settle, shownOutput]

/-- The question of a lookup that prints is about a name that can be read. -/
theorem domain_of_call {step : Step} {link : Nat} {kind : Lookup.Kind} {name : String}
    {q : Question} (h : step.call? = some (link, .printed kind name, .ok q)) :
    ∃ domain, q.name.toDomain = .ok domain := by
  cases step with
  | printed l k n =>
    simp only [Step.call?, Option.map_eq_some_iff, Prod.mk.injEq] at h
    obtain ⟨kind', -, -, -, hq⟩ := h
    unfold questionOf at hq
    cases htarget : kind'.target (.text n) with
    | error e => simp [htarget, Except.map] at hq
    | ok d =>
      simp only [htarget, Except.map, Except.ok.injEq] at hq
      exact ⟨_, by rw [← hq]; rfl⟩
  | _ => simp [Step.call?] at h

section
variable {step : Step} {link : Nat} {use : Lookup.Use} {q : Question}

theorem atOnce?_of_unlinked (hcall : step.call? = some (link, use, .ok q))
    (hlink : tables.length < link) :
    step.atOnce? tables = some (use.conclude (.error .unlinked)) := by
  simp [Step.atOnce?, hcall, hlink]

theorem atOnce?_of_linked (hcall : step.call? = some (link, use, .ok q))
    (hlink : link ≤ tables.length) :
    step.atOnce? tables =
      (Hosts.firstAnswer? (tables.drop link) q).map fun a => use.conclude (.ok a) := by
  simp [Step.atOnce?, hcall, not_lt.2 hlink]

theorem ask_of_linked (ht : s.Tied tables last) (hlink : link ≤ tables.length) :
    ask (s.chain.drop link) q = Hosts.front (ask [last]) (tables.drop link) q := by
  rw [ht.chain, List.drop_append_of_le_length (by simpa using hlink), ← List.map_drop,
    ask_hosts_append]

theorem ask_of_unlinked (ht : s.Tied tables last) (hlink : tables.length < link) :
    ask (s.chain.drop link) q = .refusal .unlinked := by
  rw [ht.chain, List.drop_eq_nil_of_le (by simpa using hlink)]; rfl

/-- A question that is refused starts no lookup, unless the lookup prints. -/
theorem refused_effect (ht : s.Tied tables last) (hcall : step.call? = some (link, use, .ok q))
    {r : Reaction} {failure : Failure} (hask : ask (s.chain.drop link) q = r)
    (hcourse : r.course = .refused failure) (hsent : r.sent = none)
    (hprinted : ∀ kind name, use = .printed kind name →
      step.atOnce? tables = some (use.conclude (.error failure))) :
    Effect tables last s step (s.start link use q).1 (s.start link use q).2 := by
  by_cases huse : ∃ kind name, use = .printed kind name
  · obtain ⟨kind, name, rfl⟩ := huse
    rw [start_of_refused_printed hask hcourse hsent]
    exact .settled (hprinted kind name rfl)
  · have huse : ∀ kind name, use ≠ .printed kind name := fun kind name h => huse ⟨kind, name, h⟩
    rw [start_of_refused hask hcourse hsent huse]
    exact .unchanged ht (by simp) (by simp) fun k number _ => decides?_of_call hcall _ _ _

/-- A question that the tables pass on becomes a query of the last link. -/
theorem start_of_passedOn (ht : s.Tied tables last) (hlast : last.Waits)
    (hlink : link ≤ tables.length) (h : Hosts.PassedOn (tables.drop link) q) {query : Query}
    (hquery : last.query q = .ok query) (use : Lookup.Use) :
    s.start link use q =
      ({ s with
          sent := s.sent ++ [⟨tables.length, query, true⟩]
          lookups := s.lookups ++ [⟨use, some s.sent.length⟩] },
        { result := .lookup s.lookups.length (shownOutput use "")
          queries := [(tables.length, query)] }) := by
  have hask := ask_of_linked (q := q) ht hlink
  rw [Hosts.front_of_passedOn h, ask_of_query hlast hquery] at hask
  have hplace : link + (0 + (tables.drop link).length) = tables.length := by simp; omega
  rw [start_of_waiting hask rfl rfl, hplace]
  rfl

/-- A question that the tables pass on starts a lookup that waits, or is refused. -/
theorem passedOn_effect (ht : s.Tied tables last) (hlast : last.Waits)
    (hcall : step.call? = some (link, use, .ok q)) (hlink : link ≤ tables.length)
    (h : Hosts.PassedOn (tables.drop link) q) :
    Effect tables last s step (s.start link use q).1 (s.start link use q).2 := by
  cases hquery : last.query q with
  | ok query =>
    rw [start_of_passedOn ht hlast hlink h hquery]
    refine .delegated ?_ hcall hquery
    rw [atOnce?_of_linked hcall hlink, Hosts.firstAnswer?_of_passedOn h]; rfl
  | error failure =>
    have hask := ask_of_linked (q := q) ht hlink
    rw [Hosts.front_of_passedOn h, ask_of_query_error hlast hquery] at hask
    refine refused_effect ht hcall hask rfl rfl ?_
    rintro kind name rfl
    obtain ⟨domain, hdomain⟩ := domain_of_call hcall
    rcases hlast with rfl | rfl
    · cases hquery
    · simp [Resolver.query, Hosts.domain_of_ok hdomain, Except.map] at hquery

/-- What a call of a link comes to. -/
theorem start_effect (ht : s.Tied tables last) (hlast : last.Waits)
    (hcall : step.call? = some (link, use, .ok q)) :
    Effect tables last s step (s.start link use q).1 (s.start link use q).2 := by
  rcases lt_or_ge tables.length link with hlink | hlink
  · exact refused_effect ht hcall (ask_of_unlinked ht hlink) rfl rfl
      fun _ _ _ => atOnce?_of_unlinked hcall hlink
  · rcases Hosts.front_cases (tables.drop link) q with h | ⟨place, domain, addresses, h⟩ | ⟨e, h⟩
    · exact passedOn_effect ht hlast hcall hlink h
    · have hask := ask_of_linked (q := q) ht hlink
      rw [Hosts.front_of_answeredAt h, Hosts.behind_answering] at hask
      rw [start_of_settled hask rfl rfl]
      refine .settled ?_
      rw [atOnce?_of_linked hcall hlink, Hosts.firstAnswer?_of_answeredAt h]; rfl
    · have hask := ask_of_linked (q := q) ht hlink
      rw [Hosts.front_of_refused h] at hask
      refine refused_effect ht hcall hask rfl rfl ?_
      rintro kind name rfl
      obtain ⟨domain, hdomain⟩ := domain_of_call hcall
      cases hdomain.symm.trans h.name

end

/-- **All that a step can do** to a session that is tied. -/
theorem step_effect (fs : FileSystem) (ht : s.Tied tables last) (hlast : last.Waits)
    (step : Step) : Effect tables last s step (s.step fs step).1 (s.step fs step).2 := by
  have hidle : ∀ {step : Step} {call} (_ : step.call? = some call) (k number : Nat),
      s.WaitsFor k (some number) → step.decides? tables.length number k = none :=
    fun hcall k number _ => decides?_of_call hcall _ _ _
  cases step with
  | load link source => exact install_effect ht hlast (fun _ _ => rfl) link _
  | loadFile link path encoding => exact install_effect ht hlast (fun _ _ => rfl) link _
  | table link =>
    refine .unchanged ht (fun k output => ?_) ⟨rfl, rfl, rfl⟩ fun _ _ _ => rfl
    rw [Session.step, tableAt]
    split <;> simp
  | shown link =>
    refine .unchanged ht (fun k output => ?_) ⟨rfl, rfl, rfl⟩ fun _ _ _ => rfl
    rw [Session.step, shownAt]
    split
    · simp
    · rename_i resolver hlink
      cases resolver.text? <;> simp
  | resolve link q => exact start_effect ht hlast rfl
  | query link q =>
    rw [Session.step, startQuery]
    split_ifs
    · exact .unchanged ht (by simp) (by simp) (hidle rfl)
    · exact start_effect ht hlast rfl
  | typed link kind argument =>
    rw [Session.step, startTyped]
    split_ifs
    · exact .unchanged ht (by simp) (by simp) (hidle rfl)
    · split
      · rename_i q hq
        exact start_effect ht hlast (by rw [Step.call?, hq])
      · exact .unchanged ht (by simp) (by simp) (hidle rfl)
  | printed link kindName name =>
    cases hkind : Lookup.Kind.ofName? kindName with
    | none =>
      simp only [Session.step, hkind]
      exact .unchanged ht (by simp) (by simp) fun _ _ _ => rfl
    | some kind =>
      simp only [Session.step, hkind, startPrinted]
      have hcall : (Step.printed link kindName name).call? =
          some (link, .printed kind name, questionOf kind (.text name)) := by
        rw [Step.call?, hkind]; rfl
      split_ifs
      · exact .unchanged ht (by simp) (by simp) (hidle hcall)
      · split
        · rename_i q hq
          exact start_effect ht hlast (by rw [hcall, hq])
        · rename_i failure hq
          exact .settled (by simp [Step.atOnce?, hcall, hq])
  | reply link n r => exact reply_effect fs ht link n r
  | cancel k => exact cancel_effect fs ht k

end Session

end ResolverChain
