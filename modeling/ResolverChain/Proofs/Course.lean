/-
  The course of lookups.

  * a lookup that waits for a query keeps waiting until a step decides it (`Waiting`),
    and from then on nothing happens to it (`Decided`);
  * so every lookup either ends at once or ends with the first step that decides it
    (`EndsWhenDecided`).
-/
import ResolverChain.Proofs.Lifecycle

namespace ResolverChain

namespace Session

variable {fs : FileSystem} {tables : List Hosts.Table} {last : Resolver} {s s' : Session}
  {step : Step} {report : Report} {place : Nat}

/-! ## Waiting for a decision -/

/-- A lookup waits for an open query. -/
structure Waiting (tables : List Hosts.Table) (last : Resolver) (s : Session) (k number : Nat)
    (use : Lookup.Use) (query : Query) : Prop where
  tied : s.Tied tables last
  lookup : s.lookups[k]? = some ⟨use, some number⟩
  sent : s.sent[number]? = some ⟨tables.length, query, true⟩

/-- A lookup is over, and its query has been replied to. -/
structure Decided (place : Nat) (last : Resolver) (s : Session) (k number : Nat) : Prop where
  tied : s.TiedBehind place last
  lookup : s.WaitsFor k none
  sent : s.HasQuery number false

section
variable {k number : Nat} {use : Lookup.Use} {query : Query} {reply : Reply}

/-- A step that does not decide a lookup leaves it and its query as they are. -/
theorem Effect.quiet (h : Effect tables last s step s' report)
    (hw : s.Waiting tables last k number use query)
    (hstep : step.decides? tables.length number k = none) :
    (s'.lookups[k]? = some ⟨use, some number⟩ ∧
      s'.sent[number]? = some ⟨tables.length, query, true⟩) ∧
      k ∉ report.ended ∧ (tables.length, number) ∉ report.cancelled := by
  obtain ⟨ht, hk, hsent⟩ := hw
  cases h with
  | idle loaded size result silent => exact ⟨⟨hk, hsent⟩, by simp [Report.ended, silent]⟩
  | settled =>
    have hlt := (List.getElem?_eq_some_iff.1 hk).1
    exact ⟨⟨getElem?_concat_eq_some.2 (Or.inl hk), hsent⟩, by simp [Report.ended, hlt.ne]⟩
  | delegated =>
    exact ⟨⟨getElem?_concat_eq_some.2 (Or.inl hk), getElem?_concat_eq_some.2 (Or.inl hsent)⟩,
      by simp [Report.ended]⟩
  | @ended k' number' use' query' reply waits sent decides =>
    -- another lookup was decided, which waited for another query
    have hnumber : number' ≠ number := by
      rintro rfl
      rw [ht.single ⟨use', waits⟩ ⟨use, hk⟩, hstep] at decides
      cases decides
    have hlookup : k' ≠ k := by
      rintro rfl
      rw [waits] at hk
      cases hk
      exact hnumber rfl
    refine ⟨⟨(getElem?_set_eq_some waits).2 (Or.inr ⟨hlookup, hk⟩),
      (getElem?_set_eq_some sent).2 (Or.inr ⟨hnumber, hsent⟩)⟩, ?_, fun hmem => hnumber ?_⟩
    · simpa [Report.ended] using hlookup.symm
    · exact (congrArg Prod.snd (mem_cancels hmem)).symm

theorem Waiting.quiet (fs : FileSystem) (h : s.Waiting tables last k number use query)
    (hlast : last.Waits) (hstep : step.decides? tables.length number k = none) :
    ∃ loaded : List Hosts.Table, loaded.length = tables.length ∧
      (s.step fs step).1.Waiting loaded last k number use query := by
  have heffect := step_effect fs h.tied hlast step
  obtain ⟨loaded, hsize, htied⟩ := heffect.tied h.tied
  obtain ⟨⟨hlookup, hsent⟩, -⟩ := heffect.quiet h hstep
  exact ⟨loaded, hsize, htied, hlookup, hsize ▸ hsent⟩

/-- The step that decides a lookup ends it, and closes its query. -/
theorem Waiting.decided (h : s.Waiting tables last k number use query) (hlast : last.Waits)
    (hstep : step.decides? tables.length number k = some reply) :
    (s.step fs step).1.Decided tables.length last k number := by
  refine ⟨(step_effect fs h.tied hlast step).tied h.tied, ?_, ?_⟩
  · rw [step_of_decides fs h.tied h.lookup h.sent hstep]
    exact (waitsFor_set h.lookup).2 (Or.inl ⟨rfl, rfl⟩)
  · rw [step_of_decides fs h.tied h.lookup h.sent hstep]
    exact (hasQuery_set h.sent).2 (Or.inl ⟨rfl, rfl⟩)

theorem Decided.after (h : s.Decided place last k number) (hlast : last.Waits)
    (steps : List Step) : (s.after fs steps).Decided place last k number :=
  ⟨h.tied.after fs hlast steps, (((once_ended last).run fs hlast h.tied steps).2.2 k h.lookup).1,
    (((once_cancelled last).run fs hlast h.tied steps).2.2 (place, number) h.sent).1⟩

/-- A decided lookup does not end again, and its query is not cancelled. -/
theorem Decided.quiet (h : s.Decided place last k number) (hlast : last.Waits) :
    k ∉ (s.step fs step).2.ended ∧ (place, number) ∉ (s.step fs step).2.cancelled := by
  obtain ⟨tables, rfl, ht⟩ := h.tied
  have heffect := step_effect fs ht hlast step
  exact ⟨((once_ended last).kept heffect k h.lookup).2,
    ((once_cancelled last).kept heffect (tables.length, number) h.sent).2⟩

/-- **What comes too late does nothing.** -/
theorem Decided.late (h : s.Decided place last k number) :
    (∀ r, s.step fs (.reply place number r) = (s, { result := .failed .completed })) ∧
      s.step fs (.cancel k) = (s, { result := .done }) := by
  obtain ⟨⟨tables, rfl, ht⟩, ⟨use, hk⟩, sent, hsent, hclosed⟩ := h
  refine ⟨?_, ?_⟩
  · intro r
    exact replyTo_closed ht hsent hclosed r
  · simp [Session.step, cancelLookup, hk]

theorem Waiting.after (fs : FileSystem) (h : s.Waiting tables last k number use query)
    (hlast : last.Waits) {steps : List Step}
    (hsteps : ∀ e ∈ steps, Step.decides? tables.length number k e = none) :
    ∃ loaded : List Hosts.Table, loaded.length = tables.length ∧
      (s.after fs steps).Waiting loaded last k number use query := by
  induction steps generalizing s tables with
  | nil => exact ⟨tables, rfl, h⟩
  | cons step steps ih =>
    obtain ⟨loaded, hsize, hwaiting⟩ := h.quiet fs hlast (hsteps step (by simp))
    obtain ⟨loaded', hsize', hafter⟩ := ih hwaiting fun e he => by
      rw [hsize]; exact hsteps e (List.mem_cons_of_mem _ he)
    exact ⟨loaded', hsize'.trans hsize, hafter⟩

theorem Waiting.decided_after (h : s.Waiting tables last k number use query)
    (hlast : last.Waits) {steps : List Step}
    (hsteps : ∃ e ∈ steps, Step.decides? tables.length number k e ≠ none) :
    (s.after fs steps).Decided tables.length last k number := by
  induction steps generalizing s tables with
  | nil => obtain ⟨e, he, -⟩ := hsteps; cases he
  | cons step steps ih =>
    cases hstep : step.decides? tables.length number k with
    | none =>
      obtain ⟨loaded, hsize, hwaiting⟩ := h.quiet fs hlast hstep
      obtain ⟨e, he, hne⟩ := hsteps
      rcases List.mem_cons.1 he with rfl | he
      · exact absurd hstep hne
      · rw [← hsize] at hne ⊢
        exact ih hwaiting ⟨e, he, hne⟩
    | some reply => exact (h.decided hlast hstep).after hlast steps

end

/-! ## The course of a lookup -/

/-- A lookup that is over stays so, and cancelling it does nothing. -/
def StaysOver (fs : FileSystem) (s : Session) (k : Nat) : Prop :=
  ∀ later : List Step, (∀ step, k ∉ ((s.after fs later).step fs step).2.ended) ∧
    (s.after fs later).step fs (.cancel k) = (s.after fs later, { result := .done })

/-- A lookup that waits for a query ends with the first step that decides it, and with
    the conclusion from the reply of that step. -/
structure EndsWhenDecided (fs : FileSystem) (s : Session) (place number k : Nat)
    (conclude : Reply → Lookup.Conclusion) : Prop where
  waits : ∀ later step, (∀ e ∈ later, Step.decides? place number k e = none) →
    step.decides? place number k = none →
    k ∉ ((s.after fs later).step fs step).2.ended ∧
      (place, number) ∉ ((s.after fs later).step fs step).2.cancelled
  ends : ∀ later step reply, (∀ e ∈ later, Step.decides? place number k e = none) →
    step.decides? place number k = some reply →
    ((s.after fs later).step fs step).2.fired = [(k, conclude reply)] ∧
      ((s.after fs later).step fs step).2.cancelled = step.cancels place number
  once : ∀ later step, (∃ e ∈ later, Step.decides? place number k e ≠ none) →
    k ∉ ((s.after fs later).step fs step).2.ended ∧
      (place, number) ∉ ((s.after fs later).step fs step).2.cancelled
  late : ∀ later, (∃ e ∈ later, Step.decides? place number k e ≠ none) →
    (∀ r, (s.after fs later).step fs (.reply place number r) =
      (s.after fs later, { result := .failed .completed })) ∧
      (s.after fs later).step fs (.cancel k) = (s.after fs later, { result := .done })

theorem Waiting.endsWhenDecided {k number : Nat} {use : Lookup.Use} {query : Query}
    (fs : FileSystem) (h : s.Waiting tables last k number use query) (hlast : last.Waits) :
    EndsWhenDecided fs s tables.length number k
      fun reply => use.conclude (query.conclude reply).1 where
  waits later step hlater hstep := by
    obtain ⟨loaded, hsize, hwaiting⟩ := h.after fs hlast hlater
    rw [← hsize] at hstep ⊢
    exact ((step_effect fs hwaiting.tied hlast step).quiet hwaiting hstep).2
  ends later step reply hlater hstep := by
    obtain ⟨loaded, hsize, hwaiting⟩ := h.after fs hlast hlater
    rw [← hsize] at hstep ⊢
    rw [step_of_decides fs hwaiting.tied hwaiting.lookup hwaiting.sent hstep]
    exact ⟨rfl, rfl⟩
  once later step hlater := (h.decided_after hlast hlater).quiet hlast
  late later hlater := (h.decided_after hlast hlater).late

theorem staysOver {k : Nat} (fs : FileSystem) (hlast : last.Waits)
    (ht : s.TiedBehind place last) (hk : s.WaitsFor k none) : StaysOver fs s k := by
  intro later
  obtain ⟨use, hlater⟩ := (((once_ended last).run fs hlast ht later).2.2 k hk).1
  refine ⟨?_, by simp [Session.step, cancelLookup, hlater]⟩
  intro step
  obtain ⟨loaded, -, hafter⟩ := ht.after fs hlast later
  exact ((once_ended last).kept (step_effect fs hafter hlast step) k ⟨use, hlater⟩).2

theorem WaitsFor.lt {k : Nat} {w : Option Nat} (h : s.WaitsFor k w) : k < s.lookups.length := by
  obtain ⟨use, h⟩ := h
  exact (List.getElem?_eq_some_iff.1 h).1

theorem Effect.sent_length (h : Effect tables last s step s' report) :
    s'.sent.length = s.sent.length + report.queries.length := by
  cases h with
  | idle loaded size result silent => simp [silent.1]
  | settled => simp
  | delegated => simp
  | ended => simp

/-- The queries of a session are those that its reports told of. -/
theorem sent_length_after (fs : FileSystem) (hlast : last.Waits) (ht : s.TiedBehind place last)
    (steps : List Step) : (s.after fs steps).sent.length =
      s.sent.length + ((s.run fs steps).flatMap (·.queries)).length := by
  induction steps generalizing s with
  | nil => simp [Session.after, Session.run]
  | cons step steps ih =>
    obtain ⟨tables, rfl, ht⟩ := ht
    have heffect := step_effect fs ht hlast step
    have hrest := ih (heffect.tied ht)
    rw [heffect.sent_length] at hrest
    rw [Session.run, List.flatMap_cons, List.length_append, ← Nat.add_assoc, ← hrest]
    rfl

section
variable {call : Step} {k : Nat} {output : Option String}
  (hresult : report.result = .lookup k output)
include hresult

/-- A lookup that needs no query. -/
theorem Effect.of_atOnce (h : Effect tables last s call s' report)
    {conclusion : Lookup.Conclusion} (hatOnce : call.atOnce? tables = some conclusion) :
    k = s.lookups.length ∧ report.queries = [] ∧ report.fired = [(k, conclusion)] ∧
      s'.WaitsFor k none := by
  cases h with
  | idle loaded size result => exact absurd hresult (result k output)
  | settled atOnce =>
    obtain ⟨rfl, -⟩ := Result.lookup.inj hresult
    cases hatOnce.symm.trans atOnce
    exact ⟨rfl, rfl, rfl, waitsFor_concat.2 (Or.inr ⟨rfl, rfl⟩)⟩
  | delegated atOnce => cases hatOnce.symm.trans atOnce
  | ended => cases hresult

/-- A lookup that needs a query. -/
theorem Effect.of_not_atOnce (h : Effect tables last s call s' report)
    (hatOnce : call.atOnce? tables = none) :
    k = s.lookups.length ∧ ∃ link use q query,
      call.call? = some (link, use, .ok q) ∧ last.query q = .ok query ∧
      report.queries = [(tables.length, query)] ∧ report.fired = [] ∧
      s'.lookups[k]? = some ⟨use, some s.sent.length⟩ ∧
      s'.sent[s.sent.length]? = some ⟨tables.length, query, true⟩ := by
  cases h with
  | idle loaded size result => exact absurd hresult (result k output)
  | settled atOnce => cases hatOnce.symm.trans atOnce
  | @delegated link use q query _ _ _ hcall sends =>
    obtain ⟨rfl, -⟩ := Result.lookup.inj hresult
    exact ⟨rfl, link, use, q, query, hcall, sends, rfl, rfl, by simp, by simp⟩
  | ended => cases hresult

end

/-- A cancelled lookup fails as such, whatever it is wanted for. -/
theorem conclude_cancelled (use : Lookup.Use) (query : Query) :
    (use.conclude (query.conclude (.failed .cancelled)).1).outcome = .error .cancelled := by
  have hquery : (query.conclude (.failed .cancelled)).1 = .error .cancelled := by
    cases hcarrier : query.carrier <;> simp [Query.conclude, hcarrier]
  rw [hquery]
  cases use <;> rfl

/-- Loading a table does nothing to lookups and queries. -/
theorem Effect.of_load (h : Effect tables last s step s' report) (hcall : step.call? = none)
    (hdecides : ∀ place number k, step.decides? place number k = none) :
    s'.lookups = s.lookups ∧ s'.sent = s.sent ∧ report.queries = [] ∧ report.cancelled = [] ∧
      report.fired = [] := by
  cases h with
  | idle loaded size result silent => exact ⟨rfl, rfl, silent⟩
  | settled atOnce => simp [Step.atOnce?, hcall] at atOnce
  | delegated _ hcall' => cases hcall.symm.trans hcall'
  | ended _ _ decides => cases (hdecides _ _ _).symm.trans decides

end Session

/-- **Every lookup runs its course**: it ends at once, with what the tables make of it, or
    it waits for one query of its own, and ends when a reply to the query comes or when it
    is cancelled, whichever is first; all that comes later does nothing. -/
theorem lookups_run_their_course (fs : FileSystem) (tables : List Hosts.Table) (last : Resolver)
    (hlast : last.Waits) (earlier : List Session.Step) :
    let start : Session := { chain := tables.map .hosts ++ [last] }
    let reports := start.run fs earlier
    let s := start.after fs earlier
    let place := tables.length
    let number := (reports.flatMap (·.queries)).length
    -- no lookup ends twice and no query is cancelled twice
    (reports.flatMap (·.ended)).Nodup ∧ (reports.flatMap (·.cancelled)).Nodup ∧
    -- a step that neither calls nor decides, such as loading a table, changes none of them
    (∀ step, step.call? = none → (∀ place number k, step.decides? place number k = none) →
      (s.step fs step).1.lookups = s.lookups ∧ (s.step fs step).1.sent = s.sent ∧
      (s.step fs step).2.queries = [] ∧ (s.step fs step).2.cancelled = [] ∧
      (s.step fs step).2.fired = []) ∧
    ∃ loaded : List Hosts.Table,
      loaded.length = place ∧ s.chain = loaded.map .hosts ++ [last] ∧
      ∀ call k output, (s.step fs call).2.result = .lookup k output →
        k ∉ reports.flatMap (·.ended) ∧
        (∀ conclusion, call.atOnce? loaded = some conclusion →
          (s.step fs call).2.queries = [] ∧ (s.step fs call).2.fired = [(k, conclusion)] ∧
          Session.StaysOver fs (s.step fs call).1 k) ∧
        (call.atOnce? loaded = none → ∃ link use q query,
          call.call? = some (link, use, .ok q) ∧ last.query q = .ok query ∧
          (s.step fs call).2.queries = [(place, query)] ∧ (s.step fs call).2.fired = [] ∧
          Session.EndsWhenDecided fs (s.step fs call).1 place number k
            (fun reply => use.conclude (query.conclude reply).1) ∧
          (use.conclude (query.conclude (.failed .cancelled)).1).outcome = .error .cancelled ∧
          ∀ records authority additional,
            use.conclude (query.conclude (.sections [records, authority, additional])).1 =
              use.conclude (.ok (query.answer ResultCode.ok records))) := by
  intro start reports s place number
  have hstart : start.TiedBehind place last := ⟨tables, rfl, Session.tied_start tables last⟩
  obtain ⟨hended, hover, -⟩ := (Session.once_ended last).run fs hlast hstart earlier
  obtain ⟨hcancelled, -, -⟩ := (Session.once_cancelled last).run fs hlast hstart earlier
  have hsent : s.sent.length = number := by
    rw [Session.sent_length_after fs hlast hstart earlier]; simp [start, number, reports]
  obtain ⟨loaded, hsize, ht⟩ := hstart.after fs hlast earlier
  refine ⟨hended, hcancelled, ?_, loaded, hsize, ht.chain, ?_⟩
  · intro step hcall hdecides
    exact (Session.step_effect fs ht hlast step).of_load hcall hdecides
  intro call k output hresult
  have heffect := Session.step_effect fs ht hlast call
  have hafter := heffect.tied ht
  refine ⟨?_, ?_, ?_⟩
  · intro hk
    have hlt := (hover k hk).lt
    cases hatOnce : call.atOnce? loaded with
    | some conclusion => exact hlt.ne (heffect.of_atOnce hresult hatOnce).1
    | none => exact hlt.ne (heffect.of_not_atOnce hresult hatOnce).1
  · intro conclusion hatOnce
    obtain ⟨-, hqueries, hfired, hk⟩ := heffect.of_atOnce hresult hatOnce
    exact ⟨hqueries, hfired, Session.staysOver fs hlast hafter hk⟩
  · intro hatOnce
    obtain ⟨-, link, use, q, query, hcall, hquery, hqueries, hfired, hk, hopen⟩ :=
      heffect.of_not_atOnce hresult hatOnce
    obtain ⟨reloaded, hsize', ht'⟩ := hafter
    rw [hsent] at hk hopen
    have hwaiting : (s.step fs call).1.Waiting reloaded last k number use query :=
      ⟨ht', hk, by rw [hsize']; exact hopen⟩
    have hends := hwaiting.endsWhenDecided fs hlast
    rw [hsize', hsize] at hends
    exact ⟨link, use, q, query, hcall, hquery, hsize ▸ hqueries, hfired, hends,
      Session.conclude_cancelled use query, fun _ _ _ => rfl⟩

/-- Behind a table that is reloaded meanwhile, the second of two lookups is cancelled, and
    the reply to its query comes too late. -/
theorem lookups_run_their_course_cancelled :
    let tables : List Hosts.Table := [[(⟨[97]⟩, [])]]
    let fs : FileSystem := { directory := "/", state := fun _ => .directory }
    let start : Session := { chain := tables.map .hosts ++ [.network] }
    let s := start.after fs [.typed 0 .ipv4 (.text "c")]
    let waiting := (s.step fs (.typed 0 .text (.text "B."))).1
    let load : Session.Step := .load 0 ⟨["10.0.0.5 b"], none⟩
    ((waiting.after fs [load]).step fs (.cancel 1)).2.fired = [(1, ⟨.error .cancelled, ""⟩)] ∧
    ((waiting.after fs [load]).step fs (.cancel 1)).2.cancelled = [(1, 1)] ∧
    (waiting.after fs [load, .cancel 1]).step fs (.reply 1 1 (.answered 0 [])) =
      (waiting.after fs [load, .cancel 1], { result := .failed .completed }) := by
  intro tables fs start s waiting load
  obtain ⟨-, -, -, loaded, -, hchain, hcalls⟩ :=
    lookups_run_their_course fs tables .network (Or.inr rfl) [.typed 0 .ipv4 (.text "c")]
  obtain rfl : tables = loaded := Session.eq_of_chain_eq hchain
  obtain ⟨-, -, hdelegated⟩ := hcalls (.typed 0 .text (.text "B.")) 1 none (by rfl)
  obtain ⟨link, use, q, query, hcall, hquery, -, -, hends, -⟩ := hdelegated (by rfl)
  cases hcall
  cases hquery
  have hquiet : ∀ e ∈ [load], Session.Step.decides? 1 1 1 e = none := by simp [load]; rfl
  obtain ⟨hfired, hcancelled⟩ := hends.ends [load] (.cancel 1) (.failed .cancelled) hquiet (by rfl)
  refine ⟨hfired, hcancelled, (hends.late [load, .cancel 1] ⟨.cancel 1, by simp, ?_⟩).1 _⟩
  simp [Session.Step.decides?]

end ResolverChain
