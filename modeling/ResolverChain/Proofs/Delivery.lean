/-
  How lookups end in any session, and what typed lookups make of answers.

  * a lookup ends in a step if and only if the step delivers an answer to it, or the
    failure to get one (`Delivers`, `mem_fired_iff`);
  * of a successful answer a kind looks only at the records whose content it is for
    (`Kind.takes`, `Kind.foundIn_filter`), and of any other answer at no record at all
    (`Kind.found_of_failed`);
  * so the code of an answer, whoever gave it, decides how a typed lookup ends
    (`typed_lookups_end_by_code`).
-/
import ResolverChain.Proofs.LastLoad

namespace ResolverChain

namespace Session

variable {fs : FileSystem} {s : Session} {step : Step} {link number k : Nat} {use : Lookup.Use}
  {q : Question} {reply : Reply} {answer : Except Failure Answer}
  {conclusion : Lookup.Conclusion}

/-! ## Deliveries -/

/-- A step closes a query with a reply. -/
inductive Completes (s : Session) : Step → Nat → Reply → Prop
  | reply {link n i : Nat} {entry : Sent} {r : Reply}
      (number : (s.numbersFrom link)[n]? = some i) (sent : s.sent[i]? = some entry)
      (isOpen : entry.isOpen = true) : Completes s (.reply link n r) i r
  | cancel {k i : Nat} {use : Lookup.Use} (waits : s.lookups[k]? = some ⟨use, some i⟩) :
      Completes s (.cancel k) i (.failed .cancelled)

/-- A step delivers an answer to a lookup, or the failure to get one. -/
inductive Delivers (s : Session) : Step → Nat → Lookup.Use → Except Failure Answer → Prop
  /-- The links that hear the question settle it. -/
  | atOnce {step : Step} {link : Nat} {use : Lookup.Use} {q : Question}
      {answer : Except Failure Answer} (accepted : s.accepts step = true)
      (call : step.call? = some (link, use, .ok q))
      (settled : (ask (s.chain.drop link) q).course = .settled answer) :
      Delivers s step s.lookups.length use answer
  /-- They refuse it, and the lookup is one that prints. -/
  | refused {step : Step} {link : Nat} {kind : Lookup.Kind} {name : String} {q : Question}
      {failure : Failure} (accepted : s.accepts step = true)
      (call : step.call? = some (link, .printed kind name, .ok q))
      (refused : (ask (s.chain.drop link) q).course = .refused failure) :
      Delivers s step s.lookups.length (.printed kind name) (.error failure)
  /-- There is no question, and the lookup is one that prints. -/
  | unread {step : Step} {link : Nat} {kind : Lookup.Kind} {name : String} {failure : Failure}
      (accepted : s.accepts step = true)
      (call : step.call? = some (link, .printed kind name, .error failure)) :
      Delivers s step s.lookups.length (.printed kind name) (.error failure)
  /-- The query that the lookup waits for is closed. -/
  | completed {step : Step} {number k : Nat} {reply : Reply} {entry : Sent} {lookup : Pending}
      (completes : s.Completes step number reply) (sent : s.sent[number]? = some entry)
      (waiter : s.waiterOf number = some k) (pending : s.lookups[k]? = some lookup) :
      Delivers s step k lookup.use (entry.query.conclude reply).1

theorem fired_install (loaded : Hosts.Loaded) : (s.install link loaded).2.fired = [] := by
  unfold install
  split <;> rfl

theorem fired_complete {sent : Sent} {pending : Pending} (hsent : s.sent[number]? = some sent)
    (hwaiter : s.waiterOf number = some k) (hk : s.lookups[k]? = some pending) :
    (s.complete number reply).2.fired =
      [(k, pending.use.conclude (sent.query.conclude reply).1)] := by
  simp [complete, hsent, hwaiter, hk]

theorem mem_fired_complete (h : (k, conclusion) ∈ (s.complete number reply).2.fired) :
    ∃ sent pending, s.sent[number]? = some sent ∧ s.waiterOf number = some k ∧
      s.lookups[k]? = some pending ∧
      conclusion = pending.use.conclude (sent.query.conclude reply).1 := by
  unfold complete at h
  cases hsent : s.sent[number]? with
  | none => simp [hsent] at h
  | some sent =>
    cases hwaiter : s.waiterOf number with
    | none => simp [hsent, hwaiter] at h
    | some waiter =>
      cases hpending : s.lookups[waiter]? with
      | none => simp [hsent, hwaiter, hpending] at h
      | some pending =>
        simp only [hsent, hwaiter, hpending, List.mem_singleton, Prod.mk.injEq] at h
        obtain ⟨rfl, rfl⟩ := h
        exact ⟨sent, pending, rfl, rfl, hpending, rfl⟩

theorem fired_start_of_settled (h : (ask (s.chain.drop link) q).course = .settled answer) :
    (s.start link use q).2.fired = [(s.lookups.length, use.conclude answer)] := by
  simp [start, h, follow, settle]

theorem fired_start_of_refused {kind : Lookup.Kind} {name : String} {failure : Failure}
    (h : (ask (s.chain.drop link) q).course = .refused failure) :
    (s.start link (.printed kind name) q).2.fired =
      [(s.lookups.length, (Lookup.Use.printed kind name).conclude (.error failure))] := by
  simp [start, h, follow, settle]

/-- A lookup that ends in the step that starts it got its answer there. -/
theorem delivers_of_start (haccepts : s.accepts step = true)
    (hcall : step.call? = some (link, use, .ok q))
    (h : (k, conclusion) ∈ (s.start link use q).2.fired) :
    ∃ use answer, s.Delivers step k use answer ∧ conclusion = use.conclude answer := by
  cases hcourse : (ask (s.chain.drop link) q).course with
  | settled answer =>
    rw [fired_start_of_settled hcourse, List.mem_singleton] at h
    cases h
    exact ⟨use, answer, .atOnce haccepts hcall hcourse, rfl⟩
  | refused failure =>
    cases use with
    | printed kind name =>
      rw [fired_start_of_refused hcourse, List.mem_singleton] at h
      cases h
      exact ⟨_, _, .refused haccepts hcall hcourse, rfl⟩
    | _ => simp [start, hcourse, follow] at h
  | waiting => simp [start, hcourse, follow, wait] at h

theorem delivers_of_complete (hcompletes : s.Completes step number reply)
    (h : (k, conclusion) ∈ (s.complete number reply).2.fired) :
    ∃ use answer, s.Delivers step k use answer ∧ conclusion = use.conclude answer := by
  obtain ⟨sent, pending, hsent, hwaiter, hpending, rfl⟩ := mem_fired_complete h
  exact ⟨_, _, .completed hcompletes hsent hwaiter hpending, rfl⟩

theorem step_of_completes (h : s.Completes step number reply) :
    (s.step fs step).2.fired = (s.complete number reply).2.fired := by
  cases h with
  | reply number sent isOpen => simp [Session.step, replyTo, number, sent, isOpen]
  | cancel waits => simp [Session.step, cancelLookup, waits]

theorem Delivers.fired (h : s.Delivers step k use answer) :
    (s.step fs step).2.fired = [(k, use.conclude answer)] := by
  cases h with
  | atOnce accepted call settled =>
    rw [step_of_accepted accepted call, fired_start_of_settled settled]
  | refused accepted call refused =>
    rw [step_of_accepted accepted call, fired_start_of_refused refused]
  | unread accepted call => rw [step_of_unread accepted call, settle]
  | completed completes sent waiter pending =>
    rw [step_of_completes completes, fired_complete sent waiter pending]

/-- A call that is not accepted starts no lookup. -/
theorem fired_of_not_accepted (haccepts : s.accepts step = false) :
    (s.step fs step).2.fired = [] := by
  cases step with
  | query l q =>
    rw [accepts, Bool.not_eq_false'] at haccepts
    simp [Session.step, startQuery, haccepts]
  | typed l kind argument =>
    rw [accepts, Bool.not_eq_false'] at haccepts
    simp [Session.step, startTyped, haccepts]
  | printed l kindName name =>
    rw [accepts, Bool.not_eq_false'] at haccepts
    cases hkind : Lookup.Kind.ofName? kindName <;>
      simp [Session.step, hkind, startPrinted, haccepts]
  | _ => cases haccepts

/-- A call without a question starts no lookup, unless the lookup prints. -/
theorem fired_of_unread {failure : Failure} (hcall : step.call? = some (link, use, .error failure))
    (huse : ∀ kind name, use ≠ .printed kind name) : (s.step fs step).2.fired = [] := by
  cases step with
  | typed l kind argument =>
    simp only [Step.call?, Option.some.injEq, Prod.mk.injEq] at hcall
    obtain ⟨-, -, hq⟩ := hcall
    rw [Session.step, startTyped, hq]
    split_ifs <;> rfl
  | printed l kindName name =>
    simp only [Step.call?, Option.map_eq_some_iff, Prod.mk.injEq] at hcall
    obtain ⟨kind, -, -, rfl, -⟩ := hcall
    exact absurd rfl (huse kind name)
  | resolve | query => simp [Step.call?] at hcall
  | _ => cases hcall

/-- A call that ends a lookup delivers an answer to it. -/
theorem delivers_of_call {question : Except Failure Question}
    (hcall : step.call? = some (link, use, question))
    (h : (k, conclusion) ∈ (s.step fs step).2.fired) :
    ∃ use answer, s.Delivers step k use answer ∧ conclusion = use.conclude answer := by
  cases haccepts : s.accepts step with
  | false =>
    rw [fired_of_not_accepted haccepts] at h
    cases h
  | true =>
    cases question with
    | ok q =>
      rw [step_of_accepted haccepts hcall] at h
      exact delivers_of_start haccepts hcall h
    | error failure =>
      by_cases hprints : ∃ kind name, use = .printed kind name
      · obtain ⟨kind, name, rfl⟩ := hprints
        rw [step_of_unread haccepts hcall, settle, List.mem_singleton] at h
        cases h
        exact ⟨_, _, .unread haccepts hcall, rfl⟩
      · rw [fired_of_unread hcall fun kind name huse => hprints ⟨kind, name, huse⟩] at h
        cases h

/-- **A lookup ends in a step if and only if the step delivers an answer to it**, or the
    failure to get one, and it ends with what it makes of that. -/
theorem mem_fired_iff :
    (k, conclusion) ∈ (s.step fs step).2.fired ↔
      ∃ use answer, s.Delivers step k use answer ∧ conclusion = use.conclude answer := by
  constructor
  · intro h
    cases step with
    | load link source | loadFile link path encoding =>
      rw [Session.step, fired_install] at h
      cases h
    | table link | shown link => cases h
    | resolve link q | query link q | typed link kind argument => exact delivers_of_call rfl h
    | printed link kindName name =>
      cases hkind : Lookup.Kind.ofName? kindName with
      | none => simp [Session.step, hkind] at h
      | some kind =>
        have hcall : (Step.printed link kindName name).call? =
            some (link, .printed kind name, questionOf kind (.text name)) := by
          rw [Step.call?, hkind]
          rfl
        exact delivers_of_call hcall h
    | reply link n r =>
      rw [Session.step, replyTo] at h
      split at h
      · cases h
      · rename_i i hi
        split at h
        · cases h
        · rename_i sent hsent
          split_ifs at h with hopen
          · exact delivers_of_complete (.reply hi hsent hopen) h
          · cases h
          · cases h
    | cancel number =>
      rw [Session.step, cancelLookup] at h
      split at h
      · cases h
      · rename_i pending hpending
        obtain ⟨use, waitsFor⟩ := pending
        cases waitsFor with
        | none => cases h
        | some i => exact delivers_of_complete (.cancel hpending) h
  · rintro ⟨use, answer, h, rfl⟩
    rw [h.fired]
    exact List.mem_singleton_self _

end Session

/-! ## What kinds look at -/

namespace Lookup

variable {kind : Kind} {record : Record} {records : List Record} {answer : Answer}
  {failure : Failure}

/-- The content of a record is of exactly the class that a kind looks for. -/
def Kind.takes (kind : Kind) (record : Record) : Bool :=
  match record.content? with
  | some (.a _) => kind ∈ [allAddresses, address, allIPv4, ipv4]
  | some (.aaaa _) => kind ∈ [allAddresses, address, allIPv6, ipv6]
  | some (.pointer _) => kind = reverse
  | some (.texts _) => kind = text
  | _ => false

theorem filterMap_filter_of_none {α β : Type} {f : α → Option β} {p : α → Bool}
    (h : ∀ x, p x = false → f x = none) (xs : List α) :
    (xs.filter p).filterMap f = xs.filterMap f := by
  rw [List.filterMap_filter]
  refine List.filterMap_congr fun x _ => ?_
  split_ifs with hp
  · rfl
  · exact (h x (Bool.eq_false_iff.2 hp)).symm

theorem findSome?_filter_of_none {α β : Type} {f : α → Option β} {p : α → Bool}
    (h : ∀ x, p x = false → f x = none) (xs : List α) :
    (xs.filter p).findSome? f = xs.findSome? f := by
  rw [← List.head?_filterMap, filterMap_filter_of_none h, List.head?_filterMap]

/-- A record that a kind does not take holds none of the addresses that it finds. -/
theorem packedAddress?_of_not_takes {families : Families}
    (hkind : (families, kind) ∈ [(.both, .allAddresses), (.both, .address), (.onlyV4, .allIPv4),
      (.onlyV4, .ipv4), (.onlyV6, .allIPv6), (.onlyV6, .ipv6)])
    (record : Record) (h : kind.takes record = false) : packedAddress? families record = none := by
  simp only [List.mem_cons, Prod.mk.injEq, List.not_mem_nil, or_false] at hkind
  cases hcontent : record.content? with
  | none => simp [packedAddress?, hcontent]
  | some content =>
    rcases hkind with ⟨rfl, rfl⟩ | ⟨rfl, rfl⟩ | ⟨rfl, rfl⟩ | ⟨rfl, rfl⟩ | ⟨rfl, rfl⟩ | ⟨rfl, rfl⟩ <;>
      cases content <;> simp_all [packedAddress?, Kind.takes]

theorem pointerOf?_of_not_takes (record : Record) (h : Kind.reverse.takes record = false) :
    pointerOf? record = none := by
  cases hcontent : record.content? with
  | none => simp [pointerOf?, hcontent]
  | some content => cases content <;> simp_all [pointerOf?, Kind.takes]

theorem textOf?_of_not_takes (record : Record) (h : Kind.text.takes record = false) :
    textOf? record = none := by
  cases hcontent : record.content? with
  | none => simp [textOf?, hcontent]
  | some content => cases content <;> simp_all [textOf?, Kind.takes]

theorem allAddresses_filter {families : Families} {p : Record → Bool}
    (h : ∀ record, p record = false → packedAddress? families record = none)
    (records : List Record) :
    allAddresses families (records.filter p) = allAddresses families records := by
  rw [allAddresses, allAddresses, filterMap_filter_of_none h]

theorem firstAddress_filter {families : Families} {p : Record → Bool}
    (h : ∀ record, p record = false → packedAddress? families record = none)
    (records : List Record) :
    firstAddress families (records.filter p) = firstAddress families records := by
  rw [firstAddress, firstAddress, findSome?_filter_of_none h]

/-- **Records that a kind does not take are not looked at**, wherever they stand. -/
theorem Kind.foundIn_filter (kind : Kind) (records : List Record) :
    kind.foundIn (records.filter kind.takes) = kind.foundIn records := by
  cases kind with
  | allAddresses | allIPv4 | allIPv6 =>
    rw [foundIn, foundIn, allAddresses_filter (packedAddress?_of_not_takes (by simp))]
  | address | ipv4 | ipv6 =>
    rw [foundIn, foundIn, firstAddress_filter (packedAddress?_of_not_takes (by simp))]
  | reverse => rw [foundIn, foundIn, findSome?_filter_of_none pointerOf?_of_not_takes]
  | text => rw [foundIn, foundIn, filterMap_filter_of_none textOf?_of_not_takes]

theorem eq_packed_of_unpack {bytes : List UInt8} (h : unpack bytes = .error failure) :
    failure = .packed bytes := by
  rw [unpack] at h
  split at h <;> cases h
  rfl

theorem eq_packed_of_allAddresses {families : Families}
    (h : allAddresses families records = .error failure) : ∃ bytes, failure = .packed bytes := by
  rw [allAddresses] at h
  generalize records.filterMap (packedAddress? families) = packed at h
  induction packed with
  | nil => cases h
  | cons bytes packed ih =>
    rw [List.mapM_cons] at h
    cases hbytes : unpack bytes with
    | error e =>
      rw [hbytes] at h
      cases h
      exact ⟨bytes, eq_packed_of_unpack hbytes⟩
    | ok a =>
      cases hrest : packed.mapM unpack with
      | error e =>
        rw [hbytes, hrest] at h
        cases h
        exact ih hrest
      | ok as =>
        rw [hbytes, hrest] at h
        cases h

theorem eq_packed_of_firstAddress {families : Families}
    (h : firstAddress families records = .error failure) : ∃ bytes, failure = .packed bytes := by
  rw [firstAddress] at h
  split at h
  · cases h
  · rename_i bytes _
    cases hbytes : unpack bytes with
    | error e =>
      rw [hbytes] at h
      cases h
      exact ⟨bytes, eq_packed_of_unpack hbytes⟩
    | ok a => rw [hbytes] at h; cases h

theorem error_of_map_error {ε α β : Type} {x : Except ε α} {f : α → β} {e : ε}
    (h : x.map f = .error e) : x = .error e := by
  cases x <;> cases h
  rfl

/-- **A successful answer fails a lookup only with bytes that are no address.** -/
theorem Kind.eq_packed_of_foundIn (h : kind.foundIn records = .error failure) :
    ∃ bytes, failure = .packed bytes := by
  cases kind with
  | allAddresses | allIPv4 | allIPv6 => exact eq_packed_of_allAddresses (error_of_map_error h)
  | address | ipv4 | ipv6 => exact eq_packed_of_firstAddress (error_of_map_error h)
  | reverse | text => cases h

end Lookup

/-! ## How typed lookups end -/

namespace Session

open Lookup (Kind Use)

/-- **The code of an answer decides how a typed lookup ends.**  Without success the lookup
    fails with the error of the code, whatever the records are; with success it finds
    something, or fails for bytes that are no address, and only the records that the kind
    takes matter. -/
theorem typed_lookups_end_by_code (kind : Kind) (answer answer' : Answer) :
    ∃ outcome outcome' : Except Failure Lookup.Result,
      (Use.typed kind).conclude (.ok answer) = ⟨outcome, ""⟩ ∧
      (Use.typed kind).conclude (.ok answer') = ⟨outcome', ""⟩ ∧
      (∀ (fs : FileSystem) (s : Session) (step : Step) (k : Nat),
        s.Delivers step k (.typed kind) (.ok answer) →
          (s.step fs step).2.fired = [(k, ⟨outcome, ""⟩)]) ∧
      (∀ code, answer.code = some code → code ≠ ResultCode.ok →
        ∃ e : ResultError, outcome = .error (.result e) ∧ e.code = some code ∧
          e.name = answer.name ∧ e.kind = ResultKind.ofCode code) ∧
      (answer.code ≠ some ResultCode.ok → answer'.code = answer.code →
        answer'.name = answer.name → outcome' = outcome) ∧
      (answer.code = some ResultCode.ok →
        (∃ found, outcome = .ok (.found found)) ∨ ∃ bytes, outcome = .error (.packed bytes)) ∧
      (answer.code = some ResultCode.ok → answer'.code = some ResultCode.ok →
        answer'.records.filter kind.takes = answer.records.filter kind.takes →
        outcome' = outcome) := by
  have hends : ∀ a : Answer, (Use.typed kind).conclude (.ok a) =
      ⟨(kind.found a).map .found, ""⟩ := fun _ => rfl
  refine ⟨(kind.found answer).map .found, (kind.found answer').map .found, hends answer,
    hends answer', ?_, ?_, ?_, ?_, ?_⟩
  · intro fs s step k h
    rw [h.fired, hends]
  · intro code hcode hne
    have hfailed : answer.code ≠ some ResultCode.ok := by simpa [hcode] using hne
    refine ⟨⟨answer.code, answer.name⟩, ?_, hcode, rfl, ?_⟩
    · rw [Lookup.Kind.found_of_failed hfailed]
      rfl
    · rw [hcode]
      rfl
  · intro hfailed hcode hname
    have hfailed' : answer'.code ≠ some ResultCode.ok := by rwa [hcode]
    rw [Lookup.Kind.found_of_failed hfailed, Lookup.Kind.found_of_failed hfailed', hcode, hname]
  · intro hok
    rw [Lookup.Kind.found_of_ok hok]
    cases hfound : kind.foundIn answer.records with
    | ok found => exact Or.inl ⟨found, rfl⟩
    | error failure =>
      obtain ⟨bytes, rfl⟩ := Lookup.Kind.eq_packed_of_foundIn hfound
      exact Or.inr ⟨bytes, rfl⟩
  · intro hok hok' hrecords
    rw [Lookup.Kind.found_of_ok hok, Lookup.Kind.found_of_ok hok',
      ← Lookup.Kind.foundIn_filter kind answer.records, ← hrecords, Lookup.Kind.foundIn_filter]

/-- A refused query, answered without records and with one that is no address, of which the
    second answer is delivered behind an empty table. -/
theorem typed_lookups_end_by_code_refused :
    let fs : FileSystem := { directory := "/", state := fun _ => .directory }
    let record : Record := ⟨⟨[97]⟩, RecordType.a, RecordClass.internet, 0, some ⟨.a [1], 0⟩⟩
    let s : Session := { chain := [.hosts [], .fixed ResultCode.refused [record]] }
    let answer : Answer :=
      ⟨.name ⟨[97]⟩, some RecordClass.internet, some RecordType.a, some ResultCode.refused, [record]⟩
    ∃ e : ResultError, e.code = some ResultCode.refused ∧ e.name = .name ⟨[97]⟩ ∧
      e.kind = .refused ∧
      (s.step fs (.typed 0 .ipv4 (.text "A."))).2.fired = [(0, ⟨.error (.result e), ""⟩)] ∧
      (Use.typed .ipv4).conclude (.ok { answer with records := [] }) =
        ⟨.error (.result e), ""⟩ := by
  intro fs record s answer
  have hdelivers : s.Delivers (.typed 0 .ipv4 (.text "A.")) 0 (.typed .ipv4) (.ok answer) :=
    .atOnce rfl rfl rfl
  obtain ⟨outcome, outcome', -, hends', hfired, hcode, hsame, -⟩ :=
    typed_lookups_end_by_code .ipv4 answer { answer with records := [] }
  obtain ⟨e, rfl, hecode, hname, hkind⟩ := hcode ResultCode.refused rfl (by decide)
  obtain rfl := hsame (by decide) rfl rfl
  exact ⟨e, hecode, hname, hkind, hfired fs s _ 0 hdelivers, hends'⟩

end Session

end ResolverChain
