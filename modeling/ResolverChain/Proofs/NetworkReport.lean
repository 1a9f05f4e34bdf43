/-
  What lookups tell of failures that the network reports.

  * a failure that stands for a known code (`Failure.known?`) should be told as that code,
    to a plain lookup by an answer and to a lookup of a kind by an error; every other
    failure should be passed on (`Lookup.told`);
  * so it is with all failures but one (`Lookup.conclude_network_of_ne`): a code that has no
    meaning of its own is told as that of a name that does not exist
    (`Lookup.conclude_network_unknown`).
-/
import ResolverChain.Proofs.Course
import ResolverChain.Proofs.NormalName

namespace ResolverChain

/-! ## What should be told -/

/-- The known code that a report stands for, with its meaning.  That the name is not known
    needs no code to say so; a code without a meaning of its own is not known. -/
def ServerError.known? : ServerError → Option (Int × ResultKind)
  | format => some (ResultCode.format, .format)
  | server => some (ResultCode.server, .server)
  | name | domain => some (ResultCode.name, .name)
  | notImplemented => some (ResultCode.notImplemented, .notImplemented)
  | refused => some (ResultCode.refused, .refused)
  | unknown | authoritative | timeout | resolver => none

/-- The known code that a failure stands for, with its meaning. -/
def Failure.known? : Failure → Option (Int × ResultKind)
  | .server e _ => e.known?
  | _ => none

/-- The failure says that the name does not exist. -/
def Failure.SaysNoName : Failure → Prop
  | .server e _ => e = .name ∨ e = .domain
  | .result e => e.kind = .name
  | _ => False

namespace Lookup

/-- How a lookup tells a code. -/
def toldCode (use : Use) (q : Question) (domain : DomainName) (code : Int) :
    Except Failure Result :=
  match use with
  | .plain => .ok (.answer ⟨.name domain, some q.cls, some q.type, some code, []⟩)
  | _ => .error (.result ⟨some code, .name domain⟩)

/-- What a lookup should tell of the failure of its query. -/
def told (use : Use) (q : Question) (domain : DomainName) (failure : Failure) :
    Except Failure Result :=
  match failure.known? with
  | some (code, _) => toldCode use q domain code
  | none => .error failure

/-- The outcome says that the name does not exist. -/
def SaysNoName : Except Failure Result → Prop
  | .ok (.answer a) => a.code = some ResultCode.name
  | .error (.result e) => e.kind = .name
  | _ => False

end Lookup

/-! ## Codes -/

/-- Every report but that of a code without a meaning stands for its known code. -/
theorem ServerError.code?_eq {e : ServerError} (h : e ≠ .unknown) :
    e.code? = e.known?.map (·.1) := by
  cases e with
  | unknown => exact absurd rfl h
  | _ => rfl

/-- A code without a meaning is caught with the reports that give no code. -/
theorem ServerError.code?_unknown : ServerError.unknown.code? = some ResultCode.name := rfl

theorem ResultKind.ofCode_eq_name_iff (code : Int) :
    ResultKind.ofCode code = .name ↔ code = ResultCode.name := by
  unfold ResultKind.ofCode
  split_ifs with h1 h2 h3 h4 h5 <;> simp_all [ResultCode.format, ResultCode.server, ResultCode.name]

/-- The codes are told apart as they are made. -/
theorem ServerError.ofCode_known? {e : ServerError} {code : Int} {kind : ResultKind}
    (h : e.known? = some (code, kind)) :
    ResultKind.ofCode code = kind ∧ code ≠ ResultCode.ok := by
  cases e with
  | unknown | authoritative | timeout | resolver => cases h
  | _ => obtain ⟨rfl, rfl⟩ := Prod.mk.inj (Option.some.inj h); decide

theorem Failure.ofCode_known? {failure : Failure} {code : Int} {kind : ResultKind}
    (h : failure.known? = some (code, kind)) :
    ResultKind.ofCode code = kind ∧ code ≠ ResultCode.ok := by
  cases failure with
  | server e text => exact ServerError.ofCode_known? h
  | _ => cases h

/-! ## What is told -/

namespace Lookup

section
variable {use : Use} (huse : ∀ kind name, use ≠ .printed kind name) (q : Question)
  (domain : DomainName)
include huse

theorem conclude_code {code : Int} (hcode : code ≠ ResultCode.ok) :
    use.conclude (.ok ⟨.name domain, some q.cls, some q.type, some code, []⟩) =
      ⟨toldCode use q domain code, ""⟩ := by
  cases use with
  | plain => rfl
  | typed kind =>
    have hfound : kind.found ⟨.name domain, some q.cls, some q.type, some code, []⟩ =
        .error (.result ⟨some code, .name domain⟩) :=
      Kind.found_of_failed (fun h => hcode (Option.some.inj h)) kind
    simp only [Use.conclude, Except.bind, hfound]
    rfl
  | printed kind name => exact absurd rfl (huse kind name)

theorem conclude_failure (failure : Failure) :
    use.conclude (.error failure) = ⟨.error failure, ""⟩ := by
  cases use with
  | printed kind name => exact absurd rfl (huse kind name)
  | _ => rfl

variable {failure : Failure}

/-- **What should be told is told**, unless a server gave a code without a meaning. -/
theorem conclude_network_of_ne (h : ∀ text, failure ≠ .server .unknown text) :
    use.conclude ((⟨.network, { q with name := .name domain }⟩ : Query).conclude
      (.failed failure)).1 = ⟨told use q domain failure, ""⟩ := by
  cases failure with
  | server e text =>
    have he : e ≠ .unknown := by rintro rfl; exact h text rfl
    have hcode := ServerError.code?_eq he
    simp only [Query.conclude, told, Failure.known?, hcode]
    cases hknown : e.known? with
    | none => exact conclude_failure huse _
    | some known =>
      obtain ⟨code, kind⟩ := known
      exact conclude_code huse q domain (ServerError.ofCode_known? hknown).2
  | _ => exact conclude_failure huse _

theorem conclude_network_unknown (text : String) :
    use.conclude ((⟨.network, { q with name := .name domain }⟩ : Query).conclude
      (.failed (.server .unknown text))).1 = ⟨toldCode use q domain ResultCode.name, ""⟩ := by
  simp only [Query.conclude, ServerError.code?_unknown]
  exact conclude_code huse q domain (by decide)

omit huse in
theorem saysNoName_toldCode_iff (code : Int) :
    SaysNoName (toldCode use q domain code) ↔ code = ResultCode.name := by
  cases use with
  | plain => simp [SaysNoName, toldCode]
  | _ => exact ResultKind.ofCode_eq_name_iff code

omit huse in
theorem saysNoName_told_iff (failure : Failure) :
    SaysNoName (told use q domain failure) ↔ failure.SaysNoName := by
  cases failure with
  | server e text =>
    cases e with
    | unknown | authoritative | timeout | resolver =>
      simp [told, Failure.known?, ServerError.known?, SaysNoName, Failure.SaysNoName]
    | _ =>
      simp only [told, Failure.known?, ServerError.known?, saysNoName_toldCode_iff,
        Failure.SaysNoName]
      decide
  | _ => rfl

omit huse in
theorem told_unknown_ne (text : String) :
    toldCode use q domain ResultCode.name ≠ told use q domain (.server .unknown text) := by
  cases use <;> simp [toldCode, told, Failure.known?, ServerError.known?]

end

end Lookup

/-! ## Sessions -/

namespace Session

variable {tables : List Hosts.Table} {s : Session} {call : Step} {link : Nat} {use : Lookup.Use}
  {q : Question}

theorem isUntyped_network (hchain : s.chain = tables.map .hosts ++ [.network]) (link : Nat) :
    s.isUntyped link = false := by
  unfold isUntyped
  split
  · rename_i hlink
    have hmem := List.mem_of_getElem? hlink
    simp [hchain] at hmem
  · rfl

/-- In front of the network, every call puts its question to the link. -/
theorem step_of_call (fs : FileSystem) (hchain : s.chain = tables.map .hosts ++ [.network])
    (hcall : call.call? = some (link, use, .ok q)) : s.step fs call = s.start link use q := by
  refine step_of_accepted ?_ hcall
  cases call <;> simp [accepts, isUntyped_network hchain]

theorem shownOutput_eq_none (huse : ∀ kind name, use ≠ .printed kind name) (output : String) :
    shownOutput use output = none := by
  cases use with
  | printed kind name => exact absurd rfl (huse kind name)
  | _ => rfl

/-- A call that the tables pass on to the network waits there. -/
theorem Tied.waiting_of_call (fs : FileSystem) (ht : s.Tied tables .network)
    (hcall : call.call? = some (link, use, .ok q)) (hlink : link ≤ tables.length)
    (hpassed : Hosts.PassedOn (tables.drop link) q) {domain : DomainName}
    (hdomain : q.name.toDomain = .ok domain) :
    (s.step fs call).2 =
        { result := .lookup s.lookups.length (shownOutput use "")
          queries := [(tables.length, ⟨.network, { q with name := .name domain }⟩)] } ∧
      ∃ loaded : List Hosts.Table, loaded.length = tables.length ∧
        (s.step fs call).1.Waiting loaded .network s.lookups.length s.sent.length use
          ⟨.network, { q with name := .name domain }⟩ := by
  have hlast : Resolver.network.Waits := Or.inr rfl
  have hquery : Resolver.network.query q = .ok ⟨.network, { q with name := .name domain }⟩ := by
    simp [Resolver.query, Hosts.domain_of_ok hdomain, Except.map]
  obtain ⟨loaded, hsize, htied⟩ := (step_effect fs ht hlast call).tied ht
  have hstep := (step_of_call fs ht.chain hcall).trans
    (start_of_passedOn ht hlast hlink hpassed hquery use)
  refine ⟨by rw [hstep], loaded, hsize, htied, ?_, ?_⟩
  · rw [hstep]; simp
  · rw [hstep, hsize]; simp

/-- What a lookup that waits for the network tells of a failure. -/
theorem Waiting.told {k number : Nat} {domain : DomainName} (fs : FileSystem)
    (h : s.Waiting tables .network k number use ⟨.network, { q with name := .name domain }⟩)
    (huse : ∀ kind name, use ≠ .printed kind name) {later : List Step}
    (hlater : ∀ e ∈ later, Step.decides? tables.length number k e = none) (failure : Failure) :
    ∃ outcome,
      ((s.after fs later).step fs (.reply tables.length number (.failed failure))).2.fired =
        [(k, ⟨outcome, ""⟩)] ∧
      (outcome = Lookup.told use q domain failure ↔ ∀ text, failure ≠ .server .unknown text) ∧
      (Lookup.SaysNoName outcome ↔
        failure.SaysNoName ∨ ∃ text, failure = .server .unknown text) := by
  obtain ⟨hfired, -⟩ := (h.endsWhenDecided fs (Or.inr rfl)).ends later
    (.reply tables.length number (.failed failure)) (.failed failure) hlater
    (by simp [Step.decides?])
  rw [hfired]
  by_cases hunknown : ∃ text, failure = .server .unknown text
  · obtain ⟨text, rfl⟩ := hunknown
    refine ⟨_, by rw [Lookup.conclude_network_unknown huse], ?_, ?_⟩
    · exact iff_of_false (Lookup.told_unknown_ne q domain text) fun h => h text rfl
    · simp [Lookup.saysNoName_toldCode_iff]
  · have hknown : ∀ text, failure ≠ .server .unknown text := fun text h => hunknown ⟨text, h⟩
    refine ⟨_, by rw [Lookup.conclude_network_of_ne huse q domain hknown], ?_, ?_⟩
    · exact iff_of_true rfl hknown
    · rw [Lookup.saysNoName_told_iff, or_iff_left hunknown]

end Session

/-- **Lookups tell what the network reported, unless a server gave a code without a
    meaning**: that one is told as the code of a name that does not exist. -/
theorem failures_told_iff (fs : FileSystem) (tables : List Hosts.Table)
    (earlier : List Session.Step) :
    let start : Session := { chain := tables.map .hosts ++ [.network] }
    let s := start.after fs earlier
    let place := tables.length
    let number := ((start.run fs earlier).flatMap (·.queries)).length
    ∃ loaded : List Hosts.Table,
      loaded.length = place ∧ s.chain = loaded.map .hosts ++ [.network] ∧
      -- a plain call, or one of a kind, that the tables pass on
      (∀ call link use q domain, call.call? = some (link, use, .ok q) →
        (∀ kind name, use ≠ .printed kind name) → link ≤ place →
        Hosts.PassedOn (loaded.drop link) q → q.name.toDomain = .ok domain →
        ∃ k, (s.step fs call).2.result = .lookup k none ∧
          (s.step fs call).2.queries = [(place, ⟨.network, { q with name := .name domain }⟩)] ∧
          -- the first reply to its query, whenever it comes
          ∀ later failure, (∀ e ∈ later, Session.Step.decides? place number k e = none) →
            ∃ outcome,
              (((s.step fs call).1.after fs later).step fs
                (.reply place number (.failed failure))).2.fired = [(k, ⟨outcome, ""⟩)] ∧
              (outcome = Lookup.told use q domain failure ↔
                ∀ text, failure ≠ .server .unknown text) ∧
              (Lookup.SaysNoName outcome ↔
                failure.SaysNoName ∨ ∃ text, failure = .server .unknown text)) ∧
      -- codes and their meanings are inverse to each other
      (∀ (failure : Failure) code kind, failure.known? = some (code, kind) →
        ResultKind.ofCode code = kind ∧ code ≠ ResultCode.ok) ∧
      -- and a lookup of a kind asks for its target
      ∀ link kind argument target, Lookup.Kind.target kind argument = .ok target →
        (Session.Step.typed link kind argument).call? =
          some (link, .typed kind, .ok { name := .name target, type := kind.recordType }) ∧
        (Value.name target).toDomain = .ok target := by
  intro start s place number
  have hstart : start.TiedBehind place .network := ⟨tables, rfl, Session.tied_start tables _⟩
  have hsent : s.sent.length = number := by
    rw [Session.sent_length_after fs (Or.inr rfl) hstart earlier]; simp [start, number]
  obtain ⟨loaded, hsize, ht⟩ := hstart.after fs (Or.inr rfl) earlier
  refine ⟨loaded, hsize, ht.chain, ?_, fun _ _ _ => Failure.ofCode_known?, ?_⟩
  · intro call link use q domain hcall huse hlink hpassed hdomain
    obtain ⟨hreport, reloaded, hsize', hwaiting⟩ :=
      ht.waiting_of_call fs hcall (hsize ▸ hlink) hpassed hdomain
    refine ⟨s.lookups.length, ?_, ?_, ?_⟩
    · rw [hreport, Session.shownOutput_eq_none huse]
    · rw [hreport, hsize]
    · intro later failure hlater
      have hplace : reloaded.length = place := hsize'.trans hsize
      rw [← hplace, ← hsent] at hlater ⊢
      exact hwaiting.told fs huse hlater failure
  · intro link kind argument target htarget
    refine ⟨by simp [Session.Step.call?, Session.questionOf, htarget, Except.map], ?_⟩
    rw [Value.toDomain, Lookup.Kind.normal_target htarget]

/-- Behind a table that lists nothing, a query that was refused is told as such. -/
theorem failures_told_iff_refused :
    let fs : FileSystem := { directory := "/", state := fun _ => .directory }
    let s : Session := { chain := [.hosts [], .network] }
    let waiting := (s.step fs (.typed 0 .ipv4 (.text "A."))).1
    (waiting.step fs (.reply 1 0 (.failed (.server .refused "scripted")))).2.fired =
      [(0, ⟨.error (.result ⟨some ResultCode.refused, .name ⟨[97]⟩⟩), ""⟩)] := by
  intro fs s waiting
  have hdomain : (Value.text "A.").toDomain = .ok ⟨[97]⟩ := by rfl
  obtain ⟨loaded, -, hchain, hcalls, -⟩ := failures_told_iff fs [[]] []
  obtain rfl : [[]] = loaded := Session.eq_of_chain_eq hchain
  have hpassed : Hosts.PassedOn [[]] { name := .name ⟨[97]⟩, type := RecordType.a } :=
    fun _ table htable => ⟨⟨[97]⟩, by rfl, by rw [List.mem_singleton.1 htable]; rfl⟩
  obtain ⟨k, hresult, -, htold⟩ := hcalls (.typed 0 .ipv4 (.text "A.")) 0 (.typed .ipv4)
    { name := .name ⟨[97]⟩, type := RecordType.a } ⟨[97]⟩ (by rfl) (by simp) (by simp) hpassed
    (by rfl)
  obtain rfl : 0 = k := (Session.Result.lookup.inj hresult).1
  obtain ⟨outcome, hfired, houtcome, -⟩ :=
    htold [] (.server .refused "scripted") (by simp)
  obtain rfl := houtcome.2 (by simp)
  exact hfired

/-- A code without a meaning: the lookup is told that the name does not exist. -/
theorem unknown_code_told_as_name :
    let fs : FileSystem := { directory := "/", state := fun _ => .directory }
    let s : Session := { chain := [.hosts [], .network] }
    let waiting := (s.step fs (.typed 0 .ipv4 (.text "A."))).1
    let fired := (waiting.step fs (.reply 1 0 (.failed (.server .unknown "scripted")))).2.fired
    let q : Question := { name := .name ⟨[97]⟩, type := RecordType.a }
    fired = [(0, ⟨.error (.result ⟨some ResultCode.name, .name ⟨[97]⟩⟩), ""⟩)] ∧
      Lookup.told (.typed .ipv4) q ⟨[97]⟩ (.server .unknown "scripted") =
        .error (.server .unknown "scripted") ∧
      fired ≠ [(0, ⟨Lookup.told (.typed .ipv4) q ⟨[97]⟩ (.server .unknown "scripted"), ""⟩)] := by
  intro fs s waiting fired q
  have hfired : fired = [(0, ⟨.error (.result ⟨some ResultCode.name, .name ⟨[97]⟩⟩), ""⟩)] := by rfl
  refine ⟨hfired, rfl, ?_⟩
  rw [hfired]
  simp [Lookup.told, Failure.known?, ServerError.known?]

end ResolverChain
