/-
  Arguments of lookups are refused before anybody is asked, or asked about once.

  * `Kind.Refuses` lists the arguments that a kind of lookup refuses, with the failure that
    tells why, and `Kind.Accepts` the names that the other arguments stand for; every
    argument is in one of the lists (`Kind.refuses_or_accepts`);
  * a refused argument fails with what tells why, unless the argument cannot be told itself
    (`Kind.Untellable`, `Kind.Refuses.exists_told`);
  * `heardIn` are the questions that the links of a chain hear in a step;
  * a refused argument fails the step at once and no link hears of it, while of any other
    each link hears one question at most (`lookups_refuse_or_ask_once`).
-/
import ResolverChain.Proofs.PrintedLookup
import ResolverChain.Proofs.ReverseName

namespace ResolverChain

/-- The values that are read as names: texts, bytes and names. -/
inductive Value.IsNameLike : Value → Prop
  | text (s : String) : IsNameLike (.text s)
  | bytes (bs : List UInt8) : IsNameLike (.bytes bs)
  | name (n : DomainName) : IsNameLike (.name n)

namespace Lookup.Kind

variable {kind : Kind} {v : Value} {failure : Failure} {domain : DomainName}

/-! ## Arguments -/

/-- The arguments that a kind of lookup refuses, each with the failure that tells why. -/
inductive Refuses : Kind → Value → Failure → Prop
  | noName {kind : Kind} (named : kind ≠ .reverse) : Refuses kind .nothing (.name .missing)
  /-- Other kinds of values than texts, bytes and names are never names. -/
  | unsupported {kind : Kind} {v : Value} (named : kind ≠ .reverse) (given : v ≠ .nothing)
      (other : ¬ v.IsNameLike) : Refuses kind v (.name (.unsupported v))
  | unencodable {kind : Kind} {s : String} (named : kind ≠ .reverse)
      (unencoded : DomainName.ofText? s = none) :
      Refuses kind (.text s) (.name (.unencodable s))
  | noAddress : Refuses .reverse .nothing (.address .missing)
  /-- The failure tells the value, but no host to which it would belong. -/
  | invalid {v : Value} (given : v ≠ .nothing) (other : ∀ a, v ≠ .address a)
      (unread : v.toAddress? = none) : Refuses .reverse v (.address (.invalid .nothing v))

/-- The arguments that a kind of lookup takes, each with the name that is asked for. -/
inductive Accepts : Kind → Value → DomainName → Prop
  | text {kind : Kind} {s : String} {domain : DomainName} (named : kind ≠ .reverse)
      (encoded : DomainName.ofText? s = some domain) : Accepts kind (.text s) domain
  | bytes {kind : Kind} {bs : List UInt8} (named : kind ≠ .reverse) :
      Accepts kind (.bytes bs) (DomainName.normal bs)
  | name {kind : Kind} {n : DomainName} (named : kind ≠ .reverse) :
      Accepts kind (.name n) (DomainName.normal n.bytes)
  /-- An address is taken as it is, whatever its scope is. -/
  | address {a : Address} : Accepts .reverse (.address a) a.reverseName
  | read {v : Value} {a : Address} (given : v ≠ .nothing) (other : ∀ b, v ≠ .address b)
      (isRead : v.toAddress? = some a) : Accepts .reverse v a.reverseName

/-- The value is no name, but that cannot be told, for a number in it has too many digits. -/
structure Untellable (kind : Kind) (v : Value) : Prop where
  named : kind ≠ .reverse
  other : ¬ v.IsNameLike
  long : v.hasLongNumber = true

theorem target_of_named (h : kind ≠ .reverse) : kind.target v = v.toDomain.mapError .name := by
  cases kind with
  | reverse => exact absurd rfl h
  | _ => rfl

/-- What is neither nothing nor an address is read as an address. -/
theorem target_reverse (given : v ≠ .nothing) (other : ∀ a, v ≠ .address a) :
    reverse.target v = (v.toAddress?.elim (.error (.address (.invalid .nothing v)))
      fun a => .ok a.reverseName) := by
  rw [target]
  cases hread : v.toAddress? with
  | none | some =>
    cases v with
    | nothing => exact absurd rfl given
    | address a => exact absurd rfl (other a)
    | _ => simp only [Value.reverseDomain, hread, Except.mapError, Option.elim]

/-- What is of no kind of names is none, for what it is or because it cannot be told. -/
theorem target_of_other (named : kind ≠ .reverse) (given : v ≠ .nothing)
    (other : ¬ v.IsNameLike) : kind.target v = .error (.name v.unsupportedError) := by
  rw [target_of_named named]
  cases v with
  | nothing => exact absurd rfl given
  | text s => exact absurd (.text s) other
  | bytes bs => exact absurd (.bytes bs) other
  | name n => exact absurd (.name n) other
  | _ => rfl

theorem Untellable.of_whole {n : Int} (named : kind ≠ .reverse)
    (long : Text.Integer.isLong n = true) : kind.Untellable (.whole n) := ⟨named, nofun, long⟩

theorem Untellable.target (h : kind.Untellable v) :
    kind.target v = .error (.name (.untellable .number)) := by
  have given : v ≠ .nothing := by
    rintro rfl
    cases h.long
  rw [target_of_other h.named given h.other, Value.unsupportedError, Value.quoted?, if_pos h.long]

/-- **Refused arguments have no name to ask for.** -/
theorem Refuses.target (h : kind.Refuses v failure) (told : ¬ kind.Untellable v) :
    kind.target v = .error failure := by
  cases h with
  | noName named => rw [target_of_named named]; rfl
  | unsupported named given other =>
    have short : ¬ v.hasLongNumber = true := fun long => told ⟨named, other, long⟩
    rw [target_of_other named given other, Value.unsupportedError, Value.quoted?, if_neg short]
  | unencodable named unencoded =>
    rw [target_of_named named, Value.toDomain, unencoded]
    rfl
  | noAddress => rfl
  | invalid given other unread => rw [target_reverse given other, unread, Option.elim_none]

/-- Why a number is no name. -/
theorem Refuses.eq_of_whole {n : Int} (named : kind ≠ .reverse)
    (h : kind.Refuses (.whole n) failure) : failure = .name (.unsupported (.whole n)) := by
  cases h with
  | unsupported => rfl
  | invalid => exact absurd rfl named

/-- The failure of a refused argument is the one that tells why if and only if the argument
    can be told. -/
theorem Refuses.exists_told (h : kind.Refuses v failure) :
    ∃ told, kind.target v = .error told ∧ (told = failure ↔ ¬ kind.Untellable v) ∧
      (kind.Untellable v → told = .name (.untellable .number)) := by
  by_cases huntold : kind.Untellable v
  · refine ⟨_, huntold.target, iff_of_false ?_ (not_not_intro huntold), fun _ => rfl⟩
    rintro rfl
    cases h
  · exact ⟨failure, h.target huntold, iff_of_true rfl huntold, fun h => absurd h huntold⟩

/-- **Accepted arguments are asked for by their names.** -/
theorem Accepts.target (h : kind.Accepts v domain) : kind.target v = .ok domain := by
  cases h with
  | text named encoded =>
    rw [target_of_named named, Value.toDomain, encoded]
    rfl
  | bytes named | name named => rw [target_of_named named]; rfl
  | address => rfl
  | read given other isRead =>
    rw [target_reverse given other, isRead, Option.elim_some]

/-- **Every argument is refused or accepted.** -/
theorem refuses_or_accepts (kind : Kind) (v : Value) :
    (∃ failure, kind.Refuses v failure) ∨ ∃ domain, kind.Accepts v domain := by
  by_cases named : kind = .reverse
  · subst named
    by_cases given : v = .nothing
    · rw [given]
      exact Or.inl ⟨_, .noAddress⟩
    by_cases isAddress : ∃ a, v = .address a
    · obtain ⟨a, rfl⟩ := isAddress
      exact Or.inr ⟨_, .address⟩
    have other : ∀ a, v ≠ .address a := not_exists.1 isAddress
    cases unread : v.toAddress? with
    | none => exact Or.inl ⟨_, .invalid given other unread⟩
    | some a => exact Or.inr ⟨_, .read given other unread⟩
  · cases v with
    | nothing => exact Or.inl ⟨_, .noName named⟩
    | text s =>
      cases hs : DomainName.ofText? s with
      | none => exact Or.inl ⟨_, .unencodable named hs⟩
      | some domain => exact Or.inr ⟨_, .text named hs⟩
    | bytes bs => exact Or.inr ⟨_, .bytes named⟩
    | name n => exact Or.inr ⟨_, .name named⟩
    | _ => exact Or.inl ⟨_, .unsupported named nofun nofun⟩

end Lookup.Kind

namespace Session

open Lookup (Kind Use)

variable {fs : FileSystem} {s : Session} {step : Step} {link : Nat} {use : Use} {q : Question}
  {kind : Kind} {argument : Value} {name : String} {failure : Failure} {domain : DomainName}

/-! ## What links hear -/

/-- The questions that links hear in a step, each with the link that hears it. -/
def heardIn (s : Session) (step : Step) : List (Nat × Question) :=
  match s.accepts step, step.call? with
  | true, some (link, _, .ok q) =>
    (ask (s.chain.drop link) q).heard.map fun (depth, question) => (link + depth, question)
  | _, _ => []

theorem heardIn_of_unread (hcall : step.call? = some (link, use, .error failure)) :
    s.heardIn step = [] := by
  rw [heardIn, hcall]
  cases s.accepts step <;> rfl

/-- Links hear of a question at most once, one after the other from the one that is asked. -/
theorem heardIn_of_call (haccepts : s.accepts step = true)
    (hcall : step.call? = some (link, use, .ok q)) :
    ∃ n, s.heardIn step = (List.range n).map (fun depth => (link + depth, q)) ∧
      (link < s.chain.length → 0 < n) := by
  obtain ⟨n, hheard, hpos⟩ := heard_ask (s.chain.drop link) q
  refine ⟨n, ?_, fun hlink => hpos (List.drop_eq_nil_iff.not.2 (by omega))⟩
  rw [heardIn, haccepts, hcall]
  simp [hheard, Function.comp_def]

/-! ## Questions of arguments -/

theorem questionOf_of_unread (h : kind.target argument = .error failure) :
    questionOf kind argument = .error failure := by
  rw [questionOf, h]
  rfl

theorem questionOf_of_accepts (h : kind.Accepts argument domain) :
    questionOf kind argument =
      .ok ⟨.name domain, kind.recordType, RecordClass.internet, {}⟩ := by
  rw [questionOf, h.target]
  rfl

/-- **A refused argument fails the step**, and nothing else happens. -/
theorem step_of_unread_typed (htyped : s.isUntyped link = false)
    (h : kind.target argument = .error failure) :
    s.step fs (.typed link kind argument) = (s, { result := .failed failure }) := by
  simp only [Session.step, startTyped, htyped, questionOf_of_unread h]
  rfl

/-- **Lookups refuse their argument or ask about it once.**  What a kind refuses fails the
    lookup before any link hears of it, and no lookup is started; one that prints is started,
    but ends at once with a message for the user, and has written nothing.  The failure is
    the one that tells why the argument is refused if and only if the argument can be told.
    Of every other argument the link that is asked, and none twice, hears the question of the
    kind about its normal name, of class internet and without flags. -/
theorem lookups_refuse_or_ask_once (kind : Kind) (argument : Value) :
    (∃ failure told, kind.Refuses argument failure ∧
      (told = failure ↔ ¬ kind.Untellable argument) ∧
      (kind.Untellable argument → told = .name (.untellable .number)) ∧
      ∀ (fs : FileSystem) (s : Session) (link : Nat), s.isUntyped link = false →
        s.step fs (.typed link kind argument) = (s, { result := .failed told }) ∧
        s.heardIn (.typed link kind argument) = [] ∧
        ∀ name, argument = .text name → ∃ text, told.message? = .ok text ∧
          s.step fs (.printed link kind.name name) =
            ({ s with lookups := s.lookups ++ [⟨.printed kind name, none⟩] },
              { result := .lookup s.lookups.length (some "")
                fired := [(s.lookups.length,
                  ⟨.error (.exit (Command.failedText name text)), ""⟩)] }) ∧
          s.heardIn (.printed link kind.name name) = []) ∨
    ∃ domain, kind.Accepts argument domain ∧ (Value.name domain).toDomain = .ok domain ∧
      ∀ (fs : FileSystem) (s : Session) (link : Nat), s.isUntyped link = false →
        let q : Question := ⟨.name domain, kind.recordType, RecordClass.internet, {}⟩
        (∃ n, s.heardIn (.typed link kind argument) =
            (List.range n).map (fun depth => (link + depth, q)) ∧
          (link < s.chain.length → 0 < n)) ∧
        AsksOnce fs s (.typed link kind argument) link (.typed kind) q ∧
        ∀ name, argument = .text name →
          AsksOnce fs s (.printed link kind.name name) link (.printed kind name) q := by
  rcases kind.refuses_or_accepts argument with ⟨failure, h⟩ | ⟨domain, h⟩
  · obtain ⟨told, htarget, htold, huntold⟩ := h.exists_told
    refine Or.inl ⟨failure, told, h, htold, huntold, fun fs s link htyped =>
      ⟨step_of_unread_typed htyped htarget, ?_, ?_⟩⟩
    · exact heardIn_of_unread (by rw [Step.call?, questionOf_of_unread htarget])
    · rintro name rfl
      obtain ⟨text, hmessage, hreported⟩ := Command.reported_of_target htarget
      refine ⟨text, hmessage, step_of_unread_printed htyped htarget hreported, ?_⟩
      exact heardIn_of_unread (by rw [call?_printed, questionOf_of_unread htarget])
  · have hnormal : (Value.name domain).toDomain = .ok domain := by
      rw [Value.toDomain, Kind.normal_target h.target]
    have hquestion := questionOf_of_accepts h
    refine Or.inr ⟨domain, h, hnormal, fun fs s link htyped => ?_⟩
    have haccepts : s.accepts (.typed link kind argument) = true := by simp [accepts, htyped]
    have hcall : (Step.typed link kind argument).call? =
        some (link, .typed kind, .ok ⟨.name domain, kind.recordType, RecordClass.internet, {}⟩) := by
      rw [Step.call?, hquestion]
    refine ⟨heardIn_of_call haccepts hcall,
      asksOnce_of_starts (step_of_accepted haccepts hcall) rfl hnormal, ?_⟩
    rintro name rfl
    have haccepts : s.accepts (.printed link kind.name name) = true := by simp [accepts, htyped]
    have hcall := call?_printed link kind name
    rw [hquestion] at hcall
    exact asksOnce_of_starts (step_of_accepted haccepts hcall) rfl hnormal

/-- A number is no name, but it is an address; and a text with an empty label is no name. -/
theorem lookups_refuse_or_ask_once_number :
    let fs : FileSystem := { directory := "/", state := fun _ => .directory }
    let s : Session := { chain := [.hosts [], .network] }
    let q : Question := ⟨.name (Address.v4 #v[0, 0, 0, 1]).reverseName, RecordType.ptr,
      RecordClass.internet, {}⟩
    (s.step fs (.typed 0 .ipv4 (.whole 1)) =
        (s, { result := .failed (.name (.unsupported (.whole 1))) }) ∧
      s.heardIn (.typed 0 .ipv4 (.whole 1)) = []) ∧
      (∃ n, s.heardIn (.typed 0 .reverse (.whole 1)) =
        (List.range n).map (fun depth => (0 + depth, q)) ∧ 0 < n) ∧
      (∃ text, (s.step fs (.printed 0 "text" "a..b")).2.fired =
        [(0, ⟨.error (.exit (Command.failedText "a..b" text)), ""⟩)]) := by
  intro fs s q
  have hnumber : (Value.whole 1).toAddress? = some (.v4 #v[0, 0, 0, 1]) := by decide +kernel
  have hempty : DomainName.ofText? "a..b" = none := by decide +kernel
  have hshort : (Value.whole 1).hasLongNumber = false := Text.Integer.isLong_of_lt (by decide)
  refine ⟨?_, ?_, ?_⟩
  · rcases lookups_refuse_or_ask_once .ipv4 (.whole 1) with
      ⟨failure, told, h, htold, -, hstep⟩ | ⟨domain, h, -⟩
    · obtain ⟨hfailed, hunheard, -⟩ := hstep fs s 0 rfl
      obtain rfl := htold.2 fun huntold => absurd huntold.long (by rw [hshort]; decide)
      cases h
      exact ⟨hfailed, hunheard⟩
    · cases h
  · rcases lookups_refuse_or_ask_once .reverse (.whole 1) with
      ⟨failure, told, h, -⟩ | ⟨domain, h, -, hasks⟩
    · cases h with
      | unsupported named => exact absurd rfl named
      | invalid _ _ unread => cases hnumber.symm.trans unread
    · cases h with
      | read _ _ isRead =>
        cases hnumber.symm.trans isRead
        obtain ⟨n, hheard, hpos⟩ := (hasks fs s 0 rfl).1
        exact ⟨n, hheard, hpos (by decide)⟩
  · rcases lookups_refuse_or_ask_once .text (.text "a..b") with
      ⟨failure, told, h, -, -, hstep⟩ | ⟨domain, h, -⟩
    · obtain ⟨text, -, hprinted, -⟩ := (hstep fs s 0 rfl).2.2 "a..b" rfl
      exact ⟨text, congrArg (·.2.fired) hprinted⟩
    · cases h with
      | text _ encoded => cases hempty.symm.trans encoded

/-- The least number with too many digits is no name either, but what fails is the attempt to
    tell so. -/
theorem long_number_untold :
    let fs : FileSystem := { directory := "/", state := fun _ => .directory }
    let s : Session := { chain := [.hosts [], .network] }
    let argument : Value := .whole (Nat.pow 10 Text.Integer.maxDigits : Nat)
    s.step fs (.typed 0 .ipv4 argument) =
        (s, { result := .failed (.name (.untellable .number)) }) ∧
      ∀ failure, Kind.Refuses .ipv4 argument failure → failure = .name (.unsupported argument) := by
  intro fs s argument
  have hlong : Text.Integer.isLong (Nat.pow 10 Text.Integer.maxDigits : Nat) = true := by
    rw [Text.Integer.isLong, Int.natAbs_natCast, decide_eq_true_eq]
  have hnamed : Kind.ipv4 ≠ .reverse := by decide
  have huntold : Kind.Untellable .ipv4 argument := .of_whole hnamed hlong
  exact ⟨step_of_unread_typed rfl huntold.target, fun failure h => h.eq_of_whole hnamed⟩

end Session

end ResolverChain
