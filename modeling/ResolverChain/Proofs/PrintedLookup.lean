/-
  How lookups that print end.

  * what a lookup finds is a row of items (`Found.items`), each of which is written as its
    text; only a name outside ASCII has none (`Found.lines?_cases`);
  * addresses of 4 or 16 bytes can be read, so a successful answer with no others always
    finds something or nothing (`exists_foundIn`);
  * `Finishes` lists how the lookup can end with an answer: all items are written, or nothing
    is and there is a message for the user;
  * but a name outside ASCII, which an answer may well hold, fails the lookup itself, and so
    does a code of too many digits (`printed_lookups_end`).
-/
import ResolverChain.Proofs.CommandRun

namespace ResolverChain

theorem DomainName.text?_eq_none_iff {n : DomainName} : n.text? = none ↔ ¬ n.Ascii := by
  constructor
  · intro h hascii
    obtain ⟨s, hs⟩ := hascii.text?
    rw [h] at hs
    cases hs
  · intro h
    rw [text?, if_neg]
    intro hall
    exact h fun b hb => UInt8.lt_iff_toNat_lt.1 (of_decide_eq_true (List.all_eq_true.1 hall b hb))

/-! ## Packed addresses -/

/-- An address in the record has 4 or 16 bytes. -/
def Record.IsPacked (record : Record) : Prop :=
  ∀ bytes, record.content? = some (.a bytes) ∨ record.content? = some (.aaaa bytes) →
    bytes.length = 4 ∨ bytes.length = 16

namespace Lookup

variable {kind : Kind} {name : String} {domain : DomainName} {answer : Answer} {found : Found}
  {records : List Record}

/-! ## Records that can be read -/

theorem exists_unpack {families : Families} {record : Record} {bytes : List UInt8}
    (hrecord : record.IsPacked) (h : packedAddress? families record = some bytes) :
    ∃ a, unpack bytes = .ok a := by
  have hcontent : record.content? = some (.a bytes) ∨ record.content? = some (.aaaa bytes) := by
    unfold packedAddress? at h
    split at h <;> cases h <;> simp_all
  obtain ⟨a, ha⟩ := Address.exists_ofPacked? (hrecord bytes hcontent)
  exact ⟨a, by rw [unpack, ha]⟩

theorem exists_allAddresses (families : Families) (h : ∀ record ∈ records, record.IsPacked) :
    ∃ all, allAddresses families records = .ok all := by
  have hbytes : ∀ bytes ∈ records.filterMap (packedAddress? families),
      ∃ a, unpack bytes = .ok a := by
    intro bytes hin
    obtain ⟨record, hrecord, hpacked⟩ := List.mem_filterMap.1 hin
    exact exists_unpack (h record hrecord) hpacked
  rw [allAddresses]
  generalize records.filterMap (packedAddress? families) = packed at hbytes
  induction packed with
  | nil => exact ⟨[], rfl⟩
  | cons bytes packed ih =>
    obtain ⟨a, ha⟩ := hbytes bytes List.mem_cons_self
    obtain ⟨all, hall⟩ := ih fun b hb => hbytes b (List.mem_cons_of_mem bytes hb)
    exact ⟨a :: all, by rw [List.mapM_cons, ha, hall]; rfl⟩

theorem exists_firstAddress (families : Families) (h : ∀ record ∈ records, record.IsPacked) :
    ∃ first, firstAddress families records = .ok first := by
  rw [firstAddress]
  cases hfirst : records.findSome? (packedAddress? families) with
  | none => exact ⟨none, rfl⟩
  | some bytes =>
    obtain ⟨record, hrecord, hpacked⟩ := List.exists_of_findSome?_eq_some hfirst
    obtain ⟨a, ha⟩ := exists_unpack (h record hrecord) hpacked
    exact ⟨some a, by simp only [ha]; rfl⟩

/-- **Records whose addresses have the right size never fail a lookup.** -/
theorem exists_foundIn (kind : Kind) (h : ∀ record ∈ records, record.IsPacked) :
    ∃ found, kind.foundIn records = .ok found := by
  cases kind with
  | allAddresses | allIPv4 | allIPv6 =>
    obtain ⟨all, hall⟩ := exists_allAddresses _ h
    exact ⟨.addresses all, by rw [Kind.foundIn, hall]; rfl⟩
  | address | ipv4 | ipv6 =>
    obtain ⟨first, hfirst⟩ := exists_firstAddress _ h
    exact ⟨.address first, by rw [Kind.foundIn, hfirst]; rfl⟩
  | reverse | text => exact ⟨_, rfl⟩

/-! ## Items -/

/-- One result of a lookup. -/
inductive Item where
  | address (a : Address)
  | name (n : DomainName)
  | text (bytes : List UInt8)

/-- The text of a result, if it can be written: of bytes in UTF-8 what they encode, and any
    other byte as its number. -/
def Item.text? : Item → Option String
  | .address a => some a.text
  | .name n => n.text?
  | .text bytes => some (String.ofList (Text.lenientText bytes))

/-- The results of a lookup, in order. -/
def Found.items : Found → List Item
  | addresses all => all.map .address
  | address first => first.toList.map .address
  | pointer target => target.toList.map .name
  | texts all => all.map .text

/-- Every result is a line, unless the lookup found a name outside ASCII. -/
theorem Found.lines?_cases (found : Found) :
    (∃ lines, found.lines? = .ok lines ∧ found.items.map Item.text? = lines.map some) ∨
      found.lines? = .error (.unwritable .name) ∧
        ∃ target, found = .pointer (some target) ∧ ¬ target.Ascii := by
  cases found with
  | addresses all => exact Or.inl ⟨_, rfl, by simp [items, Item.text?]⟩
  | address first => exact Or.inl ⟨_, rfl, by simp [items, Item.text?]⟩
  | texts all => exact Or.inl ⟨_, rfl, by simp [items, Item.text?]⟩
  | pointer target =>
    cases target with
    | none => exact Or.inl ⟨[], rfl, rfl⟩
    | some target =>
      cases htext : target.text? with
      | some line =>
        refine Or.inl ⟨[line], ?_, by simp [items, Item.text?, htext]⟩
        simp [lines?, nameText, htext]
      | none =>
        refine Or.inr ⟨?_, target, rfl, DomainName.text?_eq_none_iff.1 htext⟩
        simp [lines?, nameText, htext]

/-! ## Ends of lookups that print -/

/-- How a lookup that prints can end with an answer. -/
inductive Finishes (kind : Kind) (name : String) (domain : DomainName) (answer : Answer) :
    Conclusion → Prop
  /-- The lookup of the kind has results, and each is written, on a line of its own. -/
  | written {found : Found} {lines : List String}
      (typed : (Use.typed kind).conclude (.ok answer) = ⟨.ok (.found found), ""⟩)
      (isFound : found.items ≠ []) (texts : found.items.map Item.text? = lines.map some) :
      Finishes kind name domain answer ⟨.ok .done, String.join (lines.map (· ++ "\n"))⟩
  /-- It has none. -/
  | nothing {found : Found}
      (typed : (Use.typed kind).conclude (.ok answer) = ⟨.ok (.found found), ""⟩)
      (isNothing : found.items = []) :
      Finishes kind name domain answer ⟨.error (.exit (nothingFound name)), ""⟩
  /-- The query was not answered with success. -/
  | failed {code : Int} {ace digits : String} (answered : answer.code = some code)
      (failed : code ≠ ResultCode.ok) (shown : domain.text? = some ace)
      (told : Text.Integer.text? code = some digits) :
      Finishes kind name domain answer
        ⟨.error (.exit (Command.failedText name (Command.failedQueryText ace digits))), ""⟩
  /-- Nor was this one, but the code has too many digits to be told. -/
  | untold {code : Int} (answered : answer.code = some code)
      (long : Text.Integer.isLong code = true) :
      Finishes kind name domain answer ⟨.error (.unwritable .number), ""⟩
  /-- The lookup of the kind has a name outside ASCII as its result. -/
  | unwritable {target : DomainName}
      (typed : (Use.typed kind).conclude (.ok answer) = ⟨.ok (.found (.pointer (some target))), ""⟩)
      (foreign : ¬ target.Ascii) :
      Finishes kind name domain answer ⟨.error (.unwritable .name), ""⟩

/-- The lookup has written its results, or it ends with a message and has written nothing. -/
def Conclusion.IsDocumented (conclusion : Conclusion) : Prop :=
  conclusion.outcome = .ok .done ∨ ∃ text, conclusion = ⟨.error (.exit text), ""⟩

theorem not_isDocumented_unwritable {reason : Unwritable} :
    ¬ Conclusion.IsDocumented ⟨.error (.unwritable reason), ""⟩ := by
  rintro (h | ⟨text, h⟩)
  · cases h
  · cases h

/-- What cannot be told fails the lookup itself. -/
theorem reported_of_untold {failure : Failure} {reason : Unwritable}
    (h : isReported failure = true) (hmessage : failure.message? = .error reason) :
    reported name failure = .unwritable reason := by
  rw [reported, if_pos h, hmessage]

/-- What was found is written, or nothing is and the reason is told, unless it is a name
    outside ASCII. -/
theorem finishes_of_found
    (htyped : (Use.typed kind).conclude (.ok answer) = ⟨.ok (.found found), ""⟩) :
    Finishes kind name domain answer
      ⟨(printFound name found).outcome.map fun _ => .done, (printFound name found).output⟩ := by
  rcases found.lines?_cases with ⟨lines, hlines, htexts⟩ | ⟨hlines, target, rfl, hforeign⟩
  · cases lines with
    | nil =>
      rw [printFound, hlines]
      exact .nothing htyped (List.map_eq_nil_iff.1 htexts)
    | cons line lines =>
      rw [printFound, hlines]
      refine .written htyped ?_ htexts
      rintro hnil
      rw [hnil] at htexts
      cases htexts
  · rw [printFound, hlines]
    exact .unwritable htyped hforeign

/-- **A lookup that prints ends with an answer in one of these ways**, whatever the code and
    the records are. -/
theorem finishes_of_answer {code : Int} (htarget : kind.target (.text name) = .ok domain)
    (hname : answer.name = .name domain) (hcode : answer.code = some code)
    (hpacked : ∀ record ∈ answer.records, record.IsPacked) :
    Finishes kind name domain answer ((Use.printed kind name).conclude (.ok answer)) := by
  by_cases hok : code = ResultCode.ok
  · subst hok
    obtain ⟨found, hfound⟩ := exists_foundIn kind hpacked
    have hkind : kind.found answer = .ok found := by rw [Kind.found_of_ok hcode, hfound]
    have htyped : (Use.typed kind).conclude (.ok answer) = ⟨.ok (.found found), ""⟩ := by
      simp only [Use.conclude, Except.bind, hkind]
      rfl
    simp only [Use.conclude, Except.bind, hkind, printed]
    exact finishes_of_found htyped
  · have hfailed : answer.code ≠ some ResultCode.ok := by simpa [hcode] using hok
    obtain ⟨ace, hace⟩ := (Kind.ascii_target htarget).text?
    have hmessage : Failure.message? (.result ⟨answer.code, answer.name⟩) =
        (Text.Integer.text? code).elim (.error .number) fun digits =>
          .ok (Command.failedQueryText ace digits) := by
      rw [hcode, hname]
      exact Command.message?_of_ascii hace code
    simp only [Use.conclude, Except.bind, Kind.found_of_failed hfailed, printed]
    cases hdigits : Text.Integer.text? code with
    | some digits =>
      rw [hdigits, Option.elim_some] at hmessage
      rw [Command.reported_eq rfl hmessage]
      exact .failed hcode hok hace hdigits
    | none =>
      rw [hdigits, Option.elim_none] at hmessage
      rw [reported_of_untold rfl hmessage]
      exact .untold hcode (Text.Integer.text?_eq_none_iff.1 hdigits)

/-- What a kind finds in an answer, it finds in one of success. -/
theorem code_of_typed (htyped : (Use.typed kind).conclude (.ok answer) = ⟨.ok (.found found), ""⟩) :
    answer.code = some ResultCode.ok := by
  by_contra hcode
  simp only [Use.conclude, Except.bind, Kind.found_of_failed hcode] at htyped
  cases htyped

/-- The ends that are not documented are those of a name outside ASCII and of a code that is
    too long. -/
theorem Finishes.isDocumented_iff {conclusion : Conclusion} {code : Int}
    (h : Finishes kind name domain answer conclusion) (hcode : answer.code = some code) :
    conclusion.IsDocumented ↔
      (¬ ∃ target, (Use.typed kind).conclude (.ok answer) =
          ⟨.ok (.found (.pointer (some target))), ""⟩ ∧ ¬ target.Ascii) ∧
        Text.Integer.isLong code = false := by
  have hshort {found : Found}
      (htyped : (Use.typed kind).conclude (.ok answer) = ⟨.ok (.found found), ""⟩) :
      Text.Integer.isLong code = false := by
    obtain rfl := Option.some.inj (hcode.symm.trans (code_of_typed htyped))
    exact Text.Integer.isLong_of_lt (by decide)
  cases h with
  | @written found lines htyped hsome htexts =>
    refine iff_of_true (Or.inl rfl) ⟨?_, hshort htyped⟩
    rintro ⟨target, htarget, hforeign⟩
    cases htyped.symm.trans htarget
    have hnone : target.text? = none := DomainName.text?_eq_none_iff.2 hforeign
    rw [Found.items, Option.toList_some, List.map_singleton, List.map_singleton, Item.text?,
      hnone] at htexts
    cases lines <;> cases htexts
  | nothing htyped hnone =>
    refine iff_of_true (Or.inr ⟨_, rfl⟩) ⟨?_, hshort htyped⟩
    rintro ⟨target, htarget, -⟩
    cases htyped.symm.trans htarget
    cases hnone
  | failed hcode' hfailed hshown hdigits =>
    obtain rfl := Option.some.inj (hcode.symm.trans hcode')
    refine iff_of_true (Or.inr ⟨_, rfl⟩) ⟨?_, Text.Integer.isLong_of_text? hdigits⟩
    rintro ⟨target, htarget, -⟩
    exact hfailed (Option.some.inj (hcode.symm.trans (code_of_typed htarget)))
  | untold hcode' hlong =>
    obtain rfl := Option.some.inj (hcode.symm.trans hcode')
    refine iff_of_false not_isDocumented_unwritable ?_
    rintro ⟨-, hshort⟩
    cases hlong.symm.trans hshort
  | unwritable htyped hforeign =>
    exact iff_of_false not_isDocumented_unwritable fun h => h.1 ⟨_, htyped, hforeign⟩

end Lookup

namespace Session

open Lookup (Kind Use Conclusion Finishes)

variable {fs : FileSystem} {s : Session} {link : Nat} {kind : Kind} {name : String}

/-! ## Starting lookups that print -/

theorem ofName?_name (kind : Kind) : Kind.ofName? kind.name = some kind := by
  cases kind <;> rfl

theorem call?_printed (link : Nat) (kind : Kind) (name : String) :
    (Step.printed link kind.name name).call? =
      some (link, .printed kind name, questionOf kind (.text name)) := by
  rw [Step.call?, ofName?_name]
  rfl

/-- **Starting a lookup that prints never fails**, whatever the name is. -/
theorem exists_lookup_of_printed (htyped : s.isUntyped link = false) (kind : Kind)
    (name : String) :
    ∃ output, (s.step fs (.printed link kind.name name)).2.result =
      .lookup s.lookups.length output := by
  have haccepts : s.accepts (.printed link kind.name name) = true := by simp [accepts, htyped]
  have hcall := call?_printed link kind name
  cases hquestion : questionOf kind (.text name) with
  | error failure =>
    rw [hquestion] at hcall
    rw [step_of_unread haccepts hcall]
    exact ⟨_, rfl⟩
  | ok question =>
    rw [hquestion] at hcall
    rw [step_of_accepted haccepts hcall, start]
    cases hcourse : (ask (s.chain.drop link) question).course with
    | waiting => exact ⟨_, rfl⟩
    | settled answer => exact ⟨_, rfl⟩
    | refused failure => exact ⟨_, rfl⟩

/-- **A name that cannot be read is told before any query is made.** -/
theorem step_of_unread_printed {failure : Failure} {text : String}
    (htyped : s.isUntyped link = false) (htarget : kind.target (.text name) = .error failure)
    (hreported : Lookup.reported name failure = .exit (Command.failedText name text)) :
    s.step fs (.printed link kind.name name) =
      ({ s with lookups := s.lookups ++ [⟨.printed kind name, none⟩] },
        { result := .lookup s.lookups.length (some "")
          fired := [(s.lookups.length,
            ⟨.error (.exit (Command.failedText name text)), ""⟩)] }) := by
  have haccepts : s.accepts (.printed link kind.name name) = true := by simp [accepts, htyped]
  have hcall := call?_printed link kind name
  rw [questionOf, htarget] at hcall
  rw [step_of_unread haccepts hcall, settle]
  simp only [Use.conclude, Except.bind, Lookup.printed, hreported]
  rfl

/-! ## How lookups that print end -/

/-- **How lookups that print end.**  Starting one never fails.  If the name cannot be read,
    that is told at once and no query is made.  Otherwise every answer to its query, whatever
    the code and the records are, ends it in one of the ways of `Finishes`: its results are
    written in order, or nothing is and there is a message that gives the reason.  Only two
    ends are not documented, that of a lookup whose result is a name outside ASCII and that
    of a code with too many digits. -/
theorem printed_lookups_end (kind : Kind) (name : String) :
    (∀ (fs : FileSystem) (s : Session) (link : Nat), s.isUntyped link = false →
      ∃ output, (s.step fs (.printed link kind.name name)).2.result =
        .lookup s.lookups.length output) ∧
    (∀ failure, kind.target (.text name) = .error failure →
      ∃ text, failure.message? = .ok text ∧
        ∀ (fs : FileSystem) (s : Session) (link : Nat), s.isUntyped link = false →
          s.step fs (.printed link kind.name name) =
            ({ s with lookups := s.lookups ++ [⟨.printed kind name, none⟩] },
              { result := .lookup s.lookups.length (some "")
                fired := [(s.lookups.length,
                  ⟨.error (.exit (Command.failedText name text)), ""⟩)] })) ∧
    ∀ domain, kind.target (.text name) = .ok domain →
      ∀ (answer : Answer) (code : Int), answer.name = .name domain →
        answer.code = some code → (∀ record ∈ answer.records, record.IsPacked) →
        ∃ conclusion : Conclusion, Finishes kind name domain answer conclusion ∧
          (conclusion.IsDocumented ↔
            (¬ ∃ target, (Use.typed kind).conclude (.ok answer) =
                ⟨.ok (.found (.pointer (some target))), ""⟩ ∧ ¬ target.Ascii) ∧
              Text.Integer.isLong code = false) ∧
          ∀ (fs : FileSystem) (s : Session) (step : Step) (k : Nat),
            s.Delivers step k (.printed kind name) (.ok answer) →
              (s.step fs step).2.fired = [(k, conclusion)] := by
  refine ⟨fun fs s link htyped => exists_lookup_of_printed htyped kind name, ?_, ?_⟩
  · intro failure htarget
    obtain ⟨text, hmessage, hreported⟩ := Command.reported_of_target htarget
    exact ⟨text, hmessage, fun fs s link htyped =>
      step_of_unread_printed htyped htarget hreported⟩
  · intro domain htarget answer code hname hcode hpacked
    have hfinishes := Lookup.finishes_of_answer htarget hname hcode hpacked
    exact ⟨_, hfinishes, hfinishes.isDocumented_iff hcode, fun fs s step k h => h.fired⟩

/-- A lookup of texts behind an empty table, with one that is not UTF-8 among the two in the
    answer. -/
theorem printed_lookups_end_texts :
    let fs : FileSystem := { directory := "/", state := fun _ => .directory }
    let record : Record :=
      ⟨⟨[97]⟩, RecordType.txt, RecordClass.internet, 0, some ⟨.texts [[104], [0xFF]], 0⟩⟩
    let s : Session := { chain := [.hosts [], .fixed ResultCode.ok [record, record]] }
    let answer : Answer :=
      ⟨.name ⟨[97]⟩, some RecordClass.internet, some RecordType.txt, some ResultCode.ok,
        [record, record]⟩
    ∃ conclusion : Conclusion, conclusion.IsDocumented ∧
      Finishes .text "A." ⟨[97]⟩ answer conclusion ∧
      (s.step fs (.printed 0 "text" "A.")).2.fired = [(0, conclusion)] := by
  intro fs record s answer
  have hdelivers : s.Delivers (.printed 0 "text" "A.") 0 (.printed .text "A.") (.ok answer) :=
    .atOnce rfl rfl rfl
  have hpacked : ∀ r ∈ answer.records, r.IsPacked := by
    simp [answer, record, Record.IsPacked, Record.content?]
  obtain ⟨conclusion, hfinishes, hdocumented, hfired⟩ :=
    (printed_lookups_end .text "A.").2.2 ⟨[97]⟩ rfl answer ResultCode.ok rfl rfl hpacked
  have hshort : Text.Integer.isLong ResultCode.ok = false := Text.Integer.isLong_of_lt (by decide)
  refine ⟨conclusion, hdocumented.2 ⟨?_, hshort⟩, hfinishes, hfired fs s _ 0 hdelivers⟩
  rintro ⟨target, htarget, -⟩
  cases htarget

/-- An answer that points an address to a name with the byte 255 in it fails the lookup
    itself. -/
theorem pointer_fails_printed_lookup :
    let fs : FileSystem := { directory := "/", state := fun _ => .directory }
    let target : DomainName := ⟨0xFF :: DomainName.bytesOfAscii ".example".toList⟩
    let record : Record :=
      ⟨⟨[]⟩, RecordType.ptr, RecordClass.internet, 0, some ⟨.pointer target, 0⟩⟩
    let s : Session := { chain := [.fixed ResultCode.ok [record]] }
    (s.step fs (.printed 0 "reverse" "10.0.0.1")).2.fired =
        [(0, ⟨.error (.unwritable .name), ""⟩)] ∧
      ¬ Conclusion.IsDocumented ⟨.error (.unwritable .name), ""⟩ :=
  ⟨rfl, Lookup.not_isDocumented_unwritable⟩

end Session

end ResolverChain
