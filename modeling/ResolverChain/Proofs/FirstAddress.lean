/-
  Lookups of all addresses, and of the first one.

  * packed addresses are read one after the other, up to the first that has neither 4 nor
    16 bytes (`mapM_unpack`); the lookup of a single address reads none but the first, so
    `EndTogether` lists how the two lookups can end (`endTogether`);
  * the addresses of both families are those of each family, merged in the order of the
    records (`Merged`, `merged_of_allAddresses`);
  * this says how the lookups end that are given one answer (`single_lookups_agree`).
-/
import ResolverChain.Proofs.Delivery

namespace ResolverChain

/-! ## Packed addresses -/

/-- The bytes are as many as an address of one of the families has. -/
def Address.IsSized (bytes : List UInt8) : Prop := bytes.length = 4 ∨ bytes.length = 16

/-- **Bytes are an address if and only if their number is right.** -/
theorem Address.exists_ofPacked?_iff {bytes : List UInt8} :
    (∃ a, ofPacked? bytes = some a) ↔ IsSized bytes := by
  refine ⟨?_, exists_ofPacked?⟩
  rintro ⟨a, ha⟩
  unfold ofPacked? at ha
  split_ifs at ha with h4 h16
  exacts [Or.inl h4, Or.inr h16]

namespace Lookup

variable {families : Families} {record : Record} {records : List Record}
  {packed : List (List UInt8)} {bytes : List UInt8} {all : List Address} {a : Address}

theorem unpack_of_ofPacked? (h : Address.ofPacked? bytes = some a) : unpack bytes = .ok a := by
  rw [unpack, h]

theorem unpack_of_not_isSized (h : ¬ Address.IsSized bytes) :
    unpack bytes = .error (.packed bytes) := by
  have hnone : Address.ofPacked? bytes = none :=
    Option.eq_none_iff_forall_ne_some.2 fun a ha => h (Address.exists_ofPacked?_iff.1 ⟨a, ha⟩)
  rw [unpack, hnone]

/-- The bytes are the addresses in packed form, in the same order. -/
abbrev Reads (packed : List (List UInt8)) (all : List Address) : Prop :=
  List.Forall₂ (fun bytes a => Address.ofPacked? bytes = some a) packed all

/-- Packed addresses are read one after the other, up to the first of a wrong size. -/
theorem mapM_unpack (packed : List (List UInt8)) :
    (∃ all, Reads packed all ∧ packed.mapM unpack = .ok all) ∨
      ∃ before bad after, packed = before ++ bad :: after ∧
        (∀ bytes ∈ before, Address.IsSized bytes) ∧ ¬ Address.IsSized bad ∧
        packed.mapM unpack = .error (.packed bad) := by
  induction packed with
  | nil => exact Or.inl ⟨[], .nil, rfl⟩
  | cons bytes packed ih =>
    by_cases hsize : Address.IsSized bytes
    · obtain ⟨a, ha⟩ := Address.exists_ofPacked?_iff.2 hsize
      have hcons : ∀ rest, packed.mapM unpack = rest →
          (bytes :: packed).mapM unpack = rest.map (a :: ·) := by
        rintro rest rfl
        rw [List.mapM_cons, unpack_of_ofPacked? ha]
        cases packed.mapM unpack <;> rfl
      rcases ih with ⟨all, hall, hread⟩ | ⟨before, bad, after, rfl, hbefore, hbad, hread⟩
      · exact Or.inl ⟨a :: all, .cons ha hall, hcons _ hread⟩
      · exact Or.inr ⟨bytes :: before, bad, after, rfl, List.forall_mem_cons.2 ⟨hsize, hbefore⟩,
          hbad, hcons _ hread⟩
    · refine Or.inr ⟨[], bytes, packed, rfl, by simp, hsize, ?_⟩
      rw [List.mapM_cons, unpack_of_not_isSized hsize]
      rfl

/-! ## All addresses and the first one -/

/-- How a lookup of all addresses and a lookup of a single one end with records that hold
    these packed addresses. -/
inductive EndTogether (packed : List (List UInt8)) :
    Except Failure Found → Except Failure Found → Prop
  /-- All are read, and the single one is the first of them, if there are any. -/
  | read {all : List Address} (all_read : Reads packed all) :
      EndTogether packed (.ok (.addresses all)) (.ok (.address all.head?))
  /-- The first one has a wrong size, and both lookups fail with it. -/
  | first {bad : List UInt8} {rest : List (List UInt8)} (held : packed = bad :: rest)
      (size : ¬ Address.IsSized bad) :
      EndTogether packed (.error (.packed bad)) (.error (.packed bad))
  /-- A later one is the first to have a wrong size, and only the lookup of all fails with
      it. -/
  | later {bytes bad : List UInt8} {before rest : List (List UInt8)} {a : Address}
      (held : packed = bytes :: before ++ bad :: rest)
      (sizes : ∀ bytes ∈ before, Address.IsSized bytes) (size : ¬ Address.IsSized bad)
      (first_read : Address.ofPacked? bytes = some a) :
      EndTogether packed (.error (.packed bad)) (.ok (.address (some a)))

theorem firstAddress_eq (families : Families) (records : List Record) :
    firstAddress families records =
      match (records.filterMap (packedAddress? families)).head? with
      | none => .ok none
      | some bytes => (unpack bytes).map some := by
  rw [List.head?_filterMap]
  rfl

/-- **The first address agrees with all addresses.** -/
theorem endTogether (families : Families) (records : List Record) :
    EndTogether (records.filterMap (packedAddress? families))
      ((allAddresses families records).map .addresses)
      ((firstAddress families records).map .address) := by
  rw [firstAddress_eq, allAddresses]
  generalize records.filterMap (packedAddress? families) = packed
  rcases mapM_unpack packed with ⟨all, hall, hread⟩ | ⟨before, bad, after, rfl, hbefore, hbad, hread⟩
  · have hfirst : EndTogether packed (.ok (.addresses all)) (.ok (.address all.head?)) := .read hall
    rw [hread]
    cases hall with
    | nil => exact hfirst
    | cons ha hrest =>
      simp only [List.head?_cons, unpack_of_ofPacked? ha]
      exact hfirst
  · rw [hread]
    cases before with
    | nil =>
      simp only [List.nil_append, List.head?_cons, unpack_of_not_isSized hbad]
      exact .first rfl hbad
    | cons bytes before =>
      obtain ⟨hbytes, hbefore⟩ := List.forall_mem_cons.1 hbefore
      obtain ⟨a, ha⟩ := Address.exists_ofPacked?_iff.2 hbytes
      simp only [List.cons_append, List.head?_cons, unpack_of_ofPacked? ha]
      exact .later rfl hbefore hbad ha

/-! ## Both families and each of them -/

/-- Addresses of both families at the records that hold them, and those of each family: in
    the order of the records, every one once. -/
inductive Merged : List Record → (all v4 v6 : List Address) → Prop
  | nil : Merged [] [] [] []
  | v4 {record : Record} {records : List Record} {bytes : List UInt8} {a : Address}
      {all v4 v6 : List Address} (content : record.content? = some (.a bytes))
      (read : Address.ofPacked? bytes = some a) (later : Merged records all v4 v6) :
      Merged (record :: records) (a :: all) (a :: v4) v6
  | v6 {record : Record} {records : List Record} {bytes : List UInt8} {a : Address}
      {all v4 v6 : List Address} (content : record.content? = some (.aaaa bytes))
      (read : Address.ofPacked? bytes = some a) (later : Merged records all v4 v6) :
      Merged (record :: records) (a :: all) v4 (a :: v6)
  | other {record : Record} {records : List Record} {all v4 v6 : List Address}
      (content : ∀ bytes, record.content? ≠ some (.a bytes) ∧ record.content? ≠ some (.aaaa bytes))
      (later : Merged records all v4 v6) : Merged (record :: records) all v4 v6

theorem packedAddress?_of_v4 (hcontent : record.content? = some (.a bytes)) :
    packedAddress? .both record = some bytes ∧ packedAddress? .onlyV4 record = some bytes ∧
      packedAddress? .onlyV6 record = none := by
  simp [packedAddress?, hcontent]

theorem packedAddress?_of_v6 (hcontent : record.content? = some (.aaaa bytes)) :
    packedAddress? .both record = some bytes ∧ packedAddress? .onlyV4 record = none ∧
      packedAddress? .onlyV6 record = some bytes := by
  simp [packedAddress?, hcontent]

theorem packedAddress?_of_other
    (h : ∀ bytes, record.content? ≠ some (.a bytes) ∧ record.content? ≠ some (.aaaa bytes))
    (families : Families) : packedAddress? families record = none := by
  cases hcontent : record.content? with
  | none => simp [packedAddress?, hcontent]
  | some content =>
    cases content with
    | a bytes => exact absurd hcontent (h bytes).1
    | aaaa bytes => exact absurd hcontent (h bytes).2
    | _ => cases families <;> simp [packedAddress?, hcontent]

theorem allAddresses_cons_of_none (h : packedAddress? families record = none) :
    allAddresses families (record :: records) = allAddresses families records := by
  rw [allAddresses, List.filterMap_cons_none h, allAddresses]

theorem allAddresses_cons_of_some (h : packedAddress? families record = some bytes) :
    allAddresses families (record :: records) =
      (do return (← unpack bytes) :: (← allAddresses families records)) := by
  rw [allAddresses, List.filterMap_cons_some h, List.mapM_cons, allAddresses]

theorem exists_of_allAddresses_cons (h : packedAddress? families record = some bytes)
    (hall : allAddresses families (record :: records) = .ok all) :
    ∃ a rest, all = a :: rest ∧ Address.ofPacked? bytes = some a ∧
      allAddresses families records = .ok rest := by
  rw [allAddresses_cons_of_some h] at hall
  cases ha : Address.ofPacked? bytes with
  | none => simp [unpack, ha, bind, Except.bind] at hall
  | some a =>
    rw [unpack_of_ofPacked? ha] at hall
    cases hrest : allAddresses families records with
    | error failure => simp [hrest, bind, Except.bind] at hall
    | ok rest =>
      rw [hrest] at hall
      exact ⟨a, rest, (Except.ok.inj hall).symm, rfl, rfl⟩

theorem allAddresses_cons_of_ok (h : packedAddress? families record = some bytes)
    (ha : Address.ofPacked? bytes = some a) (hall : allAddresses families records = .ok all) :
    allAddresses families (record :: records) = .ok (a :: all) := by
  rw [allAddresses_cons_of_some h, unpack_of_ofPacked? ha, hall]
  rfl

/-- **The addresses of both families are those of each family, merged** in the order of the
    records. -/
theorem merged_of_allAddresses (h : allAddresses .both records = .ok all) :
    ∃ v4 v6, allAddresses .onlyV4 records = .ok v4 ∧ allAddresses .onlyV6 records = .ok v6 ∧
      Merged records all v4 v6 := by
  induction records generalizing all with
  | nil =>
    cases h
    exact ⟨[], [], rfl, rfl, .nil⟩
  | cons record records ih =>
    by_cases hv4 : ∃ bytes, record.content? = some (.a bytes)
    · obtain ⟨bytes, hcontent⟩ := hv4
      obtain ⟨hboth, honly4, honly6⟩ := packedAddress?_of_v4 hcontent
      obtain ⟨a, rest, rfl, ha, hrest⟩ := exists_of_allAddresses_cons hboth h
      obtain ⟨v4, v6, h4, h6, hmerged⟩ := ih hrest
      exact ⟨a :: v4, v6, allAddresses_cons_of_ok honly4 ha h4,
        (allAddresses_cons_of_none honly6).trans h6, .v4 hcontent ha hmerged⟩
    by_cases hv6 : ∃ bytes, record.content? = some (.aaaa bytes)
    · obtain ⟨bytes, hcontent⟩ := hv6
      obtain ⟨hboth, honly4, honly6⟩ := packedAddress?_of_v6 hcontent
      obtain ⟨a, rest, rfl, ha, hrest⟩ := exists_of_allAddresses_cons hboth h
      obtain ⟨v4, v6, h4, h6, hmerged⟩ := ih hrest
      exact ⟨v4, a :: v6, (allAddresses_cons_of_none honly4).trans h4,
        allAddresses_cons_of_ok honly6 ha h6, .v6 hcontent ha hmerged⟩
    · have hother : ∀ bytes, record.content? ≠ some (.a bytes) ∧
          record.content? ≠ some (.aaaa bytes) :=
        fun bytes => ⟨fun h => hv4 ⟨bytes, h⟩, fun h => hv6 ⟨bytes, h⟩⟩
      have hnone := packedAddress?_of_other hother
      rw [allAddresses_cons_of_none (hnone .both)] at h
      obtain ⟨v4, v6, h4, h6, hmerged⟩ := ih h
      exact ⟨v4, v6, (allAddresses_cons_of_none (hnone .onlyV4)).trans h4,
        (allAddresses_cons_of_none (hnone .onlyV6)).trans h6, .other hother hmerged⟩

/-! ## The lookups that look for addresses -/

/-- The kind that looks for all addresses of some families. -/
def Families.every : Families → Kind
  | both => .allAddresses
  | onlyV4 => .allIPv4
  | onlyV6 => .allIPv6

/-- The kind that looks for the first address of some families. -/
def Families.single : Families → Kind
  | both => .address
  | onlyV4 => .ipv4
  | onlyV6 => .ipv6

theorem foundIn_every (families : Families) (records : List Record) :
    families.every.foundIn records = (allAddresses families records).map .addresses := by
  cases families <;> rfl

theorem foundIn_single (families : Families) (records : List Record) :
    families.single.foundIn records = (firstAddress families records).map .address := by
  cases families <;> rfl

theorem conclude_of_ok {answer : Answer} (hok : answer.code = some ResultCode.ok) (kind : Kind) :
    (Use.typed kind).conclude (.ok answer) =
      ⟨(kind.foundIn answer.records).map .found, ""⟩ := by
  simp only [Use.conclude, Except.bind, Kind.found_of_ok hok]

end Lookup

namespace Session

open Lookup (Kind Use Families EndTogether Merged)

/-- **Lookups of one address agree with those of all.**  Given one successful answer, the
    lookup of the first address ends as `EndTogether` says, whether the records that it looks
    at hold addresses or other bytes; and the addresses of both families are those of each
    family, merged in the order of the records. -/
theorem single_lookups_agree {answer : Answer} (hok : answer.code = some ResultCode.ok) :
    (∀ (fs : FileSystem) (s : Session) (step : Step) (k : Nat) (kind : Kind),
      s.Delivers step k (.typed kind) (.ok answer) →
        (s.step fs step).2.fired = [(k, (Use.typed kind).conclude (.ok answer))]) ∧
    (∀ families : Families, ∃ every single,
      EndTogether (answer.records.filterMap (Lookup.packedAddress? families)) every single ∧
        (Use.typed families.every).conclude (.ok answer) = ⟨every.map .found, ""⟩ ∧
        (Use.typed families.single).conclude (.ok answer) = ⟨single.map .found, ""⟩) ∧
    ∀ all, (Use.typed .allAddresses).conclude (.ok answer) =
        ⟨.ok (.found (.addresses all)), ""⟩ →
      ∃ v4 v6, Merged answer.records all v4 v6 ∧
        (Use.typed .allIPv4).conclude (.ok answer) = ⟨.ok (.found (.addresses v4)), ""⟩ ∧
        (Use.typed .allIPv6).conclude (.ok answer) = ⟨.ok (.found (.addresses v6)), ""⟩ := by
  have hends := Lookup.conclude_of_ok hok
  refine ⟨fun fs s step k kind h => h.fired, fun families => ?_, fun all hall => ?_⟩
  · refine ⟨_, _, Lookup.endTogether families answer.records, ?_, ?_⟩
    · rw [hends, Lookup.foundIn_every]
    · rw [hends, Lookup.foundIn_single]
  · rw [hends, Kind.foundIn] at hall
    cases hread : Lookup.allAddresses .both answer.records with
    | error failure =>
      rw [hread] at hall
      cases hall
    | ok addresses =>
      rw [hread] at hall
      cases hall
      obtain ⟨v4, v6, h4, h6, hmerged⟩ := Lookup.merged_of_allAddresses hread
      refine ⟨v4, v6, hmerged, ?_, ?_⟩
      · rw [hends, Kind.foundIn, h4]
        rfl
      · rw [hends, Kind.foundIn, h6]
        rfl

/-- A text and an address of each family, of which both are found, and the first one also when
    bytes that are no address stand behind it. -/
theorem single_lookups_agree_spoilt :
    let fs : FileSystem := { directory := "/", state := fun _ => .directory }
    let record (content : Content) : Record :=
      ⟨⟨[97]⟩, RecordType.a, RecordClass.internet, 0, some ⟨content, 0⟩⟩
    let octets : Vector UInt8 4 := #v[10, 0, 0, 1]
    let groups : Vector UInt16 8 := #v[0xFE80, 0, 0, 0, 0, 0, 0, 1]
    let records : List Record := [record (.texts [[97]]),
      record (.aaaa (Address.v6 groups none).packed), record (.a octets.toList)]
    let spoilt : List Record := [record (.a octets.toList), record (.aaaa [1, 2, 3])]
    let s : Session := { chain := [.hosts [], .fixed ResultCode.ok spoilt] }
    (s.step fs (.typed 0 .address (.text "A."))).2.fired =
        [(0, ⟨.ok (.found (.address (some (.v4 octets)))), ""⟩)] ∧
      (s.step fs (.typed 0 .allAddresses (.text "A."))).2.fired =
        [(0, ⟨.error (.packed [1, 2, 3]), ""⟩)] ∧
      ∃ v4 v6, Merged records [.v6 groups none, .v4 octets] v4 v6 := by
  intro fs record octets groups records spoilt s
  let answer (records : List Record) : Answer :=
    ⟨.name ⟨[97]⟩, some RecordClass.internet, some RecordType.all, some ResultCode.ok, records⟩
  obtain ⟨hfired, -, -⟩ := @single_lookups_agree (answer spoilt) rfl
  obtain ⟨-, -, hmerged⟩ := @single_lookups_agree (answer records) rfl
  obtain ⟨v4, v6, hv, -, -⟩ := hmerged [.v6 groups none, .v4 octets] rfl
  exact ⟨hfired fs s (.typed 0 .address (.text "A.")) 0 .address (.atOnce rfl rfl rfl),
    hfired fs s (.typed 0 .allAddresses (.text "A.")) 0 .allAddresses (.atOnce rfl rfl rfl),
    v4, v6, hv⟩

end Session

end ResolverChain
