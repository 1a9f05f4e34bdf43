/-
  Answers from a hosts table.

  * the packed bytes of an address give the address back, without its scope
    (`ofPacked?_packed`);
  * a record that takes its bytes from the text of an address holds the packed
    bytes of the address, so an answer from a table can always be made
    (`Hosts.answer_eq`);
  * `Kind.among` is what a kind finds among the addresses of a name, and what it
    finds in the answer made of them (`found_plainAnswer`).
-/
import ResolverChain.Proofs.AddressText
import ResolverChain.Resolver
import ResolverChain.Lookup.Kind

namespace ResolverChain

/-! ## Packed bytes -/

namespace Address

theorem groupOf_groupBytes (g : UInt16) : groupOf (g >>> 8).toUInt8 g.toUInt8 = g := by
  apply UInt16.toNat_inj.1
  have hg : g.toNat < 65536 := g.toNat_lt
  have hlow : g.toNat % 2 ^ 8 < 2 ^ 8 := Nat.mod_lt _ (by norm_num)
  have h8 : UInt16.toNat 8 % 16 = 8 := rfl
  have hhigh : (g >>> 8).toNat % 2 ^ 8 = g.toNat / 256 := by
    rw [UInt16.toNat_shiftRight, h8, Nat.shiftRight_eq_div_pow]
    exact Nat.mod_eq_of_lt (by omega)
  have hshift : (g.toNat / 256) <<< 8 < 2 ^ 16 := by rw [Nat.shiftLeft_eq]; omega
  simp only [groupOf, UInt16.toNat_or, UInt16.toNat_shiftLeft, UInt8.toNat_toUInt16,
    UInt16.toNat_toUInt8, h8, hhigh]
  rw [Nat.mod_eq_of_lt hshift, ← Nat.shiftLeft_add_eq_or_of_lt hlow, Nat.shiftLeft_eq]
  omega

theorem groupsOf_flatMap_groupBytes (gs : List UInt16) : groupsOf (gs.flatMap groupBytes) = gs := by
  induction gs with
  | nil => rfl
  | cons g gs ih =>
    rw [List.flatMap_cons, groupBytes, List.cons_append, List.cons_append, List.nil_append,
      groupsOf, groupOf_groupBytes, ih]

theorem length_packed_v6 (groups : Vector UInt16 8) (scope : Option String) :
    (v6 groups scope).packed.length = 16 := by
  have hconst : groups.toList.map (fun g => (groupBytes g).length) = groups.toList.map fun _ => 2 :=
    List.map_congr_left fun _ _ => rfl
  rw [packed, List.length_flatMap, hconst]
  simp

/-- The packed bytes of an address give the address back, without its scope. -/
theorem ofPacked?_packed (a : Address) : ofPacked? a.packed = some a.unscoped := by
  cases a with
  | v4 octets =>
    have hlen : (v4 octets).packed.length = 4 := by simp [packed]
    rw [ofPacked?, if_pos hlen, packed, vectorOf?_toList]; rfl
  | v6 groups scope =>
    have hlen := length_packed_v6 groups scope
    rw [ofPacked?, if_neg (by omega), if_pos hlen, packed, groupsOf_flatMap_groupBytes,
      vectorOf?_toList]; rfl

theorem length_groupsOf (bs : List UInt8) : (groupsOf bs).length = bs.length / 2 := by
  fun_induction groupsOf bs with
  | case1 high low bs ih =>
    simp only [List.length_cons, ih]
    omega
  | case2 bs h =>
    rcases bs with _ | ⟨b, _ | ⟨b', bs⟩⟩
    exacts [rfl, by simp, absurd rfl (h b b' bs)]

/-- Four bytes are an address, and so are sixteen. -/
theorem exists_ofPacked? {bs : List UInt8} (h : bs.length = 4 ∨ bs.length = 16) :
    ∃ a, ofPacked? bs = some a := by
  rcases h with h | h
  · exact ⟨_, by rw [ofPacked?, if_pos h, vectorOf?, dif_pos h]; rfl⟩
  · have hgroups : (groupsOf bs).length = 8 := by rw [length_groupsOf, h]
    exact ⟨_, by rw [ofPacked?, if_neg (by omega), if_pos h, vectorOf?, dif_pos hgroups]; rfl⟩

end Address

/-! ## Records and answers -/

namespace Hosts

/-- The content of the record of an address: its packed bytes as they are. -/
def plainContent (a : Address) : Content := if a.isV4 then .a a.packed else .aaaa a.packed

/-- The record of an address for a name, with the packed bytes of the address. -/
def plainRecord (domain : DomainName) (a : Address) : Record :=
  ⟨domain, recordType a, RecordClass.internet, ttl, some ⟨plainContent a, ttl⟩⟩

/-- The answer from the addresses of a name: a record for every address of a family
    that the question asks for, in their order. -/
def plainAnswer (domain : DomainName) (cls type : Int) (addresses : List Address) : Answer :=
  ⟨.name domain, some cls, some type, some ResultCode.ok,
    (addresses.filter (wants type)).map (plainRecord domain)⟩

/-- The text of an address is read back as its packed bytes. -/
theorem content?_eq (a : Address) : content? a = some (plainContent a) := by
  cases a with
  | v4 octets =>
    change (Address.quadBytes? (Address.v4 octets).toChars).map Content.a = _
    rw [Address.quadBytes?_toChars]; rfl
  | v6 groups scope =>
    change (Address.groupsBytes? (Address.v6 groups none).toChars).map Content.aaaa = _
    rw [Address.groupsBytes?_toChars]; rfl

theorem record_eq (domain : DomainName) (a : Address) :
    record domain a = .ok (plainRecord domain a) := by
  rw [record, content?_eq]; rfl

theorem mapM_record (domain : DomainName) (addresses : List Address) :
    addresses.mapM (record domain) = .ok (addresses.map (plainRecord domain)) := by
  induction addresses with
  | nil => rfl
  | cons a as ih => rw [List.mapM_cons, record_eq, ih]; rfl

/-- **An answer from a table can always be made**, and its records hold the packed
    bytes of the addresses. -/
theorem answer_eq (domain : DomainName) (cls type : Int) (addresses : List Address) :
    answer domain cls type addresses = .ok (plainAnswer domain cls type addresses) := by
  rw [answer, mapM_record]; rfl

end Hosts

/-! ## What lookups find -/

namespace Lookup

open Hosts (plainRecord plainAnswer wants)

/-- **Without success no record is looked at.** -/
theorem Kind.found_of_failed {answer : Answer} (h : answer.code ≠ some ResultCode.ok) (kind : Kind) :
    kind.found answer = .error (.result ⟨answer.code, answer.name⟩) := by
  rw [Kind.found, Answer.checked, if_neg h]
  rfl

theorem Kind.found_of_ok {answer : Answer} (h : answer.code = some ResultCode.ok) (kind : Kind) :
    kind.found answer = kind.foundIn answer.records := by
  rw [Kind.found, Answer.checked, if_pos h]
  rfl

/-- What a kind finds among the addresses of a name. -/
def Kind.among (kind : Kind) (addresses : List Address) : Found :=
  let all := addresses.map Address.unscoped
  let v4 := (addresses.filter Address.isV4).map Address.unscoped
  let v6 := (addresses.filter (!Address.isV4 ·)).map Address.unscoped
  match kind with
  | allAddresses => .addresses all
  | address => .address all.head?
  | allIPv4 => .addresses v4
  | ipv4 => .address v4.head?
  | allIPv6 => .addresses v6
  | ipv6 => .address v6.head?
  | reverse => .pointer none
  | text => .texts []

theorem unpack_packed (a : Address) : unpack a.packed = .ok a.unscoped := by
  rw [unpack, Address.ofPacked?_packed]

section
variable {families : Families} {domain : DomainName} {addresses : List Address}
  (h : ∀ a ∈ addresses, packedAddress? families (plainRecord domain a) = some a.packed)
include h

theorem allAddresses_records :
    allAddresses families (addresses.map (plainRecord domain)) =
      .ok (addresses.map Address.unscoped) := by
  induction addresses with
  | nil => rfl
  | cons a as ih =>
    have ha := h a (by simp)
    have has := ih fun b hb => h b (List.mem_cons_of_mem _ hb)
    unfold allAddresses at has ⊢
    rw [List.map_cons, List.filterMap_cons_some ha, List.mapM_cons, unpack_packed, has]
    rfl

theorem firstAddress_records :
    firstAddress families (addresses.map (plainRecord domain)) =
      .ok (addresses.map Address.unscoped).head? := by
  cases addresses with
  | nil => rfl
  | cons a as =>
    have ha := h a (by simp)
    rw [firstAddress, List.map_cons, List.findSome?_cons, ha]
    simp only [unpack_packed, Except.map, List.map_cons, List.head?_cons]

end

theorem packedAddress?_both (domain : DomainName) (a : Address) :
    packedAddress? .both (plainRecord domain a) = some a.packed := by
  cases a <;> rfl

theorem packedAddress?_onlyV4 (domain : DomainName) {a : Address} (h : a.isV4) :
    packedAddress? .onlyV4 (plainRecord domain a) = some a.packed := by
  cases a with
  | v4 => rfl
  | v6 => cases h

theorem packedAddress?_onlyV6 (domain : DomainName) {a : Address} (h : !a.isV4) :
    packedAddress? .onlyV6 (plainRecord domain a) = some a.packed := by
  cases a with
  | v4 => cases h
  | v6 => rfl

theorem wants_all : wants RecordType.all = fun _ => true := rfl

theorem wants_a : wants RecordType.a = Address.isV4 := by
  funext a; cases a <;> rfl

theorem wants_aaaa : wants RecordType.aaaa = (!Address.isV4 ·) := by
  funext a; cases a <;> rfl

theorem wants_ptr : wants RecordType.ptr = fun _ => false := by
  funext a; cases a <;> rfl

theorem wants_txt : wants RecordType.txt = fun _ => false := by
  funext a; cases a <;> rfl

theorem found_eq_foundIn (kind : Kind) (domain : DomainName) (cls type : Int)
    (addresses : List Address) :
    kind.found (plainAnswer domain cls type addresses) =
      kind.foundIn ((addresses.filter (wants type)).map (plainRecord domain)) := rfl

/-- **What a kind finds in the answer from a table** is what it finds among the
    addresses of the name. -/
theorem found_plainAnswer (kind : Kind) (domain : DomainName) (cls : Int)
    (addresses : List Address) :
    kind.found (plainAnswer domain cls kind.recordType addresses) = .ok (kind.among addresses) := by
  rw [found_eq_foundIn]
  have hv4 : ∀ a ∈ addresses.filter Address.isV4,
      packedAddress? .onlyV4 (plainRecord domain a) = some a.packed :=
    fun a ha => packedAddress?_onlyV4 domain (List.mem_filter.1 ha).2
  have hv6 : ∀ a ∈ addresses.filter (!Address.isV4 ·),
      packedAddress? .onlyV6 (plainRecord domain a) = some a.packed :=
    fun a ha => packedAddress?_onlyV6 domain (List.mem_filter.1 ha).2
  have hall : addresses.filter (wants RecordType.all) = addresses := by simp [wants_all]
  cases kind with
  | allAddresses | address =>
    simp only [Kind.recordType, hall, Kind.foundIn, Kind.among,
      allAddresses_records fun a _ => packedAddress?_both domain a,
      firstAddress_records fun a _ => packedAddress?_both domain a, Except.map]
  | allIPv4 | ipv4 =>
    simp only [Kind.recordType, wants_a, Kind.foundIn, Kind.among, allAddresses_records hv4,
      firstAddress_records hv4, Except.map]
  | allIPv6 | ipv6 =>
    simp only [Kind.recordType, wants_aaaa, Kind.foundIn, Kind.among, allAddresses_records hv6,
      firstAddress_records hv6, Except.map]
  | reverse => simp [Kind.recordType, wants_ptr, Kind.foundIn, Kind.among]
  | text => simp [Kind.recordType, wants_txt, Kind.foundIn, Kind.among]

end Lookup

end ResolverChain
