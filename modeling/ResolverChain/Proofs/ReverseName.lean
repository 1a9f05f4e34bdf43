/-
  Reverse names and the addresses that they stand for.

  * the labels of a reverse name, read backwards, give the family and the packed bytes of
    the address (`readReverse?_reverseName`);
  * so two addresses have the same reverse name if and only if they agree in both
    (`reverseName_eq_iff`), whatever their scopes are;
  * an address, its text and its packed bytes have the same reverse name
    (`reverseDomain_of_spells`), and a lookup of the name behind the address puts the same
    question to the links, once (`AsksOnce`, `reverse_names_decode`).
-/
import ResolverChain.Proofs.HostsAnswer
import ResolverChain.Proofs.Spelling
import ResolverChain.Proofs.WellFormedName

namespace ResolverChain

open Text

/-! ## Reading reverse names -/

namespace Address

/-- The value of a label that is one hexadecimal digit. -/
def nibble? : List Char → Option Nat
  | [c] => Numeral.digitValue? 16 c
  | _ => none

/-- The bytes of hexadecimal digits, the high one of each first. -/
def bytesOfNibbles? : List Nat → Option (List UInt8)
  | [] => some []
  | high :: low :: rest => (bytesOfNibbles? rest).map ((high * 16 + low).toUInt8 :: ·)
  | [_] => none

/-- The family and the packed bytes that a reverse name stands for: whether the address is of
    the older family, and its bytes.  The labels are read from the last to the first. -/
def readReverse? (n : DomainName) : Option (Bool × List UInt8) :=
  match (n.chars.splitOn '.').reverse with
  | top :: zone :: labels =>
    if top ≠ "arpa".toList then none
    else if zone = "in-addr".toList ∧ labels.length = 4 then
      (labels.mapM octet?).map (true, ·)
    else if zone = "ip6".toList ∧ labels.length = 32 then
      ((labels.mapM nibble?).bind bytesOfNibbles?).map (false, ·)
    else none
  | _ => none

theorem nibble?_digit {d : Nat} (hd : d < 16) : nibble? [Numeral.digit d] = some d :=
  Numeral.digitValue?_digit hd (by omega)

theorem bytesOfNibbles?_flatMap (bs : List UInt8) :
    bytesOfNibbles? (bs.flatMap nibbles) = some bs := by
  induction bs with
  | nil => rfl
  | cons b bs ih =>
    have hbyte : (b.toNat / 16 * 16 + b.toNat % 16).toUInt8 = b := by
      rw [Nat.div_add_mod', Nat.toUInt8_eq, UInt8.ofNat_toNat]
    rw [List.flatMap_cons, nibbles, List.cons_append, List.cons_append, List.nil_append,
      bytesOfNibbles?, ih, hbyte]
    rfl

theorem lt_of_mem_flatMap_nibbles {bs : List UInt8} {d : Nat} (h : d ∈ bs.flatMap nibbles) :
    d < 16 := by
  obtain ⟨b, -, hb⟩ := List.mem_flatMap.1 h
  have hlt : b.toNat < 256 := b.toNat_lt
  simp only [nibbles, List.mem_cons, List.not_mem_nil, or_false] at hb
  omega

theorem chars_reverseName (a : Address) : a.reverseName.chars = a.reverseChars := by
  have hchar : ∀ c ∈ a.reverseChars, Char.ofNat c.toNat.toUInt8.toNat = c := by
    intro c hc
    have hlt : c.toNat < 0x80 := by
      rcases isReverseChar_of_mem hc with h | h <;> omega
    rw [DomainName.toNat_byte hlt, Char.ofNat_toNat]
  rw [DomainName.chars, reverseName, DomainName.bytesOfAscii, List.map_map]
  exact (List.map_congr_left hchar).trans (List.map_id _)

theorem dot_not_mem_of_mem_reverseLabels {a : Address} {label : List Char}
    (h : label ∈ a.reverseLabels) : '.' ∉ label := by
  cases a with
  | v4 octets =>
    obtain ⟨b, -, rfl⟩ := List.mem_map.1 h
    exact Numeral.notMem_digits (by omega) (by omega) (Or.inl (by decide))
  | v6 groups scope =>
    obtain ⟨d, hd, rfl⟩ := List.mem_map.1 h
    have hlt := lt_of_mem_flatMap_nibbles (List.mem_reverse.1 hd)
    rw [← Numeral.digits_of_lt hlt]
    exact Numeral.notMem_digits (by omega) (by omega) (Or.inl (by decide))

/-- The labels of a reverse name are those of the address and those of its zone. -/
theorem splitOn_reverseName (a : Address) :
    a.reverseName.chars.splitOn '.' = a.reverseLabels ++ a.reverseZone.splitOn '.' := by
  have hlabels : a.reverseLabels.flatMap (fun label => label.splitOn '.') = a.reverseLabels := by
    have hsplit : ∀ label ∈ a.reverseLabels, label.splitOn '.' = [label] := fun label hlabel =>
      List.splitOn_eq_singleton (dot_not_mem_of_mem_reverseLabels hlabel)
    rw [List.flatMap_congr hsplit, List.flatMap_singleton']
  have hjoin : (DomainName.joinLabels (a.reverseLabels ++ [a.reverseZone])).splitOn '.' = _ :=
    DomainName.splitOn_joinLabels (by simp)
  rw [chars_reverseName, reverseChars, joined, ← DomainName.joinLabels, hjoin, List.flatMap_append,
    hlabels, List.flatMap_singleton]

theorem length_flatMap_nibbles (bs : List UInt8) : (bs.flatMap nibbles).length = 2 * bs.length := by
  induction bs with
  | nil => rfl
  | cons b bs ih =>
    rw [List.flatMap_cons, List.length_append, ih, nibbles, List.length_cons]
    simp only [List.length_cons, List.length_nil]
    omega

/-- **A reverse name is read back** as the family and the packed bytes of its address. -/
theorem readReverse?_reverseName (a : Address) :
    readReverse? a.reverseName = some (a.isV4, a.packed) := by
  rw [readReverse?, splitOn_reverseName, List.reverse_append]
  cases a with
  | v4 octets =>
    have hzone : (reverseZone (v4 octets)).splitOn '.' = ["in-addr".toList, "arpa".toList] := rfl
    have hread : (octets.toList.map fun b => Numeral.digits 10 b.toNat).mapM octet? =
        some octets.toList := mapM_map_of_forall fun b _ => octet?_digits b
    rw [hzone, reverseLabels, List.map_reverse, List.reverse_reverse]
    simp [hread, packed, isV4]
  | v6 groups scope =>
    have hzone : (reverseZone (v6 groups scope)).splitOn '.' = ["ip6".toList, "arpa".toList] := rfl
    have hread : (((v6 groups scope).packed.flatMap nibbles).map
        fun d => [Numeral.digit d]).mapM nibble? = some ((v6 groups scope).packed.flatMap nibbles) :=
      mapM_map_of_forall fun d hd => nibble?_digit (lt_of_mem_flatMap_nibbles hd)
    have hlength : ((v6 groups scope).packed.flatMap nibbles).length = 32 := by
      rw [length_flatMap_nibbles, length_packed_v6]
    rw [hzone, reverseLabels, List.map_reverse, List.reverse_reverse]
    simp [hread, hlength, bytesOfNibbles?_flatMap, isV4]

theorem reverseName_unscoped (a : Address) : a.unscoped.reverseName = a.reverseName := by
  cases a <;> rfl

/-- **Addresses have the same reverse name if and only if they agree in family and packed
    bytes**, whatever their scopes are. -/
theorem reverseName_eq_iff {a b : Address} :
    a.reverseName = b.reverseName ↔ a.isV4 = b.isV4 ∧ a.packed = b.packed := by
  constructor
  · intro h
    have hread := readReverse?_reverseName a
    rw [h, readReverse?_reverseName b, Option.some.injEq, Prod.mk.injEq] at hread
    exact ⟨hread.1.symm, hread.2.symm⟩
  · rintro ⟨hfamily, hpacked⟩
    have hlabels : a.reverseLabels = b.reverseLabels := by
      match a, b with
      | v4 octets, v4 octets' =>
        have hoctets : octets.toList = octets'.toList := hpacked
        rw [reverseLabels, reverseLabels, hoctets]
      | v6 groups scope, v6 groups' scope' => rw [reverseLabels, reverseLabels, hpacked]
      | v4 _, v6 _ _ | v6 _ _, v4 _ => cases hfamily
    rw [reverseName, reverseName, reverseChars, reverseChars, hlabels, reverseZone, reverseZone,
      hfamily]

end Address

/-! ## Spellings of an address -/

namespace Value

/-- The values that spell an address: itself, its text and its packed bytes. -/
inductive Spells (a : Address) : Value → Prop
  | address : Spells a (.address a)
  | text : Spells a (.text a.text)
  | packed : Spells a (.bytes a.packed)

variable {a : Address} {x : Value}

/-- **The scopes that fit are those of the addresses that values are read as.** -/
theorem scopeFits_iff : a.ScopeFits ↔ ∃ v : Value, v.toAddress? = some a := by
  constructor
  · intro h
    exact ⟨.text a.text, Address.ofText?_text_of_scopeFits h⟩
  · rintro ⟨v, hv⟩
    have hpacked : ∀ bs, Address.ofPacked? bs = some a → a.ScopeFits := by
      intro bs hbs
      rw [Address.ofPacked?] at hbs
      split_ifs at hbs
      · obtain ⟨octets, -, rfl⟩ := Option.map_eq_some_iff.1 hbs
        exact trivial
      · obtain ⟨groups, -, rfl⟩ := Option.map_eq_some_iff.1 hbs
        exact trivial
    have hnumber : ∀ n, Address.ofNumber? n = some a → a.ScopeFits := by
      intro n hn
      unfold Address.ofNumber? at hn
      split at hn
      · split_ifs at hn
        exacts [hpacked _ hn, hpacked _ hn]
      · cases hn
    have htext : v.shown?.toOption.bind Address.ofText? = some a → a.ScopeFits := by
      intro h
      obtain ⟨s, -, hs⟩ := Option.bind_eq_some_iff.1 h
      exact Address.scopeFits_of_ofText? hs
    cases v with
    | truth b => exact hnumber _ hv
    | whole n => exact hnumber _ hv
    | bytes bs => exact hpacked _ hv
    | _ => exact htext hv

/-- **All spellings of an address have its reverse name.** -/
theorem reverseDomain_of_spells (ha : a.ScopeFits) (h : Spells a x) :
    x.reverseDomain = .ok a.reverseName := by
  cases h with
  | address => rfl
  | text =>
    have hread : (Value.text a.text).toAddress? = some a := Address.ofText?_text_of_scopeFits ha
    simp only [reverseDomain, hread]
  | packed =>
    have hread : (Value.bytes a.packed).toAddress? = some a.unscoped := Address.ofPacked?_packed a
    simp only [reverseDomain, hread, Address.reverseName_unscoped]

end Value

/-! ## Lookups of the name behind an address -/

namespace Session

open Lookup (Kind Use)

variable {fs : FileSystem} {s : Session} {step : Step} {link : Nat} {use : Use} {q : Question}
  {a : Address} {x : Value}

/-- A step puts a question to a link, which hands on no other and at most once: every link
    hears it once at most, and so does what is behind the chain, if no table answers. -/
structure AsksOnce (fs : FileSystem) (s : Session) (step : Step) (link : Nat) (use : Use)
    (q : Question) : Prop where
  starts : s.step fs step = s.start link use q
  heard : ∃ n, (ask (s.chain.drop link) q).heard = (List.range n).map (·, q) ∧
    (s.chain.drop link ≠ [] → 0 < n)
  queries : (s.step fs step).2.queries = [] ∨
    ∃ place query, (s.step fs step).2.queries = [(place, query)] ∧ query.question = q
  passed : ∀ tables last, s.chain.drop link = tables.map .hosts ++ [last] → last.Waits →
    Hosts.PassedOn tables q →
      ∃ query, (s.step fs step).2.queries = [(link + tables.length, query)] ∧ query.question = q

theorem queries_start :
    (s.start link use q).2.queries =
      (ask (s.chain.drop link) q).sent.toList.map fun (depth, query) => (link + depth, query) := by
  cases hsent : (ask (s.chain.drop link) q).sent <;> simp [start, sentIn, hsent]

/-- A question about a normal name leaves the chain as it was asked. -/
theorem asksOnce_of_starts {domain : DomainName} (hstarts : s.step fs step = s.start link use q)
    (hname : q.name = .name domain) (hdomain : q.name.toDomain = .ok domain) :
    AsksOnce fs s step link use q := by
  refine ⟨hstarts, heard_ask _ q, ?_, ?_⟩
  · rw [hstarts, queries_start]
    cases hsent : (ask (s.chain.drop link) q).sent with
    | none => exact Or.inl rfl
    | some sent =>
      obtain ⟨depth, query⟩ := sent
      exact Or.inr ⟨link + depth, query, rfl, question_of_sent hname hdomain hsent⟩
  · intro tables last hchain hlast hpassed
    obtain ⟨query, hquery⟩ : ∃ query, last.query q = .ok query := by
      rcases hlast with rfl | rfl
      · exact ⟨_, rfl⟩
      · exact ⟨_, by rw [Resolver.query, Hosts.domain_of_ok hdomain]; rfl⟩
    have hsent : (ask (s.chain.drop link) q).sent = some (tables.length, query) := by
      rw [hchain, ask_hosts_append, Hosts.front_of_passedOn hpassed, ask_of_query hlast hquery]
      simp [Reaction.behind]
    refine ⟨query, ?_, question_of_sent hname hdomain hsent⟩
    rw [hstarts, queries_start, hsent]
    rfl

/-- **Reverse names stand for addresses.**  An address that a value can be read as, its text
    and its packed bytes have one reverse name, which is normal and is read back as the family
    and the packed bytes of the address, so that only addresses which agree in these share it;
    and a lookup of the name behind the address asks the same question about the reverse name,
    once. -/
theorem reverse_names_decode (ha : ∃ v : Value, v.toAddress? = some a) :
    (∀ x, Value.Spells a x → x.reverseDomain = .ok a.reverseName) ∧
    (Value.name a.reverseName).toDomain = .ok a.reverseName ∧
    Address.readReverse? a.reverseName = some (a.isV4, a.packed) ∧
    (∀ b : Address, a.reverseName = b.reverseName ↔ a.isV4 = b.isV4 ∧ a.packed = b.packed) ∧
    ∀ (fs : FileSystem) (s : Session) (link : Nat) (x : Value), s.isUntyped link = false →
      Value.Spells a x →
        AsksOnce fs s (.typed link .reverse x) link (.typed .reverse)
          { name := .name a.reverseName, type := RecordType.ptr } := by
  have hfits : a.ScopeFits := Value.scopeFits_iff.2 ha
  have hnormal : (Value.name a.reverseName).toDomain = .ok a.reverseName := by
    rw [Value.toDomain, Address.normal_reverseName]
  refine ⟨fun x h => Value.reverseDomain_of_spells hfits h, hnormal,
    Address.readReverse?_reverseName a, fun b => Address.reverseName_eq_iff, ?_⟩
  intro fs s link x htyped h
  have hquestion := questionOf_reverse (Value.reverseDomain_of_spells hfits h)
  refine asksOnce_of_starts ?_ rfl hnormal
  rw [Session.step, startTyped, htyped, hquestion]
  rfl

/-- The text of an address with a scope and a shrunk run of zeros, looked up behind an empty
    table. -/
theorem reverse_names_decode_scoped :
    let groups : Vector UInt16 8 := #v[0xFE80, 0, 0, 0, 0, 0, 0, 1]
    let a : Address := .v6 groups (some "eth0")
    let fs : FileSystem := { directory := "/", state := fun _ => .directory }
    let s : Session := { chain := [.hosts [], .network] }
    (Value.text "fe80::1%eth0").reverseDomain = .ok a.reverseName ∧
      Address.readReverse? a.reverseName = some (false, a.packed) ∧
      ∃ query, (s.step fs (.typed 0 .reverse (.text "fe80::1%eth0"))).2.queries = [(1, query)] ∧
        query.question = { name := .name a.reverseName, type := RecordType.ptr } := by
  intro groups a fs s
  have htext : a.text = "fe80::1%eth0" := by decide +kernel
  have hspells : Value.Spells a (.text "fe80::1%eth0") := htext ▸ .text
  have hfits : a.ScopeFits := by decide
  obtain ⟨hspellings, hnormal, hread, -, hasks⟩ :=
    reverse_names_decode (Value.scopeFits_iff.1 hfits)
  refine ⟨hspellings _ hspells, hread, ?_⟩
  refine (hasks fs s 0 _ rfl hspells).passed [[]] .network rfl (Or.inr rfl) ?_
  intro _ table htable
  rw [List.mem_singleton.1 htable]
  exact ⟨a.reverseName, hnormal, rfl⟩

end Session

end ResolverChain
