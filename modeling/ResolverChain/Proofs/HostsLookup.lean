/-
  Lookups of names that a hosts table lists.

  Once a table is loaded into a link, every question about a name that it lists, in
  any spelling, is answered at once from the addresses of the name, in the order of
  the file; and every kind of lookup finds what it looks for among them.
-/
import ResolverChain.Proofs.Front
import ResolverChain.Proofs.NormalName

namespace ResolverChain

namespace Session

variable {s : Session} {link : Nat} {old table : Hosts.Table} {lines : List String}

/-- Loading a source that can be read replaces the table of a link. -/
theorem step_load (fs : FileSystem) (hlink : s.chain[link]? = some (.hosts old))
    (htable : Hosts.Table.ofLines lines = .ok table) :
    s.step fs (.load link ⟨lines, none⟩) =
      ({ s with chain := s.chain.set link (.hosts table) },
        { result := .loaded table.length
          log := [⟨.info, Hosts.origin,
            some ("Loaded " ++ Text.Numeral.ofNat table.length ++ " host names")⟩] }) := by
  have hsource : Hosts.Table.ofSource ⟨lines, none⟩ = .ok table := by
    rw [Hosts.Table.ofSource, htable]; rfl
  simp only [step, install, hlink, Hosts.load, hsource]

theorem drop_set_hosts (hlink : s.chain[link]? = some (.hosts old)) :
    (s.chain.set link (.hosts table)).drop link = .hosts table :: s.chain.drop (link + 1) := by
  obtain ⟨hlt, -⟩ := List.getElem?_eq_some_iff.1 hlink
  rw [List.drop_set, if_neg (lt_irrefl link), Nat.sub_self, List.drop_eq_getElem_cons hlt,
    List.set_cons_zero]

/-- A kind other than that of reverse names asks for the normal name of its argument. -/
theorem questionOf_eq {kind : Lookup.Kind} (hkind : kind ≠ .reverse) {n : Value} {d : DomainName}
    (hn : n.toDomain = .ok d) :
    questionOf kind n = .ok { name := .name d, type := kind.recordType } := by
  have htarget : kind.target n = .ok d := by
    cases kind with
    | reverse => exact absurd rfl hkind
    | _ => rw [Lookup.Kind.target, hn] <;> first | rfl | simp
  rw [questionOf, htarget]; rfl

section
variable {next : List Resolver} {q : Question} {d : DomainName} {addresses : List Address}
  (hlink : s.chain.drop link = .hosts table :: next)
  (hcls : q.cls = RecordClass.internet ∨ q.cls = RecordClass.any)
  (hname : q.name.toDomain = .ok d) (hlisted : table.addresses? d = some addresses)
include hlink hcls hname hlisted

/-- The reaction of a link whose table lists the name of a question. -/
theorem ask_listed :
    ask (s.chain.drop link) q =
      { course := .settled (.ok (Hosts.plainAnswer d q.cls q.type addresses))
        heard := [(0, q)]
        log := [Hosts.answeringEvent d] } := by
  have hanswered : Hosts.AnsweredAt [table] q 0 d addresses :=
    ⟨hcls, hname, by simp, table, rfl, hlisted⟩
  have hask : ask (.hosts table :: next) = Hosts.front (ask next) [table] :=
    ask_hosts_append [table] next
  rw [hlink, hask, Hosts.front_of_answeredAt hanswered, Hosts.behind_answering]
  rfl

/-- A lookup of a listed name ends at once. -/
theorem start_listed (use : Lookup.Use) :
    s.start link use q =
      ({ s with lookups := s.lookups ++ [⟨use, none⟩] },
        { result := .lookup s.lookups.length (shownOutput use
            (use.conclude (.ok (Hosts.plainAnswer d q.cls q.type addresses))).output)
          fired := [(s.lookups.length,
            use.conclude (.ok (Hosts.plainAnswer d q.cls q.type addresses)))]
          log := [Hosts.answeringEvent d] }) :=
  start_of_settled (ask_listed hlink hcls hname hlisted) rfl rfl

end

end Session

/-- **A loaded table answers for every name that it lists**, in whatever spelling it is
    asked for: with the packed bytes of all addresses of a family that the question asks
    for, in the order of the file; and no later link hears of the question. -/
theorem loaded_table_answers (fs : FileSystem) (s : Session) (link : Nat) (old : Hosts.Table)
    (hlink : s.chain[link]? = some (.hosts old)) (lines : List String) (table : Hosts.Table)
    (htable : Hosts.Table.ofLines lines = .ok table) (n : Value) (d : DomainName)
    (hn : n.toDomain = .ok d) (addresses : List Address)
    (hlisted : table.addresses? d = some addresses) :
    let loaded := (s.step fs (.load link ⟨lines, none⟩)).1
    let ended (use : Lookup.Use) : Session :=
      { loaded with lookups := s.lookups ++ [⟨use, none⟩] }
    let number := s.lookups.length
    (∀ (type cls : Int) (flags : Flags),
      (cls = RecordClass.internet ∨ cls = RecordClass.any) →
      (ask (loaded.chain.drop link) ⟨n, type, cls, flags⟩).heard = [(0, ⟨n, type, cls, flags⟩)] ∧
      loaded.step fs (.resolve link ⟨n, type, cls, flags⟩) =
        (ended .plain,
          { result := .lookup number none
            fired := [(number, ⟨.ok (.answer ⟨.name d, some cls, some type, some ResultCode.ok,
              (addresses.filter (Hosts.wants type)).map (Hosts.plainRecord d)⟩), ""⟩)]
            log := [Hosts.answeringEvent d] })) ∧
    (∀ kind : Lookup.Kind, kind ≠ .reverse →
      loaded.step fs (.typed link kind n) =
        (ended (.typed kind),
          { result := .lookup number none
            fired := [(number, ⟨.ok (.found (kind.among addresses)), ""⟩)]
            log := [Hosts.answeringEvent d] })) := by
  intro loaded ended number
  have hloaded : loaded = { s with chain := s.chain.set link (.hosts table) } := by
    rw [show loaded = (s.step fs (.load link ⟨lines, none⟩)).1 from rfl,
      Session.step_load fs hlink htable]
  have hdrop : loaded.chain.drop link = .hosts table :: s.chain.drop (link + 1) := by
    rw [hloaded]; exact Session.drop_set_hosts hlink
  have hnumber : loaded.lookups.length = number := by rw [hloaded]
  have hended : ∀ use, ended use = { loaded with lookups := loaded.lookups ++ [⟨use, none⟩] } := by
    intro use; simp only [ended, hloaded]
  refine ⟨?_, ?_⟩
  · intro type cls flags hcls
    refine ⟨?_, ?_⟩
    · rw [Session.ask_listed hdrop hcls hn hlisted]
    · rw [Session.step, Session.start_listed hdrop hcls hn hlisted, hnumber, hended]
      rfl
  · intro kind hkind
    have huntyped : loaded.isUntyped link = false := by
      have hat : loaded.chain[link]? = some (.hosts table) := by
        rw [← List.head?_drop, hdrop, List.head?_cons]
      simp [Session.isUntyped, hat]
    have hfound : (Except.ok (Hosts.plainAnswer d RecordClass.internet kind.recordType addresses) :
        Except Failure Answer).bind kind.found = .ok (kind.among addresses) :=
      Lookup.found_plainAnswer kind d RecordClass.internet addresses
    simp only [Session.step, Session.startTyped, huntyped, Bool.false_eq_true, if_false,
      Session.questionOf_eq hkind hn]
    rw [Session.start_listed hdrop (Or.inl rfl) (Value.toDomain_name hn) hlisted, hnumber, hended]
    simp only [Lookup.Use.conclude, hfound]
    rfl

/-- Two lines about one name, one of them with a scope, and a lookup that spells the name
    in its own way. -/
theorem loaded_table_answers_alpha :
    let fs : FileSystem := { directory := "/", state := fun _ => .directory }
    let s : Session := { chain := [.hosts [], .terminal ResultCode.name] }
    let loaded := (s.step fs (.load 0 ⟨["fe80::1%en0 alpha. beta", "10.0.0.1 Alpha # first"], none⟩)).1
    (Value.text "ALPHA..").toDomain = .ok ⟨[97, 108, 112, 104, 97]⟩ ∧
    (loaded.step fs (.typed 0 .allAddresses (.text "ALPHA.."))).2.fired =
      [(0, ⟨.ok (.found (.addresses
        [.v6 ⟨#[0xFE80, 0, 0, 0, 0, 0, 0, 1], rfl⟩ none, .v4 ⟨#[10, 0, 0, 1], rfl⟩])), ""⟩)] := by
  intro fs s loaded
  have hn : (Value.text "ALPHA..").toDomain = .ok ⟨[97, 108, 112, 104, 97]⟩ := by rfl
  have htable := loaded_table_answers fs s 0 [] rfl
    ["fe80::1%en0 alpha. beta", "10.0.0.1 Alpha # first"]
    [(⟨[97, 108, 112, 104, 97]⟩,
        [.v6 ⟨#[0xFE80, 0, 0, 0, 0, 0, 0, 1], rfl⟩ (some "en0"), .v4 ⟨#[10, 0, 0, 1], rfl⟩]),
      (⟨[98, 101, 116, 97]⟩, [.v6 ⟨#[0xFE80, 0, 0, 0, 0, 0, 0, 1], rfl⟩ (some "en0")])]
    (by rfl) (.text "ALPHA..") _ hn _ rfl
  refine ⟨hn, ?_⟩
  rw [htable.2 .allAddresses (by decide)]
  rfl

end ResolverChain
