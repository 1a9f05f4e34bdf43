/-
  Equality of answers.

  * `key` is what equality sees of a name, a value or a record: letters in lower case,
    and numbers by their size; two of them are equal if and only if these are
    (`Value.same_iff`, `Record.sameAll_iff`, `Answer.beq_iff`), unless the name asked for
    is what is no number, which is not equal to itself (`Value.isUndefined`);
  * of equal records lookups find the same, names perhaps in other letters
    (`Kind.foundIn_of_key`), so equal answers end a typed lookup alike (`Agree`);
  * so equality is an equivalence relation on answers about names, and on all others but
    those, and lookups respect it (`equality_respected`).
-/
import ResolverChain.Proofs.Delivery

namespace ResolverChain

/-! ## What equality sees -/

/-- The name in lower case. -/
def DomainName.key (n : DomainName) : DomainName := ⟨lowerBytes n.bytes⟩

theorem DomainName.same_iff {m n : DomainName} : m.same n = true ↔ m.key = n.key := by
  simp [same, key]

namespace Value

mutual

/-- What equality sees of a value: a number is its size. -/
def key : Value → Value
  | truth b => whole (Double.unitsOfInt (if b then 1 else 0))
  | whole n => whole (Double.unitsOfInt n)
  | double (.finite isNegative units) => whole (if isNegative then -units else units)
  | name n => name n.key
  | list items => list (keys items)
  | x => x

/-- What equality sees of the values of a list. -/
def keys : List Value → List Value
  | [] => []
  | x :: xs => key x :: keys xs

end

/-- Whether the value is a double that is no number. -/
def isUndefined : Value → Bool
  | double (.undefined _) => true
  | _ => false

theorem isUndefined_key (x : Value) : x.key.isUndefined = x.isUndefined := by
  rcases x with _ | b | n | (⟨s, u⟩ | s | i) | t | bs | n | a | xs <;> rfl

theorem isUndefined_of_key {x y : Value} (h : x.key = y.key) : x.isUndefined = y.isUndefined := by
  rw [← isUndefined_key, h, isUndefined_key]

/-- What is no number is its own key. -/
theorem isSameUndefined_iff {x y : Value} :
    isSameUndefined x y = true ↔ x.isUndefined = true ∧ x.key = y.key := by
  rcases x with _ | b | n | (⟨s, u⟩ | s | i) | t | bs | n | a | xs <;>
  rcases y with _ | c | m | (⟨t, v⟩ | t | j) | t | cs | m | b | ys <;>
    simp [isSameUndefined, isUndefined, key]

mutual

/-- **Two values are equal if and only if equality sees the same of them**, and they are
    not what is no number. -/
theorem same_iff (x y : Value) : x.same y = true ↔ x.isUndefined = false ∧ x.key = y.key := by
  rcases x with _ | b | n | (⟨s, u⟩ | s | i) | t | bs | n | a | xs <;>
  rcases y with _ | c | m | (⟨t, v⟩ | t | j) | t | cs | m | b | ys
  case list.list => simp [same, isUndefined, key, sameItems_iff xs ys]
  all_goals
    simp [same, Double.same, isUndefined, key, inUnits?, Double.inUnits?, DomainName.same_iff]

theorem sameItems_iff : ∀ xs ys : List Value, sameItems xs ys = true ↔ keys xs = keys ys
  | [], [] => by simp [sameItems]
  | [], _ :: _ => by simp [sameItems, keys]
  | _ :: _, [] => by simp [sameItems, keys]
  | x :: xs, y :: ys => by
    have hitem : (x.same y || isSameUndefined x y) = true ↔ x.key = y.key := by
      rw [Bool.or_eq_true, same_iff x y, isSameUndefined_iff]
      cases x.isUndefined <;> simp
    rw [sameItems, Bool.and_eq_true, hitem, sameItems_iff xs ys, keys, keys, List.cons.injEq]

end

end Value

/-- What equality sees of the content of a record. -/
def Content.key : Content → Content
  | .pointer target => .pointer target.key
  | .alias target => .alias target.key
  | .nameServer target => .nameServer target.key
  | content => content

theorem Content.same_iff {x y : Content} : x.same y = true ↔ x.key = y.key := by
  cases x <;> cases y <;> simp [same, key, DomainName.same_iff]

/-- What equality sees of a record. -/
def Record.key (r : Record) : Record :=
  { r with
    name := r.name.key
    payload := r.payload.map fun p => { p with content := p.content.key } }

theorem Record.same_iff {x y : Record} : x.same y = true ↔ x.key = y.key := by
  obtain ⟨n, t, c, l, p⟩ := x
  obtain ⟨m, t', c', l', q⟩ := y
  cases p <;> cases q <;>
    simp [same, key, Payload.same, DomainName.same_iff, Content.same_iff, and_assoc]

theorem Record.sameAll_iff {xs ys : List Record} :
    sameAll xs ys = true ↔ xs.map key = ys.map key := by
  induction xs generalizing ys with
  | nil => cases ys <;> simp [sameAll]
  | cons x xs ih => cases ys <;> simp [sameAll, same_iff, ih]

namespace Answer

variable {x y z : Answer}

/-- What equality sees of an answer. -/
def key (x : Answer) : Answer :=
  { x with
    name := x.name.key
    records := x.records.map Record.key }

/-- **Two answers are equal if and only if equality sees the same of them**, and the name is
    not what is no number. -/
theorem beq_iff : (x == y) = true ↔ x.name.isUndefined = false ∧ x.key = y.key := by
  obtain ⟨n, c, t, k, rs⟩ := x
  obtain ⟨m, c', t', k', rs'⟩ := y
  change same _ _ = true ↔ _
  simp [same, key, Value.same_iff, Record.sameAll_iff, and_assoc]

/-! ## An equivalence relation -/

theorem beq_self (h : x.name.isUndefined = false) : (x == x) = true := beq_iff.2 ⟨h, rfl⟩

theorem beq_symm (h : (x == y) = true) : (y == x) = true := by
  obtain ⟨hdefined, hkey⟩ := beq_iff.1 h
  have hname : x.name.isUndefined = y.name.isUndefined :=
    Value.isUndefined_of_key (congrArg Answer.name hkey)
  exact beq_iff.2 ⟨hname ▸ hdefined, hkey.symm⟩

theorem beq_trans (hxy : (x == y) = true) (hyz : (y == z) = true) : (x == z) = true :=
  beq_iff.2 ⟨(beq_iff.1 hxy).1, (beq_iff.1 hxy).2.trans (beq_iff.1 hyz).2⟩

end Answer

/-! ## Lookups -/

namespace Lookup

variable {kind : Kind} {families : Families} {xs ys : List Record} {x y : Answer}

/-- Two ends of a typed lookup agree: the same was found, or the failures are of one kind
    with the same in them; names agree that differ in the case of ASCII letters at most. -/
inductive Agree : Except Failure Found → Except Failure Found → Prop
  | addresses (all : List Address) : Agree (.ok (.addresses all)) (.ok (.addresses all))
  | address (first : Option Address) : Agree (.ok (.address first)) (.ok (.address first))
  | nowhere : Agree (.ok (.pointer none)) (.ok (.pointer none))
  | pointer {target target' : DomainName} (same : target.same target' = true) :
      Agree (.ok (.pointer (some target))) (.ok (.pointer (some target')))
  | texts (all : List (List UInt8)) : Agree (.ok (.texts all)) (.ok (.texts all))
  | result {code : Option Int} {name name' : Value} (same : name.same name' = true) :
      Agree (.error (.result ⟨code, name⟩)) (.error (.result ⟨code, name'⟩))
  | packed (bytes : List UInt8) : Agree (.error (.packed bytes)) (.error (.packed bytes))

theorem packedAddress?_key (record : Record) :
    packedAddress? families record.key = packedAddress? families record := by
  obtain ⟨n, t, c, l, _ | ⟨content, ttl⟩⟩ := record
  · rfl
  · cases families <;> cases content <;> rfl

theorem textOf?_key (record : Record) : textOf? record.key = textOf? record := by
  obtain ⟨n, t, c, l, _ | ⟨content, ttl⟩⟩ := record
  · rfl
  · cases content <;> rfl

theorem pointerOf?_key (record : Record) :
    pointerOf? record.key = (pointerOf? record).map DomainName.key := by
  obtain ⟨n, t, c, l, _ | ⟨content, ttl⟩⟩ := record
  · rfl
  · cases content <;> rfl

/-- A reader to which equal records are one reads equal rows alike. -/
theorem filterMap_of_key {β : Type} {f : Record → Option β} (hf : ∀ r, f r.key = f r)
    (h : xs.map Record.key = ys.map Record.key) : xs.filterMap f = ys.filterMap f := by
  have hmap : ∀ rs : List Record, (rs.map Record.key).filterMap f = rs.filterMap f := by
    intro rs
    rw [List.filterMap_map]
    exact List.filterMap_congr fun r _ => hf r
  rw [← hmap, h, hmap]

theorem findSome?_of_key {β : Type} {f : Record → Option β} (hf : ∀ r, f r.key = f r)
    (h : xs.map Record.key = ys.map Record.key) : xs.findSome? f = ys.findSome? f := by
  rw [← List.head?_filterMap, filterMap_of_key hf h, List.head?_filterMap]

theorem pointer_of_key (h : xs.map Record.key = ys.map Record.key) :
    (xs.findSome? pointerOf?).map DomainName.key =
      (ys.findSome? pointerOf?).map DomainName.key := by
  have hmap : ∀ rs : List Record, (rs.findSome? pointerOf?).map DomainName.key =
      (rs.map Record.key).findSome? pointerOf? := by
    intro rs
    rw [List.findSome?_map, ← List.head?_filterMap, ← List.head?_filterMap, ← List.head?_map,
      List.map_filterMap]
    exact congrArg List.head? (List.filterMap_congr fun r _ => (pointerOf?_key r).symm)
  rw [hmap, h, hmap]

theorem agree_addresses {found : Except Failure (List Address)}
    (h : ∀ failure, found = .error failure → ∃ bytes, failure = .packed bytes) :
    Agree (found.map .addresses) (found.map .addresses) := by
  cases found with
  | ok all => exact .addresses all
  | error failure =>
    obtain ⟨bytes, rfl⟩ := h failure rfl
    exact .packed bytes

theorem agree_address {found : Except Failure (Option Address)}
    (h : ∀ failure, found = .error failure → ∃ bytes, failure = .packed bytes) :
    Agree (found.map .address) (found.map .address) := by
  cases found with
  | ok first => exact .address first
  | error failure =>
    obtain ⟨bytes, rfl⟩ := h failure rfl
    exact .packed bytes

/-- **Of equal records every kind finds the same**, a name perhaps in other letters. -/
theorem Kind.foundIn_of_key (h : xs.map Record.key = ys.map Record.key) :
    Agree (kind.foundIn xs) (kind.foundIn ys) := by
  have hall : ∀ families, Lookup.allAddresses families xs = Lookup.allAddresses families ys := by
    intro families
    rw [Lookup.allAddresses, Lookup.allAddresses, filterMap_of_key packedAddress?_key h]
  have hfirst : ∀ families, firstAddress families xs = firstAddress families ys := by
    intro families
    rw [firstAddress, firstAddress, findSome?_of_key packedAddress?_key h]
  cases kind with
  | allAddresses | allIPv4 | allIPv6 =>
    rw [foundIn, foundIn, hall]
    exact agree_addresses fun _ => eq_packed_of_allAddresses
  | address | ipv4 | ipv6 =>
    rw [foundIn, foundIn, hfirst]
    exact agree_address fun _ => eq_packed_of_firstAddress
  | reverse =>
    have hpointer := pointer_of_key h
    rw [foundIn, foundIn]
    cases hx : xs.findSome? pointerOf? with
    | none =>
      rw [hx, Option.map_none, eq_comm, Option.map_eq_none_iff] at hpointer
      rw [hpointer]
      exact .nowhere
    | some target =>
      rw [hx, Option.map_some, eq_comm, Option.map_eq_some_iff] at hpointer
      obtain ⟨target', hy, hkey⟩ := hpointer
      rw [hy]
      exact .pointer (DomainName.same_iff.2 hkey.symm)
  | text =>
    rw [foundIn, foundIn, filterMap_of_key textOf?_key h]
    exact .texts _

/-- **Equal answers end a typed lookup alike.** -/
theorem Kind.found_of_beq (h : (x == y) = true) : Agree (kind.found x) (kind.found y) := by
  obtain ⟨hdefined, hkey⟩ := Answer.beq_iff.1 h
  obtain ⟨hname, -, -, hcode, hrecords⟩ := Answer.mk.inj hkey
  by_cases hok : x.code = some ResultCode.ok
  · rw [found_of_ok hok, found_of_ok (hcode ▸ hok)]
    exact foundIn_of_key hrecords
  · rw [found_of_failed hok, found_of_failed (hcode ▸ hok), hcode]
    exact .result ((Value.same_iff _ _).2 ⟨hdefined, hname⟩)

end Lookup

/-! ## Equality and lookups -/

namespace Answer

open Lookup (Kind Agree)

/-- **Equality of answers is an equivalence relation that typed lookups respect.**  Every
    answer is equal to itself whose name is a domain name, or in fact anything but what is no
    number.  Unequal are just the answers that are not equal.  Of equal answers every kind
    finds the same, a name perhaps in other letters, or fails in the same way; and what a kind
    finds in an answer is how the lookup ends to which a session delivers it. -/
theorem equality_respected :
    (∀ x : Answer, x.name.isUndefined = false → (x == x) = true) ∧
    (∀ x y : Answer, (x == y) = (y == x)) ∧
    (∀ x y z : Answer, (x == y) = true → (y == z) = true → (x == z) = true) ∧
    (∀ x y : Answer, (x != y) = true ↔ ¬ (x == y) = true) ∧
    (∀ (kind : Kind) (x y : Answer), (x == y) = true → Agree (kind.found x) (kind.found y)) ∧
    ∀ (kind : Kind) (x : Answer) (fs : FileSystem) (s : Session) (step : Session.Step) (k : Nat),
      s.Delivers step k (.typed kind) (.ok x) →
        (s.step fs step).2.fired = [(k, ⟨(kind.found x).map .found, ""⟩)] := by
  refine ⟨fun x => beq_self, ?_, fun x y z => beq_trans, ?_, ?_, ?_⟩
  · intro x y
    exact Bool.eq_iff_iff.2 ⟨beq_symm, beq_symm⟩
  · intro x y
    simp [bne]
  · intro kind x y h
    exact Kind.found_of_beq h
  · intro kind x fs s step k h
    exact h.fired

/-- Two answers about one name in other letters, the second of them in two ways of writing:
    a lookup of the host behind an address finds one host in both. -/
theorem equality_respected_letters :
    let pointer (target : String) : Record :=
      ⟨⟨[]⟩, RecordType.ptr, RecordClass.internet, 0,
        some ⟨.pointer ⟨DomainName.bytesOfAscii target.toList⟩, 0⟩⟩
    let x : Answer := { name := .name ⟨[97]⟩, records := [pointer "host"] }
    let y : Answer := { name := .name ⟨[65]⟩, records := [pointer "HOST"] }
    (x == x) = true ∧ (y == x) = true ∧ (x != y) = false ∧
      ∃ target target' : DomainName, target ≠ target' ∧
        Kind.found .reverse x = .ok (.pointer (some target)) ∧
        Kind.found .reverse y = .ok (.pointer (some target')) ∧ target.same target' = true := by
  intro pointer x y
  obtain ⟨hself, hsymm, -, hne, hagree, -⟩ := equality_respected
  have hequal : (x == y) = true := by decide +kernel
  refine ⟨hself x rfl, (hsymm y x).trans hequal, ?_, _, _, ?_, rfl, rfl, ?_⟩
  · rw [← Bool.not_eq_true, hne x y, not_not]
    exact hequal
  · decide
  · have hfound := hagree .reverse x y hequal
    cases hfound with
    | pointer same => exact same

end Answer

end ResolverChain
