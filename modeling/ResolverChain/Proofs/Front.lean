/-
  Rows of hosts tables in front of any link.

  * `Hosts.front` puts a question to the first of several tables, behind the last
    of which stands a link of any kind;
  * the first table that lists the name answers (`front_of_answeredAt`), a question
    that every table passes on is heard by the link behind them as it was asked
    (`front_of_passedOn`), and a name that cannot be read is refused by the first
    table (`front_of_refused`);
  * whatever the links are, each hears a question at most once (`heard_ask`), and the query
    that leaves them asks what they were asked (`question_of_sent`);
  * in a session, a question that the tables pass on leads to what asking the link
    behind them would have led to (`start_behind`).
-/
import ResolverChain.Proofs.HostsAnswer
import ResolverChain.Session.Step

namespace ResolverChain

/-! ## Reactions seen from links before -/

namespace Reaction

/-- The reaction seen from `n` links before, each of which heard the question and
    passed it on. -/
def behind (n : Nat) (q : Question) (r : Reaction) : Reaction :=
  { r with
    heard := (List.range n).map (·, q) ++ r.heard.map fun (depth, question) => (depth + n, question)
    sent := r.sent.map fun (depth, query) => (depth + n, query) }

@[simp] theorem behind_zero (q : Question) (r : Reaction) : r.behind 0 q = r := by
  simp [behind]

theorem hearing_fromNext_behind (n : Nat) (q : Question) (r : Reaction) :
    (r.behind n q).fromNext.hearing q = r.behind (n + 1) q := by
  simp [behind, fromNext, hearing, List.range_succ_eq_map, Function.comp_def, Nat.add_assoc]

end Reaction

/-! ## Rows of tables -/

namespace Hosts

/-- What the first of several tables makes of a question, if the link behind the last
    of them would make `last` of it. -/
def front (last : Question → Reaction) : List Table → Question → Reaction
  | [], q => last q
  | table :: tables, q => (resolve table (front last tables) q).hearing q

theorem answersClass_iff {cls : Int} :
    answersClass cls = true ↔ cls = RecordClass.internet ∨ cls = RecordClass.any := by
  simp [answersClass]

/-- The table at a place is the first that lists the name of a question, with some
    addresses, and tables answer questions of the class. -/
structure AnsweredAt (tables : List Table) (q : Question) (place : Nat) (domain : DomainName)
    (addresses : List Address) : Prop where
  cls : q.cls = RecordClass.internet ∨ q.cls = RecordClass.any
  name : q.name.toDomain = .ok domain
  earlier : ∀ table ∈ tables.take place, table.addresses? domain = none
  here : ∃ table, tables[place]? = some table ∧ table.addresses? domain = some addresses

/-- No table answers a question: tables do not answer questions of the class, or none
    lists the name. -/
def PassedOn (tables : List Table) (q : Question) : Prop :=
  (q.cls = RecordClass.internet ∨ q.cls = RecordClass.any) → ∀ table ∈ tables,
    ∃ domain, q.name.toDomain = .ok domain ∧ table.addresses? domain = none

/-- There is a table that has to read the name of a question, which cannot be read. -/
structure Refused (tables : List Table) (q : Question) (e : NameError) : Prop where
  cls : q.cls = RecordClass.internet ∨ q.cls = RecordClass.any
  some_table : tables ≠ []
  name : q.name.toDomain = .error e

/-- The reaction of a table that lists the name of a question. -/
def answering (domain : DomainName) (q : Question) (addresses : List Address) : Reaction :=
  { course := .settled (.ok (plainAnswer domain q.cls q.type addresses))
    heard := [(0, q)]
    log := [answeringEvent domain] }

section
variable {table : Table} {tables : List Table} {next last : Question → Reaction} {q : Question}
  {place : Nat} {domain : DomainName} {addresses : List Address} {e : NameError}

theorem domain_of_ok (h : q.name.toDomain = .ok domain) : q.domain = .ok domain := by
  rw [Question.domain, h]; rfl

theorem domain_of_error (h : q.name.toDomain = .error e) : q.domain = .error (.name e) := by
  rw [Question.domain, h]; rfl

theorem resolve_of_passedOn (h : PassedOn (table :: tables) q) :
    resolve table next q = (next q).fromNext := by
  unfold resolve
  by_cases hcls : answersClass q.cls = true
  · obtain ⟨domain, hdomain, hnone⟩ := h (answersClass_iff.1 hcls) table (by simp)
    simp [hcls, domain_of_ok hdomain, hnone]
  · simp [hcls]

theorem PassedOn.tail (h : PassedOn (table :: tables) q) : PassedOn tables q :=
  fun hcls t ht => h hcls t (List.mem_cons_of_mem _ ht)

/-- **A question that every table passes on** is heard by the link behind them as it
    was asked. -/
theorem front_of_passedOn (h : PassedOn tables q) :
    front last tables q = (last q).behind tables.length q := by
  induction tables with
  | nil => simp [front]
  | cons table tables ih =>
    rw [front, resolve_of_passedOn h, ih h.tail, Reaction.hearing_fromNext_behind, List.length_cons]

/-- **The first table that lists the name answers.** -/
theorem front_of_answeredAt (h : AnsweredAt tables q place domain addresses) :
    front last tables q = (answering domain q addresses).behind place q := by
  obtain ⟨hcls, hname, hearlier, table, hplace, hsome⟩ := h
  induction tables generalizing place with
  | nil => simp at hplace
  | cons t tables ih =>
    cases place with
    | zero =>
      obtain rfl : t = table := by simpa using hplace
      simp [front, resolve, answersClass_iff.2 hcls, domain_of_ok hname, hsome, answer_eq,
        answering, Reaction.hearing]
    | succ place =>
      have ht : PassedOn [t] q := fun _ u hu => by
        rw [List.mem_singleton.1 hu]
        exact ⟨domain, hname, hearlier t (by simp)⟩
      rw [front, resolve_of_passedOn ht,
        ih (fun u hu => hearlier u (List.mem_cons_of_mem _ hu)) (by simpa using hplace),
        Reaction.hearing_fromNext_behind]

/-- **A name that cannot be read is refused** by the first table. -/
theorem front_of_refused (h : Refused tables q e) :
    front last tables q = { course := .refused (.name e), heard := [(0, q)] } := by
  obtain ⟨hcls, htables, hname⟩ := h
  obtain ⟨table, tables, rfl⟩ := List.exists_cons_of_ne_nil htables
  simp [front, resolve, answersClass_iff.2 hcls, domain_of_error hname, Reaction.refusal,
    Reaction.hearing]

/-- The reaction of a row of tables with everything that could be noticed. -/
theorem behind_answering :
    (answering domain q addresses).behind place q =
      { course := .settled (.ok (plainAnswer domain q.cls q.type addresses))
        heard := (List.range (place + 1)).map (·, q)
        log := [answeringEvent domain] } := by
  simp [answering, Reaction.behind, List.range_succ]

end

/-- A row of tables passes a question on, answers it, or refuses it. -/
theorem front_cases (tables : List Table) (q : Question) :
    PassedOn tables q ∨ (∃ place domain addresses, AnsweredAt tables q place domain addresses) ∨
      ∃ e, Refused tables q e := by
  by_cases hcls : q.cls = RecordClass.internet ∨ q.cls = RecordClass.any
  · rcases hname : q.name.toDomain with e | domain
    · rcases eq_or_ne tables [] with rfl | htables
      · exact Or.inl fun _ t ht => absurd ht List.not_mem_nil
      · exact Or.inr (Or.inr ⟨e, hcls, htables, hname⟩)
    · rcases hfirst : tables.findSome? (·.addresses? domain) with _ | addresses
      · refine Or.inl fun _ table htable => ⟨domain, hname, ?_⟩
        exact List.findSome?_eq_none_iff.1 hfirst table htable
      · obtain ⟨before, table, after, rfl, hsome, hbefore⟩ := List.findSome?_eq_some_iff.1 hfirst
        refine Or.inr (Or.inl ⟨before.length, domain, addresses, hcls, hname, ?_, table, ?_, hsome⟩)
        · rw [List.take_left' rfl]; exact hbefore
        · simp
  · exact Or.inl fun h => absurd h hcls

end Hosts

/-! ## Chains -/

theorem ask_hosts_append (tables : List Hosts.Table) (rest : List Resolver) :
    ask (tables.map .hosts ++ rest) = Hosts.front (ask rest) tables := by
  induction tables with
  | nil => rfl
  | cons table tables ih =>
    funext q
    rw [List.map_cons, List.cons_append, ask, ih, Hosts.front]

/-- A link at the end of a chain is the only one that hears a question put to it. -/
theorem heard_ask_singleton (link : Resolver) (q : Question) : (ask [link] q).heard = [(0, q)] := by
  cases link with
  | hosts table =>
    have hnone : (Hosts.resolve table (ask []) q).heard = [] := by
      unfold Hosts.resolve
      repeat' split
      all_goals rfl
    rw [ask, Reaction.hearing, hnone]
  | terminal code | network => rw [ask]; split <;> rfl
  | recorder | fixed code records | bare => rfl

/-- A table answers or refuses a question by itself, or asks the next link. -/
theorem resolve_cases (table : Hosts.Table) (next : Question → Reaction) (q : Question) :
    ((Hosts.resolve table next q).heard = [] ∧ (Hosts.resolve table next q).sent = none) ∨
      Hosts.resolve table next q = (next q).fromNext := by
  unfold Hosts.resolve
  split
  · split
    · exact Or.inl ⟨rfl, rfl⟩
    · split
      exacts [Or.inl ⟨rfl, rfl⟩, Or.inr rfl]
  · exact Or.inr rfl

/-- **Links hear a question at most once**, one after the other, and the first of them does. -/
theorem heard_ask (chain : List Resolver) (q : Question) :
    ∃ n, (ask chain q).heard = (List.range n).map (·, q) ∧ (chain ≠ [] → 0 < n) := by
  induction chain with
  | nil => exact ⟨0, rfl, fun h => absurd rfl h⟩
  | cons link next ih =>
    cases link with
    | hosts table =>
      obtain ⟨n, hn, -⟩ := ih
      rw [ask, Reaction.hearing]
      rcases resolve_cases table (ask next) q with ⟨hheard, -⟩ | hnext
      · exact ⟨1, by rw [hheard]; rfl, fun _ => Nat.one_pos⟩
      · refine ⟨n + 1, ?_, fun _ => Nat.succ_pos n⟩
        simp [hnext, Reaction.fromNext, hn, List.range_succ_eq_map, Function.comp_def]
    | terminal code | network =>
      refine ⟨1, ?_, fun _ => Nat.one_pos⟩
      rw [ask]
      split <;> rfl
    | recorder | fixed code records | bare => exact ⟨1, rfl, fun _ => Nat.one_pos⟩

/-- The query that leaves a chain asks what was asked, if that was about a normal name. -/
theorem question_of_sent {chain : List Resolver} {q : Question} {domain : DomainName}
    {depth : Nat} {query : Query} (hname : q.name = .name domain)
    (hdomain : q.name.toDomain = .ok domain) (h : (ask chain q).sent = some (depth, query)) :
    query.question = q := by
  have hsame : { q with name := .name domain } = q := by rw [← hname]
  induction chain generalizing depth with
  | nil => cases h
  | cons link next ih =>
    cases link with
    | hosts table =>
      rw [ask, Reaction.hearing] at h
      rcases resolve_cases table (ask next) q with ⟨-, hsent⟩ | hnext
      · rw [hsent] at h
        cases h
      · simp only [hnext, Reaction.fromNext, Option.map_eq_some_iff, Prod.mk.injEq] at h
        obtain ⟨⟨before, sent⟩, hsent, -, rfl⟩ := h
        exact ih hsent
    | terminal code => simp [ask, Hosts.domain_of_ok hdomain, Reaction.hearing, Reaction.answer] at h
    | network =>
      simp only [ask, Hosts.domain_of_ok hdomain, Reaction.hearing, Option.some.injEq,
        Prod.mk.injEq] at h
      rw [← h.2, hsame]
    | recorder | fixed code records =>
      simp only [ask, Reaction.hearing, Option.some.injEq, Prod.mk.injEq] at h
      rw [← h.2]
    | bare => cases h

/-! ## Starting lookups -/

namespace Session

variable {s : Session} {link : Nat} {use : Lookup.Use} {q : Question}

theorem start_of_settled {r : Reaction} {answer : Except Failure Answer}
    (hask : ask (s.chain.drop link) q = r) (hcourse : r.course = .settled answer)
    (hsent : r.sent = none) :
    s.start link use q =
      ({ s with lookups := s.lookups ++ [⟨use, none⟩] },
        { result := .lookup s.lookups.length (shownOutput use (use.conclude answer).output)
          fired := [(s.lookups.length, use.conclude answer)]
          log := r.log }) := by
  simp [start, hask, sentIn, hsent, hcourse, follow, settle]

theorem start_of_refused {r : Reaction} {failure : Failure}
    (hask : ask (s.chain.drop link) q = r) (hcourse : r.course = .refused failure)
    (hsent : r.sent = none) (huse : ∀ kind name, use ≠ .printed kind name) :
    s.start link use q = (s, { result := .failed failure, log := r.log }) := by
  cases use with
  | printed kind name => exact absurd rfl (huse kind name)
  | _ => simp [start, hask, sentIn, hsent, hcourse, follow]

theorem start_of_waiting {r : Reaction} {depth : Nat} {query : Query}
    (hask : ask (s.chain.drop link) q = r) (hcourse : r.course = .waiting)
    (hsent : r.sent = some (depth, query)) :
    s.start link use q =
      ({ s with
          sent := s.sent ++ [⟨link + depth, query, true⟩]
          lookups := s.lookups ++ [⟨use, some s.sent.length⟩] },
        { result := .lookup s.lookups.length (shownOutput use "")
          queries := [(link + depth, query)]
          log := r.log }) := by
  simp [start, hask, sentIn, hsent, hcourse, follow, wait]

/-- **A question that links pass on** leads to what asking the link behind them would
    have led to. -/
theorem start_behind {n : Nat}
    (h : ask (s.chain.drop link) q = (ask (s.chain.drop (link + n)) q).behind n q) :
    s.start link use q = s.start (link + n) use q := by
  have hsent : ∀ r : Reaction, sentIn link (r.behind n q) = sentIn (link + n) r := by
    intro r
    simp [sentIn, Reaction.behind, Function.comp_def, Nat.add_assoc, Nat.add_comm n]
  simp only [start, h, hsent]
  rfl

end Session

end ResolverChain
