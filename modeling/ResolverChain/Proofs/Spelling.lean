/-
  Spellings of a name.

  * two steps that ask the same about spellings of one name (`Respelled`) cannot be told
    apart: in front of a fixed code or the network the links react alike
    (`ask_respelled`), and the session goes on alike, whatever else is done in it
    (`spellings_indistinguishable`);
  * lookups of the name behind an address read an address instead of a name, so there the
    spellings are those of one reverse name.
-/
import ResolverChain.Proofs.LastLoad
import ResolverChain.Proofs.HostsLookup

namespace ResolverChain

/-! ## Reactions to spellings -/

/-- A link that makes a normal name of every name that it is asked about. -/
def Resolver.Normalizes (last : Resolver) : Prop := (∃ code, last = .terminal code) ∨ last = .network

theorem Resolver.Normalizes.ne_hosts {last : Resolver} (hlast : last.Normalizes)
    (table : Hosts.Table) : last ≠ .hosts table := by
  rcases hlast with ⟨code, rfl⟩ | rfl <;> simp

namespace Reaction

/-- Two reactions differ at most in how the links heard the name. -/
structure Alike (r r' : Reaction) : Prop where
  course : r'.course = r.course
  depths : r'.heard.map Prod.fst = r.heard.map Prod.fst
  sent : r'.sent = r.sent
  log : r'.log = r.log

/-- A reaction tells of no other name than one. -/
structure Names (domain : DomainName) (r : Reaction) : Prop where
  answer : ∀ a, r.course = .settled (.ok a) → a.name = .name domain
  query : ∀ depth query, r.sent = some (depth, query) → query.question.name = .name domain

variable {r r' : Reaction} {domain : DomainName}

theorem Alike.refl (r : Reaction) : r.Alike r := ⟨rfl, rfl, rfl, rfl⟩

theorem Alike.hearing (h : r.Alike r') (q q' : Question) : (r.hearing q).Alike (r'.hearing q') :=
  ⟨h.course, by simp [Reaction.hearing, h.depths], h.sent, h.log⟩

theorem Alike.fromNext (h : r.Alike r') : r.fromNext.Alike r'.fromNext := by
  refine ⟨h.course, ?_, by simp [Reaction.fromNext, h.sent], h.log⟩
  have hdepths := congrArg (List.map (· + 1)) h.depths
  simpa [Reaction.fromNext, Function.comp_def] using hdepths

theorem Names.hearing (h : r.Names domain) (q : Question) : (r.hearing q).Names domain :=
  ⟨h.answer, h.query⟩

theorem Names.fromNext (h : r.Names domain) : r.fromNext.Names domain := by
  refine ⟨h.answer, ?_⟩
  intro depth query hsent
  simp only [Reaction.fromNext, Option.map_eq_some_iff, Prod.exists, Prod.mk.injEq] at hsent
  obtain ⟨depth', query', hsent, -, rfl⟩ := hsent
  exact h.query depth' query' hsent

theorem names_refusal (domain : DomainName) (failure : Failure) : (refusal failure).Names domain :=
  ⟨by simp [refusal], by simp [refusal]⟩

end Reaction

section
variable {table : Hosts.Table} {tables : List Hosts.Table} {rest : List Resolver}
  {last : Resolver} {next : Question → Reaction} {q : Question} {y : Value} {domain : DomainName}

theorem resolve_respelled (hx : q.name.toDomain = .ok domain) (hy : y.toDomain = .ok domain)
    (hnext : (next q).Alike (next { q with name := y })) :
    (Hosts.resolve table next q).Alike (Hosts.resolve table next { q with name := y }) := by
  have hq := Hosts.domain_of_ok hx
  have hq' : Question.domain { q with name := y } = .ok domain := Hosts.domain_of_ok hy
  unfold Hosts.resolve
  rw [hq, hq']
  by_cases hcls : Hosts.answersClass q.cls = true
  · cases haddresses : table.addresses? domain with
    | some addresses => simpa [hcls, haddresses] using Reaction.Alike.refl _
    | none => simpa [hcls, haddresses] using hnext.fromNext
  · simpa [hcls] using hnext.fromNext

/-- A table that lists a name answers with the name. -/
theorem resolve_names (hx : q.name.toDomain = .ok domain) (hnext : (next q).Names domain) :
    (Hosts.resolve table next q).Names domain := by
  unfold Hosts.resolve
  rw [Hosts.domain_of_ok hx]
  by_cases hcls : Hosts.answersClass q.cls = true
  · cases haddresses : table.addresses? domain with
    | some addresses =>
      simp only [hcls, haddresses, if_true, Hosts.answer_eq]
      refine ⟨?_, by simp⟩
      rintro _ ⟨⟩
      rfl
    | none => simpa [hcls, haddresses] using hnext.fromNext
  · simpa [hcls] using hnext.fromNext

/-- A link that normalizes names does not tell spellings of one name apart. -/
theorem ask_last_respelled (hlast : last.Normalizes) (hx : q.name.toDomain = .ok domain)
    (hy : y.toDomain = .ok domain) :
    (ask [last] q).Alike (ask [last] { q with name := y }) ∧ (ask [last] q).Names domain := by
  have hq := Hosts.domain_of_ok hx
  have hq' : Question.domain { q with name := y } = .ok domain := Hosts.domain_of_ok hy
  rcases hlast with ⟨code, rfl⟩ | rfl
  · rw [ask, ask, hq, hq']
    refine ⟨(Reaction.Alike.refl _).hearing _ _, Reaction.Names.hearing ⟨?_, ?_⟩ _⟩
    · rintro _ ⟨⟩
      rfl
    · rintro _ _ ⟨⟩
  · rw [ask, ask, hq, hq']
    refine ⟨(Reaction.Alike.refl _).hearing _ _, Reaction.Names.hearing ⟨?_, ?_⟩ _⟩
    · rintro _ ⟨⟩
    · rintro _ _ ⟨⟩
      rfl

/-- **Links do not tell spellings of one name apart**, if those behind the tables do not. -/
theorem ask_respelled (hx : q.name.toDomain = .ok domain) (hy : y.toDomain = .ok domain)
    (hrest : (ask rest q).Alike (ask rest { q with name := y }) ∧ (ask rest q).Names domain) :
    (ask (tables.map .hosts ++ rest) q).Alike
        (ask (tables.map .hosts ++ rest) { q with name := y }) ∧
      (ask (tables.map .hosts ++ rest) q).Names domain := by
  induction tables with
  | nil => exact hrest
  | cons table tables ih =>
    rw [List.map_cons, List.cons_append, ask, ask]
    exact ⟨(resolve_respelled hx hy ih.1).hearing _ _, (resolve_names hx ih.2).hearing _⟩

end

/-- The outcome of a query is about the name in it. -/
theorem Query.name_of_conclude {query : Query} {reply : Reply} {a : Answer}
    (h : (query.conclude reply).1 = .ok a) : a.name = query.question.name := by
  unfold Query.conclude at h
  repeat' split at h
  all_goals cases h
  all_goals rfl

/-! ## Sessions -/

namespace Session

open Lookup (Kind)

variable {fs : FileSystem} {tables : List Hosts.Table} {last : Resolver} {s : Session}
  {link : Nat} {q : Question} {y : Value} {domain : DomainName} {step step' : Step}

/-- Two steps ask the same about spellings of one name. -/
inductive Respelled (domain : DomainName) : Step → Step → Prop
  | resolve {link : Nat} {x y : Value} {type cls : Int} {flags : Flags}
      (hx : x.toDomain = .ok domain) (hy : y.toDomain = .ok domain) :
      Respelled domain (.resolve link ⟨x, type, cls, flags⟩) (.resolve link ⟨y, type, cls, flags⟩)
  | query {link : Nat} {x y : Value} {type cls : Int} {flags : Flags}
      (hx : x.toDomain = .ok domain) (hy : y.toDomain = .ok domain) :
      Respelled domain (.query link ⟨x, type, cls, flags⟩) (.query link ⟨y, type, cls, flags⟩)
  | typed {link : Nat} {kind : Kind} {x y : Value} (named : kind ≠ .reverse)
      (hx : x.toDomain = .ok domain) (hy : y.toDomain = .ok domain) :
      Respelled domain (.typed link kind x) (.typed link kind y)
  /-- A lookup of the name behind an address takes the address. -/
  | reverse {link : Nat} {x y : Value} (hx : x.reverseDomain = .ok domain)
      (hy : y.reverseDomain = .ok domain) :
      Respelled domain (.typed link .reverse x) (.typed link .reverse y)

theorem questionOf_reverse {x : Value} (hx : x.reverseDomain = .ok domain) :
    questionOf .reverse x = .ok { name := .name domain, type := Kind.reverse.recordType } := by
  rw [questionOf, Kind.target, hx]
  rfl

/-- Steps that ask about spellings of one name call the same link with the same question but
    for the spelling. -/
theorem Respelled.calls (h : Respelled domain step step') :
    ∃ link use q y, step.call? = some (link, use, .ok q) ∧
      step'.call? = some (link, use, .ok { q with name := y }) ∧
      q.name.toDomain = .ok domain ∧ y.toDomain = .ok domain := by
  cases h with
  | resolve hx hy => exact ⟨_, _, _, _, rfl, rfl, hx, hy⟩
  | query hx hy => exact ⟨_, _, _, _, rfl, rfl, hx, hy⟩
  | @typed link kind x y named hx hy =>
    refine ⟨link, .typed kind, { name := .name domain, type := kind.recordType }, .name domain,
      ?_, ?_, Value.toDomain_name hx, Value.toDomain_name hx⟩
    · rw [Step.call?, questionOf_eq named hx]
    · rw [Step.call?, questionOf_eq named hy]
  | @reverse link x y hx hy =>
    have hnormal : (Value.name domain).toDomain = .ok domain := by
      rw [Value.toDomain, Value.reverseDomain_normal hx]
    refine ⟨link, .typed .reverse, { name := .name domain, type := Kind.reverse.recordType },
      .name domain, ?_, ?_, hnormal, hnormal⟩
    · rw [Step.call?, questionOf_reverse hx]
    · rw [Step.call?, questionOf_reverse hy]

/-- The links from a place on do not tell spellings of one name apart. -/
theorem ask_chain_respelled (hlast : last.Normalizes)
    (hchain : s.chain = tables.map .hosts ++ [last]) (hx : q.name.toDomain = .ok domain)
    (hy : y.toDomain = .ok domain) (link : Nat) :
    (ask (s.chain.drop link) q).Alike (ask (s.chain.drop link) { q with name := y }) ∧
      (ask (s.chain.drop link) q).Names domain := by
  rw [hchain, List.drop_append, ← List.map_drop]
  refine ask_respelled hx hy ?_
  rcases Nat.eq_zero_or_pos (link - (tables.map Resolver.hosts).length) with h | h
  · rw [h]
    exact ask_last_respelled hlast hx hy
  · rw [List.drop_eq_nil_of_le (by rw [List.length_singleton]; exact h)]
    exact ⟨.refl _, Reaction.names_refusal domain .unlinked⟩

/-- A lookup goes on as the reaction to its question says. -/
theorem start_alike {use : Lookup.Use} {q' : Question}
    (h : (ask (s.chain.drop link) q).Alike (ask (s.chain.drop link) q')) :
    s.start link use q' = s.start link use q := by
  simp only [start, sentIn, h.course, h.sent, h.log]

/-- **A step does not tell spellings of one name apart.** -/
theorem step_respelled (hlast : last.Normalizes) (hchain : s.chain = tables.map .hosts ++ [last])
    (h : Respelled domain step step') : s.step fs step' = s.step fs step := by
  cases h with
  | resolve hx hy => exact start_alike (ask_chain_respelled hlast hchain hx hy _).1
  | @query link x y type cls flags hx hy =>
    have hstart : s.start link .plain ⟨y, type, cls, flags⟩ =
        s.start link .plain ⟨x, type, cls, flags⟩ :=
      start_alike (ask_chain_respelled hlast hchain hx hy link).1
    rw [Session.step, Session.step, startQuery, startQuery, hstart]
  | typed named hx hy =>
    rw [Session.step, Session.step, startTyped, startTyped, questionOf_eq named hx,
      questionOf_eq named hy]
  | reverse hx hy =>
    rw [Session.step, Session.step, startTyped, startTyped, questionOf_reverse hx,
      questionOf_reverse hy]

/-! ## Runs -/

/-- Whatever is done in a session, the tables stay in front of the last link. -/
theorem chain_step (fs : FileSystem) (hlast : last.Normalizes)
    (hchain : s.chain = tables.map .hosts ++ [last]) (step : Step) :
    ∃ loaded : List Hosts.Table, (s.step fs step).1.chain = loaded.map .hosts ++ [last] := by
  cases hinto : step.loadsInto? with
  | none => exact ⟨tables, (chain_step_of_not_load hinto).trans hchain⟩
  | some link =>
    rw [step_of_loadsInto hinto, install]
    split
    · rename_i old table hlink htable
      exact ⟨_, chain_set_hosts hlast.ne_hosts hchain hlink table⟩
    all_goals exact ⟨tables, hchain⟩

/-- **A run does not tell spellings of one name apart.** -/
theorem run_respelled (hlast : last.Normalizes) (hchain : s.chain = tables.map .hosts ++ [last])
    {steps steps' : List Step}
    (h : List.Forall₂ (fun step step' => step' = step ∨ ∃ domain, Respelled domain step step')
      steps steps') : s.run fs steps' = s.run fs steps := by
  induction h generalizing s tables with
  | nil => rfl
  | @cons step step' steps steps' hstep _ ih =>
    have hsame : s.step fs step' = s.step fs step := by
      rcases hstep with rfl | ⟨domain, hstep⟩
      exacts [rfl, step_respelled hlast hchain hstep]
    obtain ⟨loaded, hloaded⟩ := chain_step fs hlast hchain step
    rw [Session.run, Session.run, hsame, ih hloaded]

/-- **Spellings of one name are indistinguishable.**  The same links hear the question, the
    step and everything that is done later go the same way, and answers are about the normal
    name. -/
theorem spellings_indistinguishable (fs : FileSystem) (hlast : last.Normalizes)
    (hchain : s.chain = tables.map .hosts ++ [last]) (h : Respelled domain step step') :
    (∃ link use q q', step.call? = some (link, use, .ok q) ∧
      step'.call? = some (link, use, .ok q') ∧
      (ask (s.chain.drop link) q).Alike (ask (s.chain.drop link) q') ∧
      (∀ a, (ask (s.chain.drop link) q).course = .settled (.ok a) → a.name = .name domain) ∧
      ∀ depth query, (ask (s.chain.drop link) q).sent = some (depth, query) →
        query.question.name = .name domain ∧
        ∀ reply a, (query.conclude reply).1 = .ok a → a.name = .name domain) ∧
    s.step fs step' = s.step fs step ∧
    ∀ later later', List.Forall₂
      (fun step step' => step' = step ∨ ∃ domain, Respelled domain step step') later later' →
      s.run fs (step' :: later') = s.run fs (step :: later) := by
  refine ⟨?_, step_respelled hlast hchain h, ?_⟩
  · obtain ⟨link, use, q, y, hcall, hcall', hx, hy⟩ := h.calls
    obtain ⟨halike, hnames⟩ := ask_chain_respelled hlast hchain hx hy link
    refine ⟨link, use, q, _, hcall, hcall', halike, hnames.answer, ?_⟩
    intro depth query hsent
    refine ⟨hnames.query depth query hsent, fun reply a ha => ?_⟩
    rw [Query.name_of_conclude ha, hnames.query depth query hsent]
  · intro later later' hlater
    exact run_respelled hlast hchain (.cons (Or.inr ⟨domain, h⟩) hlater)

/-- A text and a name that the second table does not list, in front of the network. -/
theorem spellings_indistinguishable_network :
    let fs : FileSystem := { directory := "/", state := fun _ => .directory }
    let s : Session := { chain := [.hosts [], .hosts [(⟨[97]⟩, [])], .network] }
    let x : Step := .resolve 0 ⟨.text "B..", 1, 1, {}⟩
    let y : Step := .resolve 0 ⟨.name ⟨[66]⟩, 1, 1, {}⟩
    (s.step fs y).2.queries = (s.step fs x).2.queries ∧
      s.run fs [y, .typed 0 .text (.bytes [65, 46]), .reply 2 0 (.sections [[], [], []])] =
        s.run fs [x, .typed 0 .text (.text "a"), .reply 2 0 (.sections [[], [], []])] := by
  intro fs s x y
  have hxy : Respelled ⟨[98]⟩ x y := .resolve rfl rfl
  have hchain : s.chain = [[], [(⟨[97]⟩, [])]].map .hosts ++ [.network] := rfl
  obtain ⟨-, hstep, hrun⟩ := spellings_indistinguishable fs (Or.inr rfl) hchain hxy
  refine ⟨by rw [hstep], hrun _ _ (.cons (Or.inr ⟨⟨[97]⟩, ?_⟩) (.cons (Or.inl rfl) .nil))⟩
  exact .typed (by decide) rfl rfl

/-- A lookup of the name behind an address tells a text from bytes, although both spell the
    same name: the bytes are not those of a packed address. -/
theorem reverse_tells_spellings_apart :
    let fs : FileSystem := { directory := "/", state := fun _ => .directory }
    let s : Session := { chain := [.hosts [], .network] }
    let x : Value := .text "10.0.0.1"
    let y : Value := .bytes [49, 48, 46, 48, 46, 48, 46, 49]
    x.toDomain = .ok ⟨[49, 48, 46, 48, 46, 48, 46, 49]⟩ ∧
      y.toDomain = .ok ⟨[49, 48, 46, 48, 46, 48, 46, 49]⟩ ∧
      (s.step fs (.typed 0 .reverse x)).2.queries.length = 1 ∧
      (s.step fs (.typed 0 .reverse y)).2.queries.length = 0 := by
  refine ⟨rfl, rfl, rfl, rfl⟩

end Session

end ResolverChain
