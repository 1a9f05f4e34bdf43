/-
  How a chain takes a question.

  In front of a last link of any kind stand hosts tables.  The first table that
  lists the name answers at once, and no later link hears the question; a question
  that no table answers is heard by every link once, as it was asked, and is from
  then on a question to the last link; a name that cannot be read is refused by the
  first table.
-/
import ResolverChain.Proofs.Front

namespace ResolverChain

namespace Session

variable {s : Session} {tables : List Hosts.Table} {last : Resolver} {q : Question}

/-- A step that puts a question to the front of a chain; a recorder takes no messages. -/
def AsksFront (tables : List Hosts.Table) (last : Resolver) (q : Question) (step : Step) : Prop :=
  step = .resolve 0 q ∨ (step = .query 0 q ∧ (tables ≠ [] ∨ last ≠ .recorder))

theorem isUntyped_front (hchain : s.chain = tables.map .hosts ++ [last])
    (h : tables ≠ [] ∨ last ≠ .recorder) : s.isUntyped 0 = false := by
  rw [isUntyped, hchain]
  cases tables with
  | nil =>
    rcases h with h | h
    · exact absurd rfl h
    · cases last <;> first | rfl | exact absurd rfl h
  | cons table tables => rfl

theorem step_of_asksFront (fs : FileSystem) (hchain : s.chain = tables.map .hosts ++ [last])
    {step : Step} (h : AsksFront tables last q step) : s.step fs step = s.start 0 .plain q := by
  rcases h with rfl | ⟨rfl, h⟩
  · rfl
  · rw [Session.step, startQuery, isUntyped_front hchain h]; rfl

theorem ask_front (hchain : s.chain = tables.map .hosts ++ [last]) :
    ask s.chain q = Hosts.front (ask [last]) tables q := by
  rw [hchain, ask_hosts_append]

/-- Asking the front of a chain is asking its last link, if every table passes the
    question on. -/
theorem start_front_of_passedOn (hchain : s.chain = tables.map .hosts ++ [last])
    (h : Hosts.PassedOn tables q) :
    s.start 0 .plain q = s.start tables.length .plain q := by
  have hdrop : s.chain.drop tables.length = [last] := by
    rw [hchain]; exact List.drop_left' (by simp)
  have hbehind : ask (s.chain.drop 0) q =
      (ask (s.chain.drop (0 + tables.length)) q).behind tables.length q := by
    rw [List.drop_zero, Nat.zero_add, hdrop, ask_front hchain, Hosts.front_of_passedOn h]
  rw [start_behind hbehind, Nat.zero_add]

end Session

/-- **A chain answers from its first table that lists the name, or passes the question
    on unchanged.** -/
theorem chain_answers_or_passes_on (tables : List Hosts.Table) (q : Question) :
    -- the link behind the tables may make anything of a question
    (∀ last : Question → Reaction,
      (∀ place domain addresses, Hosts.AnsweredAt tables q place domain addresses →
        Hosts.front last tables q =
          { course := .settled (.ok (Hosts.plainAnswer domain q.cls q.type addresses))
            heard := (List.range (place + 1)).map (·, q)
            log := [Hosts.answeringEvent domain] }) ∧
      (Hosts.PassedOn tables q →
        Hosts.front last tables q = (last q).behind tables.length q) ∧
      (∀ e, Hosts.Refused tables q e →
        Hosts.front last tables q = { course := .refused (.name e), heard := [(0, q)] })) ∧
    -- and so for every question in a session, whatever happened in it before
    (∀ (fs : FileSystem) (s : Session) (last : Resolver) (step : Session.Step),
      s.chain = tables.map .hosts ++ [last] → Session.AsksFront tables last q step →
      ask s.chain q = Hosts.front (ask [last]) tables q ∧
      (∀ place domain addresses, Hosts.AnsweredAt tables q place domain addresses →
        s.step fs step =
          ({ s with lookups := s.lookups ++ [⟨.plain, none⟩] },
            { result := .lookup s.lookups.length none
              fired := [(s.lookups.length,
                ⟨.ok (.answer (Hosts.plainAnswer domain q.cls q.type addresses)), ""⟩)]
              log := [Hosts.answeringEvent domain] })) ∧
      (Hosts.PassedOn tables q →
        (ask s.chain q).heard = (List.range (tables.length + 1)).map (·, q) ∧
          s.step fs step = s.step fs (.resolve tables.length q)) ∧
      (∀ e, Hosts.Refused tables q e → s.step fs step = (s, { result := .failed (.name e) }))) := by
  refine ⟨?_, ?_⟩
  · intro last
    refine ⟨?_, Hosts.front_of_passedOn, fun e => Hosts.front_of_refused⟩
    intro place domain addresses h
    rw [Hosts.front_of_answeredAt h, Hosts.behind_answering]
  · intro fs s last step hchain hstep
    have hask : ask (s.chain.drop 0) q = Hosts.front (ask [last]) tables q :=
      Session.ask_front hchain
    rw [Session.step_of_asksFront fs hchain hstep]
    refine ⟨hask, ?_, ?_, ?_⟩
    · intro place domain addresses h
      rw [Hosts.front_of_answeredAt h, Hosts.behind_answering] at hask
      exact Session.start_of_settled hask rfl rfl
    · intro h
      refine ⟨?_, Session.start_front_of_passedOn hchain h⟩
      rw [Session.ask_front hchain, Hosts.front_of_passedOn h, Reaction.behind, heard_ask_singleton]
      simp [List.range_succ]
    · intro e h
      rw [Hosts.front_of_refused h] at hask
      exact Session.start_of_refused hask rfl rfl (by simp)

/-- Two tables in front of a recorder: the second answers for a name that only it lists,
    a question of another class goes through with its flags, and a name with an empty
    label is refused. -/
theorem chain_answers_or_passes_on_two_tables :
    let a : DomainName := ⟨[97]⟩
    let b : DomainName := ⟨[98]⟩
    let four : Address := .v4 ⟨#[10, 0, 0, 4], rfl⟩
    let tables : List Hosts.Table := [[(a, [four])], [(b, [four])]]
    let s : Session := { chain := tables.map .hosts ++ [.recorder] }
    let fs : FileSystem := { directory := "/", state := fun _ => .directory }
    let listed : Question := { name := .text "B.", type := RecordType.a }
    let chaos : Question := ⟨.text "B.", RecordType.a, 3, ⟨true, false, true⟩⟩
    let broken : Question := { name := .text "a..b", type := RecordType.a }
    (s.step fs (.resolve 0 listed)).2.fired =
      [(0, ⟨.ok (.answer ⟨.name b, some 1, some 1, some 0, [Hosts.plainRecord b four]⟩), ""⟩)] ∧
    (ask s.chain chaos).heard = [(0, chaos), (1, chaos), (2, chaos)] ∧
    s.step fs (.query 0 chaos) = s.step fs (.resolve 2 chaos) ∧
    s.step fs (.resolve 0 broken) = (s, { result := .failed (.name (.unencodable "a..b")) }) := by
  intro a b four tables s fs listed chaos broken
  have hlisted := ((chain_answers_or_passes_on tables listed).2 fs s .recorder
    (.resolve 0 listed) rfl (Or.inl rfl)).2.1 1 b [four]
    ⟨Or.inl rfl, by rfl, by simp [tables, Hosts.Table.addresses?, a, b], [(b, [four])], rfl, by rfl⟩
  obtain ⟨-, -, hchaos, -⟩ := (chain_answers_or_passes_on tables chaos).2 fs s .recorder
    (.query 0 chaos) rfl (Or.inr ⟨rfl, Or.inl (by simp [tables])⟩)
  obtain ⟨hheard, hpassed⟩ := hchaos fun hcls => absurd hcls (by decide)
  obtain ⟨-, -, -, hbroken⟩ := (chain_answers_or_passes_on tables broken).2 fs s .recorder
    (.resolve 0 broken) rfl (Or.inl rfl)
  have hrefused : Hosts.Refused tables broken (.unencodable "a..b") :=
    ⟨Or.inl rfl, by simp [tables], by rfl⟩
  refine ⟨?_, hheard, hpassed, hbroken _ hrefused⟩
  rw [hlisted]; rfl

end ResolverChain
