/-
  What the tables of a session hold.

  * a step that is to load a table into a link either loads the lines of a source that
    can be read to its end (`Step.Loads`), or fails for the first thing that is wrong
    with it and changes nothing (`Step.LoadFails`); every other step keeps the chain
    (`chain_step_of_not_load`);
  * so a table is at any time that of the lines that were loaded last (`LastLoad`), and
    empty before (`tables_hold_last_load`).
-/
import ResolverChain.Proofs.HostsTable
import ResolverChain.Proofs.Lifecycle

namespace ResolverChain

open Hosts (Table Source)

namespace Hosts

/-- What is noted when a table was loaded. -/
def loadedEvent (t : Table) : Log.Event :=
  ⟨.info, origin, some ("Loaded " ++ Text.Numeral.ofNat t.length ++ " host names")⟩

end Hosts

namespace Session

/-! ## Loads -/

/-- A step loads a table of some lines into a link. -/
inductive Step.Loads (fs : FileSystem) : Step → Nat → List String → Prop
  | source {link : Nat} {source : Source} (readable : source.Readable) :
      Loads fs (.load link source) link source.lines
  | file {link : Nat} {path : String} {name : Option String} {content : FileContent}
      {charset : Text.Charset} (read : fs.read path = .ok content)
      (known : fs.codecs.charset? name = .ok charset)
      (readable : (Source.ofContent charset content).Readable) :
      Loads fs (.loadFile link path name) link (Source.ofContent charset content).lines

/-- A step that is to load a table into a link fails. -/
inductive Step.LoadFails (fs : FileSystem) : Step → Nat → Failure → Prop
  /-- Something is wrong with a line of the source, or reading it stops. -/
  | source {link : Nat} {source : Source} {failure : Failure} (fails : source.Fails failure) :
      LoadFails fs (.load link source) link failure
  /-- There is no file, or none that can be opened. -/
  | unread {link : Nat} {path : String} {name : Option String} {e : FileError}
      (unread : fs.read path = .error e) :
      LoadFails fs (.loadFile link path name) link (.file e (fs.resolve path))
  /-- The encoding is not known. -/
  | encoding {link : Nat} {path : String} {name : Option String} {content : FileContent}
      {e : Text.EncodingError} (read : fs.read path = .ok content)
      (unknown : fs.codecs.charset? name = .error e) :
      LoadFails fs (.loadFile link path name) link (.encoding e)
  /-- Something is wrong with a line of the file or with the bytes behind the lines, or
      reading stops there. -/
  | text {link : Nat} {path : String} {name : Option String} {content : FileContent}
      {charset : Text.Charset} {failure : Failure} (read : fs.read path = .ok content)
      (known : fs.codecs.charset? name = .ok charset)
      (fails : (Source.ofContent charset content).Fails failure) :
      LoadFails fs (.loadFile link path name) link failure

/-- The link into which a step is to load a table. -/
def Step.loadsInto? : Step → Option Nat
  | .load link _ | .loadFile link _ _ => some link
  | _ => none

/-- What a step notes before it loads a file. -/
def Step.reading (fs : FileSystem) : Step → List Log.Event
  | .loadFile _ path _ =>
    [⟨.debug, Hosts.origin, some ("Reading hosts file " ++ fs.resolve path)⟩]
  | _ => []

/-- What a step loads. -/
def Step.loaded (fs : FileSystem) : Step → Hosts.Loaded
  | .load _ source => Hosts.load source
  | .loadFile _ path name => Hosts.loadFile fs path name
  | _ => ⟨.ok [], []⟩

variable {fs : FileSystem} {s : Session} {step : Step} {link : Nat} {lines : List String}
  {failure : Failure} {table : Table}

theorem Step.Loads.loadsInto (h : step.Loads fs link lines) : step.loadsInto? = some link := by
  cases h <;> rfl

theorem loadedEvent_not_mem_reading (table : Table) (step : Step) :
    Hosts.loadedEvent table ∉ step.reading fs := by
  cases step <;> simp [Step.reading, Hosts.loadedEvent]

end Session

/-! ## What loading gives -/

namespace Hosts

variable {fs : FileSystem} {source : Source} {failure : Failure} {path : String}
  {name : Option String} {content : FileContent} {charset : Text.Charset}

theorem load_of_readable (h : source.Readable) :
    ∃ table, Table.ofLines source.lines = .ok table ∧
      load source = ⟨.ok table, [loadedEvent table]⟩ := by
  obtain ⟨table, hlines, hsource⟩ := h.exists_table
  refine ⟨table, hlines, ?_⟩
  rw [load, hsource]
  rfl

theorem load_of_fails (h : source.Fails failure) : load source = ⟨.error failure, []⟩ := by
  rw [load, Table.ofSource_eq_error_iff.2 h]

theorem ofFile_of_unread {e : FileError} (h : fs.read path = .error e) :
    Source.ofFile fs path name = .error (.file e (fs.resolve path)) := by
  rw [Source.ofFile, h]; rfl

theorem ofFile_of_unknown {e : Text.EncodingError} (hread : fs.read path = .ok content)
    (h : fs.codecs.charset? name = .error e) :
    Source.ofFile fs path name = .error (.encoding e) := by
  rw [Source.ofFile, hread, h]; rfl

theorem ofFile_of_known (hread : fs.read path = .ok content)
    (h : fs.codecs.charset? name = .ok charset) :
    Source.ofFile fs path name = .ok (Source.ofContent charset content) := by
  rw [Source.ofFile, hread, h]; rfl

end Hosts

namespace Session

variable {fs : FileSystem} {s : Session} {step : Step} {link : Nat} {lines : List String}
  {failure : Failure} {table : Table}

/-- A step that loads lines gives the table of them, and notes that it did. -/
theorem Step.Loads.loaded (h : step.Loads fs link lines) :
    ∃ table, Table.ofLines lines = .ok table ∧
      step.loaded fs = ⟨.ok table, step.reading fs ++ [Hosts.loadedEvent table]⟩ := by
  cases h with
  | source readable => exact Hosts.load_of_readable readable
  | file read known readable =>
    obtain ⟨table, hlines, hload⟩ := Hosts.load_of_readable readable
    refine ⟨table, hlines, ?_⟩
    rw [Step.loaded, Hosts.loadFile, Hosts.ofFile_of_known read known]
    simp only [hload]
    rfl

/-- A step that fails to load gives the failure, and notes no more than what it reads. -/
theorem Step.LoadFails.loaded (h : step.LoadFails fs link failure) :
    step.loaded fs = ⟨.error failure, step.reading fs⟩ := by
  cases h with
  | source fails => exact Hosts.load_of_fails fails
  | unread unread =>
    rw [Step.loaded, Hosts.loadFile, Hosts.ofFile_of_unread unread]
    rfl
  | encoding read unknown =>
    rw [Step.loaded, Hosts.loadFile, Hosts.ofFile_of_unknown read unknown]
    rfl
  | text read known fails =>
    rw [Step.loaded, Hosts.loadFile, Hosts.ofFile_of_known read known]
    simp only [Hosts.load_of_fails fails]
    rfl

/-- **A step that is to load a table does, or fails to.** -/
theorem Step.loads_or_fails (fs : FileSystem) (h : step.loadsInto? = some link) :
    (∃ lines, step.Loads fs link lines) ∨ ∃ failure, step.LoadFails fs link failure := by
  cases step with
  | load target source =>
    obtain rfl := Option.some.inj h
    rcases source.readable_or_fails with hsource | ⟨failure, hsource⟩
    exacts [Or.inl ⟨_, .source hsource⟩, Or.inr ⟨_, .source hsource⟩]
  | loadFile target path name =>
    obtain rfl := Option.some.inj h
    cases hread : fs.read path with
    | error e => exact Or.inr ⟨_, .unread hread⟩
    | ok content =>
      cases hname : fs.codecs.charset? name with
      | error e => exact Or.inr ⟨_, .encoding hread hname⟩
      | ok charset =>
        rcases (Source.ofContent charset content).readable_or_fails with
          hsource | ⟨failure, hsource⟩
        exacts [Or.inl ⟨_, .file hread hname hsource⟩, Or.inr ⟨_, .text hread hname hsource⟩]
  | _ => cases h

/-- A table that a step gives is that of the lines that it loads. -/
theorem Step.loads_of_loaded (hinto : step.loadsInto? = some link)
    (h : (step.loaded fs).table = .ok table) :
    ∃ lines, step.Loads fs link lines ∧ Table.ofLines lines = .ok table := by
  rcases Step.loads_or_fails fs hinto with ⟨lines, hloads⟩ | ⟨failure, hfails⟩
  · obtain ⟨table', hlines, hloaded⟩ := hloads.loaded
    rw [hloaded] at h
    cases h
    exact ⟨lines, hloads, hlines⟩
  · rw [hfails.loaded] at h
    cases h

theorem step_of_loadsInto (h : step.loadsInto? = some link) :
    s.step fs step = s.install link (step.loaded fs) := by
  cases step <;> cases h <;> rfl

/-- **A load replaces the whole table** by that of the lines. -/
theorem step_of_loads (h : step.Loads fs link lines) (hlink : s.chain[link]? = some (.hosts table)) :
    ∃ loaded, Table.ofLines lines = .ok loaded ∧
      s.step fs step =
        ({ s with chain := s.chain.set link (.hosts loaded) },
          { result := .loaded loaded.length
            log := step.reading fs ++ [Hosts.loadedEvent loaded] }) := by
  obtain ⟨loaded, hlines, hloaded⟩ := h.loaded
  refine ⟨loaded, hlines, ?_⟩
  rw [step_of_loadsInto h.loadsInto, install, hlink, hloaded]

theorem Step.LoadFails.loadsInto (h : step.LoadFails fs link failure) :
    step.loadsInto? = some link := by
  cases h <;> rfl

/-- **A load that fails changes nothing**, and reports why. -/
theorem step_of_loadFails (h : step.LoadFails fs link failure)
    (hlink : s.chain[link]? = some (.hosts table)) :
    s.step fs step = (s, { result := .failed failure, log := step.reading fs }) := by
  rw [step_of_loadsInto h.loadsInto, install, hlink, h.loaded]

/-- A link that keeps no table takes none. -/
theorem step_of_tableless (h : step.loadsInto? = some link)
    (hlink : ∀ table, s.chain[link]? ≠ some (.hosts table)) :
    s.step fs step = (s, { result := .failed .tableless }) := by
  rw [step_of_loadsInto h, install]
  split
  · rename_i old table hold htable
    exact absurd hold (hlink old)
  · rename_i old failure hold hfailure
    exact absurd hold (hlink old)
  · rfl

/-! ## Steps that keep the chain -/

section
variable {use : Lookup.Use} {q : Question} {number : Nat} {reply : Reply}

theorem chain_follow (course : Course) : (s.follow use number course).1.chain = s.chain := by
  cases course with
  | refused failure => cases use <;> rfl
  | _ => rfl

theorem chain_start : (s.start link use q).1.chain = s.chain := chain_follow _

theorem chain_startTyped {kind : Lookup.Kind} {argument : Value} :
    (s.startTyped link kind argument).1.chain = s.chain := by
  unfold startTyped
  repeat' split
  all_goals first | rfl | exact chain_start

theorem chain_startPrinted {kind : Lookup.Kind} {name : String} :
    (s.startPrinted link kind name).1.chain = s.chain := by
  unfold startPrinted
  repeat' split
  all_goals first | rfl | exact chain_start

theorem chain_complete : (s.complete number reply).1.chain = s.chain := by
  unfold complete
  cases s.sent[number]? with
  | none => rfl
  | some sent =>
    dsimp only
    repeat' split
    all_goals rfl

theorem chain_replyTo : (s.replyTo link number reply).1.chain = s.chain := by
  unfold replyTo
  repeat' split
  all_goals first | rfl | exact chain_complete

theorem chain_cancelLookup : (s.cancelLookup number).1.chain = s.chain := by
  unfold cancelLookup
  cases s.lookups[number]? with
  | none => rfl
  | some pending =>
    obtain ⟨use, waitsFor⟩ := pending
    cases waitsFor with
    | none => rfl
    | some i =>
      have hchain : (s.complete i (.failed .cancelled)).1.chain = s.chain := chain_complete
      exact hchain

end

/-- A step that loads nothing keeps the chain. -/
theorem chain_step_of_not_load (h : step.loadsInto? = none) :
    (s.step fs step).1.chain = s.chain := by
  cases step with
  | load link source => cases h
  | loadFile link path encoding => cases h
  | table link | shown link => rfl
  | resolve link q => exact chain_start
  | query link q =>
    rw [Session.step, startQuery]
    split_ifs
    exacts [rfl, chain_start]
  | typed link kind argument => exact chain_startTyped
  | printed link kindName name =>
    rw [Session.step]
    split
    exacts [chain_startPrinted, rfl]
  | reply link number reply => exact chain_replyTo
  | cancel number => exact chain_cancelLookup

/-! ## The last load -/

/-- A step, and the files as they are when it is made. -/
structure Turn where
  files : FileSystem
  step : Step

/-- A turn loads a table of some lines into a link. -/
def Turn.Loads (turn : Turn) (link : Nat) (lines : List String) : Prop :=
  turn.step.Loads turn.files link lines

/-- The session after some turns. -/
def reached (s : Session) (turns : List Turn) : Session :=
  turns.foldl (fun s turn => (s.step turn.files turn.step).1) s

/-- The last of several turns that loads a table into a link loads it from the lines. -/
def LastLoad (turns : List Turn) (link : Nat) (lines : List String) : Prop :=
  ∃ before turn after, turns = before ++ turn :: after ∧ turn.Loads link lines ∧
    ∀ later ∈ after, ∀ lines, ¬ later.Loads link lines

/-- A table is that of the lines that were loaded last into a link, and empty if nothing
    was loaded. -/
inductive Holds (turns : List Turn) (link : Nat) (table : Table) : Prop
  | untouched (never : ∀ turn ∈ turns, ∀ lines, ¬ turn.Loads link lines) (empty : table = [])
  | loaded {lines : List String} (last : LastLoad turns link lines)
      (table : Table.ofLines lines = .ok table)

variable {turn : Turn} {turns : List Turn}

theorem Holds.wellFormed (h : Holds turns link table) : table.WellFormed := by
  cases h with
  | untouched never empty => exact empty ▸ Table.wellFormed_nil
  | loaded last table => exact Table.wellFormed_of_ofLines table

theorem LastLoad.concat (h : turn.Loads link lines) : LastLoad (turns ++ [turn]) link lines :=
  ⟨turns, turn, [], rfl, h, by simp⟩

/-- A turn that loads nothing into a link keeps what its table holds. -/
theorem Holds.concat (h : Holds turns link table) (hturn : ∀ lines, ¬ turn.Loads link lines) :
    Holds (turns ++ [turn]) link table := by
  cases h with
  | untouched never empty =>
    refine .untouched ?_ empty
    intro t ht
    rcases List.mem_append.1 ht with ht | ht
    exacts [never t ht, List.mem_singleton.1 ht ▸ hturn]
  | loaded last table =>
    obtain ⟨before, t, after, rfl, hloads, hafter⟩ := last
    refine .loaded ⟨before, t, after ++ [turn], by simp, hloads, ?_⟩ table
    intro later hlater
    rcases List.mem_append.1 hlater with hlater | hlater
    exacts [hafter later hlater, List.mem_singleton.1 hlater ▸ hturn]

/-- A step that fails to load a table does not load one. -/
theorem Step.LoadFails.not_loads (h : step.LoadFails fs link failure) (link' : Nat)
    (lines : List String) : ¬ step.Loads fs link' lines := by
  intro hloads
  obtain ⟨table, -, hloaded⟩ := hloads.loaded
  cases h.loaded.symm.trans hloaded

/-- **Where a table comes from**: a step loads it, or it was there before. -/
theorem table_of_step (h : (s.step fs step).1.chain[link]? = some (.hosts table)) :
    (∃ lines, step.Loads fs link lines ∧ Table.ofLines lines = .ok table) ∨
      ((∀ lines, ¬ step.Loads fs link lines) ∧ s.chain[link]? = some (.hosts table)) := by
  cases hinto : step.loadsInto? with
  | none =>
    rw [chain_step_of_not_load hinto] at h
    refine Or.inr ⟨fun lines hloads => ?_, h⟩
    cases hinto.symm.trans hloads.loadsInto
  | some target =>
    have helse : target ≠ link → ∀ lines, ¬ step.Loads fs link lines := by
      intro htarget lines hloads
      exact htarget (Option.some.inj (hinto.symm.trans hloads.loadsInto))
    by_cases hhosts : ∃ old, s.chain[target]? = some (.hosts old)
    · obtain ⟨old, hold⟩ := hhosts
      rcases Step.loads_or_fails fs hinto with ⟨lines, hloads⟩ | ⟨failure, hfails⟩
      · obtain ⟨loaded, hlines, hstep⟩ := step_of_loads hloads hold
        rw [hstep, getElem?_set_eq_some hold] at h
        rcases h with ⟨rfl, heq⟩ | ⟨hlink, h⟩
        · cases heq
          exact Or.inl ⟨lines, hloads, hlines⟩
        · exact Or.inr ⟨helse hlink, h⟩
      · rw [step_of_loadFails hfails hold] at h
        exact Or.inr ⟨hfails.not_loads link, h⟩
    · -- a link without a table takes none
      rw [step_of_tableless hinto fun old hold => hhosts ⟨old, hold⟩] at h
      refine Or.inr ⟨helse ?_, h⟩
      rintro rfl
      exact hhosts ⟨table, h⟩

/-! ## Tables to begin with -/

/-- The turns in which a link that is set up at a place loads its table. -/
def Link.firstLoad (fs : FileSystem) (place : Nat) : Link → List Turn
  | .loaded (some path) encoding _ => [⟨fs, .loadFile place path encoding⟩]
  | .loaded none encoding platformFile =>
    match fs.hasPath platformFile with
    | .ok true => [⟨fs, .loadFile place platformFile encoding⟩]
    | _ => []
  | _ => []

/-- The turns in which the link at a place loads its table while the chain of some links is
    set up. -/
def firstLoad (fs : FileSystem) (links : List Link) (place : Nat) : List Turn :=
  (links[place]?).elim [] (Link.firstLoad fs place)

/-- A link is set up with a table. -/
inductive Link.Tabled (fs : FileSystem) : Link → Table → Prop
  | hosts : Tabled fs .hosts []
  | loaded {path encoding : Option String} {platformFile : String} {table : Table}
      (created : (Hosts.createTable fs platformFile path encoding).table = .ok table) :
      Tabled fs (.loaded path encoding platformFile) table

theorem holds_of_loadFile {path : String} {name : Option String}
    (h : (Hosts.loadFile fs path name).table = .ok table) :
    Holds [⟨fs, .loadFile link path name⟩] link table := by
  have hinto : (Step.loadFile link path name).loadsInto? = some link := rfl
  obtain ⟨lines, hloads, hlines⟩ := Step.loads_of_loaded hinto h
  exact .loaded ⟨[], _, [], rfl, hloads, by simp⟩ hlines

theorem Link.Tabled.holds {l : Link} (h : l.Tabled fs table) (place : Nat) :
    Holds (l.firstLoad fs place) place table := by
  cases h with
  | hosts => exact .untouched (by simp [Link.firstLoad]) rfl
  | @loaded path encoding platformFile table created =>
    cases path with
    | some path => exact holds_of_loadFile created
    | none =>
      rw [Hosts.createTable] at created
      rw [Link.firstLoad]
      cases hpath : fs.hasPath platformFile with
      | error e => simp [hpath] at created
      | ok isThere =>
        simp only [hpath] at created
        cases isThere with
        | true => exact holds_of_loadFile created
        | false =>
          cases created
          exact .untouched (by simp) rfl

theorem addLink_eq_ok {l : Link} {next chain : List Resolver}
    (h : (addLink fs l next).1 = .ok chain) :
    ∃ front behind, chain = front :: behind ∧ (behind = next ∨ next = [] ∧ behind = [defaultEnd]) ∧
      ∀ table, front = .hosts table → l.Tabled fs table := by
  cases l with
  | loaded path encoding platformFile =>
    simp only [addLink] at h
    cases hcreated : (Hosts.createTable fs platformFile path encoding).table with
    | error e => simp [hcreated, Except.map] at h
    | ok table =>
      simp only [hcreated, Except.map, Except.ok.injEq] at h
      refine ⟨_, _, h.symm, ?_, ?_⟩
      · cases next with
        | nil => exact Or.inr ⟨rfl, rfl⟩
        | cons resolver next => exact Or.inl rfl
      · rintro _ ⟨⟩
        exact .loaded hcreated
  | hosts =>
    obtain rfl := Except.ok.inj h
    refine ⟨_, _, rfl, Or.inl rfl, ?_⟩
    rintro _ ⟨⟩
    exact .hosts
  | _ =>
    obtain rfl := Except.ok.inj h
    exact ⟨_, _, rfl, Or.inl rfl, fun _ h => by cases h⟩

theorem tabled_of_buildChain {links : List Link} {chain : List Resolver} {place : Nat}
    (h : (buildChain fs links).1 = .ok chain) (hplace : chain[place]? = some (.hosts table)) :
    ∃ l, links[place]? = some l ∧ l.Tabled fs table := by
  induction links generalizing chain place with
  | nil =>
    obtain rfl := Except.ok.inj h
    simp at hplace
  | cons l links ih =>
    rw [buildChain] at h
    rcases hnext : buildChain fs links with ⟨next, log⟩
    cases next with
    | error e => simp [hnext] at h
    | ok next =>
      simp only [hnext] at h
      obtain ⟨front, behind, rfl, hbehind, hfront⟩ := addLink_eq_ok h
      cases place with
      | zero => exact ⟨l, rfl, hfront table (by simpa using hplace)⟩
      | succ place =>
        rw [List.getElem?_cons_succ] at hplace ⊢
        rcases hbehind with rfl | ⟨-, rfl⟩
        · exact ih (by rw [hnext]) hplace
        · -- the link that stands at the end by default keeps no table
          rw [List.getElem?_singleton] at hplace
          split at hplace <;> cases hplace

/-- The tables to begin with hold what was loaded while the chain was set up. -/
theorem holds_of_build {links : List Link} {log : List Log.Event}
    (built : build fs links = (.ok s, log)) (h : s.chain[link]? = some (.hosts table)) :
    Holds (firstLoad fs links link) link table := by
  rw [build] at built
  rcases hchain : buildChain fs links with ⟨chain, noted⟩
  cases chain with
  | error e => simp [hchain, Except.map] at built
  | ok chain =>
    simp only [hchain, Except.map, Prod.mk.injEq, Except.ok.injEq] at built
    obtain ⟨rfl, -⟩ := built
    obtain ⟨l, hl, htabled⟩ := tabled_of_buildChain (by rw [hchain]) h
    rw [firstLoad, hl]
    exact htabled.holds link

/-! ## Tables in a session -/

/-- Each turn keeps the tables those of the lines that were loaded last. -/
theorem holds_of_reached {links : List Link} {log : List Log.Event}
    (built : build fs links = (.ok s, log)) (turns : List Turn)
    (h : (s.reached turns).chain[link]? = some (.hosts table)) :
    Holds (firstLoad fs links link ++ turns) link table := by
  induction turns using List.reverseRecOn generalizing table with
  | nil => exact (List.append_nil _).symm ▸ holds_of_build built h
  | append_singleton turns turn ih =>
    rw [reached, List.foldl_append] at h
    rw [← List.append_assoc]
    rcases table_of_step h with ⟨lines, hloads, hlines⟩ | ⟨hturn, hbefore⟩
    · exact .loaded (LastLoad.concat hloads) hlines
    · exact (ih hbefore).concat hturn

/-- **A table is that of the lines that were loaded last**, whatever else was done in the
    session, and empty if none were loaded.  A step that is to load a table replaces it as a
    whole by that of its lines, or fails and changes nothing. -/
theorem tables_hold_last_load {links : List Link} {log : List Log.Event}
    (built : build fs links = (.ok s, log)) (turns : List Turn)
    (here : (s.reached turns).chain[link]? = some (.hosts table)) :
    table.WellFormed ∧ Holds (firstLoad fs links link ++ turns) link table ∧
      ∀ files step, Step.loadsInto? step = some link →
        (∀ t, Hosts.loadedEvent t ∉ step.reading files) ∧
        ((∃ lines loaded, step.Loads files link lines ∧ Table.ofLines lines = .ok loaded ∧
            (s.reached turns).step files step =
              ({ s.reached turns with chain := (s.reached turns).chain.set link (.hosts loaded) },
                { result := .loaded loaded.length
                  log := step.reading files ++ [Hosts.loadedEvent loaded] })) ∨
          ∃ failure, step.LoadFails files link failure ∧
            (s.reached turns).step files step =
              (s.reached turns, { result := .failed failure, log := step.reading files })) := by
  have hholds := holds_of_reached built turns here
  refine ⟨hholds.wellFormed, hholds, fun files step hinto => ?_⟩
  refine ⟨fun t => loadedEvent_not_mem_reading t step, ?_⟩
  rcases Step.loads_or_fails files hinto with ⟨lines, hloads⟩ | ⟨failure, hfails⟩
  · obtain ⟨loaded, hlines, hstep⟩ := step_of_loads hloads here
    exact Or.inl ⟨lines, loaded, hloads, hlines, hstep⟩
  · exact Or.inr ⟨failure, hfails, step_of_loadFails hfails here⟩

/-- A table is loaded, a lookup waits, and two loads fail: one at its second line, one for
    want of a file. -/
theorem tables_hold_last_load_kept :
    let fs : FileSystem := { directory := "/", state := fun _ => .absent .missing }
    let s : Session := { chain := [.hosts [], .network] }
    let turns : List Turn :=
      [⟨fs, .load 0 ⟨["10.0.0.1 b B."], none⟩⟩, ⟨fs, .typed 0 .ipv4 (.text "c")⟩,
        ⟨fs, .load 0 ⟨["10.0.0.2 c", "x d"], none⟩⟩, ⟨fs, .loadFile 0 "hosts" none⟩]
    let table : Table := [(⟨[98]⟩, [.v4 ⟨#[10, 0, 0, 1], rfl⟩, .v4 ⟨#[10, 0, 0, 1], rfl⟩])]
    build fs [.hosts, .network] = (.ok s, []) ∧
      (s.reached turns).chain[0]? = some (.hosts table) ∧ table.WellFormed ∧
      Holds turns 0 table ∧
      (s.reached turns).step fs (.loadFile 0 "hosts" none) =
        (s.reached turns,
          { result := .failed (.file .missing (fs.resolve "hosts"))
            log := Step.reading fs (.loadFile 0 "hosts" none) }) := by
  intro fs s turns table
  have hbuilt : build fs [.hosts, .network] = (.ok s, []) := rfl
  have hhere : (s.reached turns).chain[0]? = some (.hosts table) := rfl
  obtain ⟨hformed, hholds, hloads⟩ := tables_hold_last_load hbuilt turns hhere
  refine ⟨hbuilt, hhere, hformed, hholds, ?_⟩
  obtain ⟨-, ⟨lines, loaded, hload, -⟩ | ⟨failure, hfails, hstep⟩⟩ :=
    hloads fs (.loadFile 0 "hosts" none) rfl
  · cases hload with
    | file read => cases read
  · rw [hstep]
    cases hfails with
    | unread unread =>
      cases unread
      rfl
    | encoding read | text read => cases read

end Session

end ResolverChain
