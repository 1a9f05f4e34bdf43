/-
  Command lines are read from the ways of writing them.

  * `Writes` are the ways of writing options, one behind the other: short, perhaps with
    the value joined to the letter, or long, perhaps shortened, with the value behind an
    equals sign or in the next argument; `CommandLine` ends them with a name;
  * what is written is what is taken apart again, whatever the values are
    (`splitOptions_writes`), and of each option the last value counts (`foldlM_chosen`);
  * so the settings of a run are the last values (`Chooses`), unless the kind or the server
    is wrong (`Wrong`), and how and in which order they are written does not matter
    (`parse_commandLine`).
-/
import Mathlib.Tactic
import Mathlib.Data.List.TakeWhile
import ResolverChain.Command.Options

namespace ResolverChain.Command

open Lookup (Kind)

/-! ## The ways of writing options -/

/-- The long spellings of an option: its name, and what only it begins like. -/
def Opt.Long (o : Opt) (cs : List Char) : Prop :=
  cs = o.long ∨ (cs ≠ [] ∧ cs <+: o.long ∧ ∀ o' : Opt, cs <+: o'.long → o' = o)

/-- The option for a verbose run, given so many times. -/
def verbosely (n : Nat) : List Given := List.replicate n ⟨.verbose, ""⟩

/-- The arguments for options that are written together.  In front of a short option that
    takes a value, short ones that take none may be joined to it. -/
inductive Piece : List Given → List String → Prop
  | flags (n : Nat) :
      Piece (verbosely (n + 1)) [String.ofList ('-' :: List.replicate (n + 1) 'v')]
  | apart (n : Nat) {o : Opt} {c : Char} (short : o.short? = some c)
      (takes : o.takesValue = true) (value : String) :
      Piece (verbosely n ++ [⟨o, value⟩])
        [String.ofList ('-' :: (List.replicate n 'v' ++ [c])), value]
  | joined (n : Nat) {o : Opt} {c : Char} (short : o.short? = some c)
      (takes : o.takesValue = true) {value : String} (nonempty : value ≠ "") :
      Piece (verbosely n ++ [⟨o, value⟩])
        [String.ofList ('-' :: (List.replicate n 'v' ++ c :: value.toList))]
  | longFlag {cs : List Char} (long : Opt.verbose.Long cs) :
      Piece (verbosely 1) [String.ofList ('-' :: '-' :: cs)]
  | longApart {o : Opt} {cs : List Char} (long : o.Long cs) (takes : o.takesValue = true)
      (value : String) : Piece [⟨o, value⟩] [String.ofList ('-' :: '-' :: cs), value]
  | longJoined {o : Opt} {cs : List Char} (long : o.Long cs) (takes : o.takesValue = true)
      (value : String) :
      Piece [⟨o, value⟩] [String.ofList ('-' :: '-' :: (cs ++ '=' :: value.toList))]

/-- The arguments for options in order. -/
inductive Writes : List Given → List String → Prop
  | nil : Writes [] []
  | cons {taken given : List Given} {front args : List String} (piece : Piece taken front)
      (writes : Writes given args) : Writes (taken ++ given) (front ++ args)

/-- The arguments for the name behind the options, which needs two hyphens in front of it
    if it looks like an option itself. -/
inductive Closes (name : String) : List String → Prop
  | bare (plain : name.toList.head? ≠ some '-' ∨ name = "-") : Closes name [name]
  | marked : Closes name ["--", name]

/-- The command lines for options and a name. -/
inductive CommandLine (given : List Given) (name : String) : List String → Prop
  | mk {front back : List String} (writes : Writes given front) (closes : Closes name back) :
      CommandLine given name (front ++ back)

/-! ## The settings that are written -/

/-- The value of an option that is given last, if the option is given. -/
def lastValue? (o : Opt) (given : List Given) : Option String :=
  (given.filter (·.opt == o)).getLast?.map Given.value

/-- The name of the kind that is asked for. -/
def kindName (given : List Given) : String := (lastValue? .kind given).getD "all-addresses"

/-- The settings are the last values, and the defaults where there are none. -/
structure Chooses (given : List Given) (name : String) (settings : Settings) : Prop where
  isVerbose : settings.isVerbose = true ↔ ∃ g ∈ given, g.opt = .verbose
  hostsFile : settings.hostsFile = lastValue? .hostsFile given
  encoding : settings.encoding = lastValue? .encoding given
  /-- The server is read from its text. -/
  server : settings.server.map some = (lastValue? .server given).map Server.read?
  kind : settings.kind.name = kindName given
  name : settings.name = name

/-- There is no such kind, or the server cannot be read. -/
def Wrong (given : List Given) : Prop :=
  (∀ kind : Kind, kind.name ≠ kindName given) ∨
    ∃ text, lastValue? .server given = some text ∧ Server.read? text = none

variable {given given' : List Given} {args args' : List String} {name : String} {o : Opt}
  {c : Char} {cs : List Char} {n : Nat}

/-! ## Long spellings -/

/-- A long spelling is how the name of its option begins, and no other name. -/
theorem begins_of_long (h : o.Long cs) :
    cs ≠ [] ∧ cs <+: o.long ∧ ∀ o' : Opt, cs <+: o'.long → o' = o := by
  rcases h with rfl | h
  · -- no name of an option begins another one
    refine ⟨?_, List.prefix_refl _, ?_⟩
    · cases o <;> decide
    · intro o'
      cases o <;> cases o' <;> decide
  · exact h

theorem equals_notMem_long (h : o.Long cs) : '=' ∉ cs := by
  intro hmem
  have hlong : '=' ∈ o.long := (begins_of_long h).2.1.subset hmem
  revert hlong
  cases o <;> decide

/-- **A long spelling names its option.** -/
theorem ofLong_of_long (h : o.Long cs) : Opt.ofLong cs = .ok o := by
  obtain ⟨-, hbegins, honly⟩ := begins_of_long h
  have hfilter : Opt.all.filter (cs.isPrefixOf ·.long) = [o] := by
    have heq : ∀ o' ∈ Opt.all, cs.isPrefixOf o'.long = decide (o' = o) := by
      intro o' _
      rw [Bool.eq_iff_iff, List.isPrefixOf_iff_prefix, decide_eq_true_iff]
      constructor
      · exact honly o'
      · rintro rfl
        exact hbegins
    rw [List.filter_congr heq]
    cases o <;> rfl
  simp [Opt.ofLong, hfilter]

/-- A long spelling has no equals sign, so the first one ends it. -/
theorem splitValue_of_long (h : o.Long cs) (value : List Char) :
    splitValue cs = (cs, none) ∧ splitValue (cs ++ '=' :: value) = (cs, some value) := by
  have hcs : ∀ c ∈ cs, (c != '=') = true := fun c hc =>
    bne_iff_ne.2 (ne_of_mem_of_not_mem hc (equals_notMem_long h))
  constructor
  · rw [splitValue, List.span_eq_takeWhile_dropWhile, List.takeWhile_eq_self_iff.2 hcs,
      List.dropWhile_eq_nil_iff.2 hcs]
  · rw [splitValue, List.span_eq_takeWhile_dropWhile, List.takeWhile_append_of_pos hcs,
      List.dropWhile_append_of_pos hcs]
    simp

theorem longOption_apart (h : o.Long cs) (htakes : o.takesValue = true) :
    ∃ spelling, longOption cs = .ok { given := [], toFill := some ⟨o, spelling⟩ } := by
  refine ⟨String.ofList ('-' :: '-' :: o.long), ?_⟩
  simp only [longOption, (splitValue_of_long h []).1, ofLong_of_long h, bind, Except.bind, htakes]
  rfl

theorem longOption_joined (h : o.Long cs) (htakes : o.takesValue = true) (value : String) :
    longOption (cs ++ '=' :: value.toList) = .ok { given := [⟨o, value⟩] } := by
  simp only [longOption, (splitValue_of_long h _).2, ofLong_of_long h, bind, Except.bind, htakes,
    String.ofList_toList]
  rfl

theorem longOption_flag (h : Opt.verbose.Long cs) :
    longOption cs = .ok { given := verbosely 1 } := by
  simp only [longOption, (splitValue_of_long h []).1, ofLong_of_long h, bind, Except.bind]
  rfl

/-! ## Short spellings -/

theorem ofShort?_of_short (h : o.short? = some c) : Opt.ofShort? c = some o := by
  cases o <;> cases h <;> rfl

theorem shortOptions_flags (n : Nat) (cs : List Char) :
    shortOptions (List.replicate n 'v' ++ cs) =
      (shortOptions cs).map fun taken => { taken with given := verbosely n ++ taken.given } := by
  induction n with
  | zero =>
    rw [List.replicate_zero, List.nil_append]
    cases shortOptions cs <;> rfl
  | succ n ih =>
    rw [List.replicate_succ, List.cons_append, shortOptions, ih]
    cases shortOptions cs <;> rfl

theorem shortOptions_apart (n : Nat) (hshort : o.short? = some c) (htakes : o.takesValue = true) :
    ∃ spelling, shortOptions (List.replicate n 'v' ++ [c]) =
      .ok { given := verbosely n, toFill := some ⟨o, spelling⟩ } := by
  refine ⟨String.ofList ['-', c], ?_⟩
  rw [shortOptions_flags, shortOptions, ofShort?_of_short hshort]
  simp [htakes, Except.map]

theorem shortOptions_joined (n : Nat) (hshort : o.short? = some c) (htakes : o.takesValue = true)
    {value : String} (hne : value ≠ "") :
    shortOptions (List.replicate n 'v' ++ c :: value.toList) =
      .ok { given := verbosely n ++ [⟨o, value⟩] } := by
  have hempty : value.toList.isEmpty = false := by simpa using hne
  rw [shortOptions_flags, shortOptions, ofShort?_of_short hshort]
  simp [htakes, hempty, Except.map]

/-! ## Arguments -/

/-- The options of a command line behind some that were given in front of it. -/
def behind (taken : List Given) (rest : Except OptionError (List Given × List String)) :
    Except OptionError (List Given × List String) :=
  rest.map fun (given, names) => (taken ++ given, names)

theorem splitOptions_long {taken : Taken} (hne : cs ≠ []) (h : longOption cs = .ok taken)
    (args : List String) :
    splitOptions none (String.ofList ('-' :: '-' :: cs) :: args) =
      behind taken.given (splitOptions taken.toFill args) := by
  obtain ⟨c, cs, rfl⟩ := List.exists_cons_of_ne_nil hne
  simp only [splitOptions, String.toList_ofList, h, behind, bind, Except.bind]
  cases splitOptions taken.toFill args <;> rfl

theorem splitOptions_short {taken : Taken} (hc : cs.head? ≠ some '-') (hne : cs ≠ [])
    (h : shortOptions cs = .ok taken) (args : List String) :
    splitOptions none (String.ofList ('-' :: cs) :: args) =
      behind taken.given (splitOptions taken.toFill args) := by
  obtain ⟨c, cs, rfl⟩ := List.exists_cons_of_ne_nil hne
  have hc : c ≠ '-' := by simpa using hc
  rw [splitOptions, String.toList_ofList]
  split
  · simp_all
  · simp_all
  · rename_i heq
    obtain ⟨rfl, rfl⟩ : c = _ ∧ cs = _ := by simpa using heq
    simp only [h, behind, bind, Except.bind]
    cases splitOptions taken.toFill args <;> rfl
  · simp_all

theorem splitOptions_fill (o : Open) (value : String) (args : List String) :
    splitOptions (some o) (value :: args) =
      behind [⟨o.opt, value⟩] (splitOptions none args) := by
  rw [splitOptions]
  cases splitOptions none args <;> rfl

theorem behind_behind (front back : List Given)
    (rest : Except OptionError (List Given × List String)) :
    behind front (behind back rest) = behind (front ++ back) rest := by
  cases rest with
  | error e => rfl
  | ok parts => simp [behind, Except.map, List.append_assoc]

/-- **A piece is taken as the options it was written for**, whatever stands behind it. -/
theorem splitOptions_piece {taken : List Given} {front : List String} (h : Piece taken front)
    (args : List String) :
    splitOptions none (front ++ args) = behind taken (splitOptions none args) := by
  have hhead : ∀ {n : Nat} {o : Opt} {c : Char} {cs : List Char}, o.short? = some c →
      (List.replicate n 'v' ++ c :: cs).head? ≠ some '-' := by
    intro n o c cs hshort
    cases n with
    | zero =>
      have hc : c ≠ '-' := by
        rintro rfl
        cases o <;> cases hshort
      simpa using hc
    | succ n => simp [List.replicate_succ]
  cases h with
  | flags n =>
    have hflags : shortOptions (List.replicate (n + 1) 'v') =
        .ok { given := verbosely (n + 1) } := by
      have := shortOptions_flags (n + 1) []
      simpa [shortOptions, Except.map] using this
    exact splitOptions_short (by simp [List.replicate_succ]) (by simp) hflags args
  | apart n short takes value =>
    obtain ⟨spelling, htaken⟩ := shortOptions_apart n short takes
    rw [List.cons_append, splitOptions_short (hhead short) (by simp) htaken, List.cons_append,
      List.nil_append, splitOptions_fill, behind_behind]
  | joined n short takes nonempty =>
    exact splitOptions_short (hhead short) (by simp) (shortOptions_joined n short takes nonempty)
      args
  | longFlag long => exact splitOptions_long (begins_of_long long).1 (longOption_flag long) args
  | longApart long takes value =>
    obtain ⟨spelling, htaken⟩ := longOption_apart long takes
    rw [List.cons_append, splitOptions_long (begins_of_long long).1 htaken, List.cons_append,
      List.nil_append, splitOptions_fill, behind_behind]
    rfl
  | longJoined long takes value =>
    exact splitOptions_long (by simp) (longOption_joined long takes value) args

/-- **What is written is taken apart again**, in order. -/
theorem splitOptions_writes (h : Writes given args) (rest : List String) :
    splitOptions none (args ++ rest) = behind given (splitOptions none rest) := by
  induction h with
  | nil =>
    rw [List.nil_append]
    cases splitOptions none rest <;> rfl
  | cons piece writes ih =>
    rw [List.append_assoc, splitOptions_piece piece, ih, behind_behind]

theorem splitOptions_closes (h : Closes name args) :
    splitOptions none args = .ok ([], [name]) := by
  cases h with
  | bare plain =>
    -- a name that looks like no option has nothing behind a hyphen in front
    have hplain : ∀ c cs, name.toList ≠ '-' :: c :: cs := by
      intro c cs heq
      rcases plain with hhead | rfl
      · exact hhead (by rw [heq]; rfl)
      · cases heq
    rw [splitOptions]
    split
    · rename_i heq
      exact absurd heq (hplain _ _)
    · rename_i heq
      exact absurd heq (hplain _ _)
    · rename_i heq
      exact absurd heq (hplain _ _)
    · rfl
  | marked => rfl

theorem splitOptions_commandLine (h : CommandLine given name args) :
    splitOptions none args = .ok (given, [name]) := by
  obtain ⟨writes, closes⟩ := h
  rw [splitOptions_writes writes, splitOptions_closes closes]
  simp [behind, Except.map]

/-! ## Last values -/

/-- The options choose settings: none asks for help or for the version. -/
def Opt.isSetting : Opt → Bool
  | help | version => false
  | _ => true

theorem isSetting_of_piece {taken : List Given} {front : List String} (h : Piece taken front) :
    ∀ g ∈ taken, g.opt.isSetting = true := by
  have hverbosely : ∀ n, ∀ g ∈ verbosely n, g.opt.isSetting = true := by
    intro n g hg
    rw [List.eq_of_mem_replicate hg]
    rfl
  have hlast : ∀ (n : Nat) {o : Opt} {value : String}, o.takesValue = true →
      ∀ g ∈ verbosely n ++ [⟨o, value⟩], g.opt.isSetting = true := by
    intro n o value htakes g hg
    rcases List.mem_append.1 hg with hg | hg
    · exact hverbosely n g hg
    · rw [List.mem_singleton.1 hg]
      cases o <;> first | rfl | cases htakes
  cases h with
  | flags n => exact hverbosely _
  | longFlag long => exact hverbosely _
  | apart n short takes value | joined n short takes nonempty => exact hlast n takes
  | longApart long takes value | longJoined long takes value => exact hlast 0 takes

theorem isSetting_of_writes (h : Writes given args) : ∀ g ∈ given, g.opt.isSetting = true := by
  induction h with
  | nil => simp
  | cons piece writes ih =>
    intro g hg
    rcases List.mem_append.1 hg with hg | hg
    · exact isSetting_of_piece piece g hg
    · exact ih g hg

theorem lastValue?_concat (o : Opt) (given : List Given) (g : Given) :
    lastValue? o (given ++ [g]) = if g.opt = o then some g.value else lastValue? o given := by
  by_cases h : g.opt = o <;> simp [lastValue?, List.filter_append, h]

/-- The options in effect are the last ones. -/
def lastOf (given : List Given) : Chosen where
  isVerbose := (lastValue? .verbose given).isSome
  hostsFile := lastValue? .hostsFile given
  encoding := lastValue? .encoding given
  server := lastValue? .server given
  kind := kindName given

/-- **Of each option the last value counts.** -/
theorem foldlM_chosen (h : ∀ g ∈ given, g.opt.isSetting = true) :
    given.foldlM Chosen.add ({} : Chosen) = .ok (lastOf given) := by
  induction given using List.reverseRecOn with
  | nil => rfl
  | append_singleton given g ih =>
    have hg : g.opt.isSetting = true := h g (by simp)
    rw [List.foldlM_append, ih fun g' hg' => h g' (by simp [hg'])]
    obtain ⟨o, value⟩ := g
    cases o with
    | help | version => cases hg
    | _ =>
      simp only [lastOf, kindName, lastValue?_concat, List.foldlM_cons, List.foldlM_nil,
        Chosen.add, bind, Except.bind]
      rfl

/-! ## Settings -/

theorem parse_of_commandLine (h : CommandLine given name args) :
    Request.parse args = ((lastOf given).settings name).map .run := by
  have hsettings : ∀ g ∈ given, g.opt.isSetting = true := by
    obtain ⟨writes, -⟩ := h
    exact isSetting_of_writes writes
  simp only [Request.parse, splitOptions_commandLine h, foldlM_chosen hsettings, bind,
    Except.bind]
  cases (lastOf given).settings name <;> rfl

theorem ofName?_eq_some_iff {text : String} {kind : Kind} :
    Kind.ofName? text = some kind ↔ kind.name = text := by
  constructor
  · intro h
    simpa using List.find?_some h
  · rintro rfl
    cases kind <;> rfl

theorem isSome_lastValue? : (lastValue? o given).isSome = true ↔ ∃ g ∈ given, g.opt = o := by
  rw [lastValue?, Option.isSome_map, Option.isSome_iff_ne_none, Ne, List.getLast?_eq_none_iff]
  simp [List.filter_eq_nil_iff]

variable {chosen : Chosen} {kind : Kind} {server : Option Server} {text : String}

theorem settings_of_unknown (h : Kind.ofName? chosen.kind = none) :
    chosen.settings name = .error (.unknownKind chosen.kind) := by
  rw [Chosen.settings, h]
  rfl

theorem settings_of_unread (hkind : Kind.ofName? chosen.kind = some kind)
    (hserver : chosen.server = some text) (hread : Server.read? text = none) :
    chosen.settings name = .error (.badServer text) := by
  rw [Chosen.settings, hkind, hserver]
  simp only [hread]
  rfl

theorem settings_of_read (hkind : Kind.ofName? chosen.kind = some kind)
    (hserver : server.map some = chosen.server.map Server.read?) :
    chosen.settings name =
      .ok ⟨chosen.isVerbose, chosen.hostsFile, chosen.encoding, server, kind, name⟩ := by
  cases htext : chosen.server with
  | none =>
    rw [htext, Option.map_none, Option.map_eq_none_iff] at hserver
    rw [Chosen.settings, hkind, htext, hserver]
    rfl
  | some text =>
    rw [htext, Option.map_some, Option.map_eq_some_iff] at hserver
    obtain ⟨read, hserver, hread⟩ := hserver
    rw [Chosen.settings, hkind, htext, hserver]
    simp only [← hread]
    rfl

/-- The server of some options is read, or cannot be. -/
theorem server_read_or_unread (given : List Given) :
    (∃ server : Option Server,
      server.map some = (lastValue? .server given).map Server.read?) ∨
    ∃ text, lastValue? .server given = some text ∧ Server.read? text = none := by
  cases lastValue? .server given with
  | none => exact Or.inl ⟨none, rfl⟩
  | some text =>
    cases hread : Server.read? text with
    | none => exact Or.inr ⟨text, rfl, hread⟩
    | some server => exact Or.inl ⟨some server, by rw [Option.map_some, Option.map_some, hread]⟩

/-- The last values make settings, or something is wrong with them. -/
theorem settings_lastOf (given : List Given) (name : String) :
    (∃ settings, (lastOf given).settings name = .ok settings ∧ ¬ Wrong given ∧
      Chooses given name settings) ∨
    ∃ e, (lastOf given).settings name = .error e ∧ Wrong given ∧
      (e = .unknownKind (kindName given) ∨
        ∃ text, lastValue? .server given = some text ∧ e = .badServer text) := by
  cases hkind : Kind.ofName? (kindName given) with
  | none =>
    refine Or.inr ⟨_, settings_of_unknown hkind, Or.inl ?_, Or.inl rfl⟩
    intro kind hname
    rw [ofName?_eq_some_iff.2 hname] at hkind
    cases hkind
  | some kind =>
    have hname := ofName?_eq_some_iff.1 hkind
    rcases server_read_or_unread given with ⟨server, hserver⟩ | ⟨text, htext, hread⟩
    · refine Or.inl ⟨_, settings_of_read hkind hserver, ?_,
        ⟨isSome_lastValue?, rfl, rfl, hserver, hname, rfl⟩⟩
      rintro (hunknown | ⟨text, htext, hread⟩)
      · exact hunknown kind hname
      · rw [htext, Option.map_some, hread, Option.map_eq_some_iff] at hserver
        obtain ⟨_, -, hnone⟩ := hserver
        cases hnone
    · exact Or.inr ⟨_, settings_of_unread hkind htext hread, Or.inr ⟨text, htext, hread⟩,
        Or.inr ⟨text, htext, rfl⟩⟩

/-- **A command line is read as the settings it was written for**, however its options are
    spelled and ordered: of each option the last value counts, and the defaults stand for
    those that are not given.  It is refused just if there is no such kind, or the server
    cannot be read. -/
theorem parse_commandLine (h : CommandLine given name args) :
    (¬ Wrong given → ∃ settings, Request.parse args = .ok (.run settings) ∧
      Chooses given name settings) ∧
    ((∃ e, Request.parse args = .error e) ↔ Wrong given) ∧
    (∀ e, Request.parse args = .error e → e = .unknownKind (kindName given) ∨
      ∃ text, lastValue? .server given = some text ∧ e = .badServer text) ∧
    ∀ given' args', CommandLine given' name args' →
      (∀ o, lastValue? o given' = lastValue? o given) →
      Request.parse args' = Request.parse args := by
  have hparse := parse_of_commandLine h
  have hsame : ∀ given' args', CommandLine given' name args' →
      (∀ o, lastValue? o given' = lastValue? o given) →
      Request.parse args' = Request.parse args := by
    intro given' args' h' hlast
    rw [hparse, parse_of_commandLine h']
    simp only [lastOf, kindName, hlast]
  rcases settings_lastOf given name with ⟨settings, hok, hright, hchooses⟩ |
    ⟨e, herror, hwrong, hcause⟩
  · rw [hok] at hparse
    refine ⟨fun _ => ⟨settings, hparse, hchooses⟩, ⟨?_, fun hwrong => absurd hwrong hright⟩, ?_,
      hsame⟩
    · rintro ⟨e, he⟩
      rw [hparse] at he
      cases he
    · intro e he
      rw [hparse] at he
      cases he
  · rw [herror] at hparse
    refine ⟨fun hright => absurd hwrong hright, ⟨fun _ => hwrong, fun _ => ⟨e, hparse⟩⟩, ?_, hsame⟩
    intro e' he'
    rw [hparse] at he'
    cases he'
    exact hcause

/-- Options that are repeated, joined and shortened, with values and a name that look like
    options themselves. -/
theorem parse_commandLine_repeated :
    ∃ settings, Request.parse ["--ki", "ipv4", "-vf-x", "--enc=--", "--kind=text", "--", "-v"] =
      .ok (.run settings) ∧ settings.isVerbose = true ∧ settings.hostsFile = some "-x" ∧
      settings.encoding = some "--" ∧ settings.server = none ∧ settings.kind = .text ∧
      settings.name = "-v" := by
  let given : List Given :=
    [⟨.kind, "ipv4"⟩, ⟨.verbose, ""⟩, ⟨.hostsFile, "-x"⟩, ⟨.encoding, "--"⟩, ⟨.kind, "text"⟩]
  have hki : Opt.kind.Long ['k', 'i'] :=
    Or.inr ⟨by decide, by decide, fun o => by cases o <;> decide⟩
  have henc : Opt.encoding.Long ['e', 'n', 'c'] :=
    Or.inr ⟨by decide, by decide, fun o => by cases o <;> decide⟩
  have hline : CommandLine given "-v"
      ["--ki", "ipv4", "-vf-x", "--enc=--", "--kind=text", "--", "-v"] :=
    .mk (.cons (.longApart hki rfl "ipv4") (.cons (.joined 1 rfl rfl (by decide))
      (.cons (.longJoined henc rfl "--") (.cons (.longJoined (Or.inl rfl) rfl "text") .nil))))
      .marked
  have hright : ¬ Wrong given := by
    rintro (hunknown | ⟨text, htext, -⟩)
    · exact hunknown .text rfl
    · cases htext
  obtain ⟨settings, hparse, hchooses⟩ := (parse_commandLine hline).1 hright
  have hverbose : settings.isVerbose = true :=
    hchooses.isVerbose.2 ⟨⟨.verbose, ""⟩, by simp [given], rfl⟩
  refine ⟨settings, hparse, hverbose, hchooses.hostsFile, hchooses.encoding, ?_, ?_,
    hchooses.name⟩
  · exact Option.map_eq_none_iff.1 hchooses.server
  · have hname : settings.kind.name = "text" := hchooses.kind
    exact Option.some.inj ((ofName?_eq_some_iff.2 hname).symm.trans (by decide))

end ResolverChain.Command
