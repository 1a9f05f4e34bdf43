/-
  What a hosts file lists, item by item.

  * the fields of a line are the words in front of its comment (`HasFields`), and
    `lineFields` finds just these (`hasFields_iff`);
  * `items` are what is read in fields, in this order: the literal of an address, then
    every host; a source makes no table for the first bad item, or else for the failure
    behind its lines (`Table.ofSource_eq_error_iff_items`);
  * `mentions` pair every host with the literal of its line, and the table groups the
    addresses of all mentions by the name of the host, in their order (`Table.grouped`,
    `Table.ofSource_eq_ok_iff`);
  * together this says all of what becomes of a source (`table_of_listing`).
-/
import ResolverChain.Proofs.HostsTable

namespace ResolverChain

/-! ## Words -/

namespace Text

/-- The words of a text: stretches without a blank, with blanks between them. -/
inductive Words : List Char → List (List Char) → Prop
  | none {gap : List Char} (blank : ∀ c ∈ gap, isBlank c = true) : Words gap []
  | word {gap word rest : List Char} {words : List (List Char)}
      (blank : ∀ c ∈ gap, isBlank c = true) (solid : ∀ c ∈ word, isBlank c = false)
      (nonempty : word ≠ []) (ends : ∀ c ∈ rest.head?, isBlank c = true)
      (later : Words rest words) : Words (gap ++ word ++ rest) (word :: words)

/-- What stands between the characters of a kind, without the empty stretches. -/
def stretches (p : Char → Bool) (cs : List Char) : List (List Char) :=
  (cs.splitOnP p).filter (!·.isEmpty)

variable {p : Char → Bool} {cs gap word rest : List Char} {ws : List (List Char)} {c : Char}

theorem stretches_append_cons (h : p c = true) (cs ds : List Char) :
    stretches p (cs ++ c :: ds) = stretches p cs ++ stretches p ds := by
  rw [stretches, List.splitOnP_append_cons cs ds h, List.filter_append, stretches, stretches]

theorem stretches_of_solid (h : ∀ c ∈ word, p c = false) :
    stretches p word = [word].filter (!·.isEmpty) := by
  rw [stretches, List.splitOnP_eq_singleton h]

theorem stretches_cons (h : p c = true) (cs : List Char) : stretches p (c :: cs) = stretches p cs :=
  stretches_append_cons h [] cs

theorem fields_cons (h : isBlank c = true) (cs : List Char) : fields (c :: cs) = fields cs :=
  stretches_cons h cs

theorem fields_append (h : ∀ c ∈ gap, isBlank c = true) (cs : List Char) :
    fields (gap ++ cs) = fields cs := by
  induction gap with
  | nil => rfl
  | cons c gap ih =>
    rw [List.cons_append, fields_cons (h c List.mem_cons_self)]
    exact ih fun d hd => h d (List.mem_cons_of_mem _ hd)

theorem fields_word_append (hsolid : ∀ c ∈ word, isBlank c = false) (hne : word ≠ [])
    (hends : ∀ c ∈ rest.head?, isBlank c = true) :
    fields (word ++ rest) = word :: fields rest := by
  have hword : stretches isBlank word = [word] := by
    rw [stretches_of_solid hsolid, List.filter_cons_of_pos (by simpa using hne), List.filter_nil]
  cases rest with
  | nil => rwa [List.append_nil]
  | cons b rest =>
    have hb : isBlank b = true := hends b rfl
    calc fields (word ++ b :: rest)
        = stretches isBlank word ++ fields rest := stretches_append_cons hb word rest
      _ = word :: fields (b :: rest) := by rw [hword, fields_cons hb]; rfl

theorem Words.fields_eq (h : Words cs ws) : fields cs = ws := by
  induction h with
  | none blank => simpa [fields] using fields_append blank []
  | word blank solid nonempty ends later ih =>
    rw [List.append_assoc, fields_append blank, fields_word_append solid nonempty ends, ih]

theorem Words.blank_cons (hc : isBlank c = true) (h : Words cs ws) : Words (c :: cs) ws := by
  have hgap : ∀ {gap : List Char}, (∀ d ∈ gap, isBlank d = true) →
      ∀ d ∈ c :: gap, isBlank d = true := fun h => List.forall_mem_cons.2 ⟨hc, h⟩
  cases h with
  | none blank => exact .none (hgap blank)
  | word blank solid nonempty ends later => exact .word (hgap blank) solid nonempty ends later

theorem exists_words (cs : List Char) : ∃ ws, Words cs ws := by
  induction cs with
  | nil => exact ⟨[], .none (by simp)⟩
  | cons c cs ih =>
    obtain ⟨ws, h⟩ := ih
    by_cases hc : isBlank c = true
    · exact ⟨ws, h.blank_cons hc⟩
    rw [Bool.not_eq_true] at hc
    by_cases hends : ∀ d ∈ cs.head?, isBlank d = true
    · have hword : Words ([] ++ [c] ++ cs) ([c] :: ws) :=
        .word (by simp) (by simpa using hc) (by simp) hends h
      exact ⟨[c] :: ws, hword⟩
    · -- the text goes on without a blank, so its first word grows by the character
      cases h with
      | none blank =>
        exact absurd (fun d hd => blank d (List.mem_of_mem_head? hd)) hends
      | @word gap word rest words blank solid nonempty ends later =>
        cases gap with
        | nil =>
          have hsolid : ∀ d ∈ c :: word, isBlank d = false := List.forall_mem_cons.2 ⟨hc, solid⟩
          have hword : Words ([] ++ (c :: word) ++ rest) ((c :: word) :: words) :=
            .word (by simp) hsolid (by simp) ends later
          exact ⟨(c :: word) :: words, hword⟩
        | cons d gap =>
          refine absurd (fun e he => ?_) hends
          obtain rfl : d = e := Option.some.inj he
          exact blank d List.mem_cons_self

/-- **The fields of a text are its words.** -/
theorem words_iff : Words cs ws ↔ fields cs = ws := by
  constructor
  · exact Words.fields_eq
  · rintro rfl
    obtain ⟨ws, h⟩ := exists_words cs
    rwa [h.fields_eq]

end Text

namespace Hosts

variable {line : String} {failure : Failure}

/-- The fields of a line: the words in front of its comment, if it has one. -/
def HasFields (line : String) (fields : List String) : Prop :=
  ∃ listed comment, line.toList = listed ++ comment ∧ '#' ∉ listed ∧
    (∀ c ∈ comment.head?, c = '#') ∧ Text.Words listed (fields.map String.toList)

theorem takeWhile_listed {listed comment : List Char} (hlisted : '#' ∉ listed)
    (hcomment : ∀ c ∈ comment.head?, c = '#') :
    (listed ++ comment).takeWhile (· != '#') = listed := by
  have hkept : ∀ c ∈ listed, (c != '#') = true := by
    intro c hc
    exact bne_iff_ne.2 fun h => hlisted (h ▸ hc)
  rw [List.takeWhile_append_of_pos hkept]
  cases comment with
  | nil => simp
  | cons c comment =>
    obtain rfl : c = '#' := hcomment c rfl
    simp

/-- **Every line has fields, and only those that are found in it.** -/
theorem hasFields_iff {fields : List String} : HasFields line fields ↔ lineFields line = fields := by
  have htexts : ∀ words : List (List Char),
      words.map String.ofList = fields ↔ words = fields.map String.toList := by
    intro words
    constructor
    · rintro rfl
      simp [List.map_map, Function.comp_def]
    · rintro rfl
      simp [List.map_map, Function.comp_def]
  rw [lineFields, htexts, ← Text.words_iff]
  constructor
  · rintro ⟨listed, comment, hline, hlisted, hcomment, hwords⟩
    rwa [hline, takeWhile_listed hlisted hcomment]
  · intro h
    refine ⟨_, line.toList.dropWhile (· != '#'), List.takeWhile_append_dropWhile.symm, ?_, ?_, h⟩
    · intro hmem
      simpa using List.mem_takeWhile_imp hmem
    · intro c hc
      have hhead := List.head?_dropWhile_not (· != '#') line.toList
      rw [hc] at hhead
      simpa using hhead

/-! ## Items -/

/-- What is read in a hosts file. -/
inductive Item where
  /-- The literal of an address, in front of hosts of which the first is given. -/
  | literal (host text : String)
  | host (text : String)

/-- The items of fields, in the order in which they are read.  Less than two fields hold
    none. -/
def items : List String → List Item
  | literal :: host :: hosts => .literal host literal :: (host :: hosts).map .host
  | _ => []

/-- What is wrong with an item. -/
inductive Item.Bad : Item → Failure → Prop
  | literal {host text : String} (illegible : (Value.text text).toAddress? = none) :
      Bad (.literal host text) (.address (.invalid (.text host) (.text text)))
  | host {text : String} {e : NameError} (unencodable : (Value.text text).toDomain = .error e) :
      Bad (.host text) (.name (.unencodable text))

theorem firstBad_append {α ε : Type} {Bad : α → ε → Prop} {xs ys : List α} {e : ε} :
    FirstBad Bad (xs ++ ys) e ↔
      FirstBad Bad xs e ∨ ((∀ x ∈ xs, ∀ e, ¬ Bad x e) ∧ FirstBad Bad ys e) := by
  induction xs with
  | nil => simp [not_firstBad_nil]
  | cons x xs ih =>
    rw [List.cons_append, firstBad_cons, firstBad_cons, ih, List.forall_mem_cons]
    tauto

/-- The first bad line is the one with the first bad item. -/
theorem firstBad_flatMap {α β ε : Type} {Bad : α → ε → Prop} {BadPart : β → ε → Prop}
    {f : α → List β} (h : ∀ x e, Bad x e ↔ FirstBad BadPart (f x) e) {xs : List α} {e : ε} :
    FirstBad Bad xs e ↔ FirstBad BadPart (xs.flatMap f) e := by
  induction xs with
  | nil => exact iff_of_false not_firstBad_nil not_firstBad_nil
  | cons x xs ih =>
    have hgood : (∀ e, ¬ Bad x e) ↔ ∀ y ∈ f x, ∀ e, ¬ BadPart y e := by
      have hexists : (∃ e, Bad x e) ↔ ∃ y ∈ f x, ∃ e, BadPart y e := by
        rw [← exists_firstBad_iff]
        exact exists_congr (h x)
      simpa using not_congr hexists
    rw [firstBad_cons, List.flatMap_cons, firstBad_append, h, hgood, ih]

theorem firstBad_map {α β ε : Type} {Bad : α → ε → Prop} {BadImage : β → ε → Prop} {f : α → β}
    (h : ∀ x e, Bad x e ↔ BadImage (f x) e) {xs : List α} {e : ε} :
    FirstBad Bad xs e ↔ FirstBad BadImage (xs.map f) e := by
  induction xs with
  | nil => exact iff_of_false not_firstBad_nil not_firstBad_nil
  | cons x xs ih =>
    simp only [List.map_cons, firstBad_cons, h, ih]

theorem Item.bad_literal_iff {host text : String} :
    Item.Bad (.literal host text) failure ↔
      Address.ofText? text = none ∧
        failure = .address (.invalid (.text host) (.text text)) := by
  constructor
  · rintro ⟨illegible⟩
    exact ⟨illegible, rfl⟩
  · rintro ⟨illegible, rfl⟩
    exact .literal illegible

theorem Item.bad_host_iff {host : String} : BadHost host failure ↔ Item.Bad (.host host) failure := by
  constructor
  · rintro ⟨hnone, rfl⟩
    exact .host (by rw [Value.toDomain, hnone])
  · intro h
    cases h with
    | host unencodable =>
      refine ⟨?_, rfl⟩
      cases hname : DomainName.ofText? host with
      | none => rfl
      | some n => simp [Value.toDomain, hname] at unencodable

/-- What is wrong with a line is what is wrong with the first bad item of its fields. -/
theorem badLine_iff : BadLine line failure ↔ FirstBad Item.Bad (items (lineFields line)) failure := by
  have hshort : ∀ {fields : List String}, lineFields line = fields → items fields = [] →
      (∀ literal host hosts, fields ≠ literal :: host :: hosts) →
      (BadLine line failure ↔ FirstBad Item.Bad (items fields) failure) := by
    intro fields hfields hitems hfew
    rw [hitems]
    refine iff_of_false ?_ not_firstBad_nil
    rintro (⟨hfields', -⟩ | ⟨hfields', -, -⟩) <;>
      exact hfew _ _ _ (hfields.symm.trans hfields')
  rcases hfields : lineFields line with _ | ⟨literal, _ | ⟨host, hosts⟩⟩
  · exact hshort hfields rfl (by simp)
  · exact hshort hfields rfl (by simp)
  · rw [items, firstBad_cons, ← firstBad_map (f := Item.host) fun _ _ => Item.bad_host_iff]
    simp only [Item.bad_literal_iff]
    constructor
    · rintro (⟨hfields', hnone⟩ | ⟨hfields', hsome, hbad⟩) <;> cases hfields.symm.trans hfields'
      · exact Or.inl ⟨hnone, rfl⟩
      · exact Or.inr ⟨fun e he => by simp [he.1] at hsome, hbad⟩
    · rintro (⟨hnone, rfl⟩ | ⟨hgood, hbad⟩)
      · exact .address hfields hnone
      · refine .host hfields ?_ hbad
        rw [Option.isSome_iff_ne_none]
        exact fun hnone => hgood _ ⟨hnone, rfl⟩

/-- **A source makes no table for its first bad item**, or else for the failure behind its
    lines. -/
theorem Table.ofSource_eq_error_iff_items {source : Source} :
    Table.ofSource source = .error failure ↔
      FirstBad Item.Bad ((source.lines.map lineFields).flatMap items) failure ∨
        ((∀ item ∈ (source.lines.map lineFields).flatMap items, ∀ e, ¬ item.Bad e) ∧
          source.failure = some failure) := by
  have hline : ∀ e, FirstBad BadLine source.lines e ↔
      FirstBad Item.Bad ((source.lines.map lineFields).flatMap items) e := by
    intro e
    rw [List.flatMap_map]
    exact firstBad_flatMap (f := fun line => items (lineFields line)) fun _ _ => badLine_iff
  have hgood : (∀ line ∈ source.lines, ∀ e, ¬ BadLine line e) ↔
      ∀ item ∈ (source.lines.map lineFields).flatMap items, ∀ e, ¬ item.Bad e := by
    have hexists := exists_congr hline
    rw [exists_firstBad_iff, exists_firstBad_iff] at hexists
    simpa using not_congr hexists
  rw [Table.ofSource_eq_error_iff, ← hline, ← hgood]
  constructor
  · rintro (h | ⟨good, stopped⟩)
    exacts [Or.inl h, Or.inr ⟨good, stopped⟩]
  · rintro (h | ⟨good, stopped⟩)
    exacts [.line h, .behind good stopped]

/-! ## Mentions -/

/-- A host in a line, with the literal of the address in front of it. -/
structure Mention where
  literal : String
  host : String

/-- The hosts of fields, in order. -/
def mentions : List String → List Mention
  | literal :: host :: hosts => (host :: hosts).map (⟨literal, ·⟩)
  | _ => []

/-- What a mention lists: an address for the name of the host. -/
def Mention.Lists (mention : Mention) (entry : DomainName × Address) : Prop :=
  (Value.text mention.host).toDomain = .ok entry.1 ∧
    (Value.text mention.literal).toAddress? = some entry.2

theorem Mention.lists_unique : Relator.RightUnique Mention.Lists := by
  rintro mention ⟨n, a⟩ ⟨m, b⟩ ⟨hn, ha⟩ ⟨hm, hb⟩
  cases hn.symm.trans hm
  cases ha.symm.trans hb
  rfl

/-- Fields whose mentions all list something hold no bad item. -/
theorem not_bad_of_lists {fields : List String} (h : ∀ mention ∈ mentions fields, ∃ entry,
    mention.Lists entry) : ∀ item ∈ items fields, ∀ e, ¬ item.Bad e := by
  rcases fields with _ | ⟨literal, _ | ⟨host, hosts⟩⟩
  · simp [items]
  · simp [items]
  · intro item hitem e hbad
    rcases List.mem_cons.1 hitem with rfl | hitem
    · obtain ⟨entry, -, ha⟩ := h ⟨literal, host⟩ (by simp [mentions])
      cases hbad with
      | literal illegible => cases illegible.symm.trans ha
    · obtain ⟨k, hk, rfl⟩ := List.mem_map.1 hitem
      obtain ⟨entry, hn, -⟩ := h ⟨literal, k⟩ (List.mem_map.2 ⟨k, hk, rfl⟩)
      cases hbad with
      | host unencodable => cases unencodable.symm.trans hn

/-- The table with the addresses of entries added one after the other. -/
def Table.addAll (t : Table) (entries : List (DomainName × Address)) : Table :=
  entries.foldl (fun t entry => t.add entry.1 entry.2) t

/-- If every step of a fold adds what the parts of its item list, the fold adds what all
    parts list. -/
theorem lists_of_foldlM {α ε : Type} {step : Table → α → Except ε Table} {f : α → List Mention}
    (hstep : ∀ t x t', step t x = .ok t' →
      ∃ entries, List.Forall₂ Mention.Lists (f x) entries ∧ t' = t.addAll entries)
    {xs : List α} {t t' : Table} (h : xs.foldlM step t = .ok t') :
    ∃ entries, List.Forall₂ Mention.Lists (xs.flatMap f) entries ∧ t' = t.addAll entries := by
  induction xs generalizing t with
  | nil => exact ⟨[], .nil, (Except.ok.inj h).symm⟩
  | cons x xs ih =>
    rw [List.foldlM_cons] at h
    cases hx : step t x with
    | error e => rw [hx] at h; cases h
    | ok next =>
      rw [hx] at h
      obtain ⟨here, hhere, rfl⟩ := hstep t x next hx
      obtain ⟨later, hlater, rfl⟩ := ih h
      refine ⟨here ++ later, List.rel_append hhere hlater, ?_⟩
      simp only [Table.addAll, List.foldl_append]

namespace Table

variable {t t' : Table}

theorem lists_of_addHost {a : Address} {literal host : String}
    (ha : (Value.text literal).toAddress? = some a) (h : t.addHost a host = .ok t') :
    ∃ entries, List.Forall₂ Mention.Lists [⟨literal, host⟩] entries ∧ t' = t.addAll entries := by
  rw [addHost_eq] at h
  cases hname : DomainName.ofText? host with
  | none => simp [hname] at h
  | some n =>
    simp only [hname, Except.ok.injEq] at h
    refine ⟨[(n, a)], .cons ⟨?_, ha⟩ .nil, h.symm⟩
    rw [Value.toDomain, hname]

theorem lists_of_addLine (h : t.addLine line = .ok t') :
    ∃ entries, List.Forall₂ Mention.Lists (mentions (lineFields line)) entries ∧
      t' = t.addAll entries := by
  rcases hfields : lineFields line with _ | ⟨literal, _ | ⟨host, hosts⟩⟩
  · rw [addLine, hfields] at h
    exact ⟨[], .nil, (Except.ok.inj h).symm⟩
  · rw [addLine, hfields] at h
    exact ⟨[], .nil, (Except.ok.inj h).symm⟩
  · rw [addLine_of_fields hfields] at h
    cases ha : Address.ofText? literal with
    | none => simp [ha] at h
    | some a =>
      simp only [ha] at h
      have hlists := lists_of_foldlM (f := fun host => [⟨literal, host⟩])
        (fun t host t' => lists_of_addHost (a := a) ha) h
      rwa [← List.map_eq_flatMap] at hlists

theorem lists_of_ofLines {lines : List String} (h : ofLines lines = .ok t) :
    ∃ entries, List.Forall₂ Mention.Lists ((lines.map lineFields).flatMap mentions) entries ∧
      t = addAll [] entries := by
  rw [List.flatMap_map]
  exact lists_of_foldlM (f := fun line => mentions (lineFields line))
    (fun _ _ _ => lists_of_addLine) h

/-! ## Grouping -/

/-- Entries grouped by name: every name once, where it first occurs, with its addresses in
    their order. -/
def grouped (entries : List (DomainName × Address)) : Table :=
  (entries.map (·.1)).eraseDups.map fun n => (n, (entries.filter (·.1 = n)).map (·.2))

end Table

theorem eraseDups_concat {α : Type} [BEq α] [LawfulBEq α] (xs : List α) (x : α) :
    (xs ++ [x]).eraseDups = if x ∈ xs then xs.eraseDups else xs.eraseDups ++ [x] := by
  rw [List.eraseDups_append]
  split_ifs with hx <;> simp [List.removeAll, hx, List.eraseDups_cons]

theorem nodup_eraseDups {α : Type} [BEq α] [LawfulBEq α] (xs : List α) : xs.eraseDups.Nodup := by
  induction xs using List.reverseRecOn with
  | nil => simp
  | append_singleton xs x ih =>
    rw [eraseDups_concat]
    split_ifs with hx
    · exact ih
    · rw [← List.concat_eq_append]
      exact List.Nodup.concat (by simpa using hx) ih

namespace Table

variable {t : Table} {names : List DomainName} {f : DomainName → List Address} {n : DomainName}
  {a : Address}

theorem add_of_mem (hnodup : names.Nodup) (hn : n ∈ names) :
    add n a (names.map fun m => (m, f m)) =
      names.map fun m => (m, if m = n then f m ++ [a] else f m) := by
  induction names with
  | nil => cases hn
  | cons m names ih =>
    obtain ⟨hm, hnodup⟩ := List.nodup_cons.1 hnodup
    simp only [List.map_cons, add]
    by_cases hmn : m = n
    · subst hmn
      have hothers : ∀ k ∈ names, k ≠ m := fun k hk h => hm (h ▸ hk)
      rw [if_pos rfl, if_pos rfl]
      refine congrArg _ (List.map_congr_left fun k hk => ?_)
      rw [if_neg (hothers k hk)]
    · rw [if_neg hmn, if_neg hmn, ih hnodup ((List.mem_cons.1 hn).resolve_left (Ne.symm hmn))]

theorem add_of_not_mem (hn : n ∉ names) :
    add n a (names.map fun m => (m, f m)) = names.map (fun m => (m, f m)) ++ [(n, [a])] := by
  induction names with
  | nil => rfl
  | cons m names ih =>
    obtain ⟨hmn, hn⟩ := not_or.1 (mt List.mem_cons.2 hn)
    simp only [List.map_cons, add]
    rw [if_neg (Ne.symm hmn), ih hn]
    rfl

/-- One more entry is grouped with those of its name. -/
theorem add_grouped (entries : List (DomainName × Address)) (n : DomainName) (a : Address) :
    (grouped entries).add n a = grouped (entries ++ [(n, a)]) := by
  have hlast : ∀ m, ((entries ++ [(n, a)]).filter (·.1 = m)).map (·.2) =
      if m = n then (entries.filter (·.1 = m)).map (·.2) ++ [a]
      else (entries.filter (·.1 = m)).map (·.2) := by
    intro m
    by_cases hm : m = n
    · simp [hm]
    · simp [hm, Ne.symm hm]
  simp only [grouped, hlast, List.map_append, List.map_cons, List.map_nil, eraseDups_concat]
  by_cases hn : n ∈ entries.map (·.1)
  · rw [if_pos hn]
    exact add_of_mem (nodup_eraseDups _) (List.mem_eraseDups.2 hn)
  · have hnew : n ∉ (entries.map (·.1)).eraseDups := mt List.mem_eraseDups.1 hn
    have hnone : (entries.filter (·.1 = n)).map (·.2) = [] := by
      rw [List.map_eq_nil_iff, List.filter_eq_nil_iff]
      intro entry hentry h
      exact hn (List.mem_map.2 ⟨entry, hentry, of_decide_eq_true h⟩)
    rw [if_neg hn, add_of_not_mem hnew, List.map_append]
    congr 1
    · refine List.map_congr_left fun m hm => ?_
      have hmn : m ≠ n := by rintro rfl; exact hnew hm
      rw [if_neg hmn]
    · simp [hnone]

theorem addAll_nil (entries : List (DomainName × Address)) : addAll [] entries = grouped entries := by
  induction entries using List.reverseRecOn with
  | nil => rfl
  | append_singleton entries entry ih =>
    rw [← add_grouped, ← ih, addAll, List.foldl_append]
    rfl

/-- **A source makes a table if nothing is wrong with it**, and then the table groups what
    all mentions list. -/
theorem ofSource_eq_ok_iff {source : Source} :
    ofSource source = .ok t ↔ source.failure = none ∧
      ∃ entries, List.Forall₂ Mention.Lists
        ((source.lines.map lineFields).flatMap mentions) entries ∧ t = grouped entries := by
  have hlists : ∀ {t}, ofSource source = .ok t → source.failure = none ∧
      ∃ entries, List.Forall₂ Mention.Lists
        ((source.lines.map lineFields).flatMap mentions) entries ∧ t = grouped entries := by
    intro t h
    rw [ofSource] at h
    cases hlines : ofLines source.lines with
    | error e => rw [hlines] at h; cases h
    | ok t' =>
      rw [hlines] at h
      obtain ⟨entries, hentries, rfl⟩ := lists_of_ofLines hlines
      cases hfailure : source.failure with
      | some failure => simp [hfailure, bind, Except.bind] at h
      | none =>
        simp only [hfailure, bind, Except.bind, pure, Except.pure, Except.ok.injEq] at h
        exact ⟨rfl, entries, hentries, by rw [← h, addAll_nil]⟩
  refine ⟨hlists, ?_⟩
  rintro ⟨hfailure, entries, hentries, rfl⟩
  cases hsource : ofSource source with
  | ok t =>
    obtain ⟨-, entries', hentries', rfl⟩ := hlists hsource
    rw [List.right_unique_forall₂' Mention.lists_unique hentries hentries']
  | error e =>
    rcases ofSource_eq_error_iff_items.1 hsource with ⟨before, item, after, hitems, -, hbad⟩ | ⟨-, h⟩
    · have hitem : item ∈ (source.lines.map lineFields).flatMap items := by simp [hitems]
      obtain ⟨fields, hfields, hitem⟩ := List.mem_flatMap.1 hitem
      refine absurd hbad (not_bad_of_lists (fun mention hmention => ?_) item hitem e)
      obtain ⟨i, hi, rfl⟩ := List.mem_iff_getElem.1
        (List.mem_flatMap.2 ⟨fields, hfields, hmention⟩)
      exact ⟨_, List.Forall₂.get hentries hi (hentries.length_eq ▸ hi)⟩
    · cases hfailure.symm.trans h

theorem isSome_addresses?_grouped {entries : List (DomainName × Address)} :
    ((grouped entries).addresses? n).isSome ↔ n ∈ entries.map (·.1) := by
  rw [← List.mem_eraseDups, addresses?, List.lookup_isSome_iff]
  simp [grouped]

end Table

/-- **What becomes of a source**, said of its items and mentions.  The fields of each line
    are the words in front of its comment.  The first bad item is reported, or else the
    failure behind the lines.  Without either there is a table; its names are those of the
    hosts that are mentioned, and every mention adds an address to its name, in order. -/
theorem table_of_listing (source : Source) :
    (∀ line fields, HasFields line fields ↔ lineFields line = fields) ∧
    let fields := source.lines.map lineFields
    (∀ failure, Table.ofSource source = .error failure ↔
      FirstBad Item.Bad (fields.flatMap items) failure ∨
        ((∀ item ∈ fields.flatMap items, ∀ e, ¬ item.Bad e) ∧ source.failure = some failure)) ∧
    (∀ t, Table.ofSource source = .ok t ↔ source.failure = none ∧
      ∃ entries, List.Forall₂ Mention.Lists (fields.flatMap mentions) entries ∧
        t = (entries.map (·.1)).eraseDups.map fun n =>
          (n, (entries.filter (·.1 = n)).map (·.2))) ∧
    ∀ t n, Table.ofSource source = .ok t →
      ((t.addresses? n).isSome ↔
        ∃ mention ∈ fields.flatMap mentions, (Value.text mention.host).toDomain = .ok n) := by
  refine ⟨fun _ _ => hasFields_iff, fun _ => Table.ofSource_eq_error_iff_items,
    fun _ => Table.ofSource_eq_ok_iff, ?_⟩
  intro t n h
  obtain ⟨-, entries, hentries, rfl⟩ := Table.ofSource_eq_ok_iff.1 h
  rw [Table.isSome_addresses?_grouped]
  constructor
  · intro hn
    obtain ⟨entry, hentry, rfl⟩ := List.mem_map.1 hn
    obtain ⟨i, hi, rfl⟩ := List.mem_iff_getElem.1 hentry
    have hi' : i < ((source.lines.map lineFields).flatMap mentions).length :=
      hentries.length_eq ▸ hi
    exact ⟨_, List.getElem_mem hi', (hentries.get hi' hi).1⟩
  · rintro ⟨mention, hmention, hn⟩
    obtain ⟨i, hi, rfl⟩ := List.mem_iff_getElem.1 hmention
    have hi' : i < entries.length := hentries.length_eq ▸ hi
    cases hn.symm.trans (hentries.get hi hi').1
    exact List.mem_map.2 ⟨_, List.getElem_mem hi', rfl⟩

/-- Two spellings of a name on two lines, behind a line that is only a comment and one that
    only seems to hold an address. -/
theorem table_of_listing_alpha :
    Table.ofSource ⟨["# 1.1.1.1 x", "10.0.0 #a", "10.0.0.1 A b#c", "\t10.0.0.2\u2003a. A"], none⟩ =
      .ok [(⟨[97]⟩, [.v4 ⟨#[10, 0, 0, 1], rfl⟩, .v4 ⟨#[10, 0, 0, 2], rfl⟩, .v4 ⟨#[10, 0, 0, 2], rfl⟩]),
        (⟨[98]⟩, [.v4 ⟨#[10, 0, 0, 1], rfl⟩])] := by
  obtain ⟨-, -, hok, -⟩ := table_of_listing
    ⟨["# 1.1.1.1 x", "10.0.0 #a", "10.0.0.1 A b#c", "\t10.0.0.2\u2003a. A"], none⟩
  refine (hok _).2 ⟨rfl, [(⟨[97]⟩, .v4 ⟨#[10, 0, 0, 1], rfl⟩), (⟨[98]⟩, .v4 ⟨#[10, 0, 0, 1], rfl⟩),
    (⟨[97]⟩, .v4 ⟨#[10, 0, 0, 2], rfl⟩), (⟨[97]⟩, .v4 ⟨#[10, 0, 0, 2], rfl⟩)], ?_, by decide⟩
  exact .cons ⟨rfl, rfl⟩ (.cons ⟨rfl, rfl⟩ (.cons ⟨rfl, rfl⟩ (.cons ⟨rfl, rfl⟩ .nil)))

end Hosts

end ResolverChain
