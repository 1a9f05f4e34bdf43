/-
  Which texts are read as a server.

  * a text is a server if it is a host, a host and a port with the only colon between
    them, or a host in brackets, perhaps with a colon and a port behind them
    (`Documented`);
  * behind an opening bracket more is read: a host whose bracket is never closed, and a
    port with no colon in front of it, or with several (`Loose`);
  * every text that is read is one of these (`documented_or_loose`), and none is both
    (`Documented.not_loose`), so just the documented texts are read if and only if the
    text is not a loose one (`read?_iff_documented_or_loose`).
-/
import ResolverChain.Proofs.ServerText

namespace ResolverChain.Command.Server

open Text

/-! ## The texts -/

/-- The documented texts of a server. -/
inductive Documented : Server → List Char → Prop
  /-- A host without a port: no colon of it stands alone. -/
  | host {host : List Char} (hbracket : host.head? ≠ some '[') (hcolon : host.count ':' ≠ 1) :
      Documented ⟨String.ofList host, defaultPort⟩ host
  | hostPort {host written : List Char} {port : Int} (hbracket : host.head? ≠ some '[')
      (hcolon : (host ++ ':' :: written).count ':' = 1)
      (hport : Integer.read? written = some port) :
      Documented ⟨String.ofList host, port⟩ (host ++ ':' :: written)
  | bracketed {host : List Char} (hbracket : ']' ∉ host) :
      Documented ⟨String.ofList host, defaultPort⟩ ('[' :: (host ++ [']']))
  | bracketedPort {host written : List Char} {port : Int} (hbracket : ']' ∉ host)
      (hport : Integer.read? written = some port) :
      Documented ⟨String.ofList host, port⟩ ('[' :: (host ++ ']' :: ':' :: written))

/-- The further texts that are read as a server. -/
inductive Loose : Server → List Char → Prop
  /-- The bracket is never closed. -/
  | unclosed {host : List Char} (hbracket : ']' ∉ host) :
      Loose ⟨String.ofList host, defaultPort⟩ ('[' :: host)
  /-- No colon, or several, stand between the bracket and the port. -/
  | colons {host written : List Char} {count : Nat} {port : Int} (hbracket : ']' ∉ host)
      (hcount : count ≠ 1) (hport : Integer.read? written = some port) :
      Loose ⟨String.ofList host, port⟩
        ('[' :: (host ++ ']' :: (List.replicate count ':' ++ written)))

variable {host front back written rest cs : List Char} {mark : Char} {port : Int} {count : Nat}
  {server server' : Server}

/-! ## Ports -/

/-- A port is not empty and does not begin with a colon. -/
theorem cons_of_read? (h : Integer.read? written = some port) :
    ∃ c ds, written = c :: ds ∧ c ≠ ':' := by
  cases written with
  | nil => cases h
  | cons c ds =>
    refine ⟨c, ds, rfl, ?_⟩
    rintro rfl
    -- what is left of the text without the blanks around it begins with the colon, too
    have hfront : (':' :: ds).dropWhile Integer.isMargin = ':' :: ds := rfl
    have hback : ∃ es, dropTrailing Integer.isMargin (':' :: ds) = ':' :: es := by
      rw [dropTrailing, List.reverse_cons, List.dropWhile_append]
      split_ifs
      · exact ⟨[], rfl⟩
      · exact ⟨(ds.reverse.dropWhile Integer.isMargin).reverse, by simp⟩
    obtain ⟨es, hes⟩ := hback
    have hcolon : Integer.decimalValue? ':' = none := by decide
    have hdigits : Integer.digitValues? (':' :: es) = none := by
      unfold Integer.digitValues?
      split
      · rfl
      all_goals
        rename_i heq
        obtain ⟨rfl, -⟩ := List.cons.inj heq
        simp [hcolon]
    rw [Integer.read?, hfront, hes] at h
    simp [Integer.readNat?, hdigits] at h

/-- The colons in front of a port are passed over, and the port is not. -/
theorem dropWhile_colons (h : Integer.read? written = some port) (count : Nat) :
    (List.replicate count ':' ++ written).dropWhile (· == ':') = written := by
  obtain ⟨c, ds, rfl, hc⟩ := cons_of_read? h
  rw [List.dropWhile_append_of_pos (by simp), List.dropWhile_cons_of_neg (by simpa using hc)]

/-! ## Parts -/

theorem splitAt_of_notMem (h : mark ∉ cs) : splitAt mark cs = (cs, []) := by
  have hcs : ∀ c ∈ cs, (c != mark) = true := fun c hc =>
    bne_iff_ne.2 (ne_of_mem_of_not_mem hc h)
  rw [splitAt, List.takeWhile_eq_self_iff.2 hcs, List.dropWhile_eq_nil_iff.2 hcs]
  rfl

theorem parts_unclosed (h : ']' ∉ host) : parts ('[' :: host) = (host, none) := by
  rw [parts, splitAt_of_notMem h]
  rfl

theorem parts_closed (h : ']' ∉ host) :
    parts ('[' :: (host ++ ']' :: rest)) =
      (host, if rest.isEmpty then none else some (rest.dropWhile (· == ':'))) := by
  rw [parts, splitAt_append h]

theorem parts_colons (hbracket : ']' ∉ host) (hport : Integer.read? written = some port)
    (count : Nat) :
    parts ('[' :: (host ++ ']' :: (List.replicate count ':' ++ written))) =
      (host, some written) := by
  obtain ⟨c, ds, rfl, -⟩ := cons_of_read? hport
  rw [parts_closed hbracket, dropWhile_colons hport, if_neg (by simp)]

/-- What stands in front of the only colon of a text has none. -/
theorem colon_notMem_of_count (h : (front ++ ':' :: back).count ':' = 1) : ':' ∉ front := by
  rw [List.count_append, List.count_cons_self] at h
  exact List.count_eq_zero.1 (by omega)

/-! ## Reading -/

theorem read?_eq_some_iff {text : String} :
    read? text = some server ↔
      String.ofList (parts text.toList).1 = server.host ∧
        port? (parts text.toList).2 = some server.port := by
  cases hport : port? (parts text.toList).2 with
  | none => simp [read?, hport]
  | some port =>
    simp only [read?, hport, Option.bind_eq_bind, Option.bind_some, Option.pure_def,
      Option.some.injEq]
    constructor
    · rintro rfl
      exact ⟨rfl, rfl⟩
    · rintro ⟨hhost, hport⟩
      cases server
      simp_all

/-- **Documented texts are read** as what they say. -/
theorem Documented.parts (h : Documented server cs) :
    String.ofList (parts cs).1 = server.host ∧ port? (Server.parts cs).2 = some server.port := by
  cases h with
  | host hbracket hcolon => simp [parts_of_count hbracket hcolon, port?]
  | hostPort hbracket hcolon hport =>
    rename_i host written port
    have hhead : (host ++ ':' :: written).head? ≠ some '[' := by
      cases host with
      | nil => simp
      | cons c host => simpa using hbracket
    simp [parts_of_head? hhead, hcolon, splitAt_append (colon_notMem_of_count hcolon), port?,
      hport]
  | bracketed hbracket => simp [parts_closed hbracket, port?]
  | bracketedPort hbracket hport =>
    have hparts := parts_colons hbracket hport 1
    rw [List.replicate_one, List.singleton_append] at hparts
    simp [hparts, port?, hport]

/-- **Loose texts are read**, too. -/
theorem Loose.parts (h : Loose server cs) :
    String.ofList (parts cs).1 = server.host ∧ port? (Server.parts cs).2 = some server.port := by
  cases h with
  | unclosed hbracket => simp [parts_unclosed hbracket, port?]
  | colons hbracket hcount hport => simp [parts_colons hbracket hport, port?, hport]

/-- What stands behind an opening bracket is a host, or a host, the closing bracket, and
    more. -/
theorem documented_or_loose_bracketed
    (hhost : String.ofList (parts ('[' :: cs)).1 = server.host)
    (hport : port? (parts ('[' :: cs)).2 = some server.port) :
    Documented server ('[' :: cs) ∨ Loose server ('[' :: cs) := by
  obtain ⟨name, port⟩ := server
  by_cases hclosed : ']' ∈ cs
  · obtain ⟨host, rest, rfl, hbracket⟩ := List.eq_append_cons_of_mem hclosed
    rw [parts_closed hbracket] at hhost hport
    obtain rfl : String.ofList host = name := hhost
    cases rest with
    | nil =>
      obtain rfl : defaultPort = port := Option.some.inj hport
      exact Or.inl (.bracketed hbracket)
    | cons c rest =>
      have hcolons : (c :: rest).takeWhile (· == ':') =
          List.replicate ((c :: rest).takeWhile (· == ':')).length ':' :=
        List.eq_replicate_of_mem fun d hd => by simpa using List.mem_takeWhile_imp hd
      have hsplit : c :: rest = List.replicate ((c :: rest).takeWhile (· == ':')).length ':' ++
          (c :: rest).dropWhile (· == ':') := by
        rw [← hcolons, List.takeWhile_append_dropWhile]
      generalize ((c :: rest).takeWhile (· == ':')).length = count at hsplit
      have hread : Integer.read? ((c :: rest).dropWhile (· == ':')) = some port := hport
      generalize (c :: rest).dropWhile (· == ':') = written at hsplit hread
      rw [hsplit]
      by_cases hcount : count = 1
      · subst hcount
        exact Or.inl (.bracketedPort hbracket hread)
      · exact Or.inr (.colons hbracket hcount hread)
  · rw [parts_unclosed hclosed] at hhost hport
    obtain rfl : String.ofList cs = name := hhost
    obtain rfl : defaultPort = port := Option.some.inj hport
    exact Or.inr (.unclosed hclosed)

theorem documented_of_head? (hbracket : cs.head? ≠ some '[')
    (hhost : String.ofList (parts cs).1 = server.host)
    (hport : port? (parts cs).2 = some server.port) : Documented server cs := by
  obtain ⟨name, port⟩ := server
  rw [parts_of_head? hbracket] at hhost hport
  by_cases hcount : cs.count ':' = 1
  · have hcolon : ':' ∈ cs := List.count_pos_iff.1 (by omega)
    obtain ⟨host, written, rfl, hnot⟩ := List.eq_append_cons_of_mem hcolon
    rw [if_pos hcount, splitAt_append hnot] at hhost hport
    obtain rfl : String.ofList host = name := hhost
    refine .hostPort ?_ hcount hport
    cases host with
    | nil => simp
    | cons c host => simpa using hbracket
  · rw [if_neg hcount] at hhost hport
    obtain rfl : String.ofList cs = name := hhost
    obtain rfl : defaultPort = port := Option.some.inj hport
    exact .host hbracket hcount

/-- **Every text that is read** is a documented one or a loose one. -/
theorem documented_or_loose {text : String} (h : read? text = some server) :
    Documented server text.toList ∨ Loose server text.toList := by
  obtain ⟨hhost, hport⟩ := read?_eq_some_iff.1 h
  by_cases hbracket : text.toList.head? = some '['
  · obtain ⟨cs, hcs⟩ := List.head?_eq_some_iff.1 hbracket
    rw [hcs] at hhost hport ⊢
    exact documented_or_loose_bracketed hhost hport
  · exact Or.inl (documented_of_head? hbracket hhost hport)

/-! ## Documented or loose, not both -/

/-- The first closing bracket of a text divides it in one way only. -/
theorem eq_of_closed {host' rest' : List Char} (h : ']' ∉ host) (h' : ']' ∉ host')
    (heq : host ++ ']' :: rest = host' ++ ']' :: rest') : host = host' ∧ rest = rest' := by
  have hsplit := congrArg (splitAt ']') heq
  rw [splitAt_append h, splitAt_append h'] at hsplit
  exact Prod.mk.inj hsplit

/-- What a documented text holds behind an opening bracket. -/
theorem Documented.behind_bracket (h : Documented server ('[' :: cs)) :
    ∃ host rest, ']' ∉ host ∧ cs = host ++ ']' :: rest ∧
      (rest = [] ∨ ∃ written port, Integer.read? written = some port ∧ rest = ':' :: written) := by
  generalize htext : '[' :: cs = text at h
  cases h with
  | host hbracket => exact absurd (by rw [← htext]; rfl) hbracket
  | hostPort hbracket =>
    rename_i host _ _ _ _
    cases host with
    | nil => cases htext
    | cons c host =>
      obtain ⟨rfl, -⟩ := List.cons.inj htext
      exact absurd rfl hbracket
  | bracketed hbracket =>
    obtain ⟨-, rfl⟩ := List.cons.inj htext
    exact ⟨_, [], hbracket, rfl, Or.inl rfl⟩
  | bracketedPort hbracket hport =>
    obtain ⟨-, rfl⟩ := List.cons.inj htext
    exact ⟨_, _, hbracket, rfl, Or.inr ⟨_, _, hport, rfl⟩⟩

/-- **No loose text is documented.** -/
theorem Documented.not_loose (h : Documented server cs) : ¬ Loose server' cs := by
  intro hloose
  cases hloose with
  | unclosed hunclosed =>
    obtain ⟨host, rest, -, rfl, -⟩ := h.behind_bracket
    exact hunclosed (by simp)
  | colons hbracket hcount hport =>
    obtain ⟨host, rest, hbracket', heq, hrest⟩ := h.behind_bracket
    obtain ⟨-, rfl⟩ := eq_of_closed hbracket hbracket' heq
    obtain ⟨c, ds, rfl, hc⟩ := cons_of_read? hport
    rcases hrest with hrest | ⟨written, port, hport', hrest⟩
    · simp at hrest
    · -- the colons in front of a port can be counted
      obtain ⟨d, es, rfl, hd⟩ := cons_of_read? hport'
      have hlength := congrArg (fun cs => (cs.takeWhile (· == ':')).length) hrest
      simp [List.takeWhile_append_of_pos, hc, hd] at hlength
      exact hcount hlength

/-! ## The grammar -/

/-- **A text is read as a server if and only if it is a documented one or a loose one.**
    So the documented texts, and no others, are read unless the text is a loose one: with a
    bracket that is never closed, or behind the brackets a port without a colon in front of
    it, or with several. -/
theorem read?_iff_documented_or_loose (text : String) :
    (∀ server, read? text = some server ↔
      Documented server text.toList ∨ Loose server text.toList) ∧
    ((∀ server, read? text = some server ↔ Documented server text.toList) ↔
      ∀ server, ¬ Loose server text.toList) := by
  have hread : ∀ server, read? text = some server ↔
      Documented server text.toList ∨ Loose server text.toList := by
    intro server
    constructor
    · exact documented_or_loose
    · rintro (h | h)
      · exact read?_eq_some_iff.2 h.parts
      · exact read?_eq_some_iff.2 h.parts
  refine ⟨hread, ?_, ?_⟩
  · intro hdocumented server hloose
    exact ((hdocumented server).1 ((hread server).2 (Or.inr hloose))).not_loose hloose
  · intro hloose server
    rw [hread server, or_iff_left (hloose server)]

/-- A host whose bracket is never closed is read, though no text of a server is so written. -/
theorem unclosed_bracket_read :
    read? "[h" = some ⟨"h", 53⟩ ∧ ∀ server, ¬ Documented server "[h".toList := by
  refine ⟨by decide +kernel, ?_⟩
  intro server h
  have htext : "[h".toList = ['[', 'h'] := rfl
  rw [htext] at h
  obtain ⟨host, rest, -, heq, -⟩ := h.behind_bracket
  have hmem : ']' ∈ ['h'] := heq ▸ by simp
  exact absurd hmem (by decide)

end ResolverChain.Command.Server
