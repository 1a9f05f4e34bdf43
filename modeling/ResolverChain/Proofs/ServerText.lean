/-
  Servers are read from the ways of writing them.

  * a mark behind a text without it is where the text is split (`splitAt_append`);
  * a colon that stands alone is the one in front of the port, also behind brackets
    (`parts_hostPort`, `parts_bracketed`), and no colon of an address stands alone
    (`parts_address`);
  * every written server is read back (`read?_of_spells`).
-/
import Mathlib.Data.List.TakeWhile
import ResolverChain.Command.Server
import ResolverChain.Proofs.AddressText

namespace ResolverChain.Command.Server

open Text

/-! ## The ways of writing a server -/

/-- The texts of a server: its host alone, which stands for the default port; the host
    and the port with a colon between them; the host in brackets with the port behind
    them; and, for the default port again, an address, however many colons it has. -/
inductive Spells : Server → String → Prop
  | host {host : String} (hcolon : ':' ∉ host.toList) (hbracket : host.toList.head? ≠ some '[') :
      Spells ⟨host, defaultPort⟩ host
  | hostPort {host : String} {port : Nat} (hcolon : ':' ∉ host.toList)
      (hbracket : host.toList.head? ≠ some '[') (hport : port ≤ 65535) :
      Spells ⟨host, port⟩ (host ++ ":" ++ Numeral.ofNat port)
  | bracketed {host : String} {port : Nat} (hbracket : ']' ∉ host.toList) (hport : port ≤ 65535) :
      Spells ⟨host, port⟩ ("[" ++ host ++ "]:" ++ Numeral.ofNat port)
  | address (a : Address) : Spells ⟨a.text, defaultPort⟩ a.text

variable {host front back cs : List Char} {mark : Char} {port : Nat}

/-! ## Splitting -/

theorem splitAt_append (h : mark ∉ front) :
    splitAt mark (front ++ mark :: back) = (front, back) := by
  have hfront : ∀ c ∈ front, (c != mark) = true := by
    intro c hc
    refine bne_iff_ne.2 ?_
    rintro rfl
    exact h hc
  rw [splitAt, List.takeWhile_append_of_pos hfront, List.dropWhile_append_of_pos hfront]
  simp

theorem parts_of_head? (h : cs.head? ≠ some '[') :
    parts cs = if cs.count ':' = 1 then ((splitAt ':' cs).1, some (splitAt ':' cs).2)
      else (cs, none) := by
  unfold parts
  split
  · exact absurd rfl h
  · rfl

theorem colon_notMem_digits : ':' ∉ Numeral.digits 10 port :=
  Numeral.notMem_digits (by omega) (by omega) (Or.inr (by decide))

/-- **The one colon of a host and a port** stands between them. -/
theorem parts_hostPort (hcolon : ':' ∉ host) (hbracket : host.head? ≠ some '[') :
    parts (host ++ ':' :: Numeral.digits 10 port) = (host, some (Numeral.digits 10 port)) := by
  have hhead : (host ++ ':' :: Numeral.digits 10 port).head? ≠ some '[' := by
    cases host with
    | nil => simp
    | cons c cs => simpa using hbracket
  have hcount : (host ++ ':' :: Numeral.digits 10 port).count ':' = 1 := by
    rw [List.count_append, List.count_cons_self, List.count_eq_zero_of_not_mem hcolon,
      List.count_eq_zero_of_not_mem colon_notMem_digits]
  rw [parts_of_head? hhead, if_pos hcount, splitAt_append hcolon]

/-- **A bracket ends the host**, and colons in front of the port are passed over. -/
theorem parts_bracketed (hbracket : ']' ∉ host) :
    parts ('[' :: (host ++ ']' :: ':' :: Numeral.digits 10 port)) =
      (host, some (Numeral.digits 10 port)) := by
  have hdigits : (Numeral.digits 10 port).dropWhile (· == ':') = Numeral.digits 10 port := by
    refine List.dropWhile_eq_self_iff.2 fun hpos heq => ?_
    rw [beq_iff_eq] at heq
    exact colon_notMem_digits (heq ▸ List.getElem_mem hpos)
  rw [parts, splitAt_append hbracket]
  simp [hdigits]

/-- **A text with no colon, or with several,** has no port in it. -/
theorem parts_of_count (hbracket : cs.head? ≠ some '[') (hcount : cs.count ':' ≠ 1) :
    parts cs = (cs, none) := by
  rw [parts_of_head? hbracket, if_neg hcount]

/-! ## Addresses -/

theorem head?_toChars (a : Address) : a.toChars.head? ≠ some '[' := by
  have hunscoped : a.unscoped.toChars.head? ≠ some '[' := fun h =>
    Address.notMem_toChars (by decide) (List.mem_of_head? h)
  match a with
  | .v4 _ | .v6 _ none => exact hunscoped
  | .v6 groups (some scope) =>
    rw [Address.toChars, List.head?_append_of_ne_nil]
    · exact hunscoped
    · exact List.ne_nil_of_mem (Address.colon_mem_compressed groups)

/-- An address has no colon in it, or several. -/
theorem count_colon_toChars (a : Address) : a.toChars.count ':' ≠ 1 := by
  match a with
  | .v4 octets =>
    have hcolon : ':' ∉ (Address.v4 octets).toChars := by
      intro h
      rcases Address.mem_joined h with h | ⟨l, hl, h⟩
      · exact absurd h (by decide)
      · obtain ⟨b, -, rfl⟩ := List.mem_map.1 hl
        exact colon_notMem_digits h
    rw [List.count_eq_zero_of_not_mem hcolon]
    decide
  | .v6 groups none =>
    have := Address.two_le_count_colon groups
    rw [Address.toChars]
    omega
  | .v6 groups (some scope) =>
    have := Address.two_le_count_colon groups
    rw [Address.toChars, List.count_append]
    omega

/-- **No colon of an address** stands in front of a port. -/
theorem parts_address (a : Address) : parts a.toChars = (a.toChars, none) :=
  parts_of_count (head?_toChars a) (count_colon_toChars a)

/-! ## Reading -/

theorem port?_digits (h : port ≤ 65535) :
    port? (some (Numeral.digits 10 port)) = some (port : Int) := by
  refine Integer.read?_digits (h.trans_lt ?_)
  calc 65535 < 10 ^ 5 := by decide
    _ ≤ 10 ^ Integer.maxDigits := Nat.pow_le_pow_right (by decide) (by decide)

theorem read?_of_parts {text host : String} {written : Option (List Char)} {port : Int}
    (hparts : parts text.toList = (host.toList, written)) (hport : port? written = some port) :
    read? text = some ⟨host, port⟩ := by
  simp [read?, hparts, hport]

/-- **Every written server is read back**, with its host and its port. -/
theorem read?_of_spells {server : Server} {text : String} (h : Spells server text) :
    read? text = some server := by
  cases h with
  | host hcolon hbracket =>
    refine read?_of_parts (parts_of_count hbracket ?_) rfl
    rw [List.count_eq_zero_of_not_mem hcolon]
    decide
  | hostPort hcolon hbracket hport =>
    refine read?_of_parts ?_ (port?_digits hport)
    simpa [Numeral.ofNat] using parts_hostPort hcolon hbracket
  | bracketed hbracket hport =>
    refine read?_of_parts ?_ (port?_digits hport)
    simpa [Numeral.ofNat] using parts_bracketed hbracket
  | address a =>
    have hparts : parts a.text.toList = (a.text.toList, none) := by
      simpa [Address.text] using parts_address a
    exact read?_of_parts hparts rfl

/-- The colons of an address with a scope are no ports, and in brackets it may have one. -/
theorem read?_of_spells_scoped :
    read? "fe80::1%eth0" = some ⟨"fe80::1%eth0", 53⟩ ∧
      read? "[fe80::1%eth0]:5353" = some ⟨"fe80::1%eth0", 5353⟩ ∧
      read? "ns.example:5353" = some ⟨"ns.example", 5353⟩ := by
  have haddress : Spells ⟨"fe80::1%eth0", 53⟩ "fe80::1%eth0" := by
    have htext : (Address.v6 #v[0xfe80, 0, 0, 0, 0, 0, 0, 1] (some "eth0")).text =
        "fe80::1%eth0" := by decide +kernel
    exact htext ▸ Spells.address (.v6 #v[0xfe80, 0, 0, 0, 0, 0, 0, 1] (some "eth0"))
  have hbracketed : Spells ⟨"fe80::1%eth0", 5353⟩ "[fe80::1%eth0]:5353" := by
    have htext : "[" ++ "fe80::1%eth0" ++ "]:" ++ Numeral.ofNat 5353 =
        "[fe80::1%eth0]:5353" := by decide +kernel
    exact htext ▸ Spells.bracketed (by decide) (by decide)
  have hhostPort : Spells ⟨"ns.example", 5353⟩ "ns.example:5353" := by
    have htext : "ns.example" ++ ":" ++ Numeral.ofNat 5353 = "ns.example:5353" := by
      decide +kernel
    exact htext ▸ Spells.hostPort (by decide) (by decide) (by decide)
  exact ⟨read?_of_spells haddress, read?_of_spells hbracketed, read?_of_spells hhostPort⟩

end ResolverChain.Command.Server
