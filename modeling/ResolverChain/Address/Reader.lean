/-
  Reading an address from its text.

  * a dotted quad has four octets of one to three decimal digits, without
    leading zeros;
  * a text of groups has eight of them, of one to four hexadecimal digits, or
    fewer around one pair of colons that stands for at least one zero group;
    the last two groups may be written as a dotted quad;
  * a scope, not empty and without a per cent sign, may follow a per cent sign;
  * `quadBytes?` and `groupsBytes?` are the packed bytes that a record takes from the
    text of an address without a scope.
-/
import ResolverChain.Address.Basic
import ResolverChain.Text.Numeral

namespace ResolverChain.Address

open Text

/-! ## Four octets -/

/-- One octet in decimal digits, without leading zeros. -/
def octet? (cs : List Char) : Option UInt8 := do
  let n ← Numeral.value? 10 cs
  if cs.length ≤ 3 ∧ n < 256 ∧ (cs.head? ≠ some '0' ∨ cs.length = 1) then some n.toUInt8 else none

/-- Four octets with dots between them. -/
def quad? (cs : List Char) : Option (Vector UInt8 4) := do
  vectorOf? 4 (← (cs.splitOn '.').mapM octet?)

/-! ## Eight groups -/

/-- One group in hexadecimal digits. -/
def group? (cs : List Char) : Option UInt16 := do
  let n ← Numeral.value? 16 cs
  if cs.length ≤ 4 then some n.toUInt16 else none

/-- The groups of a part that is none but the last: one group. -/
def groupsOfPart? (part : List Char) : Option (List UInt16) := (group? part).map ([·])

/-- The groups of a last part: two, if it is a dotted quad, else one. -/
def groupsOfLast? (part : List Char) : Option (List UInt16) :=
  if part.contains '.' then (quad? part).map fun octets => groupsOf octets.toList
  else groupsOfPart? part

/-- The groups of parts of which the last ends the address. -/
def endGroups? : List (List Char) → Option (List UInt16)
  | [] => some []
  | [part] => groupsOfLast? part
  | part :: parts => do return (← groupsOfPart? part) ++ (← endGroups? parts)

/-- The parts that colons separate; an empty text has none. -/
def parts (cs : List Char) : List (List Char) := if cs.isEmpty then [] else cs.splitOn ':'

/-- What stands before and behind the first pair of colons. -/
def splitGap : List Char → Option (List Char × List Char)
  | ':' :: ':' :: cs => some ([], cs)
  | c :: cs => (splitGap cs).map fun (front, back) => (c :: front, back)
  | [] => none

/-- Eight groups from a text without a scope. -/
def groups? (cs : List Char) : Option (Vector UInt16 8) := do
  match splitGap cs with
  | none => vectorOf? 8 (← endGroups? (parts cs))
  | some (front, back) =>
    let high := (← (parts front).mapM groupsOfPart?).flatten
    let low ← endGroups? (parts back)
    if high.length + low.length < 8 then
      vectorOf? 8 (high ++ List.replicate (8 - (high.length + low.length)) 0 ++ low)
    else none

/-- A text and what follows its first per cent sign, if it has one. -/
def splitScope (cs : List Char) : List Char × Option (List Char) :=
  match cs.span (· != '%') with
  | (front, []) => (front, none)
  | (front, _ :: scope) => (front, some scope)

/-! ## Reading -/

/-- The address that characters spell. -/
def ofChars? (cs : List Char) : Option Address :=
  if cs.contains '/' then none
  else
    match quad? cs with
    | some octets => some (v4 octets)
    | none =>
      match splitScope cs with
      | (front, none) => (groups? front).map (v6 · none)
      | (front, some scope) =>
        if scope.isEmpty || scope.contains '%' then none
        else (groups? front).map (v6 · (some (String.ofList scope)))

/-- The address that a text spells. -/
def ofText? (s : String) : Option Address := ofChars? s.toList

/-! ## Packed bytes -/

/-- The packed bytes of a dotted quad. -/
def quadBytes? (cs : List Char) : Option (List UInt8) := (quad? cs).map Vector.toList

/-- The packed bytes of a text of groups. -/
def groupsBytes? (cs : List Char) : Option (List UInt8) :=
  (groups? cs).map fun groups => groups.toList.flatMap groupBytes

end ResolverChain.Address
