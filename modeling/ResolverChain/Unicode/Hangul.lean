/-
  Korean syllables, which are laid out so that their letters can be computed.

  * a syllable is a leading consonant, a vowel and perhaps a trailing
    consonant, numbered in that order from `syllables` on;
  * `decompose?` takes a syllable apart, and `compose?` joins two letters, or a
    syllable without a trailing consonant and such a consonant.
-/

namespace ResolverChain.Unicode.Hangul

/-- The code point of the first syllable. -/
def syllables : Nat := 0xAC00
/-- The code point of the first leading consonant. -/
def leads : Nat := 0x1100
/-- The code point of the first vowel. -/
def vowels : Nat := 0x1161
/-- The code point one below the first trailing consonant. -/
def trails : Nat := 0x11A7

def leadCount : Nat := 19
def vowelCount : Nat := 21
/-- One more than the trailing consonants, for syllables without one. -/
def trailCount : Nat := 28

/-- The letters of a syllable. -/
def decompose? (c : Char) : Option (List Char) :=
  if syllables ≤ c.toNat ∧ c.toNat < syllables + leadCount * vowelCount * trailCount then
    let index := c.toNat - syllables
    let lead := Char.ofNat (leads + index / (vowelCount * trailCount))
    let vowel := Char.ofNat (vowels + index % (vowelCount * trailCount) / trailCount)
    if index % trailCount = 0 then some [lead, vowel]
    else some [lead, vowel, Char.ofNat (trails + index % trailCount)]
  else none

/-- The syllable of a consonant and a vowel, or of a syllable that still lacks
    its trailing consonant and that consonant. -/
def compose? (a b : Char) : Option Char :=
  if leads ≤ a.toNat ∧ a.toNat < leads + leadCount ∧
      vowels ≤ b.toNat ∧ b.toNat < vowels + vowelCount then
    let index := (a.toNat - leads) * vowelCount + (b.toNat - vowels)
    some (Char.ofNat (syllables + index * trailCount))
  else if syllables ≤ a.toNat ∧ a.toNat < syllables + leadCount * vowelCount * trailCount ∧
      (a.toNat - syllables) % trailCount = 0 ∧
      trails < b.toNat ∧ b.toNat < trails + trailCount then
    some (Char.ofNat (a.toNat + (b.toNat - trails)))
  else none

end ResolverChain.Unicode.Hangul
