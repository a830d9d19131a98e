/-!
# Hangul syllables

A syllable is a consonant and a vowel, and it may end in another consonant.  The syllables stand in
the order of their parts, so they are split and joined by arithmetic on code points: the last
consonant is split off first, and joined last.
-/

namespace Outbox.Text.Hangul

/-- The two parts of a syllable. -/
def split? (n : Nat) : Option (Nat × Nat) :=
  if 0xac00 ≤ n ∧ n < 0xac00 + 11172 then
    let place := n - 0xac00
    if place % 28 = 0 then some (0x1100 + place / 588, 0x1161 + place % 588 / 28)
    else some (n - place % 28, 0x11a7 + place % 28)
  else none

/-- The syllable that two parts join to. -/
def join? (a b : Nat) : Option Nat :=
  if 0x1100 ≤ a ∧ a < 0x1100 + 19 ∧ 0x1161 ≤ b ∧ b < 0x1161 + 21 then
    some (0xac00 + ((a - 0x1100) * 21 + (b - 0x1161)) * 28)
  else if 0xac00 ≤ a ∧ a < 0xac00 + 11172 ∧ (a - 0xac00) % 28 = 0 ∧
      0x11a7 < b ∧ b < 0x11a7 + 28 then
    some (a + (b - 0x11a7))
  else none

end Outbox.Text.Hangul
