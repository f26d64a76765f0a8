/-!
# Syllables of the Korean script

A syllable is made of a leading consonant, a vowel and perhaps a trailing consonant. The syllables
have code points in the order of their letters, so that joining them is arithmetic.

## Main definitions

* `Text.Syllable.join?` — the syllable of two parts
* `Text.Syllable.letters?` — the letters of a syllable
-/

namespace GraphBrowser.Text.Syllable

/-- The first leading consonant. -/
def leads : Nat := 0x1100

/-- The first vowel. -/
def vowels : Nat := 0x1161

/-- The place before the first trailing consonant, which stands for none. -/
def trails : Nat := 0x11A7

/-- The first syllable. -/
def first : Nat := 0xAC00

/-- The number of syllables: there are 19 leading consonants, 21 vowels and 27 trailing consonants,
one of which may be missing. -/
def count : Nat := 19 * 21 * 28

/-- The syllable of a consonant and a vowel, or of a syllable and a trailing consonant. -/
def join? (a b : Nat) : Option Nat :=
  if leads ≤ a ∧ a < leads + 19 ∧ vowels ≤ b ∧ b < vowels + 21 then
    some (first + ((a - leads) * 21 + (b - vowels)) * 28)
  else if first ≤ a ∧ a < first + count ∧ (a - first) % 28 = 0 ∧ trails < b ∧ b < trails + 28 then
    some (a + (b - trails))
  else none

/-- The letters of a syllable. -/
def letters? (n : Nat) : Option (List Nat) :=
  if first ≤ n ∧ n < first + count then
    let i := n - first
    let both := [leads + i / 588, vowels + i % 588 / 28]
    some (if i % 28 = 0 then both else both ++ [trails + i % 28])
  else none

end GraphBrowser.Text.Syllable
