/-!
# Sets of code points

Properties of characters are held by runs of code points.

## Main definitions

* `Text.CodePoints` — a set of code points, as runs
* `Text.CodePoints.has` — whether a character is in a set
* `Text.codePoint` — the code point that hexadecimal digits stand for
-/

namespace GraphBrowser.Text

/-- A set of code points: the first and the last one of each run, in ascending order. -/
abbrev CodePoints := Array (Nat × Nat)

/-- Whether the character is in the set. -/
def CodePoints.has (points : CodePoints) (c : Char) : Bool :=
  points.any fun run => run.1 ≤ c.toNat && c.toNat ≤ run.2

/-- The code point that hexadecimal digits in upper case stand for. -/
def codePoint (digits : List Char) : Nat :=
  digits.foldl (fun n c => n * 16 + if c.isDigit then c.toNat - 0x30 else c.toNat - 0x37) 0

end GraphBrowser.Text
