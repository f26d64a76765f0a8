import GraphBrowser.Text.CombiningClass
import GraphBrowser.Text.Composite
import GraphBrowser.Text.Syllable

/-!
# The composed form of a text

Texts that are written with different characters may be canonically equivalent: they look and mean
the same. Of all equivalent texts one is the composed form.

## Main definitions

* `Text.decompose` — a text with all composite characters taken apart
* `Text.inClassOrder` — a text with the marks of each letter in the order of their classes
* `Text.composed` — the composed form of a text

## Design notes

**Composing starts from the parts.** A text is taken apart, its marks are put in order, and then
each mark is joined with the letter before it, unless another mark of its class, or of a higher one,
stands between them.
-/

namespace GraphBrowser.Text

/-- What two characters make together. -/
def joined? (a b : Char) : Option Char :=
  match Syllable.join? a.toNat b.toNat with
  | some n => some (Char.ofNat n)
  | none =>
    let isWhole (composite : Composite) : Bool :=
      composite.first == a.toNat && composite.second == b.toNat
    (composites.find? isWhole).map fun composite => Char.ofNat composite.whole

/-- The parts of a character, taken apart at most `depth` times. -/
def partsOf : Nat → Nat → List Nat
  | 0, n => [n]
  | depth + 1, n =>
    match Syllable.letters? n with
    | some letters => letters
    | none =>
      match composites.find? (·.whole == n) with
      | some composite => partsOf depth composite.first ++ [composite.second]
      | none => [n]

/-- A text with all composite characters taken apart. No composite has more than four parts. -/
def decompose (cs : List Char) : List Char :=
  cs.flatMap fun c => (partsOf 4 c.toNat).map Char.ofNat

/-- Puts a mark behind those of lower classes that follow it, up to the next letter. -/
def insertMark (mark : Char) : List Char → List Char
  | [] => [mark]
  | c :: cs =>
    if combiningClass c ≠ 0 ∧ combiningClass c < combiningClass mark then c :: insertMark mark cs
    else mark :: c :: cs

/-- A text with the marks after each letter in the order of their classes. Marks of one class keep
their order. -/
def inClassOrder : List Char → List Char
  | [] => []
  | c :: cs => if combiningClass c = 0 then c :: inClassOrder cs else insertMark c (inClassOrder cs)

/-- Joins what follows a letter with it. The marks between that could not be joined are given. -/
def composeAfter (letter : Char) (between : List Char) : List Char → List Char
  | [] => letter :: between
  | c :: cs =>
    let isApart := between.any fun mark => combiningClass c ≤ combiningClass mark
    match if isApart then none else joined? letter c with
    | some whole => composeAfter whole between cs
    | none =>
      if combiningClass c = 0 then (letter :: between) ++ composeAfter c [] cs
      else composeAfter letter (between ++ [c]) cs

/-- Joins the marks of each letter with it. Marks before the first letter stay. -/
def compose : List Char → List Char
  | [] => []
  | c :: cs => if combiningClass c = 0 then composeAfter c [] cs else c :: compose cs

/-- The composed form of a text. -/
def composed (cs : List Char) : List Char :=
  compose (inClassOrder (decompose cs))

end GraphBrowser.Text
