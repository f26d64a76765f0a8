/-!
# Labels written in ASCII

A label with other letters can be written in ASCII: first its ASCII characters, then, after a
hyphen, digits that say which other characters are put in, and where.

## Main definitions

* `Punycode.Reading` — what has been read of the digits
* `Punycode.Reading.digit?` — the reading after one more digit
* `Punycode.decode?` — the label that is written

## Design notes

**Characters are put in by ascending code point.** A number counts the places that are passed over
before the next one is put in: all places of the label for one code point, then all for the next.
Numbers are written in base 36 with the lowest digit first, and a digit below a threshold ends the
number. The threshold follows the size of the numbers, by way of a bias.
-/

namespace GraphBrowser.Punycode

/-- The value of a digit: the letters, then the decimal digits. -/
def digitValue? (c : Char) : Option Nat :=
  if 'a' ≤ c ∧ c ≤ 'z' then some (c.toNat - 'a'.toNat)
  else if '0' ≤ c ∧ c ≤ '9' then some (c.toNat - '0'.toNat + 26)
  else none

/-- The bound of all numbers. -/
def bound : Nat := Nat.pow 2 32

/-- What has been read of the digits of a label. -/
structure Reading where
  /-- The label with the characters that have been put in. -/
  label : List Char
  /-- The code point that is put in next. -/
  point : Nat := 128
  /-- The place in the label from which places are counted. -/
  start : Nat := 0
  /-- The number that has been read so far, `start` included. -/
  sum : Nat := 0
  /-- What the next digit counts. -/
  weight : Nat := 1
  /-- The place of the next digit in its number, in steps of 36. -/
  place : Nat := 36
  /-- The bias of the thresholds. -/
  bias : Nat := 72
deriving Repr, DecidableEq

/-- The threshold below which a digit ends its number. -/
def threshold (place bias : Nat) : Nat :=
  if place ≤ bias then 1 else if bias + 26 ≤ place then 26 else place - bias

/-- The bias for a number of the given size, after it has been divided often enough. -/
def biasOf (size place : Nat) : Nat :=
  if 455 < size then biasOf (size / 35) (place + 36) else place + 36 * size / (size + 38)
termination_by size
decreasing_by exact Nat.div_lt_self (by omega) (by omega)

/-- The bias after a number that was read for a label of the given length. -/
def nextBias (number length : Nat) (isFirst : Bool) : Nat :=
  let size := if isFirst then number / 700 else number / 2
  biasOf (size + size / length) 0

namespace Reading

/-- Puts in the character that the number stands for. -/
def put? (reading : Reading) : Option Reading :=
  let length := reading.label.length + 1
  let point := reading.point + reading.sum / length
  let place := reading.sum % length
  if point.isValidChar then
    some {
      label := reading.label.take place ++ Char.ofNat point :: reading.label.drop place
      point, start := place + 1, sum := place + 1
      bias := nextBias (reading.sum - reading.start) length (reading.start == 0) }
  else none

/-- The reading after one more digit. -/
def digit? (reading : Reading) (digit : Nat) : Option Reading :=
  let sum := reading.sum + digit * reading.weight
  let threshold := threshold reading.place reading.bias
  let weight := reading.weight * (36 - threshold)
  if bound ≤ sum then none
  else if digit < threshold then { reading with sum }.put?
  else if bound ≤ weight then none
  else some { reading with sum, weight, place := reading.place + 36 }

/-- The reading after all digits, if the last one ends a number. -/
def digits? (reading : Reading) : List Char → Option Reading
  | [] => if reading.place = 36 then some reading else none
  | c :: cs =>
    match digitValue? c with
    | none => none
    | some value =>
      match reading.digit? value with
      | none => none
      | some reading => reading.digits? cs

end Reading

/-- The ASCII characters of a written label, and the digits after the last hyphen. A hyphen in front
of all digits is no separator. -/
def separate (written : List Char) : List Char × List Char :=
  let digits := (written.reverse.takeWhile (· != '-')).reverse
  let plain := (written.reverse.dropWhile (· != '-')).reverse.dropLast
  if plain.isEmpty then ([], written) else (plain, digits)

/-- The label that is written in lower case. -/
def decode? (written : List Char) : Option (List Char) :=
  let (plain, digits) := separate written
  (({ label := plain } : Reading).digits? digits).map (·.label)

end GraphBrowser.Punycode
