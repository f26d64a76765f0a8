/-!
# Double precision numbers

A finite number of the binary format with 64 bits, as an integer multiple of a power of two, and
the rounding of a decimal to it.

## Main definitions

* `Binary64` — a signed number, its significand and its exponent
* `Binary64.ofRatio?` — the nearest number to a ratio, a tie going to the even significand
* `Binary64.ofDecimal?` — the nearest number to a decimal

## Design notes

**All arithmetic is on natural numbers**, so that what a number is never depends on the floating
point operations of the machine. **A number that rounds past the largest one has no value**; one
that rounds below the smallest is a signed zero.
-/

namespace GraphBrowser

/-- The number `significand · 2 ^ exponent`, negated if `negative`. The significand has at most 53
bits and the exponent lies between -1074 and 971; a significand below `2 ^ 52` has the least
exponent. -/
structure Binary64 where
  /-- Whether the sign bit is set. -/
  negative : Bool
  /-- The integer part of the representation. -/
  significand : Nat
  /-- The power of two that the significand counts. -/
  exponent : Int
deriving Repr, DecidableEq

/-- A power of two. -/
abbrev pow2 (exponent : Nat) : Nat := Nat.pow 2 exponent

/-- A power of ten. -/
abbrev pow10 (exponent : Nat) : Nat := Nat.pow 10 exponent

namespace Binary64

/-- The zero of a sign. -/
def zero (negative : Bool) : Binary64 := ⟨negative, 0, -1074⟩

/-- The least exponent, that of the numbers near zero. -/
def minExponent : Int := -1074

/-- The greatest exponent. -/
def maxExponent : Int := 971

/-- The integer nearest to `num / den`; of two equally near ones the even. -/
def roundHalfEven (num den : Nat) : Nat :=
  let quotient := num / den
  let twice := 2 * (num % den)
  if twice < den then quotient
  else if den < twice then quotient + 1
  else quotient + quotient % 2

/-- The ratio `num / den` in units of `2 ^ exponent`, as a ratio again. -/
def inUnits (num den : Nat) (exponent : Int) : Nat × Nat :=
  match exponent with
  | .ofNat e => (num, den * pow2 e)
  | .negSucc e => (num * pow2 (e + 1), den)

/-- The number nearest to `num / den`, for a positive ratio, or `none` if that is too large. -/
def ofRatio? (negative : Bool) (num den : Nat) : Option Binary64 :=
  let guess := max minExponent ((num.log2 : Int) - (den.log2 : Int) - 53)
  let rough := inUnits num den guess
  let exponent := if pow2 53 ≤ rough.1 / rough.2 then guess + 1 else guess
  let exact := inUnits num den exponent
  let significand := roundHalfEven exact.1 exact.2
  let number :=
    if significand = pow2 53 then ⟨negative, pow2 52, exponent + 1⟩
    else ⟨negative, significand, exponent⟩
  if maxExponent < number.exponent then none else some number

/-- The number of decimal digits of a natural number, 1 for zero. -/
def digitCount (n : Nat) : Nat := (Nat.toDigits 10 n).length

/-- The number nearest to `digits · 10 ^ scale`, or `none` if that is too large. A scale far outside
the range of the format is decided without the power. -/
def ofDecimal? (negative : Bool) (digits : Nat) (scale : Int) : Option Binary64 :=
  if digits = 0 then some (zero negative)
  else
    let magnitude := (digitCount digits : Int) + scale
    if 310 < magnitude then none
    else if magnitude < -330 then some (zero negative)
    else
      match scale with
      | .ofNat s => ofRatio? negative (digits * pow10 s) 1
      | .negSucc s => ofRatio? negative digits (pow10 (s + 1))

end Binary64

end GraphBrowser
