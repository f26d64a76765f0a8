import GraphBrowser.Decimal.Binary64

/-!
# The shortest decimal of a double

A double is written with the fewest digits that read back as the same double; of several such
decimals the one nearest to it is taken, and of two equally near ones the one with an even last
digit.

## Main definitions

* `Decimal` — digits and the power of ten that they count
* `Binary64.shortest` — the shortest decimal that rounds to a double
* `Decimal.text` — plain notation near one, and notation with an exponent elsewhere

## Design notes

**The decimals that round to a double fill an interval**, half a unit to each side of it and half of
that below a power of two; its ends belong to it if the significand is even. On the grid of the
decimals with a given number of digits only the two neighbours of the double have to be looked at.
Everything is compared as fractions over one denominator.
-/

namespace GraphBrowser

/-- The number `digits · 10 ^ scale`. -/
structure Decimal where
  /-- The digits as a natural number. -/
  digits : Nat
  /-- The power of ten that the digits count. -/
  scale : Int
deriving Repr, DecidableEq

namespace Binary64

/-- A double and the reals that round to it: the double is `value / unit`, and they reach from
`(value - below) / unit` to `(value + above) / unit`. -/
structure Neighbourhood where
  /-- The double in units. -/
  value : Nat
  /-- How far the interval reaches down. -/
  below : Nat
  /-- How far the interval reaches up. -/
  above : Nat
  /-- The common denominator. -/
  unit : Nat
  /-- Whether the ends belong to the interval. -/
  closed : Bool

/-- The neighbourhood of the absolute value of a double. -/
def neighbourhood (x : Binary64) : Neighbourhood :=
  let below := if x.significand = pow2 52 ∧ minExponent < x.exponent then 1 else 2
  let closed := x.significand % 2 == 0
  match x.exponent with
  | .ofNat e => ⟨4 * x.significand * pow2 e, below * pow2 e, 2 * pow2 e, 4, closed⟩
  | .negSucc e => ⟨4 * x.significand, below, 2, 4 * pow2 (e + 1), closed⟩

/-- The greatest `e` with `10 ^ e ≤ num / den`, for a positive ratio. -/
def decimalExponent (num den : Nat) : Int :=
  let guess := (digitCount num : Int) - (digitCount den : Int)
  let reached : Bool :=
    match guess with
    | .ofNat e => den * pow10 e ≤ num
    | .negSucc e => den ≤ num * pow10 (e + 1)
  if reached then guess else guess - 1

/-- The distance of two natural numbers. -/
def distance (a b : Nat) : Nat := (a - b) + (b - a)

/-- The decimal nearest to the double among those that count `10 ^ scale` and round to it; a tie
goes to the even one. -/
def Neighbourhood.onGrid? (n : Neighbourhood) (scale : Int) : Option Decimal :=
  let (value, below, above, step) :=
    match scale with
    | .ofNat s => (n.value, n.below, n.above, n.unit * pow10 s)
    | .negSucc s =>
      (n.value * pow10 (s + 1), n.below * pow10 (s + 1), n.above * pow10 (s + 1), n.unit)
  let inside (candidate : Nat) : Bool :=
    let point := candidate * step
    if n.closed then value ≤ point + below && point ≤ value + above
    else value < point + below && point < value + above
  let low := value / step
  let high := low + 1
  let toLow := distance (low * step) value
  let toHigh := distance (high * step) value
  let nearer :=
    if toLow < toHigh then low else if toHigh < toLow then high else low + low % 2
  let farther := low + high - nearer
  if inside nearer then some ⟨nearer, scale⟩
  else if inside farther then some ⟨farther, scale⟩
  else none

/-- The first hit on the grids of `count`, `count + 1`, … digits, `fuel` of them. -/
def Neighbourhood.firstHit (n : Neighbourhood) (exponent : Int) : Nat → Nat → Option Decimal
  | 0, _ => none
  | fuel + 1, count =>
    match n.onGrid? (exponent - count + 1) with
    | some decimal => some decimal
    | none => n.firstHit exponent fuel (count + 1)

end Binary64

/-- The decimal without the zeros at the end of its digits, `fuel` of them at most. -/
def Decimal.stripZeros : Nat → Decimal → Decimal
  | 0, d => d
  | fuel + 1, d =>
    if d.digits ≠ 0 ∧ d.digits % 10 = 0 then stripZeros fuel ⟨d.digits / 10, d.scale + 1⟩ else d

/-- The shortest decimal that rounds to the absolute value of a double. Seventeen digits always
suffice. -/
def Binary64.shortest (x : Binary64) : Decimal :=
  if x.significand = 0 then ⟨0, 0⟩
  else
    let n := x.neighbourhood
    match n.firstHit (decimalExponent n.value n.unit) 17 1 with
    | some decimal => decimal.stripZeros 17
    | none => ⟨0, 0⟩

namespace Decimal

/-- A run of zeros. -/
def zeros (count : Nat) : List Char := List.replicate count '0'

/-- The exponent of the first digit. -/
def leadingExponent (d : Decimal) : Int :=
  (Binary64.digitCount d.digits : Int) - 1 + d.scale

/-- Where plain notation is used: `first ≤ e ≤ last` for the exponent `e` of the first digit. -/
structure PlainRange where
  /-- The least exponent written plainly. -/
  first : Int
  /-- The greatest exponent written plainly. -/
  last : Int

/-- Numbers from a hundred thousandth to below ten quadrillion are written plainly. -/
def PlainRange.json : PlainRange := ⟨-5, 15⟩

/-- The decimal in plain notation, with at least one digit on each side of the point. -/
def plain (d : Decimal) : List Char :=
  let digits := Nat.toDigits 10 d.digits
  match d.scale with
  | .ofNat s => digits ++ zeros s ++ ['.', '0']
  | .negSucc s =>
    let places := s + 1
    if places < digits.length then
      digits.take (digits.length - places) ++ '.' :: digits.drop (digits.length - places)
    else ['0', '.'] ++ zeros (places - digits.length) ++ digits

/-- The decimal with one digit before the point and a signed exponent. -/
def scientific (d : Decimal) : List Char :=
  let exponent := d.leadingExponent
  let mantissa :=
    match Nat.toDigits 10 d.digits with
    | [] => []
    | [digit] => [digit]
    | digit :: rest => digit :: '.' :: rest
  mantissa ++ ['e', if exponent < 0 then '-' else '+'] ++ Nat.toDigits 10 exponent.natAbs

/-- The decimal in the notation that its size asks for. -/
def text (range : PlainRange) (d : Decimal) : List Char :=
  let exponent := d.leadingExponent
  if d.digits = 0 ∨ (range.first ≤ exponent ∧ exponent ≤ range.last) then d.plain
  else d.scientific

end Decimal

/-- A double as it is written in JSON: its sign and its shortest decimal. -/
def Binary64.text (x : Binary64) : String :=
  String.ofList ((if x.negative then ['-'] else []) ++ x.shortest.text .json)

end GraphBrowser
