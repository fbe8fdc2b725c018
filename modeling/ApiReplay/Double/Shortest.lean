import ApiReplay.Double.Basic

/-!
# The shortest decimal that reads back

Every decimal in a certain interval around a double rounds to it: the interval reaches half way to
the two neighbours, its ends included when the mantissa is even. Among the decimals of the interval
`Double.shortest` takes one with the fewest significant digits, of those the nearest to the double,
and at a tie the one with the even last digit. All arithmetic is exact.

## Main definitions

* `Decimal`: a coefficient and a power of ten.
* `Double.shortest`: the decimal described above.
-/

namespace ApiReplay

/-- The number `coefficient * 10 ^ exponent`. -/
structure Decimal where
  coefficient : Nat
  exponent : Int
deriving DecidableEq, Repr

namespace Decimal

/-- Drops trailing zeros of the coefficient, at most `fuel` of them. -/
def strip : Nat → Decimal → Decimal
  | 0, d => d
  | fuel + 1, d =>
    if d.coefficient ≠ 0 ∧ d.coefficient % 10 = 0 then
      strip fuel ⟨d.coefficient / 10, d.exponent + 1⟩
    else d

end Decimal

namespace Double

/-- The interval of magnitudes that round to a double, in quarters of the unit `2 ^ (-1074)`. -/
structure Interval where
  lower : Nat
  value : Nat
  upper : Nat
  /-- Whether the ends belong to the interval. -/
  closed : Bool

/-- The interval of the magnitudes that round to `x`. Below a power of two the neighbour is half
as far away as above it. -/
def interval (x : Double) : Interval :=
  let gap := if x.mantissa = Nat.pow 2 52 ∧ x.exponent ≠ 0 then 1 else 2
  { lower := (4 * x.mantissa - gap) * Nat.pow 2 x.exponent
    value := 4 * x.mantissa * Nat.pow 2 x.exponent
    upper := (4 * x.mantissa + 2) * Nat.pow 2 x.exponent
    closed := x.mantissa % 2 = 0 }

/-- Whether the magnitude `num / den`, in quarters of the unit, lies in the interval. -/
def Interval.contains (i : Interval) (num den : Nat) : Bool :=
  if i.closed then decide (i.lower * den ≤ num ∧ num ≤ i.upper * den)
  else decide (i.lower * den < num ∧ num < i.upper * den)

/-- The multiple of `10 ^ exponent` in the interval that is nearest to the value, if there is one
among the two neighbours of the value. -/
def Interval.onGrid (i : Interval) (exponent : Int) : Option Decimal :=
  let step := Nat.pow 2 1076 * Nat.pow 10 exponent.toNat
  let den := Nat.pow 10 (-exponent).toNat
  let below := i.value * den / step
  let remainder := i.value * den % step
  let hitBelow := below ≠ 0 && i.contains (below * step) den
  let hitAbove := i.contains ((below + 1) * step) den
  let takeBelow :=
    hitBelow && (!hitAbove || 2 * remainder < step || (2 * remainder = step && below % 2 = 0))
  if takeBelow then some ⟨below, exponent⟩
  else if hitAbove then some ⟨below + 1, exponent⟩
  else none

/-- The decimal exponent of the leading digit of a magnitude in quarters of the unit. -/
def leadingExponent (quarters : Nat) : Int :=
  ((Nat.toDigits 10 (quarters * Nat.pow 10 350 / Nat.pow 2 1076)).length : Int) - 351

/-- The grids to search, from one significant digit on. Seventeen digits always suffice. -/
def Interval.search (i : Interval) (leading : Int) : Nat → Nat → Option Decimal
  | 0, _ => none
  | fuel + 1, digits =>
    match i.onGrid (leading - digits) with
    | some decimal => some decimal
    | none => i.search leading fuel (digits + 1)

/-- The shortest decimal magnitude that rounds to `x`. -/
def shortest (x : Double) : Decimal :=
  if x.mantissa = 0 then ⟨0, 0⟩
  else
    let i := x.interval
    ((i.search (leadingExponent i.value) 18 0).getD ⟨0, 0⟩).strip 20

end Double

end ApiReplay
