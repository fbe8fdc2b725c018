/-!
# Finite binary floating-point numbers

A `Double` is a sign, a mantissa of at most 53 bits and an exponent; its value is
`± mantissa * 2 ^ exponent` in units of `2 ^ (-1074)`, the smallest positive number of the format.
The canonicity field makes the representation unique, so two doubles are the same value exactly
when they are equal, the two zeros apart, and leaves no room for an infinity.

Numbers enter the type by rounding an exact quotient to the nearest double, a half going to the
even mantissa (`Double.ofRatio?`). A quotient that lies beyond the largest double has no result.

## Main definitions

* `Double`, `Double.IsCanonical`: the format.
* `Double.units`, `Double.scaled`: the magnitude and the value in units of `2 ^ (-1074)`.
* `Double.ofRatio?`: rounding of a quotient; `Double.mul?` and `Double.div?` are the product and
  the quotient of two doubles, rounded once.
-/

namespace ApiReplay

/-- The quotient `num / den` rounded to a natural number, a half going to the even neighbour. -/
def roundHalfEven (num den : Nat) : Nat :=
  let quotient := num / den
  let remainder := num % den
  if 2 * remainder < den then quotient
  else if den < 2 * remainder then quotient + 1
  else quotient + quotient % 2

/-- A mantissa and an exponent are *canonical* when the mantissa has at most 53 bits, the exponent
stays in the range of the format, and only the smallest exponent has mantissas below `2 ^ 52`. -/
def Double.IsCanonical (mantissa exponent : Nat) : Prop :=
  mantissa < Nat.pow 2 53 ∧ exponent ≤ 2045 ∧ (exponent = 0 ∨ Nat.pow 2 52 ≤ mantissa)

instance (mantissa exponent : Nat) : Decidable (Double.IsCanonical mantissa exponent) :=
  inferInstanceAs (Decidable (_ ∧ _ ∧ _))

/-- A finite double-precision number. -/
structure Double where
  /-- The sign; a zero has one too. -/
  negative : Bool
  /-- The significand. -/
  mantissa : Nat
  /-- The power of two the significand is multiplied by, in units of `2 ^ (-1074)`. -/
  exponent : Nat
  /-- Each value has one representation. -/
  canonical : Double.IsCanonical mantissa exponent
deriving DecidableEq

namespace Double

/-- Zero, of either sign. -/
def zero (negative : Bool) : Double :=
  ⟨negative, 0, 0, by decide⟩

instance : Inhabited Double := ⟨zero false⟩

/-- The magnitude in units of `2 ^ (-1074)`. -/
def units (x : Double) : Nat :=
  x.mantissa * Nat.pow 2 x.exponent

/-- The value in units of `2 ^ (-1074)`. -/
def scaled (x : Double) : Int :=
  if x.negative then -(x.units : Int) else x.units

/-- The double nearest to `num / den`, with the given sign; none when it lies beyond the largest
double. -/
def ofRatio? (negative : Bool) (num den : Nat) : Option Double :=
  let units := num * Nat.pow 2 1074
  let exponent := (units / den).log2 - 52
  let mantissa := roundHalfEven units (den * Nat.pow 2 exponent)
  let (mantissa, exponent) :=
    if mantissa = Nat.pow 2 53 then (Nat.pow 2 52, exponent + 1) else (mantissa, exponent)
  if canonical : IsCanonical mantissa exponent then
    some ⟨negative, mantissa, exponent, canonical⟩
  else none

/-- The double nearest to a natural number. -/
def ofNat? (n : Nat) : Option Double :=
  ofRatio? false n 1

/-- The number with the other sign. -/
def neg (x : Double) : Double :=
  { x with negative := !x.negative }

/-- The product, rounded once; none when it lies beyond the largest double. -/
def mul? (x y : Double) : Option Double :=
  ofRatio? (x.negative != y.negative) (x.units * y.units) (Nat.pow 2 1074 * Nat.pow 2 1074)

/-- The quotient by a number other than zero, rounded once. -/
def div? (x y : Double) : Option Double :=
  ofRatio? (x.negative != y.negative) x.units y.units

/-- Whether the number is a zero of either sign. -/
def isZero (x : Double) : Bool :=
  x.mantissa == 0

end Double

end ApiReplay
