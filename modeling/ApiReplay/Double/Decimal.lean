import ApiReplay.Double.Basic
import ApiReplay.Text.Digits

/-!
# Doubles written in decimal

## Main definitions

* `Double.ofDecimal?`: the double nearest to a decimal.
* `Double.parse?`: the double that a text writes with digits, a point and an exponent.
-/

namespace ApiReplay.Double

/-- The double nearest to a coefficient with a number of digits times a power of ten; none when it
lies beyond the largest. Exponents that lie beyond the range of doubles are cut off. -/
def ofDecimal? (negative : Bool) (coefficient digits : Nat) (exponent : Int) : Option Double :=
  if coefficient = 0 ∨ exponent < -(400 + digits : Nat) then some (zero negative)
  else if 400 < exponent then none
  else if 0 ≤ exponent then ofRatio? negative (coefficient * Nat.pow 10 exponent.toNat) 1
  else ofRatio? negative coefficient (Nat.pow 10 (-exponent).toNat)

/-- The number of an exponent, when a text is one or is empty. -/
def exponent? : List Char → Option Int
  | [] => some 0
  | e :: rest =>
    if e = 'e' ∨ e = 'E' then
      let (negative, digits) := Text.splitSign rest
      (Text.natural? 10 digits).map fun n => if negative then -n else n
    else none

/-- The double that a text writes in decimal: a sign, digits with a point among, in front of or
behind them, and an exponent. -/
def parse? (text : List Char) : Option Double := do
  let (negative, magnitude) := Text.splitSign text
  let whole := magnitude.takeWhile Char.isDigit
  let rest := magnitude.dropWhile Char.isDigit
  let (fraction, rest) := match rest with
    | '.' :: more => (more.takeWhile Char.isDigit, more.dropWhile Char.isDigit)
    | _ => ([], rest)
  let digits := whole ++ fraction
  let coefficient ← Text.natural? 10 digits
  ofDecimal? negative coefficient digits.length ((← exponent? rest) - fraction.length)

end ApiReplay.Double
