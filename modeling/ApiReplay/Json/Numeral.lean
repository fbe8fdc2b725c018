import ApiReplay.Json.Basic

/-!
# Reading numerals of data texts

A numeral is split into its parts (`Numeral`) and then valued (`Numeral.value?`). A whole numeral
that fits 64 bits is an integer; `-0` and everything else is a double. The double is found from at
most 64 bits of significand, the digits behind them being dropped, by one product or quotient with
a power of ten, so the last digit of a long numeral need not be the nearest. A numeral beyond the
largest double has no value.

## Main definitions

* `Numeral`: sign, whole digits, fraction digits and exponent.
* `Numeral.scan?`: the numeral at the head of a text and what follows it.
* `Numeral.value?`: the number it stands for.
-/

namespace ApiReplay.Json

/-- The value of a decimal digit. -/
def digitValue (c : Char) : Nat :=
  c.toNat - '0'.toNat

/-- The number written by a list of decimal digits. -/
def digitsValue (digits : List Char) : Nat :=
  digits.foldl (fun n c => 10 * n + digitValue c) 0

/-- The parts of a numeral. -/
structure Numeral where
  negative : Bool
  whole : List Char
  /-- The digits behind the point, when there is a point. -/
  fraction : Option (List Char)
  /-- The sign and the digits of the exponent, when there is one. -/
  exponent : Option (Bool × List Char)

namespace Numeral

/-- The exponent part at the head of a text. -/
def scanExponent? : List Char → Option (Option (Bool × List Char) × List Char)
  | [] => some (none, [])
  | c :: rest =>
    if c = 'e' ∨ c = 'E' then
      let (negative, rest) := match rest with
        | '+' :: more => (false, more)
        | '-' :: more => (true, more)
        | _ => (false, rest)
      match rest.takeWhile Char.isDigit with
      | [] => none
      | digits => some (some (negative, digits), rest.dropWhile Char.isDigit)
    else some (none, c :: rest)

/-- The fraction part at the head of a text. -/
def scanFraction? : List Char → Option (Option (List Char) × List Char)
  | '.' :: rest =>
    match rest.takeWhile Char.isDigit with
    | [] => none
    | digits => some (some digits, rest.dropWhile Char.isDigit)
  | text => some (none, text)

/-- The numeral at the head of a text, and the text behind it. A whole part of several digits does
not start with a zero. -/
def scan? (text : List Char) : Option (Numeral × List Char) := do
  let (negative, text) := match text with
    | '-' :: rest => (true, rest)
    | _ => (false, text)
  let whole := text.takeWhile Char.isDigit
  if whole.isEmpty ∨ (whole.head? = some '0' ∧ whole.length ≠ 1) then none
  else
    let (fraction, text) ← scanFraction? (text.dropWhile Char.isDigit)
    let (exponent, text) ← scanExponent? text
    some (⟨negative, whole, fraction, exponent⟩, text)

/-- The greatest significand that is kept. -/
def significandMax : Nat := Nat.pow 2 64 - 1

/-- Appends digits to a significand up to the first that does not fit; the result tells the
significand and the digits that were left. -/
def accumulate (significand : Nat) : List Char → Nat × List Char
  | [] => (significand, [])
  | c :: rest =>
    let next := 10 * significand + digitValue c
    if next ≤ significandMax then accumulate next rest else (significand, c :: rest)

/-- The power of ten as a double; it is exact enough for exponents up to 308. -/
def powerOfTen (exponent : Nat) : Double :=
  (Double.ofNat? (Nat.pow 10 exponent)).getD default

/-- A double multiplied by a power of ten, in steps of at most `10 ^ 308`. -/
def scale? (x : Double) (exponent : Int) : Option Double :=
  if 308 < exponent then if x.isZero then some x else none
  else if 0 ≤ exponent then x.mul? (powerOfTen exponent.toNat)
  else if -308 ≤ exponent then x.div? (powerOfTen (-exponent).toNat)
  else if x.isZero then some x
  else do scale? (← x.div? (powerOfTen 308)) (exponent + 308)
termination_by (-exponent).toNat

/-- The exponent as a number. Exponents that do not fit 31 bits are all beyond any double. -/
def exponentValue : Option (Bool × List Char) → Int
  | none => 0
  | some (negative, digits) =>
    let magnitude : Int := (min (digitsValue digits) (Nat.pow 2 31) : Nat)
    if negative then -magnitude else magnitude

/-- The number that a numeral stands for; none when it is beyond the largest double. -/
def value? (n : Numeral) : Option Number := do
  let (significand, dropped) := accumulate 0 n.whole
  if dropped.isEmpty ∧ n.fraction.isNone ∧ n.exponent.isNone
      ∧ (n.negative → 0 < significand ∧ significand ≤ Nat.pow 2 63) then
    some (.int (if n.negative then -significand else significand))
  else
    let digits := n.fraction.getD []
    let (significand, unread) := accumulate significand digits
    let shift : Int := dropped.length - (digits.length - unread.length : Nat)
    let x ← scale? (← Double.ofNat? significand) (shift + exponentValue n.exponent)
    some (.double (if n.negative then x.neg else x))

end Numeral

end ApiReplay.Json
