import ApiReplay.Double.Shortest

/-!
# Numbers of the data model

A number is an integer or a double, and the two kinds stay apart: `1` and `1.0` are different
numbers that are written differently. Comparisons look through the kind: they compare the nearest
doubles (`Number.approx`), so that `1` and `1.0` are equal, and so are two integers beyond `2 ^ 53`
that round to the same double.

## Main definitions

* `Number`: the two kinds.
* `Number.approx`: the value a number is compared by.
* `Number.chars`: the written form, plain from `0.00001` up to below `10 ^ 16` and with an exponent
  outside that range.
-/

namespace ApiReplay

/-- An integer or a double. -/
inductive Number where
  | int (value : Int)
  | double (value : Double)
deriving DecidableEq

/-- A natural number rounded to 53 significant bits, a half going to the even neighbour. -/
def roundToBits (n : Nat) : Nat :=
  let unit := Nat.pow 2 (n.log2 - 52)
  roundHalfEven n unit * unit

/-- The decimal digits of a natural number. -/
def natChars (n : Nat) : List Char :=
  Nat.toDigits 10 n

/-- An integer in decimal, with a sign when it is negative. -/
def intChars : Int → List Char
  | .ofNat n => natChars n
  | .negSucc n => '-' :: natChars (n + 1)

/-- An integer in decimal, as text. -/
def intText (i : Int) : String :=
  String.ofList (intChars i)

/-- A natural number in decimal, as text. -/
def natText (n : Nat) : String :=
  String.ofList (natChars n)

namespace Decimal

/-- The written form of a decimal magnitude. Between `0.00001` and `10 ^ 16` it is positional, with
`.0` behind a whole number; elsewhere one digit stands before the point and the exponent follows,
signed in both directions. -/
def chars (d : Decimal) : List Char :=
  let digits := natChars d.coefficient
  let point := digits.length + d.exponent
  if 0 ≤ d.exponent ∧ point ≤ 16 then
    digits ++ List.replicate d.exponent.toNat '0' ++ ['.', '0']
  else if 0 < point ∧ point ≤ 16 then
    digits.take point.toNat ++ '.' :: digits.drop point.toNat
  else if -5 < point ∧ point ≤ 0 then
    '0' :: '.' :: (List.replicate (-point).toNat '0' ++ digits)
  else
    let fraction := if digits.length = 1 then [] else '.' :: digits.drop 1
    let sign := if 0 < point then ['+'] else []
    digits.take 1 ++ fraction ++ 'e' :: (sign ++ intChars (point - 1))

end Decimal

/-- The written form of a double: the shortest decimal that reads back. -/
def Double.chars (x : Double) : List Char :=
  let magnitude := x.shortest.chars
  if x.negative then '-' :: magnitude else magnitude

namespace Number

/-- The value of the double nearest to the number, in units of `2 ^ (-1074)`. -/
def approx : Number → Int
  | .int i => i.sign * (roundToBits i.natAbs * Nat.pow 2 1074 : Nat)
  | .double x => x.scaled

/-- The written form. -/
def chars : Number → List Char
  | .int i => intChars i
  | .double x => x.chars

/-- The number as a count, when it is an integer that is not negative. -/
def toNat? : Number → Option Nat
  | .int (.ofNat n) => some n
  | _ => none

end Number

end ApiReplay
