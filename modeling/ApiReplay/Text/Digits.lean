/-!
# Digits

The numbers and the characters that digits write.

## Main definitions

* `Text.hexValue?`, `Text.digit?`, `Text.natural?`: the values of digits and of rows of digits.
* `Text.charOfHex?`: the character of a code in hexadecimal.
* `Text.splitSign`: a sign and what follows it.
-/

namespace ApiReplay.Text

/-- The value of a hexadecimal digit. -/
def hexValue? (c : Char) : Option Nat :=
  if c.isDigit then some (c.toNat - '0'.toNat)
  else if 'a' ≤ c ∧ c ≤ 'f' then some (c.toNat - 'a'.toNat + 10)
  else if 'A' ≤ c ∧ c ≤ 'F' then some (c.toNat - 'A'.toNat + 10)
  else none

/-- The value of a digit to a base up to sixteen. -/
def digit? (base : Nat) (c : Char) : Option Nat :=
  (hexValue? c).filter (· < base)

/-- The number that a text of at least one digit writes to a base. -/
def natural? (base : Nat) (digits : List Char) : Option Nat :=
  if digits.isEmpty then none
  else digits.foldlM (fun n c => (digit? base c).map (base * n + ·)) 0

/-- The character with the code that hexadecimal digits write. -/
def charOfHex? (digits : List Char) : Option Char :=
  match natural? 16 digits with
  | none => none
  | some code => if h : code.isValidChar then some (Char.ofNatAux code h) else none

/-- The sign of a text, true for a minus, and what follows it. -/
def splitSign : List Char → Bool × List Char
  | '-' :: rest => (true, rest)
  | '+' :: rest => (false, rest)
  | text => (false, text)

end ApiReplay.Text
