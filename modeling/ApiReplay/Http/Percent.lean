import ApiReplay.Text.Digits
import ApiReplay.Text.Utf8

/-!
# Characters in addresses

An address holds few characters as they are; the bytes of all others are written behind percent
signs. Which ones those are depends on the part of the address. In a form, a space is a plus sign.

## Main definitions

* `Http.escapeWhere`: a text with some of its characters escaped.
* `Http.isPathEscaped`, `Http.isQueryEscaped`, `Http.isFragmentEscaped`: the characters that the
  parts of an address do not hold.
* `Http.formText`: a text in a form.
* `Http.unescape`: the bytes that a text with escapes stands for.
-/

namespace ApiReplay.Http

/-- The sign of a number below sixteen. -/
def hexSign (n : Nat) : Char :=
  if n < 10 then Char.ofNat ('0'.toNat + n) else Char.ofNat ('A'.toNat + (n - 10))

/-- A byte behind a percent sign. -/
def escapeByte (b : UInt8) : List Char :=
  ['%', hexSign (b.toNat / 16), hexSign (b.toNat % 16)]

/-- A character with its bytes escaped. -/
def escapeChar (c : Char) : List Char :=
  (String.utf8EncodeChar c).flatMap escapeByte

/-- A text with the characters escaped that satisfy a condition. -/
def escapeWhere (escaped : Char → Bool) (text : List Char) : List Char :=
  text.flatMap fun c => if escaped c then escapeChar c else [c]

/-- Whether a character is a control character or lies beyond ASCII. -/
def isControl (c : Char) : Bool :=
  c.toNat < 0x20 || 0x7F ≤ c.toNat

/-- Whether a fragment does not hold a character. -/
def isFragmentEscaped (c : Char) : Bool :=
  isControl c || " \"<>\x60".toList.contains c

/-- Whether a path does not hold a character. -/
def isPathEscaped (c : Char) : Bool :=
  isFragmentEscaped c || "#?\x7b\x7d".toList.contains c

/-- Whether a query does not hold a character. -/
def isQueryEscaped (c : Char) : Bool :=
  isControl c || " \"#<>'".toList.contains c

/-- Whether a form holds a character as it is. -/
def isFormChar (c : Char) : Bool :=
  c.isAlphanum || "*-._".toList.contains c

/-- A text in a form. -/
def formText (text : List Char) : List Char :=
  text.flatMap fun c =>
    if c = ' ' then ['+'] else if isFormChar c then [c] else escapeChar c

/-- A name and a value in a form. -/
def formPair (pair : String × String) : List Char :=
  formText pair.1.toList ++ '=' :: formText pair.2.toList

/-- The bytes that a text with escapes stands for. -/
def unescape : List Char → List UInt8
  | '%' :: a :: b :: rest =>
    match Text.hexValue? a, Text.hexValue? b with
    | some high, some low => UInt8.ofNat (16 * high + low) :: unescape rest
    | _, _ => String.utf8EncodeChar '%' ++ unescape (a :: b :: rest)
  | c :: rest => String.utf8EncodeChar c ++ unescape rest
  | [] => []
termination_by text => text.length

end ApiReplay.Http
