/-!
# Base 64

Three bytes are written as four signs of six bits each; what is missing from the last three bytes is
filled with equals signs.

## Main definitions

* `Text.base64`: the written form of a list of bytes.
-/

namespace ApiReplay.Text

/-- The sign of a number below 64. -/
def base64Sign (n : Nat) : Char :=
  if n < 26 then Char.ofNat ('A'.toNat + n)
  else if n < 52 then Char.ofNat ('a'.toNat + (n - 26))
  else if n < 62 then Char.ofNat ('0'.toNat + (n - 52))
  else if n = 62 then '+' else '/'

/-- The written form of a list of bytes. -/
def base64 : List UInt8 → List Char
  | a :: b :: c :: rest =>
    let n := (a.toNat * 256 + b.toNat) * 256 + c.toNat
    base64Sign (n / 262144) :: base64Sign (n / 4096 % 64) :: base64Sign (n / 64 % 64)
      :: base64Sign (n % 64) :: base64 rest
  | [a, b] =>
    let n := (a.toNat * 256 + b.toNat) * 4
    [base64Sign (n / 4096), base64Sign (n / 64 % 64), base64Sign (n % 64), '=']
  | [a] =>
    let n := a.toNat * 16
    [base64Sign (n / 64), base64Sign (n % 64), '=', '=']
  | [] => []

end ApiReplay.Text
