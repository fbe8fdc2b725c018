import ApiReplay.Http.Percent
import ApiReplay.Number

/-!
# Hosts

A host is a name, four numbers, or eight numbers between brackets. A name whose last part is a
number has to be the first kind of numbers, which may be written in fewer parts and to other bases.

## Main definitions

* `Http.hostName?`: the canonical text of a name or of four numbers.
* `Http.bracketHost?`: the canonical text of eight numbers.
-/

namespace ApiReplay.Http

/-! ### Four numbers -/

/-- The number that a part of a name writes, to base ten, eight or sixteen. -/
def hostNumber? (part : List Char) : Option Nat :=
  match part with
  | [] => none
  | '0' :: x :: digits =>
    if x = 'x' ∨ x = 'X' then if digits.isEmpty then some 0 else Text.natural? 16 digits
    else Text.natural? 8 (x :: digits)
  | digits => Text.natural? 10 digits

/-- The parts of a name, without an empty one behind the last dot. -/
def hostParts (name : List Char) : List (List Char) :=
  let parts := name.splitOn '.'
  if 1 < parts.length ∧ parts.getLast? = some [] then parts.dropLast else parts

/-- Whether the last part of a name is a number, so that all of it has to be one. -/
def endsInNumber (name : List Char) : Bool :=
  match (hostParts name).getLast? with
  | none | some [] => false
  | some part =>
    part.all Char.isDigit ||
      (("0x".toList.isPrefixOf part || "0X".toList.isPrefixOf part) && (hostNumber? part).isSome)

/-- The number that several numbers make up: one byte for each but the last, which fills the
rest. -/
def joinNumbers? (numbers : List Nat) : Option Nat :=
  match numbers.getLast? with
  | none => none
  | some last =>
    let front := numbers.dropLast
    if numbers.length ≤ 4 ∧ front.all (· < 256) ∧ last < Nat.pow 256 (4 - front.length) then
      some (front.foldl (fun n part => n * 256 + part) 0 * Nat.pow 256 (4 - front.length) + last)
    else none

/-- The four bytes of a number with dots between them. -/
def fourNumbers (n : Nat) : List Char :=
  let byte := fun (k : Nat) => natChars (n / Nat.pow 256 k % 256)
  byte 3 ++ '.' :: (byte 2 ++ '.' :: (byte 1 ++ '.' :: byte 0))

/-! ### Names -/

/-- Whether a name does not hold a character. -/
def isHostForbidden (c : Char) : Bool :=
  c.toNat ≤ 0x20 || 0x7F ≤ c.toNat || "#/:<>?@[\\]^|%".toList.contains c

/-- The canonical text of a name or of four numbers; letters are small. -/
def hostName? (text : List Char) : Option (List Char) :=
  match Text.decode? (unescape text) with
  | none => none
  | some decoded =>
    let name := decoded.toList.map Char.toLower
    if name.isEmpty ∨ name.any isHostForbidden then none
    else if endsInNumber name then
      (((hostParts name).mapM hostNumber?).bind joinNumbers?).map fourNumbers
    else some name

/-! ### Eight numbers -/

/-- The number of up to four hexadecimal digits. -/
def group? (digits : List Char) : Option Nat :=
  if digits.length ≤ 4 then Text.natural? 16 digits else none

/-- The two numbers that four numbers with dots stand for. -/
def dottedGroups? (part : List Char) : Option (List Nat) := do
  let bytes ← (part.splitOn '.').mapM fun digits =>
    if digits.head? = some '0' ∧ digits.length ≠ 1 then none
    else (Text.natural? 10 digits).filter (· < 256)
  match bytes with
  | [a, b, c, d] => some [a * 256 + b, c * 256 + d]
  | _ => none

/-- The numbers of a row with colons between them, of which the last may have dots. -/
def groups? (row : List Char) : Option (List Nat) :=
  if row.isEmpty then some []
  else
    let parts := row.splitOn ':'
    match parts.getLast? with
    | none => none
    | some last => do
      let front ← parts.dropLast.mapM group?
      let back ← if last.contains '.' then dottedGroups? last else (group? last).map ([·])
      some (front ++ back)

/-- The parts of a text in front of and behind its first two colons in a row. -/
def splitGap? : List Char → Option (List Char × List Char)
  | ':' :: ':' :: rest => some ([], rest)
  | c :: rest => (splitGap? rest).map fun (front, back) => (c :: front, back)
  | [] => none

/-- The eight numbers of an address. Two colons in a row stand for at least one zero. -/
def eightNumbers? (text : List Char) : Option (List Nat) :=
  match splitGap? text with
  | none => (groups? text).filter (·.length = 8)
  | some (front, back) => do
    let front ← groups? front
    let back ← groups? back
    let given := front.length + back.length
    if given < 8 then some (front ++ List.replicate (8 - given) 0 ++ back) else none

/-- The longest row of zeros that a list holds, the first of several: its position and length. -/
def longestZeros : List Nat → Nat × Nat
  | [] => (0, 0)
  | n :: rest =>
    let (start, length) := longestZeros rest
    let here := ((n :: rest).takeWhile (· = 0)).length
    if 0 < here ∧ length ≤ here then (0, here) else (start + 1, length)

/-- Numbers in hexadecimal with colons between them. -/
def groupsText (groups : List Nat) : List Char :=
  [':'].intercalate (groups.map (Nat.toDigits 16))

/-- The canonical text of eight numbers between brackets: small digits, and two colons in place of
the longest row of at least two zeros. -/
def bracketHost? (text : List Char) : Option (List Char) :=
  (eightNumbers? text).map fun groups =>
    let (start, length) := longestZeros groups
    let inner := if length < 2 then groupsText groups
      else groupsText (groups.take start) ++ [':', ':'] ++ groupsText (groups.drop (start + length))
    '[' :: inner ++ [']']

end ApiReplay.Http
