import ApiReplay.Double.Decimal
import ApiReplay.Integer
import ApiReplay.Toml.Basic

/-!
# Scalars of configuration texts

A fault is told by its place, the number of characters that are left from there. A form that a text
does not start with is none; a form that starts and goes wrong is a fault.

## Main definitions

* `Toml.readString`: strings between quotes, on one line or on several.
* `Toml.readDate`, `Toml.readDouble`, `Toml.readInteger`: dates and numbers.
-/

namespace ApiReplay.Toml

/-! ### Strings -/

/-- Whether a character may stand in a string or a comment. -/
def isText (c : Char) : Bool :=
  c = '\t' || (' ' ≤ c && c ≠ '\x7f')

/-- The text behind the end of a line, if one is here. -/
def newline? : List Char → Option (List Char)
  | '\n' :: rest | '\r' :: '\n' :: rest => some rest
  | _ => none

/-- Whether a character is a blank inside a line. -/
def isSpace (c : Char) : Bool :=
  c = ' ' || c = '\t'

/-- The character that a letter behind a backslash stands for. -/
def letter? : Char → Option Char
  | 'b' => some '\x08'
  | 'f' => some '\x0c'
  | 'n' => some '\n'
  | 'r' => some '\r'
  | 't' => some '\t'
  | '"' => some '"'
  | '\\' => some '\\'
  | _ => none

/-- Reads a code of a number of hexadecimal digits. -/
def readCode (length : Nat) (text : List Char) : Except Nat (Char × List Char) :=
  match if length ≤ text.length then Text.charOfHex? (text.take length) else none with
  | some c => .ok (c, text.drop length)
  | none => .error text.length

/-- Reads what follows a backslash. -/
def readEscape : List Char → Except Nat (Char × List Char)
  | [] => .error 1
  | 'u' :: rest => readCode 4 rest
  | 'U' :: rest => readCode 8 rest
  | x :: rest =>
    match letter? x with
    | some c => .ok (c, rest)
    | none => .error rest.length

/-- Reads the rest of a string of one line, in which backslashes escape characters. -/
def readBasic : Nat → List Char → List Char → Except Nat (String × List Char)
  | 0, _, text => .error text.length
  | _ + 1, _, [] => .error 0
  | fuel + 1, read, x :: rest =>
    if x = '"' then .ok (String.ofList read.reverse, rest)
    else if x = '\\' then
      match readEscape rest with
      | .ok (c, rest) => readBasic fuel (c :: read) rest
      | .error place => .error place
    else if isText x then readBasic fuel (x :: read) rest
    else .error (rest.length + 1)

/-- Reads the rest of a string of one line that stands for itself. -/
def readLiteral (text : List Char) : Except Nat (String × List Char) :=
  let read := text.takeWhile fun c => isText c && c ≠ '\''
  match text.drop read.length with
  | '\'' :: rest => .ok (String.ofList read, rest)
  | rest => .error rest.length

/-- The white space and the ends of lines that a backslash at the end of a line joins. -/
def skipJoined : List Char → List Char
  | [] => []
  | '\r' :: '\n' :: rest => skipJoined rest
  | x :: rest => if isSpace x || x = '\n' then skipJoined rest else x :: rest

/-- How many quotes of a row of at least three are part of the string that the row ends. -/
def innerQuotes (row : Nat) : Nat :=
  min 2 (row - 3)

/-- Reads the rest of a string of several lines; in one that is not `literal` backslashes escape
characters and ends of lines. -/
def readLines (literal : Bool) : Nat → List Char → List Char → Except Nat (String × List Char)
  | 0, _, text => .error text.length
  | _ + 1, _, [] => .error 0
  | fuel + 1, read, x :: rest =>
    let quote := if literal then '\'' else '"'
    let text := x :: rest
    if x = quote then
      let row := (text.takeWhile (· = quote)).length
      if 3 ≤ row then
        let read := List.replicate (innerQuotes row) quote ++ read
        .ok (String.ofList read.reverse, text.drop (innerQuotes row + 3))
      else
        let behind := text.drop row
        if behind.isEmpty ∨ (literal ∧ (newline? behind).isNone ∧ !behind.head?.any isText) then
          .error text.length
        else readLines literal fuel (List.replicate row quote ++ read) behind
    else if x = '\\' ∧ !literal then
      if (newline? (rest.dropWhile isSpace)).isSome then
        readLines literal fuel read (skipJoined rest)
      else
        match readEscape rest with
        | .ok (c, rest) => readLines literal fuel (c :: read) rest
        | .error place => .error place
    else if isText x then readLines literal fuel (x :: read) rest
    else
      match newline? text with
      | some rest => readLines literal fuel ('\n' :: read) rest
      | none => .error text.length

/-- The text behind the end of a line, or the text itself when there is none. -/
def skipNewline (text : List Char) : List Char :=
  (newline? text).getD text

/-- Reads a string at its opening quote. -/
def readString : List Char → Except Nat (String × List Char)
  | '"' :: '"' :: '"' :: rest => readLines false (rest.length + 1) [] (skipNewline rest)
  | '\'' :: '\'' :: '\'' :: rest => readLines true (rest.length + 1) [] (skipNewline rest)
  | '"' :: rest => readBasic (rest.length + 1) [] rest
  | '\'' :: rest => readLiteral rest
  | text => .error text.length

/-! ### Dates -/

/-- A number of exactly so many digits, in a range. -/
def digits? (count low high : Nat) (text : List Char) : Option (Nat × List Char) :=
  let digits := text.take count
  if digits.length = count ∧ digits.all Char.isDigit then
    ((Text.natural? 10 digits).filter fun n => low ≤ n && n ≤ high).map (·, text.drop count)
  else none

/-- Reads a number of exactly so many digits, in a range, that has to be there. -/
def needDigits (count low high : Nat) (text : List Char) : Except Nat (Nat × List Char) :=
  (digits? count low high text).elim (.error text.length) .ok

/-- Reads a sign that has to be there. -/
def needSign (sign : Char) : List Char → Except Nat (List Char)
  | [] => .error 0
  | x :: rest => if x = sign then .ok rest else .error (rest.length + 1)

/-- The number of days of a month. -/
def daysIn (year month : Nat) : Nat :=
  if month = 2 then
    if year % 4 = 0 ∧ (year % 100 ≠ 0 ∨ year % 400 = 0) then 29 else 28
  else if month = 4 ∨ month = 6 ∨ month = 9 ∨ month = 11 then 30
  else 31

/-- Reads a day of a year. -/
def readDay (text : List Char) : Except Nat (Option (Unit × List Char)) :=
  match digits? 4 0 9999 text with
  | some (year, '-' :: rest) => do
    let (month, rest) ← needDigits 2 1 12 rest
    let start ← needSign '-' rest
    let (day, rest) ← needDigits 2 1 31 start
    if daysIn year month < day then .error start.length else .ok (some ((), rest))
  | _ => .ok none

/-- Reads a time of a day. -/
def readTime (text : List Char) : Except Nat (Option (Unit × List Char)) :=
  match digits? 2 0 23 text with
  | some (_, ':' :: rest) => do
    let (_, rest) ← needDigits 2 0 59 rest
    let rest ← needSign ':' rest
    let (_, rest) ← needDigits 2 0 60 rest
    match rest with
    | '.' :: fraction =>
      if fraction.head?.any Char.isDigit then .ok (some ((), fraction.dropWhile Char.isDigit))
      else .ok (some ((), rest))
    | _ => .ok (some ((), rest))
  | _ => .ok none

/-- Reads how far a time is from the universal one, if it says so. -/
def readOffset (text : List Char) : Except Nat (Unit × List Char) :=
  match text with
  | 'Z' :: rest | 'z' :: rest => .ok ((), rest)
  | x :: rest =>
    if x = '+' ∨ x = '-' then do
      let (_, rest) ← needDigits 2 0 23 rest
      let rest ← needSign ':' rest
      let (_, rest) ← needDigits 2 0 59 rest
      .ok ((), rest)
    else .ok ((), text)
  | [] => .ok ((), text)

/-- Reads a day, a time, or both. -/
def readDate (text : List Char) : Except Nat (Option (Unit × List Char)) := do
  match ← readDay text with
  | none => readTime text
  | some ((), rest) =>
    match rest with
    | x :: more =>
      if x = 'T' ∨ x = 't' ∨ x = ' ' then
        match ← readTime more with
        | some ((), rest) => return some (← readOffset rest)
        | none => .ok (some ((), rest))
      else .ok (some ((), rest))
    | [] => .ok (some ((), rest))

/-! ### Numbers -/

/-- Reads further digits that satisfy a condition, in which single underscores may stand between
digits; the digits come back without them, last first. -/
def moreDigits (isDigit : Char → Bool) (read : List Char) :
    List Char → Except Nat (List Char × List Char)
  | [] => .ok (read, [])
  | '_' :: x :: rest =>
    if isDigit x then moreDigits isDigit (x :: read) rest else .error (rest.length + 1)
  | ['_'] => .error 0
  | x :: rest =>
    if isDigit x then moreDigits isDigit (x :: read) rest else .ok (read, x :: rest)

/-- Reads at least one digit. -/
def needRow (isDigit : Char → Bool) (text : List Char) : Except Nat (List Char × List Char) :=
  match text with
  | x :: rest =>
    if isDigit x then (moreDigits isDigit [x] rest).map fun (read, rest) => (read.reverse, rest)
    else .error text.length
  | [] => .error 0

/-- Reads a whole number: a zero, or digits that do not start with one. -/
def readWhole (text : List Char) : Except Nat (Option (List Char × List Char)) :=
  match text with
  | '0' :: rest => .ok (some (['0'], rest))
  | x :: rest =>
    if x.isDigit then
      (moreDigits Char.isDigit [x] rest).map fun (read, rest) => some (read.reverse, rest)
    else .ok none
  | [] => .ok none

/-- The text behind a sign, if there is one. -/
def skipSign (text : List Char) : List Char :=
  (Text.splitSign text).2

/-- Reads an exponent that has to be there, as characters. -/
def needExponent (text : List Char) : Except Nat (List Char × List Char) :=
  match text with
  | x :: rest => do
    let sign := rest.take (rest.length - (skipSign rest).length)
    let (digits, rest) ← needRow Char.isDigit (skipSign rest)
    .ok (x :: sign ++ digits, rest)
  | [] => .error 0

/-- Whether an exponent starts here. -/
def atExponent (text : List Char) : Bool :=
  text.head? = some 'e' || text.head? = some 'E'

/-- Reads the fraction and the exponent of a number, as characters. -/
def readFraction (text : List Char) : Except Nat (Option (List Char × List Char)) :=
  match text with
  | '.' :: rest => do
    let (digits, rest) ← needRow Char.isDigit rest
    if atExponent rest then
      let (exponent, rest) ← needExponent rest
      .ok (some ('.' :: digits ++ exponent, rest))
    else .ok (some ('.' :: digits, rest))
  | text => if atExponent text then (needExponent text).map some else .ok none

/-- Reads a number with a fraction or an exponent, or the name of one that is not finite. One
beyond the largest is refused, but not beyond the least. -/
def readDouble (text : List Char) : Except Nat (Option (Unit × List Char)) := do
  let number := skipSign text
  let special : Option (Unit × List Char) :=
    if "inf".toList.isPrefixOf number ∨ "nan".toList.isPrefixOf number then
      some ((), number.drop 3)
    else none
  match ← readWhole number with
  | none => .ok special
  | some (whole, rest) =>
    match ← readFraction rest with
    | none => .ok special
    | some (tail, rest) =>
      if text.head? ≠ some '-' ∧ (Double.parse? (whole ++ tail)).isNone then .error text.length
      else .ok (some ((), rest))

/-- Reads an integer to a base behind its two signs. -/
def readBased (base : Nat) (text rest : List Char) : Except Nat (Int × List Char) := do
  let (digits, rest) ← needRow (fun c => (Text.digit? base c).isSome) rest
  match (Text.natural? base digits).filter (Integer.isSigned 64 ·) with
  | some n => .ok (n, rest)
  | none => .error text.length

/-- Reads an integer of 64 bits. -/
def readInteger (text : List Char) : Except Nat (Option (Int × List Char)) :=
  match text with
  | '0' :: 'x' :: rest => (readBased 16 text rest).map some
  | '0' :: 'o' :: rest => (readBased 8 text rest).map some
  | '0' :: 'b' :: rest => (readBased 2 text rest).map some
  | text => do
    match ← readWhole (skipSign text) with
    | none => .ok none
    | some (digits, rest) =>
      let n : Int := (Text.natural? 10 digits).getD 0
      let n := if text.head? = some '-' then -n else n
      if Integer.isSigned 64 n then .ok (some (n, rest)) else .error text.length

end ApiReplay.Toml
