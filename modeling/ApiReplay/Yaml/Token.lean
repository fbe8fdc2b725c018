import ApiReplay.Text.Utf8
import ApiReplay.Yaml.ScalarText

/-!
# Tokens

A text of markup is a row of tokens: the signs of brackets and entries, scalars, the names that
anchors and tags give to nodes, and directives. Where indentation opens or closes a collection there
are tokens too, which no character stands for.

## Main definitions

* `Yaml.Token`: the tokens.
* `Yaml.Cursor.anchorName?`, `Yaml.Cursor.tagName?`, `Yaml.Cursor.directive?`: the names and the
  directives at a place.
-/

namespace ApiReplay.Yaml

/-- A piece of a text of markup. -/
inductive Token where
  /-- A directive that states a version. -/
  | version (major minor : Nat)
  /-- A directive that states what a handle of tags stands for. -/
  | handle (name expansion : String)
  | documentStart
  | documentEnd
  | streamEnd
  | blockSequence
  | blockMapping
  | blockEnd
  | openSequence
  | closeSequence
  | openMapping
  | closeMapping
  | blockEntry
  | flowEntry
  | key
  | value
  | reference (name : String)
  | anchor (name : String)
  | tag (handle suffix : String)
  | scalar (plain : Bool) (text : String)
deriving DecidableEq

namespace Cursor

/-- Whether the text ends or a separator of words stands here. -/
def atWordEnd (c : Cursor) : Bool :=
  endsWord c.rest

/-- The characters of the line that satisfy a condition, and the place behind them. -/
def takeWhile (p : Char → Bool) (c : Cursor) : List Char × Cursor :=
  (c.rest.takeWhile p, c.skipWhile p)

/-! ### Anchors -/

/-- Reads the name of an anchor or an alias. -/
def anchorName? (c : Cursor) : Option (String × Cursor) :=
  let (name, c) := c.takeWhile isWordChar
  let ended := c.atWordEnd || c.peek?.any fun x => "?:,]\x7d%@\x60".toList.contains x
  if name.isEmpty ∨ !ended then none else some (String.ofList name, c)

/-! ### Tags -/

/-- Whether a character may stand in a tag. The signs of brackets may only do so in a tag that is
enclosed itself. -/
def isTagChar (enclosed : Bool) (x : Char) : Bool :=
  isWordChar x || ";/?:@&=+$.%!~*'()".toList.contains x
    || (enclosed && (x = ',' || x = '[' || x = ']'))

/-- The byte that two hexadecimal digits behind a percent sign stand for. -/
def escapedByte? : List Char → Option (UInt8 × List Char)
  | '%' :: a :: b :: rest => do
    let high ← Text.hexValue? a
    let low ← Text.hexValue? b
    some (UInt8.ofNat (16 * high + low), rest)
  | _ => none

/-- The length of a character's encoding by its first byte. -/
def encodedLength? (first : UInt8) : Option Nat :=
  if first < 0x80 then some 1
  else if 0xC0 ≤ first ∧ first < 0xE0 then some 2
  else if 0xE0 ≤ first ∧ first < 0xF0 then some 3
  else if 0xF0 ≤ first ∧ first < 0xF8 then some 4
  else none

/-- Reads a number of escaped bytes that continue a character. -/
def continuation? : Nat → List Char → Option (List UInt8 × List Char)
  | 0, text => some ([], text)
  | n + 1, text => do
    let (byte, text) ← escapedByte? text
    if 0x80 ≤ byte ∧ byte < 0xC0 then
      let (bytes, text) ← continuation? n text
      some (byte :: bytes, text)
    else none

/-- The characters of a tag with the escaped ones put in. -/
def unescapeTag? : Nat → List Char → Option (List Char)
  | 0, _ => none
  | _ + 1, [] => some []
  | fuel + 1, x :: rest =>
    if x = '%' then do
      let (first, text) ← escapedByte? (x :: rest)
      let (bytes, text) ← continuation? ((← encodedLength? first) - 1) text
      let decoded ← unescapeTag? fuel text
      some (Text.decodeLossy (first :: bytes) ++ decoded)
    else (unescapeTag? fuel rest).map (x :: ·)

/-- Reads the characters of a tag. -/
def tagChars? (enclosed : Bool) (c : Cursor) : Option (List Char × Cursor) := do
  let (text, c) := c.takeWhile (isTagChar enclosed)
  some (← unescapeTag? (text.length + 1) text, c)

/-- Reads the start of a handle: an exclamation mark, a word, and the closing mark if there is one;
the result tells whether there was. -/
def handleStart (c : Cursor) : List Char × Bool × Cursor :=
  let (word, c) := (c.advance 1).takeWhile isWordChar
  if c.peek? = some '!' then ('!' :: word ++ ['!'], true, c.advance 1) else ('!' :: word, false, c)

/-- Reads a tag: enclosed in angle brackets, behind a handle, or behind a single mark. A mark alone
has no handle. -/
def tagName? (flow : Bool) (c : Cursor) : Option (String × String × Cursor) := do
  let (handle, suffix, c) ← if (c.advance 1).peek? = some '<' then do
      let (suffix, c) ← tagChars? true (c.advance 2)
      if suffix.isEmpty ∨ c.peek? ≠ some '>' then none else some ([], suffix, c.advance 1)
    else
      let (start, closed, behind) := handleStart c
      let (suffix, c) ← tagChars? false behind
      if closed then if suffix.isEmpty then none else some (start, suffix, c)
      else
        let suffix := start.drop 1 ++ suffix
        some (if suffix.isEmpty then ([], ['!'], c) else (['!'], suffix, c))
  if c.atWordEnd ∨ (flow ∧ c.peek? = some ',') then
    some (String.ofList handle, String.ofList suffix, c)
  else none

/-! ### Directives -/

/-- Reads a part of a version number: at most nine digits. -/
def versionPart? (c : Cursor) : Option (Nat × Cursor) :=
  let (digits, c) := c.takeWhile Char.isDigit
  if 9 < digits.length then none else (Text.natural? 10 digits).map (·, c)

/-- Reads a version behind its directive's name. -/
def version? (c : Cursor) : Option (Token × Cursor) := do
  let (major, c) ← versionPart? (c.skipWhile isSpace)
  if c.peek? ≠ some '.' then none
  else
    let (minor, c) ← versionPart? (c.advance 1)
    some (.version major minor, c)

/-- Reads a handle and its meaning behind the directive's name. -/
def handle? (c : Cursor) : Option (Token × Cursor) := do
  let c := c.skipWhile isSpace
  if c.peek? ≠ some '!' then none
  else
    let (name, closed, c) := handleStart c
    if (!closed && name ≠ ['!']) || !c.peek?.any isSpace then none
    else
      let (expansion, c) ← tagChars? true (c.skipWhile isSpace)
      if expansion.isEmpty ∨ !c.atWordEnd then none
      else some (.handle (String.ofList name) (String.ofList expansion), c)

/-- Reads a directive up to the end of its line. -/
def directive? (c : Cursor) : Option (Token × Cursor) := do
  let (name, c) := (c.advance 1).takeWhile isWordChar
  if !c.atWordEnd then none
  else
    let (token, c) ←
      if name = "YAML".toList then version? c
      else if name = "TAG".toList then handle? c
      else none
    some (token, ← c.finishLine?)

end Cursor

end ApiReplay.Yaml
