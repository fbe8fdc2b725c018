import ApiReplay.Json.Numeral
import ApiReplay.Text.Digits

/-!
# Reading data texts

A text is split into tokens, and a machine with a stack of open arrays and objects takes the tokens
one by one. Nesting is limited to `Json.depthLimit` open arrays and objects. Nothing but blanks may
follow the value.

## Main definitions

* `Json.Token`, `Json.tokens?`: the tokens of a text.
* `Json.Reader`, `Json.Reader.step`: the machine and its transitions.
* `Json.parse?`: the tree a text stands for.
-/

namespace ApiReplay.Json

/-- The least number of open arrays and objects that is refused. -/
def depthLimit : Nat := 128

/-! ### Tokens -/

/-- The tokens of a data text. -/
inductive Token where
  | openArray
  | closeArray
  | openObject
  | closeObject
  | comma
  | colon
  | string (value : String)
  /-- A number or one of the three words. -/
  | scalar (value : Json)

/-- The number written by four hexadecimal digits. -/
def hexUnit? (a b c d : Char) : Option Nat := do
  let high := (← Text.hexValue? a) * 16 + (← Text.hexValue? b)
  let low := (← Text.hexValue? c) * 16 + (← Text.hexValue? d)
  some (high * 256 + low)

/-- The character that a one-letter escape stands for. -/
def unescape? : Char → Option Char
  | '"' => some '"'
  | '\\' => some '\\'
  | '/' => some '/'
  | 'b' => some '\x08'
  | 'f' => some '\x0c'
  | 'n' => some '\n'
  | 'r' => some '\r'
  | 't' => some '\t'
  | _ => none

/-- Reads a text up to its closing quote. A control character has to be escaped, and the two halves
of a surrogate pair have to stand together. -/
def scanString? (read : List Char) : List Char → Option (String × List Char)
  | '"' :: rest => some (String.ofList read.reverse, rest)
  | '\\' :: 'u' :: a :: b :: c :: d :: rest =>
    match hexUnit? a b c d with
    | none => none
    | some unit =>
      if 0xDC00 ≤ unit ∧ unit < 0xE000 then none
      else if 0xD800 ≤ unit ∧ unit < 0xDC00 then
        match rest with
        | '\\' :: 'u' :: e :: f :: g :: h :: rest =>
          match hexUnit? e f g h with
          | none => none
          | some low =>
            if 0xDC00 ≤ low ∧ low < 0xE000 then
              scanString?
                (Char.ofNat (0x10000 + (unit - 0xD800) * 0x400 + (low - 0xDC00)) :: read) rest
            else none
        | _ => none
      else scanString? (Char.ofNat unit :: read) rest
  | '\\' :: c :: rest =>
    match unescape? c with
    | none => none
    | some c => scanString? (c :: read) rest
  | c :: rest => if c.toNat < 0x20 ∨ c = '\\' then none else scanString? (c :: read) rest
  | [] => none

/-- The first token of a text that does not start with a blank, and the text behind it. -/
def scanToken? : List Char → Option (Token × List Char)
  | '[' :: rest => some (.openArray, rest)
  | ']' :: rest => some (.closeArray, rest)
  | '{' :: rest => some (.openObject, rest)
  | '}' :: rest => some (.closeObject, rest)
  | ',' :: rest => some (.comma, rest)
  | ':' :: rest => some (.colon, rest)
  | '"' :: rest => (scanString? [] rest).map fun (s, rest) => (.string s, rest)
  | 't' :: 'r' :: 'u' :: 'e' :: rest => some (.scalar (.bool true), rest)
  | 'f' :: 'a' :: 'l' :: 's' :: 'e' :: rest => some (.scalar (.bool false), rest)
  | 'n' :: 'u' :: 'l' :: 'l' :: rest => some (.scalar .null, rest)
  | text => do
    let (numeral, rest) ← Numeral.scan? text
    some (.scalar (.number (← numeral.value?)), rest)

/-- The characters that may stand between tokens. -/
def isBlank (c : Char) : Bool :=
  c = ' ' || c = '\n' || c = '\t' || c = '\r'

/-- The tokens of a text, at most `fuel` of them. -/
def tokensUpTo? : Nat → List Char → Option (List Token)
  | 0, _ => none
  | fuel + 1, text =>
    match text.dropWhile isBlank with
    | [] => some []
    | text => do
      let (token, rest) ← scanToken? text
      some (token :: (← tokensUpTo? fuel rest))

/-- The tokens of a text. -/
def tokens? (text : List Char) : Option (List Token) :=
  tokensUpTo? (text.length + 1) text

/-! ### The machine -/

/-- An array or object that is still open, with what it holds so far; the items of an array are
kept last first. -/
inductive Frame where
  | array (items : List Json)
  | object (entries : List (String × Json)) (key : String)

/-- What the machine accepts next. -/
inductive Expectation where
  | value
  | valueOrClose
  | separator
  | key
  | keyOrClose
  | colon

/-- The state of the machine: what it accepts next and, around it, the open arrays and objects, or
the finished tree. -/
inductive Reader where
  | open (stack : List Frame) (next : Expectation)
  | done (tree : Json)

namespace Reader

/-- Hands a finished value to the innermost open array or object. -/
def push (value : Json) : List Frame → Reader
  | [] => .done value
  | .array items :: rest => .open (.array (value :: items) :: rest) .separator
  | .object entries key :: rest =>
    .open (.object (Entries.insert key value entries) key :: rest) .separator

/-- Opens an array or object, unless too many are open. -/
def enter? (frame : Frame) (stack : List Frame) (next : Expectation) : Option Reader :=
  if stack.length + 1 < depthLimit then some (.open (frame :: stack) next) else none

/-- Takes a token where a value may stand. -/
def value? (stack : List Frame) : Token → Option Reader
  | .openArray => enter? (.array []) stack .valueOrClose
  | .openObject => enter? (.object [] "") stack .keyOrClose
  | .string s => some (push (.string s) stack)
  | .scalar v => some (push v stack)
  | _ => none

/-- Takes one token. -/
def step? : Reader → Token → Option Reader
  | .open stack .value, token => value? stack token
  | .open (.array items :: rest) .valueOrClose, .closeArray =>
    some (push (.array items.reverse) rest)
  | .open stack .valueOrClose, token => value? stack token
  | .open (.array items :: rest) .separator, .comma => some (.open (.array items :: rest) .value)
  | .open (.array items :: rest) .separator, .closeArray => some (push (.array items.reverse) rest)
  | .open (.object entries key :: rest) .separator, .comma =>
    some (.open (.object entries key :: rest) .key)
  | .open (.object entries _ :: rest) .separator, .closeObject =>
    some (push (.object entries) rest)
  | .open (.object entries _ :: rest) .key, .string key =>
    some (.open (.object entries key :: rest) .colon)
  | .open (.object entries _ :: rest) .keyOrClose, .string key =>
    some (.open (.object entries key :: rest) .colon)
  | .open (.object entries _ :: rest) .keyOrClose, .closeObject =>
    some (push (.object entries) rest)
  | .open stack .colon, .colon => some (.open stack .value)
  | _, _ => none

end Reader

/-- The tree that a list of tokens stands for. -/
def ofTokens? (tokens : List Token) : Option Json :=
  match tokens.foldlM Reader.step? (.open [] .value) with
  | some (.done tree) => some tree
  | _ => none

/-- The tree that a text stands for. -/
def parse? (text : String) : Option Json :=
  (tokens? text.toList).bind ofTokens?

end ApiReplay.Json
