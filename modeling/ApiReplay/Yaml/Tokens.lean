import ApiReplay.Yaml.Token

/-!
# The tokens of a text

A token may turn out to be a key only when a colon follows it on the same line. The places where
such a key could start are remembered, one for each level of brackets, and the token that marks the
key is put in there later. In a block, a token further to the right than those before opens a
collection, and one further to the left closes the collections that reach further.

## Main definitions

* `Yaml.Tokenizer`: the state between two tokens.
* `Yaml.Tokenizer.step?`: reads one token.
* `Yaml.tokens`: the tokens of a text, up to a token for its end, or as many as are certain before a
  fault.
-/

namespace ApiReplay.Yaml

/-- A token that may turn out to start a key: its number and its place. -/
structure KeyStart where
  /-- Whether a colon has to follow, because the token stands where keys stand. -/
  required : Bool
  token : Nat
  index : Nat
  line : Nat
  column : Nat

/-- The state between two tokens. -/
structure Tokenizer where
  cursor : Cursor
  /-- The column of the innermost block; negative outside all blocks. -/
  indent : Int := -1
  /-- The columns of the blocks around it, the nearest first. -/
  outer : List Int := []
  keyAllowed : Bool := true
  /-- Where a key may have started, for every level of brackets, the innermost first. -/
  keys : List (Option KeyStart) := [none]
  tokens : Array Token := #[]

namespace Tokenizer

/-- Whether the place is inside brackets. -/
def inFlow (s : Tokenizer) : Bool :=
  1 < s.keys.length

/-- Adds a token. -/
def emit (token : Token) (s : Tokenizer) : Tokenizer :=
  { s with tokens := s.tokens.push token }

/-- Adds a token that a number of characters stand for. -/
def take (n : Nat) (token : Token) (s : Tokenizer) : Tokenizer :=
  { s.emit token with cursor := s.cursor.advance n }

/-- Sets whether a key may start next. -/
def allowKey (allowed : Bool) (s : Tokenizer) : Tokenizer :=
  { s with keyAllowed := allowed }

/-! ### Blocks -/

/-- Closes the blocks of a list that reach further to the right than a column. -/
def closeBlocks (column : Int) : List Int → Tokenizer → Tokenizer
  | [], s => s
  | indent :: outer, s =>
    if column < s.indent then closeBlocks column outer { s.emit .blockEnd with indent, outer }
    else s

/-- Closes the blocks that reach further to the right than a column. -/
def unroll (column : Int) (s : Tokenizer) : Tokenizer :=
  if s.inFlow then s else closeBlocks column s.outer s

/-- Opens a block at a column to the right of the innermost one; its token gets the given number. -/
def roll (column number : Nat) (token : Token) (s : Tokenizer) : Tokenizer :=
  if s.inFlow ∨ (column : Int) ≤ s.indent then s
  else
    { s with
      indent := column
      outer := s.indent :: s.outer
      tokens := s.tokens.insertIdxIfInBounds number token }

/-- Opens a block for an entry at the place, where a block may start. -/
def openBlock? (token : Token) (s : Tokenizer) : Option Tokenizer :=
  if s.inFlow then some s
  else if s.keyAllowed then some (s.roll s.cursor.column s.tokens.size token)
  else none

/-! ### Keys -/

/-- Whether a key that started is too far behind the place. -/
def isStale (s : Tokenizer) (k : KeyStart) : Bool :=
  k.line < s.cursor.line || k.index + 1024 < s.cursor.index

/-- Gives up the keys that are too far behind; none when one of them was required. -/
def dropStale? (s : Tokenizer) : Option Tokenizer :=
  if s.keys.any fun key => key.any fun k => s.isStale k && k.required then none
  else some { s with keys := s.keys.map (·.filter fun k => !s.isStale k) }

/-- Gives up the key of the innermost level; none when it was required. -/
def dropKey? (s : Tokenizer) : Option Tokenizer :=
  match s.keys with
  | some k :: outer => if k.required then none else some { s with keys := none :: outer }
  | _ => some s

/-- Remembers that the next token may start a key. -/
def startKey? (s : Tokenizer) : Option Tokenizer :=
  if s.keyAllowed then
    s.dropKey?.map fun s =>
      let c := s.cursor
      let required := !s.inFlow && s.indent = c.column
      { s with keys := some ⟨required, s.tokens.size, c.index, c.line, c.column⟩ :: s.keys.drop 1 }
  else some s

/-! ### Kinds of tokens -/

/-- Skips white space and comments. A tab counts as white space where no key may start. -/
def skip : Nat → Tokenizer → Tokenizer
  | 0, s => s
  | fuel + 1, s =>
    let c := if s.cursor.column = 0 ∧ s.cursor.peek? = some '\uFEFF' then s.cursor.advance 1
      else s.cursor
    let c := c.skipWhile fun x => x = ' ' || (x = '\t' && (s.inFlow || !s.keyAllowed))
    let c := if c.peek? = some '#' then c.skipWhile fun x => !isBreak x else c
    if c.peek?.any isBreak then
      skip fuel { s with cursor := c.newline, keyAllowed := s.keyAllowed || !s.inFlow }
    else { s with cursor := c }

/-- Leaves all blocks, at the start of a line. -/
def leaveBlocks? (s : Tokenizer) : Option Tokenizer :=
  (s.unroll (-1)).dropKey?.map (allowKey false)

/-- Reads an opening bracket. -/
def openFlow? (token : Token) (s : Tokenizer) : Option Tokenizer :=
  s.startKey?.map fun s => ({ s with keys := none :: s.keys }.allowKey true).take 1 token

/-- Reads a closing bracket. -/
def closeFlow? (token : Token) (s : Tokenizer) : Option Tokenizer :=
  s.dropKey?.map fun s =>
    ({ s with keys := if s.inFlow then s.keys.drop 1 else s.keys }.allowKey false).take 1 token

/-- Reads a comma. -/
def flowEntry? (s : Tokenizer) : Option Tokenizer :=
  s.dropKey?.map fun s => (s.allowKey true).take 1 .flowEntry

/-- Reads the dash of an entry. -/
def blockEntry? (s : Tokenizer) : Option Tokenizer := do
  let s ← s.openBlock? .blockSequence
  let s ← s.dropKey?
  some ((s.allowKey true).take 1 .blockEntry)

/-- Reads a question mark. -/
def key? (s : Tokenizer) : Option Tokenizer := do
  let s ← s.openBlock? .blockMapping
  let s ← s.dropKey?
  some ((s.allowKey !s.inFlow).take 1 .key)

/-- Reads a colon: the token that may have started a key did so. -/
def value? (s : Tokenizer) : Option Tokenizer :=
  match s.keys with
  | some k :: outer =>
    let s := { s with keys := none :: outer, tokens := s.tokens.insertIdxIfInBounds k.token .key }
    some (((s.roll k.column k.token .blockMapping).allowKey false).take 1 .value)
  | _ => do
    let s ← s.openBlock? .blockMapping
    some ((s.allowKey !s.inFlow).take 1 .value)

/-- Reads a name or a scalar that may start a key. -/
def word? (read : Cursor → Option (Token × Cursor)) (s : Tokenizer) : Option Tokenizer := do
  let s ← s.startKey?
  let (token, cursor) ← read s.cursor
  some { (s.allowKey false).emit token with cursor }

/-- Reads a plain scalar; where it ends behind the end of a line, a key may start. -/
def plain? (s : Tokenizer) : Option Tokenizer := do
  let s ← s.startKey?
  let (text, broken, cursor) ← scanPlain? s.inFlow (s.indent + 1).toNat s.cursor
  some { (s.allowKey broken).emit (.scalar true (String.ofList text)) with cursor }

/-- Reads a block scalar. -/
def block? (literal : Bool) (s : Tokenizer) : Option Tokenizer := do
  let s ← s.dropKey?
  let (text, cursor) ← scanBlock? literal s.indent (s.cursor.advance 1)
  some { (s.allowKey true).emit (.scalar false (String.ofList text)) with cursor }

/-- Reads a quoted scalar. -/
def quoted? (single : Bool) (s : Tokenizer) : Option Tokenizer :=
  s.word? fun c => (scanQuoted? single (c.advance 1)).map fun (text, c) =>
    (.scalar false (String.ofList text), c)

/-- Reads a directive. -/
def directive? (s : Tokenizer) : Option Tokenizer := do
  let s ← s.leaveBlocks?
  let (token, cursor) ← s.cursor.directive?
  some { s.emit token with cursor }

/-- Whether a character cannot start a plain scalar. -/
def isSign (x : Char) : Bool :=
  isGap x || "-?:,[]\x7b\x7d#&*!|>'\"%@\x60".toList.contains x

/-- Reads the token that a character starts; `rest` are the characters behind it. -/
def token? (x : Char) (rest : List Char) (s : Tokenizer) : Option Tokenizer :=
  let separated := Cursor.endsWord rest
  match x with
  | '[' => s.openFlow? .openSequence
  | '{' => s.openFlow? .openMapping
  | ']' => s.closeFlow? .closeSequence
  | '}' => s.closeFlow? .closeMapping
  | ',' => s.flowEntry?
  | '-' =>
    if separated then s.blockEntry? else s.plain?
  | '?' => if s.inFlow || separated then s.key? else s.plain?
  | ':' => if s.inFlow || separated then s.value? else s.plain?
  | '*' => s.word? fun c => (c.advance 1).anchorName?.map fun (name, c) => (.reference name, c)
  | '&' => s.word? fun c => (c.advance 1).anchorName?.map fun (name, c) => (.anchor name, c)
  | '!' => s.word? fun c => (c.tagName? s.inFlow).map fun (handle, suffix, c) =>
    (.tag handle suffix, c)
  | '|' => if s.inFlow then none else s.block? true
  | '>' => if s.inFlow then none else s.block? false
  | '\'' => s.quoted? true
  | '"' => s.quoted? false
  | x => if isSign x then none else s.plain?

/-- Reads a token; none when there is a fault. -/
def step? (s : Tokenizer) : Option Tokenizer := do
  let s ← (s.skip (s.cursor.rest.length + 1)).dropStale?
  let s := s.unroll s.cursor.column
  match s.cursor.rest with
  | [] => s.leaveBlocks?.map (emit .streamEnd)
  | x :: rest =>
    if s.cursor.column = 0 ∧ x = '%' then s.directive?
    else if s.cursor.atMarker '-' then s.leaveBlocks?.map (take 3 .documentStart)
    else if s.cursor.atMarker '.' then s.leaveBlocks?.map (take 3 .documentEnd)
    else s.token? x rest

/-- The tokens that are certain: those in front of any that may still turn out to start a key. -/
def certain (s : Tokenizer) : List Token :=
  let pending := s.keys.filterMap fun key =>
    (key.filter fun k => !s.isStale k).map KeyStart.token
  s.tokens.toList.take (pending.foldl min s.tokens.size)

/-- Reads tokens up to the end of the text or a fault. -/
def run : Nat → Tokenizer → List Token
  | 0, s => s.certain
  | fuel + 1, s =>
    match s.step? with
    | none => s.certain
    | some next =>
      if next.tokens.back? = some .streamEnd then next.tokens.toList else run fuel next

end Tokenizer

/-- Whether a character may stand in a text of markup. -/
def isReadable (c : Char) : Bool :=
  let n := c.toNat
  c = '\t' || c = '\n' || c = '\r' || c = '\u0085' || (0x20 ≤ n && n ≤ 0x7E)
    || (0xA0 ≤ n && n ≤ 0xFFFD) || 0x10000 ≤ n

/-- The tokens of a text. They end in `Token.streamEnd` unless there is a fault. -/
def tokens (text : String) : List Token :=
  let chars := text.toList
  if chars.all isReadable then
    let rest := if chars.head? = some '\uFEFF' then chars.drop 1 else chars
    Tokenizer.run (rest.length + 1) { cursor := { rest } }
  else []

end ApiReplay.Yaml
