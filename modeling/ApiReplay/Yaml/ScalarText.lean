import ApiReplay.Text.Digits
import ApiReplay.Yaml.Cursor

/-!
# The texts of scalars

A scalar is written plainly, between single or double quotes, or as a block of lines. In the first
three forms lines are folded: white space around the end of a line counts for one space, or for the
empty lines in it. A block keeps its lines, or folds those that are not indented further.

## Main definitions

* `Yaml.scanPlain?`: a plain scalar.
* `Yaml.scanQuoted?`: a quoted scalar.
* `Yaml.scanBlock?`: a block scalar.
-/

namespace ApiReplay.Yaml

/-! ### Plain scalars -/

/-- Whether a character ends a plain scalar inside brackets. -/
def isFlowSign (c : Char) : Bool :=
  c = ',' || c = '[' || c = ']' || c = '{' || c = '}'

/-- Reads the characters of a plain word. Inside brackets, a colon in front of a sign of theirs is
refused. -/
def plainWord? (flow : Bool) (read : List Char) : List Char → Option (List Char)
  | [] => some read.reverse
  | x :: rest =>
    if isGap x then some read.reverse
    else if flow && x = ':' && rest.head?.any (fun y => isFlowSign y || y = '?') then none
    else if (x = ':' && Cursor.endsWord rest) || (flow && isFlowSign x) then some read.reverse
    else plainWord? flow (x :: read) rest

/-- Reads the words of a plain scalar, from a place behind a gap; the result tells the text, whether
a line ended behind the last word, and the place. -/
def plainWords? (flow : Bool) (indent : Nat) :
    Nat → Gap → List Char → Cursor → Option (List Char × Bool × Cursor)
  | 0, _, _, _ => none
  | fuel + 1, gap, text, c =>
    if c.atAnyMarker ∨ c.peek? = some '#' then some (text, gap.broken, c)
    else
      match plainWord? flow [] c.rest with
      | none => none
      | some [] => some (text, gap.broken, c)
      | some word =>
        let text := text ++ gap.text ++ word
        let c := c.advance word.length
        if c.peek?.any isGap then
          match readGap? (some indent) (c.rest.length + 1) {} c with
          | none => none
          | some (gap, c) =>
            if !flow && c.column < indent then some (text, gap.broken, c)
            else plainWords? flow indent fuel gap text c
        else some (text, false, c)

/-- Reads a plain scalar whose lines are indented at least to a column. -/
def scanPlain? (flow : Bool) (indent : Nat) (c : Cursor) : Option (List Char × Bool × Cursor) :=
  plainWords? flow indent (c.rest.length + 1) {} [] c

/-! ### Quoted scalars -/

/-- What a letter behind a backslash stands for. -/
def escapeChar? : Char → Option Char
  | '0' => some '\x00'
  | 'a' => some '\x07'
  | 'b' => some '\x08'
  | 't' => some '\t'
  | '\t' => some '\t'
  | 'n' => some '\n'
  | 'v' => some '\x0b'
  | 'f' => some '\x0c'
  | 'r' => some '\r'
  | 'e' => some '\x1b'
  | ' ' => some ' '
  | '"' => some '"'
  | '/' => some '/'
  | '\\' => some '\\'
  | 'N' => some '\u0085'
  | '_' => some '\u00a0'
  | 'L' => some '\u2028'
  | 'P' => some '\u2029'
  | _ => none

/-- The number of digits behind a letter that introduces a character code. -/
def codeLength? : Char → Option Nat
  | 'x' => some 2
  | 'u' => some 4
  | 'U' => some 8
  | _ => none

/-- Reads the characters of a word between quotes. The result tells the characters, how many were
read, and whether the word ends in an escaped end of a line. -/
def quotedWord? (single : Bool) :
    Nat → List Char → Nat → List Char → Option (List Char × Nat × Bool)
  | 0, _, _, _ => none
  | fuel + 1, read, n, text =>
    match text with
    | [] => some (read.reverse, n, false)
    | x :: rest =>
      if isGap x then some (read.reverse, n, false)
      else if single then
        match x, rest with
        | '\'', '\'' :: more => quotedWord? single fuel ('\'' :: read) (n + 2) more
        | '\'', _ => some (read.reverse, n, false)
        | _, _ => quotedWord? single fuel (x :: read) (n + 1) rest
      else if x = '"' then some (read.reverse, n, false)
      else if x = '\\' then
        match rest with
        | [] => none
        | y :: more =>
          if isBreak y then some (read.reverse, n, true)
          else
            match codeLength? y with
            | some length =>
              if more.length < length then none
              else
                match Text.charOfHex? (more.take length) with
                | none => none
                | some z =>
                  quotedWord? single fuel (z :: read) (n + 2 + length) (more.drop length)
            | none =>
              match escapeChar? y with
              | none => none
              | some z => quotedWord? single fuel (z :: read) (n + 2) more
      else quotedWord? single fuel (x :: read) (n + 1) rest

/-- Reads the words of a quoted scalar up to the closing quote. -/
def quotedWords? (single : Bool) : Nat → List Char → Cursor → Option (List Char × Cursor)
  | 0, _, _ => none
  | fuel + 1, text, c =>
    if c.atAnyMarker ∨ c.rest = [] then none
    else
      match quotedWord? single (c.rest.length + 1) [] 0 c.rest with
      | none => none
      | some (word, n, escaped) =>
        let text := text ++ word
        let c := c.advance n
        let (c, start) : Cursor × Gap :=
          if escaped then ((c.advance 1).newline, { broken := true }) else (c, {})
        if c.peek? = some (if single then '\'' else '"') then some (text, c.advance 1)
        else
          match readGap? none (c.rest.length + 1) start c with
          | none => none
          | some (gap, c) => quotedWords? single fuel (text ++ gap.text) c

/-- Reads a quoted scalar behind its opening quote. -/
def scanQuoted? (single : Bool) (c : Cursor) : Option (List Char × Cursor) :=
  quotedWords? single (c.rest.length + 1) [] c

/-! ### Block scalars -/

/-- How the ends of the last lines of a block are kept. -/
inductive Chomp where
  | clip
  | strip
  | keep
deriving DecidableEq

/-- The sign that tells how the ends of the last lines are kept. -/
def chompSign? : Char → Option Chomp
  | '+' => some .keep
  | '-' => some .strip
  | _ => none

/-- Reads the header of a block: a sign and a digit for the indentation, in any order. -/
def blockHeader? (c : Cursor) : Option (Chomp × Nat × Cursor) :=
  let sign := c.peek?.bind chompSign?
  let c := if sign.isSome then c.advance 1 else c
  let digit := c.peek?.filter Char.isDigit
  let c := if digit.isSome then c.advance 1 else c
  let sign' := if sign.isNone && digit.isSome then c.peek?.bind chompSign? else none
  let c := if sign'.isSome then c.advance 1 else c
  if digit = some '0' then none
  else
    c.finishLine?.map fun c =>
      (((sign <|> sign').getD .clip), (digit.map fun d => d.toNat - '0'.toNat).getD 0, c)

/-- Reads empty lines and indentation; `indent` zero stands for an indentation that is not known
yet. The result tells the deepest column that was reached and the ends of lines. -/
def blockBreaks? (indent : Nat) : Nat → Nat → List Char → Cursor → Option (Nat × List Char × Cursor)
  | 0, _, _, _ => none
  | fuel + 1, deepest, breaks, c =>
    let spaces := (c.rest.takeWhile (· = ' ')).length
    let c := c.advance (if indent = 0 then spaces else min spaces (indent - c.column))
    let deepest := max deepest c.column
    if (indent = 0 ∨ c.column < indent) ∧ c.peek? = some '\t' then none
    else if c.peek?.any isBreak then
      blockBreaks? indent fuel deepest (breaks ++ c.breakText) c.newline
    else some (deepest, breaks, c)

/-- Reads the lines of a block. `ending` is the end of the line before, `breaks` are the empty lines
behind it, and `inner` tells whether that line was indented further. -/
def blockLines? (literal : Bool) (indent : Nat) :
    Nat → List Char → List Char → List Char → Bool → Cursor →
      Option (List Char × List Char × List Char × Cursor)
  | 0, _, _, _, _, _ => none
  | fuel + 1, text, ending, breaks, inner, c =>
    if c.column = indent ∧ c.rest ≠ [] then
      let blank := c.peek?.any isSpace
      let joint :=
        if !literal && ending.head? = some '\n' && !inner && !blank then
          if breaks.isEmpty then [' '] else []
        else ending
      let line := c.rest.takeWhile fun x => !isBreak x
      let c := c.advance line.length
      let text := text ++ joint ++ breaks ++ line
      match blockBreaks? indent (c.rest.length + 2) 0 [] c.newline with
      | none => none
      | some (_, breaks, next) =>
        blockLines? literal indent fuel text c.breakText breaks blank next
    else some (text, ending, breaks, c)

/-- Reads a block scalar behind its sign; `outer` is the indentation around it. -/
def scanBlock? (literal : Bool) (outer : Int) (c : Cursor) : Option (List Char × Cursor) := do
  let (chomp, increment, c) ← blockHeader? c
  let known := if increment = 0 then 0 else (max outer 0).toNat + increment
  let (deepest, breaks, c) ← blockBreaks? known (c.rest.length + 2) 0 [] c
  let indent := if known = 0 then max (max deepest (outer + 1).toNat) 1 else known
  let (text, ending, breaks, c) ←
    blockLines? literal indent (c.rest.length + 2) [] [] breaks false c
  let text := if chomp = .strip then text else text ++ ending
  some (if chomp = .keep then text ++ breaks else text, c)

end ApiReplay.Yaml
