import ApiReplay.Text.Blank

/-!
# Places in a text of markup

A cursor is a place in a text: what is still to be read, how many characters were read, and the line
and the column of the place. Five characters end a line; a carriage return and a line feed together
end one line.

## Main definitions

* `Yaml.Cursor`: the places, with `advance`, `newline` and `skipWhile`.
* `Yaml.isBreak`, `Yaml.isGap`: the characters that end lines, and those that separate words.
* `Yaml.Gap`, `Yaml.readGap?`: the white space between words, and how lines are folded over it.
-/

namespace ApiReplay.Yaml

/-- Whether a character ends a line. -/
def isBreak (c : Char) : Bool :=
  c = '\n' || c = '\r' || c = '\u0085' || c = '\u2028' || c = '\u2029'

/-- Whether a character is a blank inside a line. -/
def isSpace (c : Char) : Bool :=
  c = ' ' || c = '\t'

/-- Whether a character separates words. -/
def isGap (c : Char) : Bool :=
  isSpace c || isBreak c

/-- Whether a character may stand in the name of an anchor. -/
def isWordChar (c : Char) : Bool :=
  c.isAlphanum || c = '_' || c = '-'

/-- A place in a text. -/
structure Cursor where
  rest : List Char
  index : Nat := 0
  line : Nat := 0
  column : Nat := 0

namespace Cursor

/-- The next character. -/
def peek? (c : Cursor) : Option Char :=
  c.rest.head?

/-- Whether a list of characters starts with a separator of words or is at its end. -/
def endsWord : List Char → Bool
  | [] => true
  | x :: _ => isGap x

/-- The place behind a number of characters of the line. -/
def advance (n : Nat) (c : Cursor) : Cursor :=
  { c with rest := c.rest.drop n, index := c.index + n, column := c.column + n }

/-- The place behind the characters of the line that satisfy a condition. -/
def skipWhile (p : Char → Bool) (c : Cursor) : Cursor :=
  c.advance (c.rest.takeWhile p).length

/-- The place behind the end of a line, if the line ends here. -/
def newline (c : Cursor) : Cursor :=
  match c.rest with
  | '\r' :: '\n' :: rest => { rest, index := c.index + 2, line := c.line + 1 }
  | x :: rest => if isBreak x then { rest, index := c.index + 1, line := c.line + 1 } else c
  | [] => c

/-- What the end of a line contributes to a text: a line feed, except that the two separators of the
character standard stand for themselves. -/
def breakText (c : Cursor) : List Char :=
  match c.rest with
  | [] => []
  | x :: _ => if x = '\u2028' ∨ x = '\u2029' then [x] else if isBreak x then ['\n'] else []

/-- Whether the text ends or a line ends here. -/
def atLineEnd (c : Cursor) : Bool :=
  c.rest.head?.all isBreak

/-- Whether a document marker starts here: three of the same sign at the start of a line. -/
def atMarker (sign : Char) (c : Cursor) : Bool :=
  c.column = 0 &&
    match c.rest with
    | x :: y :: z :: rest => x = sign && y = sign && z = sign && endsWord rest
    | _ => false

/-- Whether any document marker starts here. -/
def atAnyMarker (c : Cursor) : Bool :=
  c.atMarker '-' || c.atMarker '.'

/-- The place behind blanks and a comment, at the end of the line; none when something else stands
there. -/
def finishLine? (c : Cursor) : Option Cursor :=
  let c := c.skipWhile isSpace
  let c := if c.peek? = some '#' then c.skipWhile fun x => !isBreak x else c
  if c.atLineEnd then some c.newline else none

end Cursor

/-! ### Gaps -/

/-- The white space between two words: the blanks of a line, or ends of lines. -/
structure Gap where
  blanks : List Char := []
  /-- Whether a line ended. -/
  broken : Bool := false
  first : List Char := []
  further : List Char := []

/-- The text that a gap stands for. A single end of a line stands for a space, and the first of
several stands for nothing. -/
def Gap.text (g : Gap) : List Char :=
  if g.broken then
    if g.first.head? = some '\n' then if g.further.isEmpty then [' '] else g.further
    else g.first ++ g.further
  else g.blanks

/-- Reads white space. Where `indent` is given, a tab to the left of that column is refused behind
the end of a line. -/
def readGap? (indent : Option Nat) : Nat → Gap → Cursor → Option (Gap × Cursor)
  | 0, g, c => some (g, c)
  | fuel + 1, g, c =>
    match c.peek? with
    | none => some (g, c)
    | some x =>
      if isSpace x then
        if g.broken then
          if x = '\t' ∧ indent.any (c.column < ·) then none
          else readGap? indent fuel g (c.advance 1)
        else readGap? indent fuel { g with blanks := g.blanks ++ [x] } (c.advance 1)
      else if isBreak x then
        if g.broken then
          readGap? indent fuel { g with further := g.further ++ c.breakText } c.newline
        else
          readGap? indent fuel { g with blanks := [], broken := true, first := c.breakText }
            c.newline
      else some (g, c)

end ApiReplay.Yaml
