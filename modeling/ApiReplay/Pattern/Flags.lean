import ApiReplay.Pattern.Basic
import ApiReplay.Pattern.NamedSet
import ApiReplay.Text.Folding

/-!
# The modes in which a pattern is read

A pattern switches modes for the rest of the group it stands in. They decide whether case matters,
what ends a line, which sets the named sets are, and whether blanks and comments between the parts
of a pattern are passed over.

## Main definitions

* `Pattern.Flags`: the modes.
* `Pattern.Flags.skip`: passes over blanks and comments where the mode allows them.
* `Pattern.Flags.literal`, `Pattern.Flags.dot`: what a character and a dot stand for.
* `Pattern.Flags.scan?`: the switches of a group.
-/

namespace ApiReplay.Pattern

open Text

/-- The modes in which a pattern is read. -/
structure Flags where
  /-- Characters that are equal up to case stand for each other. -/
  caseless : Bool := false
  /-- `^` and `$` hold at the ends of lines too. -/
  lines : Bool := false
  /-- A dot stands for a line feed too. -/
  dotAll : Bool := false
  /-- A carriage return ends lines too. -/
  returns : Bool := false
  /-- Only ASCII characters belong to the named sets. -/
  ascii : Bool := false
  /-- Blanks and comments between the parts of the pattern are passed over. -/
  extended : Bool := false

namespace Flags

/-- Passes over white space and over comments, which reach from `#` to the end of the line. -/
def skipFiller (inComment : Bool) : List Char → List Char
  | [] => []
  | c :: rest =>
    if inComment then skipFiller (c ≠ '\n') rest
    else if isBlank c then skipFiller false rest
    else if c = '#' then skipFiller true rest
    else c :: rest

/-- Passes over blanks and comments where they mean nothing. -/
def skip (flags : Flags) (text : List Char) : List Char :=
  if flags.extended then skipFiller false text else text

/-- The next character behind blanks, for deciding whether a hyphen makes a range. -/
def peek? (flags : Flags) (text : List Char) : Option Char :=
  if flags.extended then
    match text.dropWhile isBlank with
    | '#' :: rest => (rest.dropWhile isBlank).head?
    | rest => rest.head?
  else text.head?

/-- A set with the characters that are equal up to case, where case does not matter. -/
def fold (flags : Flags) (set : CharSet) : CharSet :=
  if flags.caseless then
    let closed := set.closeUnderCase
    if flags.ascii then set.union (closed.inter (.ofRanges [(0, 0x7F)])) else closed
  else set

/-- The characters that a character of a pattern stands for. -/
def literal (flags : Flags) (c : Char) : CharSet :=
  flags.fold (.single c)

/-- The characters that a dot stands for; none that are ASCII only make sense. -/
def dot? (flags : Flags) : Option CharSet :=
  if flags.ascii then none
  else if flags.dotAll then some .full
  else if flags.returns then some (CharSet.ofRanges [(10, 10), (13, 13)]).complement
  else some (CharSet.ofRanges [(10, 10)]).complement

/-- The characters of words. -/
def word (flags : Flags) : CharSet :=
  if flags.ascii then NamedSet.asciiWord else NamedSet.word

/-- The set named by one of the letters `d`, `s` and `w`, or its complement for a capital letter. -/
def letterSet? (flags : Flags) (letter : Char) : Option CharSet :=
  let positive := match letter.toLower with
    | 'd' => some (if flags.ascii then NamedSet.asciiDigit else NamedSet.digit)
    | 's' => some (if flags.ascii then NamedSet.asciiBlank else NamedSet.blank)
    | 'w' => some flags.word
    | _ => none
  positive.map fun set => if letter.isUpper then set.complement else set

/-- The condition of `^`. -/
def caret (flags : Flags) : Place :=
  if flags.lines then if flags.returns then .lineStartReturn else .lineStart else .textStart

/-- The condition of `$`. -/
def dollar (flags : Flags) : Place :=
  if flags.lines then if flags.returns then .lineEndReturn else .lineEnd else .textEnd

/-- Switches the mode named by a letter. The letter `U` only changes which match is preferred. -/
def set? (flags : Flags) (letter : Char) (on : Bool) : Option Flags :=
  match letter with
  | 'i' => some { flags with caseless := on }
  | 'm' => some { flags with lines := on }
  | 's' => some { flags with dotAll := on }
  | 'R' => some { flags with returns := on }
  | 'u' => some { flags with ascii := !on }
  | 'x' => some { flags with extended := on }
  | 'U' => some flags
  | _ => none

/-- Reads the switches of a group up to `:` or `)`. No letter may stand twice, and there may be one
hyphen, with a letter behind it. The result tells the modes, whether there was any switch, the
closing character and what follows it. -/
def scan? (flags : Flags) (seen : List Char) : List Char → Option (Flags × Bool × Char × List Char)
  | [] => none
  | c :: rest =>
    if c = ':' ∨ c = ')' then
      if seen.head? = some '-' then none else some (flags, !seen.isEmpty, c, rest)
    else if seen.contains c then none
    else if c = '-' then scan? flags (c :: seen) rest
    else
      match flags.set? c (!seen.contains '-') with
      | none => none
      | some flags => scan? flags (c :: seen) rest

end Flags

end ApiReplay.Pattern
