import ApiReplay.Text.Digits
import ApiReplay.Pattern.Flags

/-!
# Escapes of patterns

A backslash takes the meaning from a sign, gives one to a letter, or names a character by its code.
Letters and digits without a meaning are refused, so back references and the like are no patterns.

## Main definitions

* `Pattern.Escape`: what an escape stands for.
* `Pattern.scanEscape?`: the escape behind a backslash and what follows it.
-/

namespace ApiReplay.Pattern

/-- What an escape stands for. -/
inductive Escape where
  | char (c : Char)
  | set (set : CharSet)
  | place (condition : Place)

/-- The character with a code. -/
def charOfCode? (code : Nat) : Option Char :=
  if h : code.isValidChar then some (Char.ofNatAux code h) else none

/-- The number written by hexadecimal digits. -/
def hexNumber (digits : List Char) : Nat :=
  digits.foldl (fun n c => 16 * n + (Text.hexValue? c).getD 0) 0

/-- Reads a number of hexadecimal digits. -/
def scanDigits? (flags : Flags) : Nat → List Char → Option (List Char × List Char)
  | 0, text => some ([], text)
  | n + 1, text =>
    match text with
    | [] => none
    | c :: rest =>
      match Text.hexValue? c, scanDigits? flags n (flags.skip rest) with
      | some _, some (digits, rest) => some (c :: digits, rest)
      | _, _ => none

/-- Reads characters up to a closing brace, passing over blanks where they mean nothing. -/
def scanBraced? (flags : Flags) (inComment : Bool) : List Char → Option (List Char × List Char)
  | [] => none
  | c :: rest =>
    if inComment then scanBraced? flags (c ≠ '\n') rest
    else if flags.extended ∧ Text.isBlank c then scanBraced? flags false rest
    else if flags.extended ∧ c = '#' then scanBraced? flags true rest
    else if c = '}' then some ([], rest)
    else (scanBraced? flags false rest).map fun (read, rest) => (c :: read, rest)

/-- Reads a character given by its code, in a number of digits or between braces. A two-digit code
beyond ASCII is one byte where only ASCII counts, and no character. -/
def scanCode? (flags : Flags) (digits : Nat) (text : List Char) : Option (Char × List Char) :=
  match flags.skip text with
  | '{' :: rest => do
    let (read, rest) ← scanBraced? flags false rest
    if read.isEmpty ∨ read.any fun c => (Text.hexValue? c).isNone then none
    else some (← charOfCode? (hexNumber read), flags.skip rest)
  | text => do
    let (read, rest) ← scanDigits? flags digits text
    let c ← charOfCode? (hexNumber read)
    if flags.ascii ∧ digits = 2 ∧ 0x7F < c.toNat then none else some (c, rest)

/-- Reads the name of a set of the character standard: one letter, or any name between braces. -/
def scanStandardSet? (flags : Flags) (negated : Bool) (text : List Char) :
    Option (CharSet × List Char) := do
  let (name, rest) ← match flags.skip text with
    | [] => none
    | '{' :: rest => scanBraced? flags false rest
    | c :: rest => if c = '\\' then none else some ([c], flags.skip rest)
  if flags.ascii then none
  else
    let set := flags.fold (← NamedSet.standard? name)
    some (if negated then set.complement else set, rest)

/-- The signs that have a meaning of their own. -/
def isSign (c : Char) : Bool :=
  "\\.+*?()|[]\x7b\x7d^$#&-~".toList.contains c

/-- Whether a backslash may stand in front of a character to take its meaning. -/
def isEscapable (c : Char) : Bool :=
  isSign c || (c.toNat < 0x80 && !c.isAlphanum && c ≠ '<' && c ≠ '>')

/-- The characters of the words between braces behind `\b`. -/
def isBoundaryLetter (c : Char) : Bool :=
  c.isAlpha || c = '-'

/-- The condition named by `\b`, or by a word between braces behind it. -/
def scanBoundary? (flags : Flags) (text : List Char) : Option (Place × List Char) :=
  match text with
  | '{' :: rest =>
    match flags.skip rest with
    | [] => none
    | c :: _ =>
      if isBoundaryLetter c then do
        let (name, rest) ← scanBraced? flags false rest
        match String.ofList name with
        | "start" => some (.wordStart flags.word, rest)
        | "end" => some (.wordEnd flags.word, rest)
        | "start-half" => some (.wordStartHalf flags.word, rest)
        | "end-half" => some (.wordEndHalf flags.word, rest)
        | _ => none
      else some (.wordBoundary flags.word, text)
  | _ => some (.wordBoundary flags.word, text)

/-- The escape behind a backslash, and the text that follows it. -/
def scanEscape? (flags : Flags) : List Char → Option (Escape × List Char)
  | [] => none
  | c :: rest =>
    match c with
    | 'x' => (scanCode? flags 2 rest).map fun (c, rest) => (.char c, rest)
    | 'u' => (scanCode? flags 4 rest).map fun (c, rest) => (.char c, rest)
    | 'U' => (scanCode? flags 8 rest).map fun (c, rest) => (.char c, rest)
    | 'p' => (scanStandardSet? flags false rest).map fun (set, rest) => (.set set, rest)
    | 'P' => (scanStandardSet? flags true rest).map fun (set, rest) => (.set set, rest)
    | 'a' => some (.char '\x07', rest)
    | 'f' => some (.char '\x0c', rest)
    | 't' => some (.char '\t', rest)
    | 'n' => some (.char '\n', rest)
    | 'r' => some (.char '\r', rest)
    | 'v' => some (.char '\x0b', rest)
    | 'A' => some (.place .textStart, rest)
    | 'z' => some (.place .textEnd, rest)
    | 'b' => (scanBoundary? flags rest).map fun (condition, rest) => (.place condition, rest)
    | 'B' => some (.place (.noWordBoundary flags.word), rest)
    | '<' => some (.place (.wordStart flags.word), rest)
    | '>' => some (.place (.wordEnd flags.word), rest)
    | c =>
      match flags.letterSet? c with
      | some set => some (.set set, rest)
      | none => if isEscapable c then some (.char c, rest) else none

end ApiReplay.Pattern
