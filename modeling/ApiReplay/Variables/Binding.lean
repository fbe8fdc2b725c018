import ApiReplay.Variables.Basic

/-!
# Parameter binding

In the texts of a tree of parameters every token, a dollar sign followed by a name, stands for the
text of a variable. A name is made of digits, small ASCII letters, `_` and `-` and reaches as far as
it can. Substituted text is not looked at again. Keys and values other than texts stay as they are.

## Main definitions

* `Variables.Piece`, `Variables.pieces`: a text as literal characters and tokens.
* `Variables.substitute`: a text with its tokens replaced.
* `Variables.bindParams`: the same for every text of a tree; the first token of the tree without a
  value is the error.
-/

namespace ApiReplay.Variables

/-! ### Tokens of a text -/

/-- A part of a text. -/
inductive Piece where
  | literal (c : Char)
  | token (name : List Char)
deriving DecidableEq

/-- The characters of names. -/
def isNameChar (c : Char) : Bool :=
  c.isDigit || c.isLower || c = '_' || c = '-'

/-- The pieces of a text, from left to right. -/
def pieces : List Char → List Piece
  | [] => []
  | c :: rest =>
    if c = '$' ∧ rest.takeWhile isNameChar ≠ [] then
      .token (rest.takeWhile isNameChar) :: pieces (rest.dropWhile isNameChar)
    else .literal c :: pieces rest
termination_by text => text.length
decreasing_by
  · have := (List.dropWhile_sublist (l := rest) isNameChar).length_le
    simp only [List.length_cons]; omega
  · simp

/-- The text that a piece stands for. -/
def pieceText (vars : Variables) : Piece → Except UnboundVariable (List Char)
  | .literal c => .ok [c]
  | .token name => (vars.lookup (String.ofList name)).map fun value => value.plainText.toList

/-- The text that a list of pieces stands for. -/
def pieceTexts (vars : Variables) : List Piece → Except UnboundVariable (List Char)
  | [] => .ok []
  | piece :: rest => do
    let first ← vars.pieceText piece
    let more ← vars.pieceTexts rest
    .ok (first ++ more)

/-- A text with every token replaced by the text of its variable. -/
def substitute (vars : Variables) (text : String) : Except UnboundVariable String :=
  (vars.pieceTexts (pieces text.toList)).map String.ofList

/-! ### Trees -/

mutual

/-- A tree with the tokens of all its texts replaced. -/
def bindParams (vars : Variables) : Json → Except UnboundVariable Json
  | .string s => (vars.substitute s).map Json.string
  | .array items => (vars.bindItems items).map Json.array
  | .object entries => (vars.bindEntries entries).map Json.object
  | .null => .ok .null
  | .bool b => .ok (.bool b)
  | .number n => .ok (.number n)

/-- The items of an array, bound in order. -/
def bindItems (vars : Variables) : List Json → Except UnboundVariable (List Json)
  | [] => .ok []
  | item :: rest => do
    let first ← vars.bindParams item
    let more ← vars.bindItems rest
    .ok (first :: more)

/-- The entries of an object, bound in order. -/
def bindEntries (vars : Variables) :
    List (String × Json) → Except UnboundVariable (List (String × Json))
  | [] => .ok []
  | (key, value) :: rest => do
    let first ← vars.bindParams value
    let more ← vars.bindEntries rest
    .ok ((key, first) :: more)

end

end ApiReplay.Variables
