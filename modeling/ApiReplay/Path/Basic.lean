import ApiReplay.Integer
import ApiReplay.Json.Basic

/-!
# Path expressions

A path expression is cut into pieces at its dots; a backslash in front of a dot keeps the piece
together. Empty pieces count for nothing, and a first piece `$body` names the place where a path
starts anyway. A piece of digits with or without a sign is an index if it fits 64 bits, a piece with
a dollar sign in front refers to a variable, and any other piece is a key, its backslashes removed.

## Main definitions

* `Path.pieces`: the pieces of an expression.
* `Path.Segment`, `Path.Segment.ofPiece`: what a piece means.
* `Path.parse`: the segments of an expression.
-/

namespace ApiReplay.Path

/-! ### Pieces -/

/-- The pieces of a text, where `escaped` tells whether a backslash stands right before it. -/
def piecesAfter (escaped : Bool) : List Char → List (List Char)
  | [] => [[]]
  | c :: rest =>
    if c = '.' ∧ escaped = false then [] :: piecesAfter false rest
    else (piecesAfter (c = '\\') rest).modifyHead (c :: ·)

/-- The pieces of a text between its dots, other than dots right behind a backslash. -/
def pieces (expr : List Char) : List (List Char) :=
  piecesAfter false expr

/-! ### Segments -/

/-- One step of a path. -/
inductive Segment where
  | key (name : String)
  /-- A position in an array; a negative one counts from the end. -/
  | index (position : Int)
  /-- The walk goes on from the value of a variable. -/
  | variable (name : String)
deriving DecidableEq

/-- The number written by decimal digits, when there are digits only and at least one. -/
def digits? (text : List Char) : Option Nat :=
  if text ≠ [] ∧ text.all Char.isDigit then
    some (text.foldl (fun n c => 10 * n + (c.toNat - '0'.toNat)) 0)
  else none

/-- The signed integer that a text is the decimal form of, leading zeros and a plus allowed. -/
def integer? : List Char → Option Int
  | '-' :: rest => (digits? rest).map fun n => -n
  | '+' :: rest => (digits? rest).map fun n => n
  | text => (digits? text).map fun n => n

/-- The index that a piece stands for: an integer of 64 bits. -/
def index? (piece : List Char) : Option Int :=
  (integer? piece).filter (Integer.isSigned 64)

/-- The segment that a piece stands for. -/
def Segment.ofPiece (piece : List Char) : Segment :=
  match index? piece with
  | some i => .index i
  | none =>
    match piece with
    | '$' :: c :: rest => .variable (String.ofList (c :: rest))
    | _ => .key (String.ofList (piece.filter (· ≠ '\\')))

/-- The name of the body at the start of an expression. -/
def bodyPiece : List Char := ['$', 'b', 'o', 'd', 'y']

/-- The pieces of an expression that stand for segments. -/
def properPieces (expr : List Char) : List (List Char) :=
  match (pieces expr).filter (· ≠ []) with
  | [] => []
  | first :: rest => if first = bodyPiece then rest else first :: rest

/-- The segments of an expression. -/
def parse (expr : String) : List Segment :=
  (properPieces expr.toList).map Segment.ofPiece

end ApiReplay.Path
