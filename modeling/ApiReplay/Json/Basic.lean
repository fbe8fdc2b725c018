import ApiReplay.Entries
import ApiReplay.Number

/-!
# The data model

Documents, parameters and response bodies are trees of one type. An object is a list of entries in
the order in which they were written. Its keys are distinct, because it is built with
`Entries.insert`: a repeated key stays at its first position and takes the last value.

## Main definitions

* `Json`: null, booleans, numbers, texts, arrays and objects.
* `Json.get?`: the value under a key of an object.
-/

namespace ApiReplay

/-- A tree of data. -/
inductive Json where
  | null
  | bool (value : Bool)
  | number (value : Number)
  | string (value : String)
  | array (items : List Json)
  | object (entries : List (String × Json))
deriving Inhabited

namespace Json

/-- An integer as data. -/
def int (i : Int) : Json :=
  .number (.int i)

/-- A natural number as data. -/
def nat (n : Nat) : Json :=
  .number (.int n)

/-! ### Access -/

/-- The value under a key, when the tree is an object that has it. -/
def get? (key : String) : Json → Option Json
  | .object entries => Entries.find? key entries
  | _ => none

/-- The boolean, when the tree is one. -/
def bool? : Json → Option Bool
  | .bool b => some b
  | _ => none

/-- The text, when the tree is one. -/
def string? : Json → Option String
  | .string s => some s
  | _ => none

/-- The items, when the tree is an array. -/
def array? : Json → Option (List Json)
  | .array items => some items
  | _ => none

/-- The entries, when the tree is an object. -/
def object? : Json → Option (List (String × Json))
  | .object entries => some entries
  | _ => none

/-- The count, when the tree is an integer that is not negative. -/
def nat? : Json → Option Nat
  | .number n => n.toNat?
  | _ => none

end Json

end ApiReplay
