import ApiReplay.Action.Basic
import ApiReplay.Action.Fault

/-!
# Reading actions

A step is a mapping whose first entry names the kind of action; further entries count for nothing. A
step of an unknown kind is passed over. A call is the name of an operation, or a mapping with
options and exactly one other entry, the operation with its parameters.

## Main definitions

* `Call.parse`: the call that a tree states.
* `Action.parse`: the action that a step states, if its kind is known.
* `Action.parseList`: the actions of a list of steps; `Action.ignored` lists the kinds that reading
  the steps passes over.
-/

namespace ApiReplay

/-! ### Calls -/

namespace Call

/-- The options of a call, which never name its operation. -/
def options : List String :=
  ["catch", "headers", "warnings", "allowed_warnings", "node_selector"]

/-- Whether an entry of a call names an operation. -/
def isOperation (entry : String × Json) : Bool :=
  !options.contains entry.1

/-- The headers of a call. -/
def parseHeaders : Json → Except DocumentFault (List (String × String))
  | .object entries => .ok (entries.map fun h => (h.1, h.2.plainText))
  | got => .error (.headers got)

/-- The parameters of a call; null stands for none. -/
def parameters : Json → Json
  | .null => .object []
  | tree => tree

/-- The call that the entries of a mapping state. -/
def ofEntries (entries : List (String × Json)) : Except DocumentFault Call := do
  let headers ← match Entries.find? "headers" entries with
    | some tree => parseHeaders tree
    | none => .ok []
  match entries.filter isOperation with
  | [] => .error .noOperation
  | [(operation, tree)] =>
    .ok ⟨operation, parameters tree, (Entries.find? "catch" entries).map Json.plainText, headers⟩
  | (first, _) :: (second, _) :: _ => .error (.twoOperations first second)

/-- The call that a tree states. -/
def parse : Json → Except DocumentFault Call
  | .string operation => .ok ⟨operation, .object [], none, []⟩
  | .object entries => ofEntries entries
  | got => .error (.call got)

end Call

/-! ### Steps -/

namespace Action

/-- The first entry of the mapping that belongs to a keyword. -/
def firstEntry (keyword : String) : Json → Except DocumentFault (String × Json)
  | .object (entry :: _) => .ok entry
  | got => .error (.entry keyword got)

/-- The path of a truth test; null, the empty text and the empty list stand for none. -/
def target : Json → String
  | .null => ""
  | .array [] => ""
  | tree => tree.plainText

/-- The action that a keyword and the tree under it state; nothing for an unknown keyword. -/
def ofEntry (keyword : String) (tree : Json) : Except DocumentFault (Option Action) :=
  match keyword with
  | "do" => do return some (.call (← Call.parse tree))
  | "set" => do
    let (path, name) ← firstEntry keyword tree
    return some (.bind path name.plainText)
  | "match" => do
    let (path, expected) ← firstEntry keyword tree
    return some (.equal path expected)
  | "length" => do
    let (path, expected) ← firstEntry keyword tree
    match expected.nat? with
    | some n => return some (.length path n)
    | none => .error (.count path expected)
  | "is_true" => .ok (some (.isTrue (target tree)))
  | "is_false" => .ok (some (.isFalse (target tree)))
  | _ =>
    match Comparison.ofKeyword? keyword with
    | some comparison => do
      let (path, expected) ← firstEntry keyword tree
      return some (.compare comparison path expected)
    | none => .ok none

/-- The action that a step states; nothing for a step of an unknown kind. -/
def parse : Json → Except DocumentFault (Option Action)
  | .object ((keyword, tree) :: _) => ofEntry keyword tree
  | got => .error (.step got)

/-- The actions of some steps. -/
def parseAll : List Json → Except DocumentFault (List Action)
  | [] => .ok []
  | step :: rest => do
    let action ← parse step
    let more ← parseAll rest
    .ok (action.toList ++ more)

/-- The actions of a list of steps; null stands for no steps. -/
def parseList : Json → Except DocumentFault (List Action)
  | .null => .ok []
  | .array steps => parseAll steps
  | got => .error (.stepList got)

/-! ### Steps that are passed over -/

/-- The unknown kinds among some steps, up to the first step that cannot be read. -/
def ignoredAmong : List Json → List String
  | [] => []
  | step :: rest =>
    match step, parse step with
    | .object ((keyword, _) :: _), .ok none => keyword :: ignoredAmong rest
    | _, .ok _ => ignoredAmong rest
    | _, .error _ => []

/-- The unknown kinds that reading a list of steps passes over. -/
def ignored : Json → List String
  | .array steps => ignoredAmong steps
  | _ => []

end Action

end ApiReplay
