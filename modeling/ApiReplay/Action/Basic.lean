import ApiReplay.Json.Text

/-!
# Actions

A test is a list of actions: calls of operations, bindings of variables, and assertions about the
last response.

## Main definitions

* `Comparison`, `Comparison.holds`: the four order comparisons.
* `Call`: a call of an operation, with the failure it may expect.
* `Action`, `Action.text`: the actions and how they are shown.
-/

namespace ApiReplay

/-- An order comparison. -/
inductive Comparison where
  | lt
  | lte
  | gt
  | gte
deriving DecidableEq

namespace Comparison

/-- The comparison with a keyword. -/
def ofKeyword? : String → Option Comparison
  | "lt" => some lt
  | "lte" => some lte
  | "gt" => some gt
  | "gte" => some gte
  | _ => none

/-- The keyword of a comparison. -/
def keyword : Comparison → String
  | lt => "lt"
  | lte => "lte"
  | gt => "gt"
  | gte => "gte"

/-- The sign of a comparison. -/
def symbol : Comparison → String
  | lt => "<"
  | lte => "<="
  | gt => ">"
  | gte => ">="

/-- Whether the comparison holds of two values in a given order. -/
def holds : Comparison → Ordering → Bool
  | lt, o => o == .lt
  | lte, o => o != .gt
  | gt, o => o == .gt
  | gte, o => o != .lt

end Comparison

/-- A call of an operation. -/
structure Call where
  operation : String
  params : Json
  /-- The category of the failure that the call may end in. -/
  expected : Option String
  headers : List (String × String)

/-- One action of a test. -/
inductive Action where
  | call (call : Call)
  | bind (path : String) (name : String)
  | equal (path : String) (expected : Json)
  | length (path : String) (expected : Nat)
  | isTrue (path : String)
  | isFalse (path : String)
  | compare (comparison : Comparison) (path : String) (expected : Json)

namespace Action

/-- The keyword under which a document states the action. -/
def keyword : Action → String
  | call _ => "do"
  | bind _ _ => "set"
  | equal _ _ => "match"
  | length _ _ => "length"
  | isTrue _ => "is_true"
  | isFalse _ => "is_false"
  | compare comparison _ _ => comparison.keyword

/-- Whether the action is a call. -/
def isCall : Action → Bool
  | call _ => true
  | _ => false

/-- Whether the action only looks at the last response. -/
def isAssertion : Action → Bool
  | call _ | bind _ _ => false
  | _ => true

/-- The action as it is shown. -/
def text : Action → String
  | call c =>
    match c.expected with
    | some category => "do " ++ c.operation ++ " (catch " ++ category ++ ")"
    | none => "do " ++ c.operation
  | bind path name => "set " ++ path ++ " => $" ++ name
  | equal path expected => "match " ++ path ++ ": " ++ expected.text
  | length path expected => "length " ++ path ++ ": " ++ natText expected
  | isTrue path => "is_true " ++ path
  | isFalse path => "is_false " ++ path
  | compare comparison path expected =>
    path ++ " " ++ comparison.symbol ++ " " ++ expected.text

end Action

end ApiReplay
