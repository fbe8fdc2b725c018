import ApiReplay.Json.Text

/-!
# Variables

The variables of a test hold trees under names. Looking up a name that is not bound is an error,
never a blank.

## Main definitions

* `Variables`, `Variables.bind`, `Variables.lookup`: the store.
* `UnboundVariable`: the error of a look-up, with the name.
* `Variables.expand`: a text that is a reference stands for the value of its variable.
-/

namespace ApiReplay

/-- A reference to a name that is not bound. -/
structure UnboundVariable where
  name : String
deriving DecidableEq

/-- Values under distinct names. -/
structure Variables where
  entries : List (String × Json)

namespace Variables

/-- No variable is bound. -/
def empty : Variables := ⟨[]⟩

/-- Binds a name, replacing its value if it has one. -/
def bind (name : String) (value : Json) (vars : Variables) : Variables :=
  ⟨Entries.insert name value vars.entries⟩

/-- The value of a name. -/
def get? (name : String) (vars : Variables) : Option Json :=
  Entries.find? name vars.entries

/-- Binding a name changes no other name. -/
theorem get?_bind (name k : String) (value : Json) (vars : Variables) :
    (vars.bind name value).get? k = if name = k then some value else vars.get? k :=
  Entries.find?_insert name k value vars.entries

/-- The value of a name that has to be bound. -/
def lookup (name : String) (vars : Variables) : Except UnboundVariable Json :=
  match vars.get? name with
  | some value => .ok value
  | none => .error ⟨name⟩

/-- The number of bound names. -/
def size (vars : Variables) : Nat :=
  vars.entries.length

/-- The value of the variable that a text refers to: a dollar sign and its name, which is all of the
text and not empty. Any other tree stands for itself. -/
def expand (vars : Variables) : Json → Except UnboundVariable Json
  | .string s =>
    match s.toList with
    | '$' :: c :: rest => vars.lookup (String.ofList (c :: rest))
    | _ => .ok (.string s)
  | tree => .ok tree

end Variables

end ApiReplay
