import ApiReplay.Action.Fault
import ApiReplay.Service.Flavor

/-!
# Requirements

A document states for which flavors of a service it is meant.

## Main definitions

* `Requirement`, `Requirement.parse`: the requirements.
* `Requirement.allows`: whether a flavor meets a requirement.
-/

namespace ApiReplay

/-- The flavors that a document is meant for. -/
structure Requirement where
  stack : Bool
  serverless : Bool
deriving DecidableEq

namespace Requirement

/-- Whether an entry is there and true. -/
def flag (name : String) (entries : List (String × Json)) : Bool :=
  ((Entries.find? name entries).bind Json.bool?).getD false

/-- The requirement that a tree states. -/
def parse : Json → Except DocumentFault Requirement
  | .object entries => .ok ⟨flag "stack" entries, flag "serverless" entries⟩
  | got => .error (.requirement got)

/-- Whether documents with the requirement are meant for a flavor. -/
def allows (r : Requirement) : Flavor → Bool
  | .stack => r.stack
  | .serverless => r.serverless

/-- The requirement as it is shown. -/
def text : Requirement → String
  | ⟨true, true⟩ => "stack, serverless"
  | ⟨true, false⟩ => "stack"
  | ⟨false, true⟩ => "serverless"
  | ⟨false, false⟩ => "nothing"

end Requirement

end ApiReplay
