/-!
# Deployment flavors

A service runs in one of two flavors, and test documents state to which of them they apply.

## Main definitions

* `Flavor`, `Flavor.name`: the flavors and their names.
* `Flavor.ofText?`: the flavor a text names, without regard to the case of ASCII letters.
-/

namespace ApiReplay

/-- How a service is deployed. -/
inductive Flavor where
  | stack
  | serverless
deriving DecidableEq, Inhabited

namespace Flavor

/-- The name of a flavor. -/
def name : Flavor → String
  | stack => "stack"
  | serverless => "serverless"

/-- The flavor with exactly the given name. -/
def ofName? : String → Option Flavor
  | "stack" => some stack
  | "serverless" => some serverless
  | _ => none

/-- A text with its ASCII letters in lower case. -/
def lower (text : String) : String :=
  String.ofList (text.toList.map Char.toLower)

/-- The flavor that a text names. -/
def ofText? (text : String) : Option Flavor :=
  ofName? (lower text)

/-- What is said about a text that names no flavor. -/
def unknownMessage (text : String) : String :=
  "unknown flavor '" ++ lower text ++ "'"

end Flavor

end ApiReplay
