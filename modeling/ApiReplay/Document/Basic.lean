import ApiReplay.Action.Reader
import ApiReplay.Case
import ApiReplay.Document.Requirement
import ApiReplay.Error

/-!
# Test documents

A document is a stream of fragments, mappings whose keys are taken in order wherever a fragment
ends: the requirement, of which the last counts, pieces of the setup and the teardown that all tests
share, and the titles of tests with their steps. Steps stay raw until the tests are built, so a
document that is not meant for a flavor is not checked for malformed steps.

## Main definitions

* `Document`, `Document.gather`, `Document.Draft.finish`: the documents and how they are gathered.
* `Document.cases`: the tests of a document; `Document.ignored` lists the kinds of steps that
  building them passes over.
-/

namespace ApiReplay

/-- A test document with raw steps. -/
structure Document where
  requires : Requirement
  setup : List Json
  teardown : List Json
  /-- The titles of the tests with their steps, in the order of the file. -/
  tests : List (String × Json)

/-- A document that is being gathered. -/
structure Document.Draft where
  requires : Option Requirement := none
  setup : List Json := []
  teardown : List Json := []
  tests : List (String × Json) := []

namespace Document

/-! ### Gathering -/

/-- Adds an entry of a fragment. -/
def Draft.add (d : Draft) : String × Json → Except DocumentFault Draft
  | (key, value) =>
    match key with
    | "requires" => (Requirement.parse value).map fun r => { d with requires := some r }
    | "setup" => .ok { d with setup := d.setup ++ [value] }
    | "teardown" => .ok { d with teardown := d.teardown ++ [value] }
    | _ => .ok { d with tests := d.tests ++ [(key, value)] }

/-- Adds the entries of a fragment; null has none. -/
def Draft.addFragment (d : Draft) : Json → Except DocumentFault Draft
  | .null => .ok d
  | .object entries => entries.foldlM Draft.add d
  | got => .error (.fragment got)

/-- Gathers the fragments of a stream. -/
def gather (fragments : List Json) : Except DocumentFault Draft :=
  fragments.foldlM Draft.addFragment {}

/-- The document that was gathered; it needs a requirement. -/
def Draft.finish (d : Draft) : Except Error Document :=
  match d.requires with
  | some requires => .ok ⟨requires, d.setup, d.teardown, d.tests⟩
  | none => .error .missingRequires

/-- The titles of the tests. -/
def titles (d : Document) : List String :=
  d.tests.map Prod.fst

/-! ### Tests -/

/-- The actions of several lists of steps. -/
def actions : List Json → Except DocumentFault (List Action)
  | [] => .ok []
  | steps :: rest => do
    let first ← Action.parseList steps
    let more ← actions rest
    .ok (first ++ more)

/-- The tests with given titles and steps. -/
def casesOf (source : String) (setup teardown : List Action) :
    List (String × Json) → Except DocumentFault (List Case)
  | [] => .ok []
  | (title, steps) :: rest => do
    let body ← Action.parseList steps
    let more ← casesOf source setup teardown rest
    .ok (⟨title, source, setup, body, teardown⟩ :: more)

/-- The tests of a document. The first malformed step is the error: first those of the setup, then
those of the teardown, then those of the tests. -/
def cases (d : Document) (source : String) : Except DocumentFault (List Case) := do
  let setup ← actions d.setup
  let teardown ← actions d.teardown
  casesOf source setup teardown d.tests

/-- The unknown kinds in lists of steps, up to the first step that cannot be read. -/
def ignoredIn : List Json → List String
  | [] => []
  | steps :: rest =>
    Action.ignored steps ++
      match Action.parseList steps with
      | .ok _ => ignoredIn rest
      | .error _ => []

/-- The unknown kinds of steps that building the tests passes over. -/
def ignored (d : Document) : List String :=
  ignoredIn (d.setup ++ d.teardown ++ d.tests.map Prod.snd)

end Document

end ApiReplay
