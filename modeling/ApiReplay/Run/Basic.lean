import ApiReplay.Document.Basic

/-!
# Runs

A run takes documents one after the other. A document that could not be loaded, or whose steps are
malformed, counts as one failure without a test; a document for other flavors is skipped; of any
other document every test is executed, whatever became of the tests before it.

## Main definitions

* `Block`: what a part of a run adds to the totals, with its events.
* `Run.cases`, `Run.document`, `Run.documents`: the parts.
-/

namespace ApiReplay

/-- What a part of a run adds to the totals, the state of the service behind it, and its events. -/
structure Block (σ : Type) where
  summary : Summary
  service : σ
  events : List Event

namespace Run

variable {σ : Type}

/-- The failures of a test with a given result. -/
def failures (file title : String) : Except Error Unit → List Failure
  | .ok () => []
  | .error e => [⟨file, some title, e⟩]

/-- What is told about a test with a given result. -/
def failureEvents (file title : String) : Except Error Unit → List Event
  | .ok () => []
  | .error e => [.caseFailed file title e]

/-- Executes a test. -/
def case (client : Client σ) (file : String) (c : Case) (service : σ) : Block σ :=
  let outcome := c.execute client service
  { summary := { tests := c.callCount, failures := failures file c.title outcome.result }
    service := outcome.service
    events := outcome.events ++ failureEvents file c.title outcome.result }

/-- Executes tests one after the other. -/
def cases (client : Client σ) (file : String) : List Case → σ → Block σ
  | [], service => ⟨{}, service, []⟩
  | c :: rest, service =>
    let first := case client file c service
    let more := cases client file rest first.service
    ⟨first.summary.append more.summary, more.service, first.events ++ more.events⟩

/-- The block of a document that cannot be run. -/
def broken (file : String) (e : Error) (service : σ) : Block σ :=
  ⟨{ failures := [⟨file, none, e⟩] }, service, [.documentFailed file e]⟩

/-- Runs the document of a file, if it could be loaded. -/
def document (client : Client σ) (flavor : Flavor) (file : String)
    (loaded : Except Error Document) (service : σ) : Block σ :=
  match loaded with
  | .error e => broken file e service
  | .ok d =>
    if d.requires.allows flavor then
      let ignored := d.ignored.map Event.stepIgnored
      let block := match d.cases file with
        | .error fault => broken file (.malformed fault) service
        | .ok tests => cases client file tests service
      { block with events := ignored ++ block.events }
    else ⟨{ skipped := 1 }, service, [.documentSkipped file d.requires flavor]⟩

/-- Runs the documents of files, one after the other. -/
def documents (client : Client σ) (flavor : Flavor) :
    List (String × Except Error Document) → σ → Block σ
  | [], service => ⟨{}, service, []⟩
  | (file, loaded) :: rest, service =>
    let first := document client flavor file loaded service
    let more := documents client flavor rest first.service
    ⟨first.summary.append more.summary, more.service, first.events ++ more.events⟩

end Run

end ApiReplay
