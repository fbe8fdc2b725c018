import ApiReplay.Run.Event

/-!
# Diagnostics

Most events leave an entry in the log: a level, the part of the program that it is about, what
happened, and with which values.

## Main definitions

* `Log.Level`: the levels, from errors to traces.
* `Log.Entry`, `Log.Entry.text`: the entries and how they are written.
* `Log.entry?`: the entry of an event.
-/

namespace ApiReplay.Log

/-- How much an entry matters. -/
inductive Level where
  | error
  | warn
  | info
  | debug
  | trace
deriving DecidableEq

namespace Level

/-- How detailed a level is. -/
def rank : Level → Nat
  | error => 1
  | warn => 2
  | info => 3
  | debug => 4
  | trace => 5

/-- The name of a level. -/
def name : Level → String
  | error => "ERROR"
  | warn => "WARN"
  | info => "INFO"
  | debug => "DEBUG"
  | trace => "TRACE"

end Level

/-- An entry of the log. -/
structure Entry where
  level : Level
  /-- The part of the program that the entry is about. -/
  topic : String
  message : String
  values : List (String × String) := []

/-- An entry as it is written. -/
def Entry.text (e : Entry) : String :=
  e.level.name ++ " " ++ e.topic ++ ": " ++ e.message
    ++ String.join (e.values.map fun (name, value) => " " ++ name ++ "=" ++ value)

/-! ### Events -/

/-- The topic of whole runs. -/
def runs : String := "conformance::testing::runner"

/-- The topic of single tests. -/
def cases : String := "conformance::testing::case"

/-- The topic of single actions. -/
def actions : String := "conformance::testing::interpreter"

/-- The topic of fetched corpora. -/
def corpora : String := "conformance::fetch"

/-- The entry of an event. -/
def entry? : Event → Option Entry
  | .connecting address => some ⟨.debug, "conformance::cli", "connecting", [("url", address)]⟩
  | .fileExcluded path => some ⟨.debug, runs, "skipped by pattern", [("file", path)]⟩
  | .runStarted files flavor =>
    some ⟨.info, runs, "running tests", [("files", natText files), ("flavor", flavor.name)]⟩
  | .documentSkipped file requirement flavor =>
    some ⟨.info, runs, "skipping document",
      [("file", file), ("requires", requirement.text), ("flavor", flavor.name)]⟩
  | .stepIgnored keyword =>
    some ⟨.warn, "conformance::testing::action", "skipping unknown action", [("action", keyword)]⟩
  | .phaseStarted source title phase actions =>
    some ⟨.debug, cases, "phase", [("test", source), ("title", title), ("phase", phase.name),
      ("actions", natText actions)]⟩
  | .actionStarted action => some ⟨.debug, actions, "running action", [("action", action.text)]⟩
  | .performed request exchange =>
    exchange.path.map fun path =>
      ⟨.debug, "conformance::client::http", "sending request",
        [("operation", request.operation), ("path", path)]⟩
  | .unexpectedSuccess operation category =>
    some ⟨.warn, actions, "operation succeeded although a failure was expected",
      [("operation", operation), ("catch", category)]⟩
  | .responded operation response =>
    some ⟨.debug, actions, "response", [("operation", operation), ("response", response.text)]⟩
  | .failureExpected operation category error =>
    some ⟨.debug, actions, "caught expected failure",
      [("operation", operation), ("catch", category), ("error", error.text)]⟩
  | .bound name value =>
    some ⟨.debug, actions, "bound variable", [("variable", name), ("value", value.text)]⟩
  | .caseFinished source title failed =>
    some ⟨.debug, cases, "finished", [("test", source), ("title", title),
      ("phase", Phase.done.name), ("failed", if failed then "true" else "false")]⟩
  | .teardownFailed source error =>
    some ⟨.warn, cases, "teardown failed after an earlier error",
      [("test", source), ("error", error.message)]⟩
  | .caseFailed file title error =>
    some ⟨.debug, runs, "test failed", [("file", file), ("test", title), ("error", error.message)]⟩
  | .documentFailed file error =>
    some ⟨.warn, runs, "test document failed", [("file", file), ("error", error.message)]⟩
  | .runFinished m =>
    some ⟨.info, runs, "run finished", [("tests", natText m.tests),
      ("failures", natText m.failures.length), ("skipped", natText m.skipped)]⟩
  | .downloaded bytes address =>
    some ⟨.info, corpora, "downloaded test corpus",
      [("bytes", natText bytes), ("url", (Json.string address).text)]⟩
  | .unpacked files destination =>
    some ⟨.info, corpora, "unpacked test corpus",
      [("files", natText files), ("dest", destination)]⟩
  | .interrupted => some ⟨.warn, "conformance", "interrupted", []⟩
  | .caseStarted .. | .actionPassed .. | .actionFailed .. | .fetchStarted _ | .requested ..
  | .emptied _ => none

end ApiReplay.Log
