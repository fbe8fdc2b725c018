import ApiReplay.Session.Basic

/-!
# Test cases

A test case runs its setup, then its body, then its teardown. Setup and body stop at the first
action that fails, and the body runs only after a setup that passed. The teardown runs in any case,
in the state that was left behind. The first error is the result of the case.

## Main definitions

* `Case`, `Case.callCount`: the test cases.
* `Case.runActions`, `Case.runPhase`: the actions of one phase.
* `Case.execute`: a whole case, from a fresh session.
-/

namespace ApiReplay

/-- A titled test. -/
structure Case where
  title : String
  /-- The identifier of the file that states the test. -/
  source : String
  setup : List Action
  body : List Action
  teardown : List Action

/-- The result of a case, the state of the service behind it, and its events. -/
structure CaseOutcome (σ : Type) where
  result : Except Error Unit
  service : σ
  events : List Event

namespace Case

variable {σ : Type}

/-- The number of calls in the body. -/
def callCount (c : Case) : Nat :=
  (c.body.filter Action.isCall).length

/-- Runs actions up to the first that fails, whose error gets the test and the action attached. -/
def runActions (client : Client σ) (source : String) (phase : Phase) :
    List Action → Session → σ → Outcome σ
  | [], s, service => ⟨.ok (), s, service, []⟩
  | action :: rest, s, service =>
    let first := s.run client action service
    match first.result with
    | .error e =>
      { first with
        result := .error (.inAction source (phase.name ++ " " ++ action.text) e)
        events := first.events ++ [.actionFailed action e] }
    | .ok () =>
      let passed := if phase = .body then [Event.actionPassed action first.session.last] else []
      let more := runActions client source phase rest first.session first.service
      { more with events := first.events ++ passed ++ more.events }

theorem runActions_of_error {client : Client σ} {action : Action} {s : Session} {service : σ}
    {e : Error} (h : (s.run client action service).result = .error e) (source : String)
    (phase : Phase) (rest : List Action) :
    runActions client source phase (action :: rest) s service =
      { s.run client action service with
        result := .error (.inAction source (phase.name ++ " " ++ action.text) e)
        events := (s.run client action service).events ++ [.actionFailed action e] } := by
  simp only [runActions, h]

theorem runActions_of_ok {client : Client σ} {action : Action} {s : Session} {service : σ}
    (h : (s.run client action service).result = .ok ()) (source : String) (phase : Phase)
    (rest : List Action) :
    runActions client source phase (action :: rest) s service =
      let first := s.run client action service
      let more := runActions client source phase rest first.session first.service
      let passed := if phase = .body then [Event.actionPassed action first.session.last] else []
      { more with events := first.events ++ passed ++ more.events } := by
  simp only [runActions, h]

/-- Runs a phase. -/
def runPhase (client : Client σ) (c : Case) (phase : Phase) (actions : List Action) (s : Session)
    (service : σ) : Outcome σ :=
  let outcome := runActions client c.source phase actions s service
  { outcome with events := .phaseStarted c.source c.title phase actions.length :: outcome.events }

/-- Runs the setup and, when it passed, the body. -/
def runMain (client : Client σ) (c : Case) (service : σ) : Outcome σ :=
  let setup := c.runPhase client .setup c.setup Session.start service
  match setup.result with
  | .error _ => setup
  | .ok () =>
    let body := c.runPhase client .body c.body setup.session setup.service
    { body with events := setup.events ++ body.events }

/-- The first of two errors. -/
def firstError (main teardown : Except Error Unit) : Except Error Unit :=
  match main with
  | .error e => .error e
  | .ok () => teardown

/-- What is told when the teardown fails behind an earlier error. -/
def secondError (c : Case) (main teardown : Except Error Unit) : List Event :=
  match main, teardown with
  | .error _, .error e => [.teardownFailed c.source e]
  | _, _ => []

/-- Executes a case. -/
def execute (client : Client σ) (c : Case) (service : σ) : CaseOutcome σ :=
  let main := c.runMain client service
  let teardown := c.runPhase client .teardown c.teardown main.session main.service
  let failed := !(main.result.isOk && teardown.result.isOk)
  { result := firstError main.result teardown.result
    service := teardown.service
    events := .caseStarted c.source c.title c.callCount :: (main.events ++ teardown.events
      ++ .caseFinished c.source c.title failed :: c.secondError main.result teardown.result) }

end Case

end ApiReplay
