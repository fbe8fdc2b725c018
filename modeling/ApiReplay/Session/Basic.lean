import ApiReplay.Action.ExpectedFailure
import ApiReplay.Path.Resolve
import ApiReplay.Run.Event
import ApiReplay.Session.Matching
import ApiReplay.Variables.Binding

/-!
# Sessions

A session keeps the variables and the last response of one test. A call sends its parameters with
the variables substituted; its response becomes the last one, while an expected failure changes
nothing. A binding stores what its path names, or null. Assertions only look.

## Main definitions

* `Session`: the state of a test.
* `Session.check`: whether an assertion holds.
* `Session.call`, `Session.run`, `Session.runAll`: a call, an action, and a list of actions that
  goes on after failures.
* `Outcome`: the result of an action, the state it leaves, and its events.
-/

namespace ApiReplay

/-- The variables and the last response of a test. -/
structure Session where
  vars : Variables
  last : Option Response

namespace Session

/-- The state before the first action. -/
def start : Session :=
  ⟨.empty, none⟩

/-- The value that a path expression names. -/
def resolve (s : Session) (path : String) : Except Error (Option Json) :=
  (Path.resolve s.vars s.last path).mapError fun e => .unbound e.name

/-- The last response as it stands in messages. -/
def responseText (s : Session) : String :=
  match s.last with
  | some response => response.text
  | none => "<no response>"

/-! ### Assertions -/

/-- Whether `is_true` holds. A boolean response decides by itself, and without a path any response
will do. -/
def isTrue (s : Session) (path : String) : Except Error Bool :=
  match s.last.bind Response.bool? with
  | some b => .ok b
  | none =>
    if s.last.isSome ∧ path = "" then .ok true
    else (s.resolve path).map fun value => value.any Json.isTruthy

/-- Whether `is_false` holds. The response false decides by itself; else the path has to name
nothing or a value that passes for false. -/
def isFalse (s : Session) (path : String) : Except Error Bool :=
  if s.last.bind Response.bool? = some false then .ok true
  else (s.resolve path).map fun value => value.all Json.isFalsy

/-- Whether a comparison holds; it does not when there is no value or no order. -/
def compares (s : Session) (comparison : Comparison) (path : String) (expected : Json) :
    Except Error Bool :=
  (s.resolve path).map fun value =>
    (value.bind fun actual => Json.order? actual expected).any comparison.holds

/-- Whether a value matches the expected one, which may be a reference to a variable. -/
def checkEqual (s : Session) (path : String) (expected : Json) : Except Error Unit := do
  let expected ← (s.vars.expand expected).mapError fun e => .unbound e.name
  let actual ← s.resolve path
  if actual.any fun value => value.satisfies expected then .ok ()
  else .error (.mismatch path expected.text (actual.map Json.text) s.responseText)

/-- Turns the verdict of an assertion into its result. -/
def require (s : Session) (action : Action) (verdict : Except Error Bool) : Except Error Unit := do
  if ← verdict then .ok () else .error (.assertion action.text s.responseText)

/-- The result of an assertion; calls and bindings assert nothing. -/
def check (s : Session) (action : Action) : Except Error Unit :=
  match action with
  | .call _ | .bind _ _ => .ok ()
  | .equal path expected => s.checkEqual path expected
  | .length path expected =>
    s.require action <| (s.resolve path).map fun value =>
      value.bind Json.elementCount? == some expected
  | .isTrue path => s.require action (s.isTrue path)
  | .isFalse path => s.require action (s.isFalse path)
  | .compare comparison path expected => s.require action (s.compares comparison path expected)

end Session

/-! ### Actions -/

/-- The result of actions, the state they leave behind, and their events. -/
structure Outcome (σ : Type) where
  result : Except Error Unit
  session : Session
  service : σ
  events : List Event

namespace Session

variable {σ : Type}

/-- Performs a call. -/
def call (client : Client σ) (c : Call) (s : Session) (service : σ) : Outcome σ :=
  match s.vars.bindParams c.params with
  | .error e => ⟨.error (.unbound e.name), s, service, []⟩
  | .ok params =>
    let request : Request := ⟨c.operation, params, c.headers⟩
    let (exchange, service) := client.perform request service
    let performed := Event.performed request exchange
    match exchange.result, c.expected with
    | .ok response, none =>
      ⟨.ok (), { s with last := some response }, service,
        [performed, .responded c.operation response]⟩
    | .ok response, some category =>
      ⟨.ok (), { s with last := some response }, service,
        [performed, .unexpectedSuccess c.operation category, .responded c.operation response]⟩
    | .error e, none => ⟨.error (.client e), s, service, [performed]⟩
    | .error e, some category =>
      if ExpectedFailure.holds category e then
        ⟨.ok (), s, service, [performed, .failureExpected c.operation category e]⟩
      else ⟨.error (.client e), s, service, [performed]⟩

/-- Stores under a name what a path names, or null. -/
def bind (path name : String) (s : Session) (service : σ) : Outcome σ :=
  match s.resolve path with
  | .error e => ⟨.error e, s, service, []⟩
  | .ok value =>
    let value := value.getD .null
    ⟨.ok (), { s with vars := s.vars.bind name value }, service, [.bound name value]⟩

/-- Performs an action. -/
def perform (client : Client σ) (action : Action) (s : Session) (service : σ) : Outcome σ :=
  match action with
  | .call c => s.call client c service
  | .bind path name => s.bind path name service
  | _ => ⟨s.check action, s, service, []⟩

/-- Performs an action and tells so. -/
def run (client : Client σ) (action : Action) (s : Session) (service : σ) : Outcome σ :=
  let outcome := s.perform client action service
  { outcome with events := .actionStarted action :: outcome.events }

/-- Performs actions one after the other, whether they fail or not; the result is the list of their
results. -/
def runAll (client : Client σ) :
    List Action → Session → σ → List (Except Error Unit) × Session × σ × List Event
  | [], s, service => ([], s, service, [])
  | action :: rest, s, service =>
    let first := s.run client action service
    let (results, s, service, events) := runAll client rest first.session first.service
    (first.result :: results, s, service, first.events ++ events)

theorem runAll_cons (client : Client σ) (action : Action) (rest : List Action) (s : Session)
    (service : σ) :
    runAll client (action :: rest) s service =
      let first := s.run client action service
      let more := runAll client rest first.session first.service
      (first.result :: more.1, more.2.1, more.2.2.1, first.events ++ more.2.2.2) :=
  rfl

/-- Actions are run like their two parts, one after the other. -/
theorem runAll_append (client : Client σ) (xs ys : List Action) (s : Session) (service : σ) :
    runAll client (xs ++ ys) s service =
      let first := runAll client xs s service
      let more := runAll client ys first.2.1 first.2.2.1
      (first.1 ++ more.1, more.2.1, more.2.2.1, first.2.2.2 ++ more.2.2.2) := by
  induction xs generalizing s service with
  | nil => rfl
  | cons action rest ih => simp only [List.cons_append, runAll_cons, ih, List.append_assoc]

end Session

end ApiReplay
