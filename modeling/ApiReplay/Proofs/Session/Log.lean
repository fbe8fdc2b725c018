import ApiReplay.Proofs.Session.Step

/-!
# Reading a log

A request in a log belongs to the phase and to the action that were started last. An error that the
client returns to it is caught when the call declares a category that describes the error. Failures
are told when their action is over, so a client error stands twice in a log when it is not caught:
at its request and where it is told. The troubles of a log count it at its request, and any other
failure where it is told.

An action that passes has no trouble. One that fails has a single one, and that is what is told of
it.

## Main definitions

* `Client.exchanges`: what a client returns to requests, one after the other.
* `Stage`: the phase and the action started last; `Stage.read` reads a log at its stages.
* `Sending`, `sendings`: the requests of a log, with the phase and the action they belong to.
* `Sending.uncaught?`: the client error of a request, unless it is caught.
* `failures`, `troubles`: what a log tells of failures, and what goes wrong in it.

## Main results

* `filterMap_client?_troubles`: the client errors among the troubles are those that are not caught.
* `Session.Step.sendings_eq`, `Session.Step.troubles_of_ok`, `Session.Step.troubles_of_error`: the
  log of one action.
-/

namespace ApiReplay

variable {σ : Type}

/-! ### The view of the client -/

/-- What a client returns to requests that are performed one after the other. -/
def Client.exchanges (client : Client σ) : List Request → σ → List Exchange
  | [], _ => []
  | request :: rest, state =>
    (client.perform request state).1 :: client.exchanges rest (client.perform request state).2

theorem Client.exchanges_append (client : Client σ) (first more : List Request) (state : σ) :
    client.exchanges (first ++ more) state
      = client.exchanges first state ++ client.exchanges more (client.after first state) := by
  induction first generalizing state with
  | nil => rfl
  | cons request rest ih =>
    rw [List.cons_append, exchanges, ih]
    rfl

/-! ### Reading a log -/

/-- The phase and the action that were started last. -/
structure Stage where
  phase : Option Phase
  action : Option Action

namespace Stage

/-- The stage before anything is started. -/
def start : Stage :=
  ⟨none, none⟩

/-- The stage behind an event. -/
def next (p : Stage) : Event → Stage
  | .phaseStarted _ _ phase _ => ⟨some phase, none⟩
  | .actionStarted action => ⟨p.phase, some action⟩
  | _ => p

/-- The stage behind a list of events. -/
def after (p : Stage) (events : List Event) : Stage :=
  events.foldl next p

/-- What is read off events one after the other, each at its stage. -/
def read {α : Type} (f : Stage → Event → Option α) : Stage → List Event → List α
  | _, [] => []
  | p, event :: rest => (f p event).toList ++ read f (p.next event) rest

theorem read_append {α : Type} (f : Stage → Event → Option α) (p : Stage)
    (first more : List Event) :
    read f p (first ++ more) = read f p first ++ read f (p.after first) more := by
  induction first generalizing p with
  | nil => rfl
  | cons event rest ih =>
    rw [List.cons_append, read, ih, ← List.append_assoc]
    rfl

end Stage

/-- A request of a log, at its stage, with what the client returned. -/
structure Sending extends Stage where
  request : Request
  exchange : Exchange

namespace Sending

/-- The category of the failure that the call of the request declares. -/
def category? (x : Sending) : Option String :=
  match x.action with
  | some (.call c) => c.expected
  | _ => none

/-- The client error of the request, unless the category of its call describes it. -/
def uncaught? (x : Sending) : Option ClientError :=
  match x.exchange.result with
  | .ok _ => none
  | .error e =>
    if x.category?.any fun category => ExpectedFailure.holds category e then none else some e

end Sending

namespace Event

/-- The request that an event tells of. -/
def sending? (p : Stage) : Event → Option Sending
  | performed request exchange => some ⟨p, request, exchange⟩
  | _ => none

/-- The failure that an event tells. -/
def failure? : Event → Option Error
  | actionFailed _ e => some e
  | _ => none

end Event

/-- The client error at the root of an error. -/
def Error.client? (e : Error) : Option ClientError :=
  match e.root with
  | .client fault => some fault
  | _ => none

theorem Error.client?_eq_none {e : Error} (h : e.isOfSession) : e.client? = none := by
  cases e with
  | client fault => cases h
  | inAction test action cause => cases h
  | _ => rfl

/-- The requests of a log. -/
def sendings (p : Stage) (events : List Event) : List Sending :=
  p.read Event.sending? events

/-- The failures of actions that a log tells. -/
def failures (events : List Event) : List Error :=
  events.filterMap Event.failure?

/-- What goes wrong at an event: a client error that is not caught, or a failure of another kind. -/
def Event.trouble? (p : Stage) : Event → Option Error
  | performed request exchange =>
    (Sending.uncaught? ⟨p, request, exchange⟩).map Error.client
  | actionFailed _ e => if e.client?.isSome then none else some e
  | _ => none

/-- What goes wrong in a log, in order. -/
def troubles (p : Stage) (events : List Event) : List Error :=
  p.read Event.trouble? events

section

variable (p : Stage) (first more : List Event)

theorem sendings_append :
    sendings p (first ++ more) = sendings p first ++ sendings (p.after first) more :=
  Stage.read_append _ _ _ _

theorem troubles_append :
    troubles p (first ++ more) = troubles p first ++ troubles (p.after first) more :=
  Stage.read_append _ _ _ _

theorem failures_append : failures (first ++ more) = failures first ++ failures more :=
  List.filterMap_append

theorem Stage.after_append : p.after (first ++ more) = (p.after first).after more :=
  List.foldl_append

/-- The client errors among the troubles are those that are not caught. -/
theorem filterMap_client?_troubles (events : List Event) :
    (troubles p events).filterMap Error.client?
      = (sendings p events).filterMap Sending.uncaught? := by
  induction events generalizing p with
  | nil => rfl
  | cons event rest ih =>
    have hstep : ((event.trouble? p).toList).filterMap Error.client?
        = ((event.sending? p).toList).filterMap Sending.uncaught? := by
      cases event with
      | performed request exchange =>
        cases hu : Sending.uncaught? ⟨p, request, exchange⟩ <;>
          simp [Event.trouble?, Event.sending?, hu, Error.client?, Error.root]
      | actionFailed action e =>
        cases hc : e.client? <;> simp [Event.trouble?, Event.sending?, hc]
      | _ => rfl
    have hrest := ih (p.next event)
    unfold troubles sendings at hrest ⊢
    rw [Stage.read, Stage.read, List.filterMap_append, List.filterMap_append, hstep, hrest]

variable {p}

/-- A first trouble that is no client error stands where it is told. -/
theorem exists_actionFailed_of_troubles {events : List Event} {f : Error} {more : List Error}
    (h : troubles p events = f :: more) (hf : f.isOfSession) :
    ∃ earlier action later, events = earlier ++ .actionFailed action f :: later ∧
      troubles p earlier = [] := by
  induction events generalizing p with
  | nil => cases h
  | cons event rest ih =>
    cases ht : event.trouble? p with
    | none =>
      have hrest : troubles (p.next event) rest = f :: more := by
        simpa [troubles, Stage.read, ht] using h
      obtain ⟨earlier, action, later, rfl, hnil⟩ := ih hrest
      refine ⟨event :: earlier, action, later, rfl, ?_⟩
      simpa [troubles, Stage.read, ht] using hnil
    | some g =>
      rw [troubles, Stage.read, ht] at h
      obtain rfl := (List.cons.inj h).1
      cases event with
      | performed request exchange =>
        obtain ⟨fault, -, rfl⟩ := Option.map_eq_some_iff.mp ht
        cases hf
      | actionFailed action e =>
        simp only [Event.trouble?] at ht
        split at ht
        · cases ht
        · obtain rfl := Option.some.inj ht
          exact ⟨[], action, rest, rfl, rfl⟩
      | _ => cases ht

end

/-- Whether an event is passed over by all readings of a log. -/
def Event.isSilent : Event → Bool
  | phaseStarted .. | actionStarted _ | performed .. | actionFailed .. => false
  | _ => true

/-- Nothing is read off events. -/
structure Unread (p : Stage) (events : List Event) : Prop where
  sendings_eq : sendings p events = []
  troubles_eq : troubles p events = []
  failures_eq : failures events = []
  after_eq : p.after events = p

theorem unread_of_isSilent {events : List Event} (h : ∀ event ∈ events, event.isSilent)
    (p : Stage) : Unread p events := by
  induction events with
  | nil => exact ⟨rfl, rfl, rfl, rfl⟩
  | cons event rest ih =>
    obtain ⟨hevent, hrest⟩ := List.forall_mem_cons.mp h
    obtain ⟨hs, ht, hf, ha⟩ := ih hrest
    cases event with
    | phaseStarted source title phase actions => cases hevent
    | actionStarted action => cases hevent
    | performed request exchange => cases hevent
    | actionFailed action e => cases hevent
    | _ => exact ⟨hs, ht, hf, ha⟩

/-! ### One action -/

/-- Only calls send anything. -/
theorem Session.exists_call_of_request? {s : Session} {action : Action} {request : Request}
    (h : s.request? action = some request) :
    ∃ call, action = .call call ∧ request.operation = call.operation ∧
      request.headers = call.headers := by
  cases action with
  | call c =>
    cases hp : s.vars.bindParams c.params with
    | error e => simp [request?, hp] at h
    | ok params =>
      obtain rfl : ⟨c.operation, params, c.headers⟩ = request := by simpa [request?, hp] using h
      exact ⟨c, rfl, rfl, rfl⟩
  | _ => cases h

namespace Session.Step

variable {client : Client σ} {s : Session} {service : σ} {action : Action} {o : Outcome σ}

/-- Everything that is told about an action belongs to it. -/
theorem after_events (h : Step client s service action o) (p : Stage) :
    p.after o.events = ⟨p.phase, some action⟩ := by
  cases h with
  | @answered c _ _ _ _ _ _ _ => cases hc : c.expected <;> simp [Stage.after, Stage.next]
  | _ => rfl

/-- The request of an action is told with what the client returned. -/
theorem sendings_eq (h : Step client s service action o) (p : Stage) :
    sendings p o.events = (s.request? action).toList.map fun request =>
      ⟨⟨p.phase, some action⟩, request, (client.perform request service).1⟩ := by
  cases h with
  | unbound hp => simp [request?, hp, sendings, Stage.read, Event.sending?]
  | @answered c _ _ _ _ hp hx _ =>
    cases hc : c.expected <;>
      simp [request?, hp, hx, sendings, Stage.read, Stage.next, Event.sending?]
  | expected hp hx _ _ _ =>
    simp [request?, hp, hx, sendings, Stage.read, Stage.next, Event.sending?]
  | failed hp hx _ _ =>
    simp [request?, hp, hx, sendings, Stage.read, Stage.next, Event.sending?]
  | checked ha => simp [request?_of_isAssertion ha, sendings, Stage.read, Event.sending?]
  | _ => rfl

/-- An action tells of no failure by itself. -/
theorem failures_eq_nil (h : Step client s service action o) : failures o.events = [] := by
  cases h with
  | @answered c _ _ _ _ _ _ _ => cases hc : c.expected <;> simp [failures, Event.failure?]
  | _ => rfl

/-- In an action that passes nothing goes wrong. -/
theorem troubles_of_ok (h : Step client s service action o) (ho : o.result = .ok ())
    (p : Stage) : troubles p o.events = [] := by
  cases h with
  | @answered c _ _ _ _ _ _ hr =>
    cases hc : c.expected <;>
      simp [troubles, Stage.read, Event.trouble?, Sending.uncaught?, hr]
  | @expected c _ _ _ e category _ _ hr hc he =>
    simp [troubles, Stage.read, Stage.next, Event.trouble?, Sending.uncaught?,
      Sending.category?, hr, hc, he]
  | unbound _ => cases ho
  | failed _ _ _ _ => cases ho
  | _ => rfl

/-- An error that the session finds by itself goes wrong where it is told. -/
theorem troubles_of_isOfSession {e : Error} (he : e.isOfSession) (p : Stage) :
    troubles p [.actionStarted action, .actionFailed action e] = [e] := by
  have hc := Error.client?_eq_none he
  simp [troubles, Stage.read, Event.trouble?, hc]

/-- In an action that fails one thing goes wrong, and this is what is told behind it. -/
theorem troubles_of_error (h : Step client s service action o) {e : Error}
    (he : o.result = .error e) (p : Stage) :
    troubles p (o.events ++ [.actionFailed action e]) = [e] := by
  cases h with
  | answered _ _ _ => cases he
  | expected _ _ _ _ _ => cases he
  | bound _ => cases he
  | unbound _ =>
    obtain rfl := Except.error.inj he
    exact troubles_of_isOfSession rfl p
  | unresolved hr =>
    obtain rfl := Except.error.inj he
    exact troubles_of_isOfSession (isOfSession_of_resolve_eq_error hr) p
  | checked _ => exact troubles_of_isOfSession (isOfSession_of_check_eq_error he) p
  | @failed c _ exchange _ fault _ _ hr hc =>
    obtain rfl := Except.error.inj he
    -- The error stands at the request, and is not counted again where it is told.
    have hany : ¬ (c.expected.any fun category => ExpectedFailure.holds category fault) := by
      cases hx : c.expected with
      | none => simp
      | some category => simpa using hc category hx
    simp [troubles, Stage.read, Stage.next, Event.trouble?, Sending.uncaught?,
      Sending.category?, hr, hany, Error.client?, Error.root]

end Session.Step

end ApiReplay
