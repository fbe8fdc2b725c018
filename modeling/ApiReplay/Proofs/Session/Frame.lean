import ApiReplay.Proofs.Session.Step

/-!
# The frame of a session

An action changes one name, or the last response, or nothing at all, and only calls send anything.
A run of actions goes on after failures. Its history lists every action with the session and the
service that it met; what the run leaves behind, and what it sent, is read off the history: the last
response is that of the latest call that got one, a name has the value that was bound to it last,
and the requests are those of the calls whose parameters bound.

## Main definitions

* `Session.Frame`: what an action may change.
* `Session.Moment`, `Session.history`: the actions of a run with what they met.
* `Session.RunFrame`: what a run leaves behind, in terms of its history.

## Main results

* `Session.frame_run_and_runAll`: the frame of every action and of every run.
-/

namespace ApiReplay.Session

variable {σ : Type}

/-! ### One action -/

/-- What an action may change, and what it leaves alone. -/
structure Frame (client : Client σ) (s : Session) (service : σ) (action : Action)
    (o : Outcome σ) : Prop where
  /-- The variables change only when a binding succeeds. -/
  vars_changed : o.session.vars ≠ s.vars →
    ∃ path name, action = .bind path name ∧ o.result = .ok ()
  /-- A name that the action does not bind keeps its value. -/
  other_names : ∀ name, (∀ path, action ≠ .bind path name) →
    o.session.vars.get? name = s.vars.get? name
  /-- A binding that succeeds stores what its path names, and null for nothing. -/
  bound : ∀ path name, action = .bind path name → o.result = .ok () →
    ∃ value, s.resolve path = .ok value ∧ o.session.vars.get? name = some (value.getD .null)
  /-- The last response changes only when the client returns a response to a call. -/
  last_changed : o.session.last ≠ s.last →
    ∃ c request response, action = .call c ∧ s.request? action = some request ∧
      client.result request service = .ok response ∧ o.session.last = some response
  /-- An action that fails changes nothing. -/
  failed : ∀ e, o.result = .error e → o.session = s
  /-- An assertion changes nothing, whether it holds or not. -/
  assertion : action.isAssertion → o.session = s
  /-- A call whose parameters bind sends one request. -/
  sent : ∀ c params, action = .call c → s.vars.bindParams c.params = .ok params →
    Event.requests o.events = [⟨c.operation, params, c.headers⟩]
  /-- No other action sends any. -/
  silent : (∀ c params, action = .call c → s.vars.bindParams c.params ≠ .ok params) →
    Event.requests o.events = []
  /-- The service goes through the requests that were sent, and through no others. -/
  served : o.service = client.after (Event.requests o.events) service

theorem Step.frame {client : Client σ} {s : Session} {service : σ} {action : Action}
    {o : Outcome σ} (h : Step client s service action o) : Frame client s service action o where
  vars_changed hne := by
    cases h with
    | bound hr => exact ⟨_, _, rfl, rfl⟩
    | _ => exact absurd rfl hne
  other_names name hname := by
    cases h with
    | @bound path other value hr =>
      have hne : other ≠ name := fun heq => hname path (by rw [heq])
      simp [Variables.get?_bind, hne]
    | _ => rfl
  bound path name ha ho := by
    subst ha
    cases h with
    | unresolved hr => cases ho
    | bound hr => exact ⟨_, hr, by simp [Variables.get?_bind]⟩
    | checked ha => cases ha
  last_changed hne := by
    cases h with
    | @answered c params exchange _ response hp hx hr =>
      have hq : s.request? (.call c) = some ⟨c.operation, params, c.headers⟩ := by
        simp [request?, hp]
      exact ⟨c, _, response, rfl, hq, by simpa [Client.result, hx] using hr, rfl⟩
    | _ => exact absurd rfl hne
  failed _ he := h.session_eq_of_error he
  assertion ha := by
    cases h with
    | checked _ => rfl
    | _ => cases ha
  sent c params ha hp := by
    subst ha
    simp [h.requests_eq, request?, hp]
  silent hn := by
    rw [h.requests_eq]
    cases action with
    | call c =>
      cases hp : s.vars.bindParams c.params with
      | error e => simp [request?, hp]
      | ok params => exact absurd hp (hn c params rfl)
    | _ => rfl
  served := h.service_eq

/-! ### Histories -/

/-- An action of a run, with the session and the service that it met. -/
structure Moment (σ : Type) where
  action : Action
  session : Session
  service : σ

namespace Moment

/-- What the action leaves behind. -/
def outcome (client : Client σ) (m : Moment σ) : Outcome σ :=
  m.session.run client m.action m.service

/-- The request that the action sends. -/
def request? (m : Moment σ) : Option Request :=
  m.session.request? m.action

/-- The response that the client returns to the action. -/
def response? (client : Client σ) (m : Moment σ) : Option Response :=
  m.session.response? client m.action m.service

/-- The value that the action binds to a name. -/
def value? (name : String) (m : Moment σ) : Option Json :=
  (m.session.binding? m.action).bind fun b => if b.1 = name then some b.2 else none

end Moment

/-- The history of a run: every action meets what the action before it left. -/
def history (client : Client σ) : List Action → Session → σ → List (Moment σ)
  | [], _, _ => []
  | action :: rest, s, service =>
    let first := s.run client action service
    ⟨action, s, service⟩ :: history client rest first.session first.service

theorem history_append (client : Client σ) (xs ys : List Action) (s : Session) (service : σ) :
    history client (xs ++ ys) s service = history client xs s service
      ++ history client ys (runAll client xs s service).2.1 (runAll client xs s service).2.2.1 := by
  induction xs generalizing s service with
  | nil => rfl
  | cons action rest ih => simp only [List.cons_append, history, ih, runAll_cons]

/-- The account of a run consists of those of its actions. -/
theorem events_runAll (client : Client σ) (actions : List Action) (s : Session) (service : σ) :
    (runAll client actions s service).2.2.2
      = (history client actions s service).flatMap fun m => (m.outcome client).events := by
  induction actions generalizing s service with
  | nil => rfl
  | cons action rest ih =>
    rw [runAll_cons, history, List.flatMap_cons, ← ih]
    rfl

/-- What a run of actions leaves behind, read off its history. -/
structure RunFrame (client : Client σ) (actions : List Action) (s : Session) (service : σ)
    (moments : List (Moment σ))
    (run : List (Except Error Unit) × Session × σ × List Event) : Prop where
  /-- Every action has its turn, whatever became of those before it. -/
  turns : moments.map Moment.action = actions
  /-- An action meets what the run of the actions before it left. -/
  met : ∀ i m, moments[i]? = some m →
    m.session = (runAll client (actions.take i) s service).2.1 ∧
      m.service = (runAll client (actions.take i) s service).2.2.1
  results : run.1 = moments.map fun m => (m.outcome client).result
  /-- The last response is that of the latest call that got one. -/
  last : run.2.1.last = ((moments.filterMap (Moment.response? client)).getLast?).or s.last
  /-- A name has the value that was bound to it last. -/
  vars : ∀ name, run.2.1.vars.get? name
    = ((moments.filterMap (Moment.value? name)).getLast?).or (s.vars.get? name)
  /-- The requests are those of the calls whose parameters bound, in order. -/
  requests : Event.requests run.2.2.2 = moments.filterMap Moment.request?
  /-- The service goes through these requests, and through no others. -/
  served : run.2.2.1 = client.after (Event.requests run.2.2.2) service

/-- The latest of several values, where one comes first. -/
theorem getLast?_cons_or {α β : Type} (f : α → Option β) (a : α) (rest : List α)
    (start : Option β) :
    ((rest.filterMap f).getLast?).or ((f a).or start)
      = (((a :: rest).filterMap f).getLast?).or start := by
  cases hf : f a with
  | none => simp [hf]
  | some b => cases hl : (rest.filterMap f).getLast? <;> simp [hf, List.getLast?_cons, hl]

theorem get?_vars_run (client : Client σ) (action : Action) (s : Session) (service : σ)
    (name : String) :
    (s.run client action service).session.vars.get? name
      = (Moment.value? name ⟨action, s, service⟩).or (s.vars.get? name) := by
  rw [(step_run client action s service).vars_eq]
  cases hb : s.binding? action with
  | none => simp [Moment.value?, hb]
  | some b =>
    simp only [Moment.value?, hb, Option.elim_some, Option.bind_some, Variables.get?_bind]
    split <;> rfl

/-- A run leaves behind what its history tells. -/
theorem runFrame_runAll (client : Client σ) (actions : List Action) (s : Session) (service : σ) :
    RunFrame client actions s service (history client actions s service)
      (runAll client actions s service) := by
  induction actions generalizing s service with
  | nil => exact ⟨rfl, by simp [history], rfl, rfl, fun _ => rfl, rfl, rfl⟩
  | cons action rest ih =>
    have step := step_run client action s service
    have more := ih (s.run client action service).session (s.run client action service).service
    rw [runAll_cons, history]
    refine ⟨?turns, fun i m hm => ?met, ?results, ?last, fun name => ?vars, ?requests, ?served⟩
    case turns => simp only [List.map_cons, more.turns]
    case met =>
      cases i with
      | zero =>
        obtain rfl := Option.some.inj hm
        exact ⟨rfl, rfl⟩
      | succ i => exact more.met i m hm
    case results => simp only [List.map_cons, more.results, Moment.outcome]
    -- What the rest of the run writes comes after what the first action wrote.
    case last =>
      rw [← getLast?_cons_or]
      simp only [more.last, step.last_eq, Moment.response?]
    case vars =>
      rw [← getLast?_cons_or]
      simp only [more.vars, get?_vars_run]
    case requests =>
      simp only [Event.requests_append, more.requests, step.requests_eq]
      cases hr : s.request? action <;> simp [Moment.request?, hr]
    case served =>
      simp only [Event.requests_append, Client.after_append]
      rw [← step.service_eq]
      exact more.served

/-- **Frame law.** Every action changes only what `Frame` allows, and every run of actions, those
that fail included, leaves behind what its history tells. -/
theorem frame_run_and_runAll (client : Client σ) :
    (∀ action s service,
      Frame client s service action (s.run client action service)) ∧
    ∀ actions s service,
      RunFrame client actions s service (history client actions s service)
        (runAll client actions s service) :=
  ⟨fun action s service => (step_run client action s service).frame, runFrame_runAll client⟩

end ApiReplay.Session
