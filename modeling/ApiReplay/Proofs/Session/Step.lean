import ApiReplay.Session.Basic

/-!
# One action of a session

An action ends in one of seven ways. They are told once, by `Session.Step`, and everything else is
read off them. What an action does to a session depends on three questions asked beforehand: which
request it sends, which response the client returns to that, and which value it binds to which
name. The state behind the action, the state of the service and the requests in the account of it
are functions of the answers.

An action fails with an error of the client or with one that the session finds by itself. Neither
has a test attached, so attaching one and taking it off again gives the error back.

## Main definitions

* `Error.isOfSession`: the errors that a session finds without the client.
* `Session.Step`: the ways in which an action ends.
* `Session.request?`, `Session.response?`, `Session.binding?`: the three questions.

## Main results

* `Session.step_run`: running an action is such a step.
* `Session.Step.vars_eq`, `Session.Step.last_eq`, `Session.Step.service_eq`,
  `Session.Step.requests_eq`: the state and the requests behind a step.
* `Session.Step.session_eq_of_error`: a step that fails leaves the session as it was.
* `Session.Step.kind_of_error`, `Session.Step.action?_of_error`: errors of actions are of the two
  kinds, and have no context.
-/

namespace ApiReplay

/-- Whether a session finds an error by itself: a name without a value, or an assertion that does
not hold. -/
def Error.isOfSession : Error → Bool
  | unbound _ | mismatch .. | assertion .. => true
  | _ => false

namespace Session

variable {σ : Type}

/-! ### The ways in which an action ends -/

/-- How an action ends. The parameters of a call do not bind and nothing is sent, or the request is
answered with a response, with the failure that was expected, or with another failure. The path of a
binding leads to an error or does not. An assertion has its verdict. -/
inductive Step (client : Client σ) (s : Session) (service : σ) : Action → Outcome σ → Prop
  | unbound {c : Call} {e : UnboundVariable} (hp : s.vars.bindParams c.params = .error e) :
      Step client s service (.call c)
        ⟨.error (.unbound e.name), s, service, [.actionStarted (.call c)]⟩
  | answered {c : Call} {params exchange service' response}
      (hp : s.vars.bindParams c.params = .ok params)
      (hx : client.perform ⟨c.operation, params, c.headers⟩ service = (exchange, service'))
      (hr : exchange.result = .ok response) :
      Step client s service (.call c) ⟨.ok (), { s with last := some response }, service',
        [.actionStarted (.call c), .performed ⟨c.operation, params, c.headers⟩ exchange]
          ++ (c.expected.map (Event.unexpectedSuccess c.operation)).toList
          ++ [.responded c.operation response]⟩
  | expected {c : Call} {params exchange service' e category}
      (hp : s.vars.bindParams c.params = .ok params)
      (hx : client.perform ⟨c.operation, params, c.headers⟩ service = (exchange, service'))
      (hr : exchange.result = .error e) (hc : c.expected = some category)
      (he : ExpectedFailure.holds category e) :
      Step client s service (.call c) ⟨.ok (), s, service',
        [.actionStarted (.call c), .performed ⟨c.operation, params, c.headers⟩ exchange,
          .failureExpected c.operation category e]⟩
  | failed {c : Call} {params exchange service' e}
      (hp : s.vars.bindParams c.params = .ok params)
      (hx : client.perform ⟨c.operation, params, c.headers⟩ service = (exchange, service'))
      (hr : exchange.result = .error e)
      (he : ∀ category, c.expected = some category → ¬ ExpectedFailure.holds category e) :
      Step client s service (.call c) ⟨.error (.client e), s, service',
        [.actionStarted (.call c), .performed ⟨c.operation, params, c.headers⟩ exchange]⟩
  | unresolved {path name e} (hr : s.resolve path = .error e) :
      Step client s service (.bind path name)
        ⟨.error e, s, service, [.actionStarted (.bind path name)]⟩
  | bound {path name value} (hr : s.resolve path = .ok value) :
      Step client s service (.bind path name)
        ⟨.ok (), { s with vars := s.vars.bind name (value.getD .null) }, service,
          [.actionStarted (.bind path name), .bound name (value.getD .null)]⟩
  | checked {action : Action} (ha : action.isAssertion) :
      Step client s service action ⟨s.check action, s, service, [.actionStarted action]⟩

private theorem step_call (client : Client σ) (c : Call) (s : Session) (service : σ) :
    Step client s service (.call c) (s.run client (.call c) service) := by
  simp only [run, perform, call]
  cases hp : s.vars.bindParams c.params with
  | error e => exact .unbound hp
  | ok params =>
    rcases hx : client.perform ⟨c.operation, params, c.headers⟩ service with ⟨exchange, service'⟩
    simp only [hx]
    cases hr : exchange.result with
    | ok response =>
      have h := Step.answered hp hx hr
      cases hc : c.expected <;> simpa [hc] using h
    | error e =>
      cases hc : c.expected with
      | none => exact .failed hp hx hr (by simp [hc])
      | some category =>
        by_cases he : ExpectedFailure.holds category e
        · simpa [he] using Step.expected hp hx hr hc he
        · simpa [he] using Step.failed hp hx hr (by simpa [hc] using he)

theorem step_run (client : Client σ) (action : Action) (s : Session) (service : σ) :
    Step client s service action (s.run client action service) := by
  cases action with
  | call c => exact step_call client c s service
  | bind path name =>
    simp only [run, perform, Session.bind]
    cases hr : s.resolve path with
    | error e => exact .unresolved hr
    | ok value => exact .bound hr
  | _ => exact .checked rfl

/-! ### Questions about an action -/

/-- The request that an action sends in a session: that of a call whose parameters bind. -/
def request? (s : Session) : Action → Option Request
  | .call c =>
    match s.vars.bindParams c.params with
    | .ok params => some ⟨c.operation, params, c.headers⟩
    | .error _ => none
  | _ => none

/-- The response that a client returns to an action, if it returns one. -/
def response? (client : Client σ) (s : Session) (action : Action) (service : σ) :
    Option Response :=
  (s.request? action).bind fun request => (client.result request service).toOption

/-- The name and the value that an action binds: those of a binding whose path resolves, with null
for a path that leads to nothing. -/
def binding? (s : Session) : Action → Option (String × Json)
  | .bind path name =>
    match s.resolve path with
    | .ok value => some (name, value.getD .null)
    | .error _ => none
  | _ => none

theorem request?_of_isAssertion {action : Action} (h : action.isAssertion) (s : Session) :
    s.request? action = none := by
  cases action with
  | call c => cases h
  | _ => rfl

theorem binding?_of_isAssertion {action : Action} (h : action.isAssertion) (s : Session) :
    s.binding? action = none := by
  cases action with
  | bind path name => cases h
  | _ => rfl

/-! ### Assertions -/

theorem isOfSession_of_resolve_eq_error {s : Session} {path : String} {e : Error}
    (h : s.resolve path = .error e) : e.isOfSession := by
  unfold resolve at h
  cases hp : Path.resolve s.vars s.last path with
  | ok value => rw [hp] at h; cases h
  | error fault =>
    rw [hp] at h
    obtain rfl := Except.error.inj h
    rfl

@[simp]
theorem require_error (s : Session) (action : Action) (e : Error) :
    s.require action (.error e) = .error e :=
  rfl

@[simp]
theorem require_true (s : Session) (action : Action) : s.require action (.ok true) = .ok () :=
  rfl

@[simp]
theorem require_false (s : Session) (action : Action) :
    s.require action (.ok false) = .error (.assertion action.text s.responseText) :=
  rfl

/-- An assertion passes when its verdict is true. -/
theorem require_eq_ok_iff {s : Session} {action : Action} {verdict : Except Error Bool} :
    s.require action verdict = .ok () ↔ verdict = .ok true := by
  cases verdict with
  | error e => simp
  | ok holds => cases holds <;> simp

/-- An assertion fails with the error of its verdict, or because the verdict is false. -/
theorem require_eq_error_iff {s : Session} {action : Action} {verdict : Except Error Bool}
    {e : Error} : s.require action verdict = .error e ↔
      verdict = .error e ∨ verdict = .ok false ∧ e = .assertion action.text s.responseText := by
  cases verdict with
  | error fault => simp
  | ok holds => cases holds <;> simp [eq_comm]

theorem isOfSession_of_require_eq_error {s : Session} {action : Action}
    {verdict : Except Error Bool} {e : Error}
    (hv : ∀ fault, verdict = .error fault → fault.isOfSession)
    (h : s.require action verdict = .error e) : e.isOfSession := by
  rcases require_eq_error_iff.mp h with h | ⟨_, rfl⟩
  · exact hv e h
  · rfl

/-- A test of what a path names fails only where the path does. -/
theorem isOfSession_of_map_resolve {s : Session} {path : String} {test : Option Json → Bool}
    {e : Error} (h : (s.resolve path).map test = .error e) : e.isOfSession := by
  cases hr : s.resolve path with
  | ok value => rw [hr] at h; cases h
  | error fault =>
    rw [hr] at h
    obtain rfl := Except.error.inj h
    exact isOfSession_of_resolve_eq_error hr

theorem isOfSession_of_checkEqual_eq_error {s : Session} {path : String} {expected : Json}
    {e : Error} (h : s.checkEqual path expected = .error e) : e.isOfSession := by
  unfold checkEqual at h
  cases he : s.vars.expand expected with
  | error fault =>
    rw [he] at h
    obtain rfl := Except.error.inj h
    rfl
  | ok value =>
    rw [he] at h
    cases hr : s.resolve path with
    | error fault =>
      rw [hr] at h
      obtain rfl := Except.error.inj h
      exact isOfSession_of_resolve_eq_error hr
    | ok actual =>
      rw [hr] at h
      change (if actual.any fun found => found.satisfies value then _ else _) = _ at h
      split at h
      · cases h
      · obtain rfl := Except.error.inj h
        rfl

theorem isOfSession_of_check_eq_error {s : Session} {action : Action} {e : Error}
    (h : s.check action = .error e) : e.isOfSession := by
  cases action with
  | call c => cases h
  | bind path name => cases h
  | equal path expected => exact isOfSession_of_checkEqual_eq_error h
  | length path expected =>
    exact isOfSession_of_require_eq_error (fun _ => isOfSession_of_map_resolve) h
  | isTrue path =>
    refine isOfSession_of_require_eq_error (fun fault hf => ?_) h
    unfold isTrue at hf
    split at hf
    · cases hf
    · split at hf
      · cases hf
      · exact isOfSession_of_map_resolve hf
  | isFalse path =>
    refine isOfSession_of_require_eq_error (fun fault hf => ?_) h
    unfold isFalse at hf
    split at hf
    · cases hf
    · exact isOfSession_of_map_resolve hf
  | compare comparison path expected =>
    exact isOfSession_of_require_eq_error (fun _ => isOfSession_of_map_resolve) h

/-! ### The state behind a step -/

namespace Step

variable {client : Client σ} {s : Session} {service : σ} {action : Action} {o : Outcome σ}

theorem vars_eq (h : Step client s service action o) :
    o.session.vars = (s.binding? action).elim s.vars fun b => s.vars.bind b.1 b.2 := by
  cases h with
  | unresolved hr => simp [binding?, hr]
  | bound hr => simp [binding?, hr]
  | checked ha => simp [binding?_of_isAssertion ha]
  | _ => rfl

theorem last_eq (h : Step client s service action o) :
    o.session.last = (s.response? client action service).or s.last := by
  cases h with
  | unbound hp => simp [response?, request?, hp]
  | answered hp hx hr => simp [response?, request?, hp, Client.result, hx, hr, Except.toOption]
  | expected hp hx hr _ _ => simp [response?, request?, hp, Client.result, hx, hr, Except.toOption]
  | failed hp hx hr _ => simp [response?, request?, hp, Client.result, hx, hr, Except.toOption]
  | checked ha => simp [response?, request?_of_isAssertion ha]
  | _ => rfl

theorem requests_eq (h : Step client s service action o) :
    Event.requests o.events = (s.request? action).toList := by
  cases h with
  | unbound hp => simp [request?, hp, Event.request?]
  | @answered c _ _ _ _ hp _ _ => cases hc : c.expected <;> simp [request?, hp, Event.request?]
  | expected hp _ _ _ _ => simp [request?, hp, Event.request?]
  | failed hp _ _ _ => simp [request?, hp, Event.request?]
  | checked ha => simp [request?_of_isAssertion ha, Event.request?]
  | _ => rfl

theorem service_eq (h : Step client s service action o) :
    o.service = client.after (Event.requests o.events) service := by
  rw [h.requests_eq]
  cases h with
  | unbound hp => simp [request?, hp, Client.after]
  | answered hp hx _ => simp [request?, hp, Client.after, hx]
  | expected hp hx _ _ _ => simp [request?, hp, Client.after, hx]
  | failed hp hx _ _ => simp [request?, hp, Client.after, hx]
  | checked ha => simp [request?_of_isAssertion ha, Client.after]
  | _ => rfl

/-- A step that fails leaves the session as it was. -/
theorem session_eq_of_error (h : Step client s service action o) {e : Error}
    (he : o.result = .error e) : o.session = s := by
  cases h with
  | answered _ _ _ => cases he
  | bound _ => cases he
  | _ => rfl

/-- An action fails with an error of the session or with one of the client. -/
theorem kind_of_error (h : Step client s service action o) {e : Error}
    (he : o.result = .error e) : e.isOfSession ∨ ∃ fault, e = .client fault := by
  cases h with
  | answered _ _ _ => cases he
  | expected _ _ _ _ _ => cases he
  | bound _ => cases he
  | unbound _ =>
    obtain rfl := Except.error.inj he
    exact .inl rfl
  | failed _ _ _ _ => exact .inr ⟨_, (Except.error.inj he).symm⟩
  | unresolved hr =>
    obtain rfl := Except.error.inj he
    exact .inl (isOfSession_of_resolve_eq_error hr)
  | checked _ => exact .inl (isOfSession_of_check_eq_error he)

/-- An error of an action has no test and no action attached. -/
theorem action?_of_error (h : Step client s service action o) {e : Error}
    (he : o.result = .error e) : e.action? = none := by
  rcases h.kind_of_error he with hs | ⟨fault, rfl⟩
  · cases e with
    | inAction test action cause => cases hs
    | _ => rfl
  · rfl

end Step

end Session

end ApiReplay
