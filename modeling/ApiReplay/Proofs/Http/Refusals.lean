import ApiReplay.Proofs.Http.Parameters
import ApiReplay.Proofs.Session.Step

/-!
# Refused requests

A request is refused before anything is sent: there is no endpoint for its operation, its parameters
are no mapping, they provide for no path, or the endpoint has no method that can be sent. An error
says that an argument was invalid just when it is a refusal. Whatever comes from the server or from
the connection, be it a reply with any status and any text or no reply at all, has another kind of
error, so that a call which expects an invalid argument is content with refusals alone.

## Main definitions

* `Http.Refused`: the requests that are refused.

## Main results

* `Http.exists_plan_iff`: the requests that are not.
* `Http.kind_of_conclude_eq_error`: the end of a transfer is no refusal.
* `Http.argument_error_iff_refused`: invalid arguments, and the calls that expect them.
-/

namespace ApiReplay.Http

variable {endpoints : List (String × Endpoint)} {request : ApiReplay.Request} {e : ClientError}

/-- A request is refused. -/
inductive Refused (endpoints : List (String × Endpoint)) (request : ApiReplay.Request) : Prop
  /-- Neither the configuration nor the standard table has an endpoint for the operation. -/
  | noEndpoint (hconfigured : ∀ endpoint, (request.operation, endpoint) ∉ endpoints)
      (hstandard : ∀ endpoint, (request.operation, endpoint) ∉ standardEndpoints)
  /-- The parameters are neither a mapping nor null. -/
  | noMapping (hnull : request.params ≠ .null) (hobject : ∀ params, request.params ≠ .object params)
  /-- No template has all its placeholders among the parameters other than the body. -/
  | noPath {endpoint : Endpoint} {params : List (String × Json)}
      (hendpoint : findEndpoint? endpoints request.operation = some endpoint)
      (hparams : paramEntries request = .ok params)
      (hnone : ∀ template ∈ endpoint.paths, ¬ Provides params template)
  /-- The method of the endpoint cannot be sent. -/
  | noMethod {endpoint : Endpoint}
      (hendpoint : findEndpoint? endpoints request.operation = some endpoint)
      (hmethod : ¬ isMethod endpoint.method)

/-- A mapping of parameters has distinct keys. -/
def HasDistinctParams (request : ApiReplay.Request) : Prop :=
  ∀ params, request.params = .object params → (params.map Prod.fst).Nodup

/-! ### Plans -/

theorem findEndpoint?_eq_none_iff {operation : String} :
    findEndpoint? endpoints operation = none ↔
      (∀ endpoint, (operation, endpoint) ∉ endpoints) ∧
        ∀ endpoint, (operation, endpoint) ∉ standardEndpoints := by
  have hkey (table : List (String × Endpoint)) : Entries.find? operation table = none ↔
      ∀ endpoint, (operation, endpoint) ∉ table := by
    rw [Entries.find?_eq_none_iff]
    constructor
    · exact fun h endpoint hmem => h _ hmem rfl
    · rintro h ⟨_, endpoint⟩ hmem rfl
      exact h endpoint hmem
  rw [findEndpoint?, Option.or_eq_none_iff, hkey, hkey]

theorem paramEntries_eq_ok_iff {params : List (String × Json)} : paramEntries request = .ok params ↔
    request.params = .object params ∨ request.params = .null ∧ params = [] := by
  obtain ⟨operation, tree, headers⟩ := request
  cases tree <;> simp [paramEntries, eq_comm]

theorem HasDistinctParams.nodup (h : HasDistinctParams request) {params : List (String × Json)}
    (hparams : paramEntries request = .ok params) : (params.map Prod.fst).Nodup := by
  rcases paramEntries_eq_ok_iff.mp hparams with hobject | ⟨-, rfl⟩
  · exact h params hobject
  · exact List.nodup_nil

/-- A request is planned when nothing is missing. -/
theorem exists_plan_iff : (∃ p, plan endpoints request = .ok p) ↔ ∃ endpoint params chosen,
    findEndpoint? endpoints request.operation = some endpoint ∧ paramEntries request = .ok params ∧
      selectPath? endpoint.paths (Entries.remove "body" params) = some chosen ∧
      isMethod endpoint.method := by
  constructor
  · rintro ⟨p, hplan⟩
    obtain ⟨endpoint, params, path, left, hendpoint, hparams, hpath, hmethod, -⟩ :=
      plan_eq_ok_iff.mp hplan
    exact ⟨endpoint, params, (path, left), hendpoint, hparams, hpath, hmethod⟩
  · rintro ⟨endpoint, params, ⟨path, left⟩, hendpoint, hparams, hpath, hmethod⟩
    exact ⟨_, plan_eq_ok_iff.mpr
      ⟨endpoint, params, path, left, hendpoint, hparams, hpath, hmethod, rfl⟩⟩

/-- A request that is refused has no plan. -/
theorem Refused.not_exists_plan (h : Refused endpoints request)
    (hkeys : HasDistinctParams request) : ¬ ∃ p, plan endpoints request = .ok p := by
  rw [exists_plan_iff]
  rintro ⟨endpoint, params, chosen, hendpoint, hparams, hpath, hmethod⟩
  cases h with
  | noEndpoint hconfigured hstandard =>
    rw [findEndpoint?_eq_none_iff.mpr ⟨hconfigured, hstandard⟩] at hendpoint
    cases hendpoint
  | noMapping hnull hobject =>
    rcases paramEntries_eq_ok_iff.mp hparams with h | ⟨h, -⟩
    · exact hobject params h
    · exact hnull h
  | noPath hendpoint' hparams' hnone =>
    obtain rfl := Option.some.inj (hendpoint.symm.trans hendpoint')
    obtain rfl := Except.ok.inj (hparams.symm.trans hparams')
    rw [(selectPath?_eq_none_iff (hkeys.nodup hparams)).mpr hnone] at hpath
    cases hpath
  | noMethod hendpoint' hmethod' =>
    obtain rfl := Option.some.inj (hendpoint.symm.trans hendpoint')
    exact hmethod' hmethod

/-- A request is refused just when it has no plan. -/
theorem refused_iff (hkeys : HasDistinctParams request) :
    Refused endpoints request ↔ ¬ ∃ p, plan endpoints request = .ok p := by
  refine ⟨fun h => h.not_exists_plan hkeys, fun h => ?_⟩
  cases hendpoint : findEndpoint? endpoints request.operation with
  | none =>
    obtain ⟨hconfigured, hstandard⟩ := findEndpoint?_eq_none_iff.mp hendpoint
    exact .noEndpoint hconfigured hstandard
  | some endpoint =>
    cases hparams : paramEntries request with
    | error fault =>
      have hne (params : List (String × Json)) : paramEntries request ≠ .ok params := by
        rw [hparams]
        rintro ⟨⟩
      exact .noMapping (fun hnull => hne [] (paramEntries_eq_ok_iff.mpr (.inr ⟨hnull, rfl⟩)))
        fun params hobject => hne params (paramEntries_eq_ok_iff.mpr (.inl hobject))
    | ok params =>
      cases hpath : selectPath? endpoint.paths (Entries.remove "body" params) with
      | none =>
        exact .noPath hendpoint hparams ((selectPath?_eq_none_iff (hkeys.nodup hparams)).mp hpath)
      | some chosen =>
        exact .noMethod hendpoint fun hmethod =>
          h (exists_plan_iff.mpr ⟨endpoint, params, chosen, hendpoint, hparams, hpath, hmethod⟩)

/-- Whatever is not planned has an invalid argument. -/
theorem kind_of_plan_eq_error (h : plan endpoints request = .error e) : e.kind = .argument := by
  unfold plan at h
  split at h
  · obtain rfl := Except.error.inj h
    rfl
  · cases hparams : paramEntries request with
    | error fault =>
      rw [hparams] at h
      obtain rfl := Except.error.inj h
      unfold paramEntries at hparams
      split at hparams
      · cases hparams
      · cases hparams
      · obtain rfl := Except.error.inj hparams
        rfl
    | ok params =>
      rw [hparams] at h
      dsimp only [Bind.bind, Except.bind] at h
      split at h
      · obtain rfl := Except.error.inj h
        rfl
      · split at h
        · cases h
        · obtain rfl := Except.error.inj h
          rfl

/-! ### Transfers -/

/-- No status stands for an invalid argument. -/
theorem ofStatus_ne_argument (code : Nat) : ClientError.Kind.ofStatus code ≠ .argument := by
  unfold ClientError.Kind.ofStatus
  split <;> exact ClientError.Kind.noConfusion

/-- No connection fails for an invalid argument. -/
theorem kind_clientError_ne_argument (fault : Fault) : fault.clientError.kind ≠ .argument := by
  cases fault <;> exact ClientError.Kind.noConfusion

/-- No reply answers that an argument is invalid. -/
theorem kind_of_respond_eq_error {endpoint : Endpoint} {reply : Reply} {text : String}
    (h : respond endpoint reply text = .error e) : e.kind ≠ .argument := by
  have hstatus (h : ClientError.ofStatus reply.status text = e) : e.kind ≠ .argument :=
    h ▸ ofStatus_ne_argument reply.status
  unfold respond at h
  split_ifs at h
  · exact hstatus (Except.error.inj h)
  · exact hstatus (Except.error.inj h)

/-- The end of a transfer, whatever it is, is no refusal. -/
theorem kind_of_conclude_eq_error {endpoint : Endpoint} {outcome : Except Fault (Draft × Reply)}
    (h : conclude endpoint outcome = .error e) : e.kind ≠ .argument := by
  unfold conclude at h
  split at h
  · exact Except.error.inj h ▸ kind_clientError_ne_argument _
  · split at h
    · exact Except.error.inj h ▸ kind_clientError_ne_argument _
    · exact kind_of_respond_eq_error h

/-! ### Requests -/

section

variable (network : Network) (service : Config.Service) (server : Server)

/-- A request without a plan is answered without the server. -/
theorem perform_of_plan_eq_error (h : plan endpoints request = .error e) :
    perform network service endpoints request server = ({ result := .error e }, server) := by
  rw [perform, h]

/-- A request with a plan is answered with no refusal. -/
theorem kind_of_perform_eq_error {p : Plan} (h : plan endpoints request = .ok p)
    (he : (perform network service endpoints request server).1.result = .error e) :
    e.kind ≠ .argument := by
  rw [perform, h] at he
  dsimp only at he
  split at he
  · exact Except.error.inj he ▸ kind_clientError_ne_argument _
  · exact kind_of_conclude_eq_error he

/-- An error of a request is about an argument just when there is no plan. -/
theorem exists_argument_error_iff :
    (∃ message, (perform network service endpoints request server).1.result
      = .error ⟨.argument, message⟩) ↔ ¬ ∃ p, plan endpoints request = .ok p := by
  cases hplan : plan endpoints request with
  | error fault =>
    obtain ⟨kind, message⟩ := fault
    obtain rfl : kind = .argument := kind_of_plan_eq_error hplan
    simp [perform_of_plan_eq_error network service server hplan]
  | ok p =>
    refine iff_of_false ?_ fun h => h ⟨p, rfl⟩
    rintro ⟨message, he⟩
    exact kind_of_perform_eq_error network service server hplan he rfl

end

/-! ### Calls -/

/-- The category of invalid arguments is that of the errors of their kind. -/
theorem holds_param_iff (e : ClientError) :
    ExpectedFailure.holds "param" e ↔ e.kind = .argument := by
  have hmention : Text.occurs "resource_not_found_exception" "param" = false := by decide
  simp [ExpectedFailure.holds, hmention]

/-- A call that sends a request and expects an invalid argument is content with that error alone. It
passes without an error, too, but then it has a response. -/
theorem param_expected_iff {σ : Type} {client : Client σ} {s : Session} {c : Call} {state : σ}
    {o : Outcome σ} (h : Session.Step client s state (.call c) o)
    (hrequest : s.request? (.call c) = some request) (hparam : c.expected = some "param") :
    ((∃ e, .failureExpected c.operation "param" e ∈ o.events) ↔
      ∃ message, client.result request state = .error ⟨.argument, message⟩) ∧
    (o.result = .ok () ↔ (∃ response, client.result request state = .ok response) ∨
      ∃ message, client.result request state = .error ⟨.argument, message⟩) := by
  have hsent {params exchange state'} (hp : s.vars.bindParams c.params = .ok params)
      (hx : client.perform ⟨c.operation, params, c.headers⟩ state = (exchange, state')) :
      client.result request state = exchange.result := by
    simp only [Session.request?, hp, Option.some.injEq] at hrequest
    rw [Client.result, ← hrequest, hx]
  cases h with
  | unbound hp => simp [Session.request?, hp] at hrequest
  | answered hp hx hr => simp [hsent hp hx, hr, hparam]
  | @expected _ _ _ _ e category hp hx hr hc he =>
    obtain rfl := Option.some.inj (hparam.symm.trans hc)
    obtain ⟨kind, message⟩ := e
    obtain rfl : kind = .argument := (holds_param_iff _).mp he
    simp [hsent hp hx, hr]
  | @failed _ _ _ _ e hp hx hr he =>
    obtain ⟨kind, message⟩ := e
    have hkind : kind ≠ .argument := fun heq => he "param" hparam ((holds_param_iff _).mpr heq)
    simp [hsent hp hx, hr, hkind]
  | checked ha => cases ha

/-! ### All requests -/

/-- **An invalid argument means that nothing was sent.** A request ends with an error about an
argument just when it is refused, whatever the network, the server and its replies are. Then the
server is as before, and nothing was sent; behind anything that was sent there is no such error, and
no reply and no failing connection is concluded with one. Hence a call that expects an invalid
argument meets the failure it expects just when its request is refused, and passes otherwise only
with a response. -/
theorem argument_error_iff_refused (endpoints : List (String × Endpoint))
    (request : ApiReplay.Request) (hkeys : HasDistinctParams request) (network : Network)
    (service : Config.Service) (server : Server) :
    let done := perform network service endpoints request server
    ((∃ message, done.1.result = .error ⟨.argument, message⟩) ↔ Refused endpoints request) ∧
    (Refused endpoints request → done.1.sent = [] ∧ done.2 = server) ∧
    (done.1.sent ≠ [] → ∀ e, done.1.result = .error e → e.kind ≠ .argument) ∧
    (∀ endpoint outcome e, conclude endpoint outcome = .error e → e.kind ≠ .argument) ∧
    ∀ (s : Session) (c : Call), s.request? (.call c) = some request → c.expected = some "param" →
      let o := s.run (client network service endpoints) (.call c) server
      ((∃ e, .failureExpected c.operation "param" e ∈ o.events) ↔ Refused endpoints request) ∧
      (o.result = .ok () ↔
        Refused endpoints request ∨ ∃ response, done.1.result = .ok response) := by
  intro done
  have hargument : (∃ message, done.1.result = .error ⟨.argument, message⟩) ↔
      Refused endpoints request := by
    rw [refused_iff hkeys, ← exists_argument_error_iff network service server]
  have hrefused (h : Refused endpoints request) : done.1.sent = [] ∧ done.2 = server := by
    cases hplan : plan endpoints request with
    | ok p => exact absurd ⟨p, hplan⟩ (h.not_exists_plan hkeys)
    | error e =>
      simp only [done, perform_of_plan_eq_error network service server hplan, and_self]
  refine ⟨hargument, hrefused, fun hsent e he hkind => ?_,
    fun _ _ _ => kind_of_conclude_eq_error, fun s c hrequest hparam => ?_⟩
  · obtain ⟨kind, message⟩ := e
    obtain rfl : kind = .argument := hkind
    exact hsent (hrefused (hargument.mp ⟨message, he⟩)).1
  · obtain ⟨hexpected, hpasses⟩ := param_expected_iff
      (Session.step_run (client network service endpoints) (.call c) s server) hrequest hparam
    exact ⟨hexpected.trans hargument, hpasses.trans ((or_congr Iff.rfl hargument).trans or_comm)⟩

/-- A method with a blank in it, behind a path that the parameters provide for. -/
theorem argument_error_iff_refused_of_blank :
    let endpoints : List (String × Endpoint) :=
      [("get", { method := "G T", paths := ["/\x7bid\x7d"], boolean := false })]
    let request : ApiReplay.Request := ⟨"get", .object [("id", .nat 1)], []⟩
    let c : Call := ⟨"get", .object [("id", .nat 1)], some "param", []⟩
    let network : Network := ⟨"http://localhost"⟩
    let server : Server := [.reply { status := 400 }]
    HasDistinctParams request ∧ Session.start.request? (.call c) = some request ∧
      c.expected = some "param" ∧ Refused endpoints request ∧
      (perform network {} endpoints request server).1.sent = [] ∧
      (Session.start.run (client network {} endpoints) (.call c) server).result = .ok () := by
  intro endpoints request c network server
  have hkeys : HasDistinctParams request := by
    rintro params heq
    obtain rfl := Json.object.inj heq
    decide
  have hrequest : Session.start.request? (.call c) = some request := by rfl
  have hrefused : Refused endpoints request := .noMethod (by rfl) (by decide)
  obtain ⟨-, hnothing, -, -, hcall⟩ :=
    argument_error_iff_refused endpoints request hkeys network {} server
  exact ⟨hkeys, hrequest, rfl, hrefused, (hnothing hrefused).1,
    (hcall Session.start c hrequest rfl).2.mpr (.inl hrefused)⟩

end ApiReplay.Http
