import ApiReplay.Case
import ApiReplay.Proofs.Session.Log
import ApiReplay.Proofs.Variables.Binding

/-!
# The client errors of a test case

The client errors that are not caught are told as the failures of their actions, in order, and no
other failure has a client error at its root. In setup and body such an error is followed by no
request but those of the teardown. The result of a case is the first failure that is told.

A case is put together from parts: one action, the actions of a phase, setup and body. Each of them
tells exactly its troubles, ends in the failure that it tells, and sends nothing behind an error
that is not caught. A part that passes may be followed by another (`Case.PartAccount.followed`).

## Main definitions

* `Case.LogAccount`, `Case.PartAccount`: what a part of a case tells of the client.
* `Case.ErrorAccount`: the client errors of a case.

## Main results

* `Case.part_runActions`, `Case.part_runMain`: the parts of a case.
* `Case.errorAccount_execute`: no client error is absorbed, and a call with an unbound name sends
  nothing.
-/

namespace ApiReplay

variable {σ : Type}

/-! ### Parts of a case -/

/-- The innermost error of a result. -/
def Error.root? : Except Error Unit → Option Error
  | .ok () => none
  | .error e => some e.root

namespace Case

/-- The actions of a phase. -/
def actions (c : Case) : Phase → List Action
  | .setup => c.setup
  | .body => c.body
  | .teardown => c.teardown
  | .done => []

/-- A request belongs to a call of its phase. -/
def Sends (c : Case) (x : Sending) : Prop :=
  ∃ phase call, x.phase = some phase ∧ x.action = some (.call call) ∧
    .call call ∈ c.actions phase ∧ x.request.operation = call.operation ∧
    x.request.headers = call.headers

/-- What the log of a part of a case tells of the client. -/
structure LogAccount (client : Client σ) (c : Case) (p : Stage) (service : σ)
    (events : List Event) (service' : σ) : Prop where
  /-- The exchanges are those that the client returned, in order. -/
  exchanges : (sendings p events).map (·.exchange)
    = client.exchanges ((sendings p events).map (·.request)) service
  /-- Nothing else was asked of it. -/
  served : service' = client.after ((sendings p events).map (·.request)) service
  /-- Every request belongs to a call of the case. -/
  calls : ∀ x ∈ sendings p events, c.Sends x
  /-- What goes wrong is told, and nothing else. -/
  told : troubles p events = failures events
  /-- Whatever is told comes from the client or was found by the session. -/
  kinds : ∀ f ∈ failures events, f.isOfSession ∨ ∃ fault, f = .client fault

/-- What a part of a case in some phases tells of the client, and how it ends. -/
structure PartAccount (client : Client σ) (c : Case) (phases : List Phase) (p : Stage)
    (service : σ) (o : Outcome σ) : Prop
    extends LogAccount client c p service o.events o.service where
  phase_mem : ∀ x ∈ sendings p o.events, ∃ phase ∈ phases, x.phase = some phase
  /-- A failure is the result. -/
  verdict : failures o.events = (Error.root? o.result).toList
  /-- Behind an error that is not caught nothing is sent. -/
  stopped : (sendings p o.events).Pairwise fun x _ => x.uncaught? = none

variable {client : Client σ} {c : Case} {phases : List Phase} {p : Stage} {service : σ}

/-- The client errors that are told are those that are not caught. -/
theorem LogAccount.reported {events : List Event} {service' : σ}
    (h : LogAccount client c p service events service') :
    (failures events).filterMap Error.client?
      = (sendings p events).filterMap Sending.uncaught? := by
  rw [← h.told, filterMap_client?_troubles]

theorem LogAccount.uncaught?_eq_none {events : List Event} {service' : σ}
    (h : LogAccount client c p service events service') (hf : failures events = []) :
    ∀ x ∈ sendings p events, x.uncaught? = none := by
  have hnone := h.reported
  rw [hf] at hnone
  exact List.filterMap_eq_nil_iff.mp hnone.symm

theorem LogAccount.append {first more : List Event} {service₁ service₂ : σ}
    (h : LogAccount client c p service first service₁)
    (hm : LogAccount client c (p.after first) service₁ more service₂) :
    LogAccount client c p service (first ++ more) service₂ where
  exchanges := by
    rw [sendings_append, List.map_append, List.map_append, Client.exchanges_append, ← h.served,
      h.exchanges, hm.exchanges]
  served := by
    rw [sendings_append, List.map_append, Client.after_append, ← h.served, hm.served]
  calls x hx := by
    rw [sendings_append, List.mem_append] at hx
    exact hx.elim (h.calls x) (hm.calls x)
  told := by rw [troubles_append, failures_append, h.told, hm.told]
  kinds f hf := by
    rw [failures_append, List.mem_append] at hf
    exact hf.elim (h.kinds f) (hm.kinds f)

/-- A part that passed may be followed by another. -/
theorem PartAccount.followed {first more : Outcome σ}
    (h : PartAccount client c phases p service first) (hok : first.result = .ok ())
    (hm : PartAccount client c phases (p.after first.events) first.service more) :
    PartAccount client c phases p service
      { more with events := first.events ++ more.events } where
  toLogAccount := h.append hm.toLogAccount
  phase_mem x hx := by
    rw [sendings_append, List.mem_append] at hx
    exact hx.elim (h.phase_mem x) (hm.phase_mem x)
  verdict := by
    rw [failures_append, h.verdict, hok, hm.verdict]
    rfl
  stopped := by
    have hnone : failures first.events = [] := by
      rw [h.verdict, hok]
      rfl
    rw [sendings_append, List.pairwise_append]
    exact ⟨h.stopped, hm.stopped, fun x hx _ _ => h.uncaught?_eq_none hnone x hx⟩

/-- One action is a part of a case, together with what the case tells behind it. -/
theorem part_of_step {s : Session} {action : Action} {o : Outcome σ} {phase : Phase}
    {result : Except Error Unit} {report : List Event}
    (h : Session.Step client s service action o) (hp : p.phase = some phase)
    (hphase : phase ∈ phases) (ha : action ∈ c.actions phase)
    (hsilent : ∀ q, sendings q report = [])
    (htold : troubles p (o.events ++ report) = (Error.root? result).toList)
    (hreport : failures report = (Error.root? result).toList)
    (hkind : ∀ f, Error.root? result = some f → f.isOfSession ∨ ∃ fault, f = .client fault) :
    PartAccount client c phases p service
      { o with result := result, events := o.events ++ report } := by
  have hsend : sendings p (o.events ++ report) = (s.request? action).toList.map fun request =>
      ⟨⟨p.phase, some action⟩, request, (client.perform request service).1⟩ := by
    rw [sendings_append, hsilent, List.append_nil, h.sendings_eq]
  have hfail : failures (o.events ++ report) = (Error.root? result).toList := by
    rw [failures_append, h.failures_eq_nil, hreport, List.nil_append]
  have hserved := h.service_eq
  rw [h.requests_eq] at hserved
  refine ⟨⟨?exchanges, ?served, ?calls, htold.trans hfail.symm, ?kinds⟩, ?phase, hfail, ?stopped⟩
  case kinds =>
    intro f hf
    rw [hfail, Option.mem_toList] at hf
    exact hkind f hf
  all_goals rw [hsend]
  case exchanges => cases s.request? action <;> simp [Client.exchanges]
  case served => cases hr : s.request? action <;> simpa [hr] using hserved
  case phase =>
    intro x hx
    obtain ⟨request, -, rfl⟩ := List.mem_map.mp hx
    exact ⟨phase, hphase, hp⟩
  case stopped => cases s.request? action <;> simp
  case calls =>
    intro x hx
    obtain ⟨request, hr, rfl⟩ := List.mem_map.mp hx
    rw [Option.mem_toList] at hr
    obtain ⟨call, rfl, hop, hheaders⟩ := Session.exists_call_of_request? hr
    exact ⟨phase, call, hp, rfl, ha, hop, hheaders⟩

/-- An action that fails is a part of a case, together with its report. -/
theorem part_of_error {s : Session} {action : Action} {o : Outcome σ} {phase : Phase} {e : Error}
    (h : Session.Step client s service action o) (he : o.result = .error e)
    (hp : p.phase = some phase) (hphase : phase ∈ phases) (ha : action ∈ c.actions phase)
    (test shown : String) :
    PartAccount client c phases p service
      { o with
        result := .error (.inAction test shown e)
        events := o.events ++ [.actionFailed action e] } := by
  have hroot : Error.root? (.error (.inAction test shown e)) = some e :=
    congrArg some (Error.root_of_action?_eq_none (h.action?_of_error he))
  refine part_of_step h hp hphase ha (fun _ => rfl) ?_ ?_ ?_
  · rw [hroot, h.troubles_of_error he]
    rfl
  · rw [hroot]
    rfl
  · intro f hf
    obtain rfl : e = f := Option.some.inj (hroot.symm.trans hf)
    exact h.kind_of_error he

/-- An action that passes is a part of a case, and what the case tells then is passed over. -/
theorem part_of_ok {s : Session} {action : Action} {o : Outcome σ} {phase : Phase}
    {report : List Event} (h : Session.Step client s service action o) (ho : o.result = .ok ())
    (hp : p.phase = some phase) (hphase : phase ∈ phases) (ha : action ∈ c.actions phase)
    (hreport : ∀ event ∈ report, event.isSilent) :
    PartAccount client c phases p service { o with events := o.events ++ report } := by
  have hroot : Error.root? o.result = none := by rw [ho]; rfl
  refine part_of_step h hp hphase ha (fun q => (unread_of_isSilent hreport q).sendings_eq) ?_ ?_ ?_
  · rw [hroot, troubles_append, h.troubles_of_ok ho, (unread_of_isSilent hreport _).troubles_eq]
    rfl
  · rw [hroot, (unread_of_isSilent hreport p).failures_eq]
    rfl
  · simp [hroot]

/-- The actions of a phase up to the first that fails are a part of their case. -/
theorem part_runActions (client : Client σ) (actions : List Action) (s : Session) (service : σ)
    {phase : Phase} (hp : p.phase = some phase) (hphase : phase ∈ phases)
    (hactions : ∀ action ∈ actions, action ∈ c.actions phase) :
    PartAccount client c phases p service
      (runActions client c.source phase actions s service) := by
  induction actions generalizing p s service with
  | nil =>
    exact ⟨⟨rfl, rfl, by simp [runActions, sendings, Stage.read], rfl,
      by simp [runActions, failures]⟩, by simp [runActions, sendings, Stage.read], rfl, .nil⟩
  | cons action rest ih =>
    obtain ⟨ha, hrest⟩ := List.forall_mem_cons.mp hactions
    have step := Session.step_run client action s service
    cases hr : (s.run client action service).result with
    | error e =>
      rw [runActions_of_error hr]
      exact part_of_error step hr hp hphase ha _ _
    | ok _ =>
      rw [runActions_of_ok hr]
      -- A passed action of a body is told as such, which no reading of the log looks at.
      let passed : List Event :=
        if phase = .body then [.actionPassed action (s.run client action service).session.last]
        else []
      have hpassed : ∀ event ∈ passed, event.isSilent := by
        simp only [passed]
        split <;> simp [Event.isSilent]
      have hp' : (p.after ((s.run client action service).events ++ passed)).phase
          = some phase := by
        rw [Stage.after_append, (unread_of_isSilent hpassed _).after_eq, step.after_events, hp]
      exact (part_of_ok step hr hp hphase ha hpassed).followed hr (ih _ _ hp' hrest)

/-- A phase is a part of its case. -/
theorem part_runPhase (client : Client σ) (c : Case) (phases : List Phase) {phase : Phase}
    (hphase : phase ∈ phases) (p : Stage) (s : Session) (service : σ) :
    PartAccount client c phases p service
      (c.runPhase client phase (c.actions phase) s service) := by
  have hactions : PartAccount client c phases ⟨some phase, none⟩ service
      (runActions client c.source phase (c.actions phase) s service) :=
    part_runActions client _ s service rfl hphase fun _ ha => ha
  -- The event in front of the actions only leads to their stage.
  exact ⟨⟨hactions.exchanges, hactions.served, hactions.calls, hactions.told, hactions.kinds⟩,
    hactions.phase_mem, hactions.verdict, hactions.stopped⟩

/-- Setup and body are a part of their case. -/
theorem part_runMain (client : Client σ) (c : Case) (service : σ) :
    PartAccount client c [.setup, .body] .start service (c.runMain client service) := by
  have hsetup : PartAccount client c [.setup, .body] .start service
      (c.runPhase client .setup c.setup Session.start service) :=
    part_runPhase client c _ (by simp) _ _ _
  cases hr : (c.runPhase client .setup c.setup Session.start service).result with
  | error e =>
    simp only [runMain, hr]
    exact hsetup
  | ok _ =>
    simp only [runMain, hr]
    exact hsetup.followed hr (part_runPhase client c _ (by simp) _ _ _)

/-! ### Cases -/

/-- The client errors of a case: each is caught or told, in order, and the first that is told is the
result unless the session failed before. -/
structure ErrorAccount (client : Client σ) (c : Case) (service : σ) (o : CaseOutcome σ) : Prop
    extends LogAccount client c .start service o.events o.service where
  /-- The client errors that are told are those that are not caught. -/
  reported : (failures o.events).filterMap Error.client?
    = (sendings .start o.events).filterMap Sending.uncaught?
  /-- Behind an error of setup or body that is not caught only the teardown sends. -/
  stopped : (sendings .start o.events).Pairwise fun x y =>
    x.uncaught?.isSome → x.phase ≠ some .teardown → y.phase = some .teardown
  /-- The result is the first failure that is told. -/
  verdict : Error.root? o.result = (failures o.events).head?
  /-- This is the first client error that is not caught, unless the session failed before. -/
  first : ∀ fault more, (sendings .start o.events).filterMap Sending.uncaught? = fault :: more →
    ∃ e, o.result = .error e ∧ (e.root = .client fault ∨
      ∃ earlier action later, o.events = earlier ++ .actionFailed action e.root :: later ∧
        (sendings .start earlier).filterMap Sending.uncaught? = [] ∧ e.root.isOfSession)

theorem LogAccount.of_isSilent {events : List Event} (h : ∀ event ∈ events, event.isSilent) :
    LogAccount client c p service events service := by
  obtain ⟨hs, ht, hf, -⟩ := unread_of_isSilent h p
  refine ⟨?_, ?_, ?_, ht.trans hf.symm, ?_⟩
  · simp [hs, Client.exchanges]
  · simp [hs, Client.after]
  · simp [hs]
  · simp [hf]

/-- When the first failure of a log is the result, it is the first client error that is not caught,
unless the session failed before. -/
theorem LogAccount.exists_of_uncaught {events : List Event} {service' : σ}
    {result : Except Error Unit} (h : LogAccount client c p service events service')
    (hv : Error.root? result = (failures events).head?) {fault : ClientError}
    {more : List ClientError}
    (hu : (sendings p events).filterMap Sending.uncaught? = fault :: more) :
    ∃ e, result = .error e ∧ (e.root = .client fault ∨
      ∃ earlier action later, events = earlier ++ .actionFailed action e.root :: later ∧
        (sendings p earlier).filterMap Sending.uncaught? = [] ∧ e.root.isOfSession) := by
  have hreported := h.reported
  rw [hu] at hreported
  cases hf : failures events with
  | nil => simp [hf] at hreported
  | cons f rest =>
    rw [hf, List.head?_cons] at hv
    cases result with
    | ok _ => cases hv
    | error e =>
      obtain rfl : e.root = f := Option.some.inj hv
      refine ⟨e, rfl, ?_⟩
      rcases h.kinds e.root (by simp [hf]) with hs | ⟨other, hother⟩
      · obtain ⟨earlier, action, later, hsplit, hnil⟩ :=
          exists_actionFailed_of_troubles (h.told.trans hf) hs
        refine .inr ⟨earlier, action, later, hsplit, ?_, hs⟩
        rw [← filterMap_client?_troubles, hnil]
        rfl
      · rw [hf, hother] at hreported
        obtain rfl : other = fault := (List.cons.inj hreported).1
        exact .inl hother

theorem root?_firstError (main teardown : Except Error Unit) :
    Error.root? (firstError main teardown)
      = ((Error.root? main).toList ++ (Error.root? teardown).toList).head? := by
  cases main with
  | error e => rfl
  | ok _ => cases teardown <;> rfl

/-- Around the phases a case tells nothing that is read. -/
theorem exists_events_execute (client : Client σ) (c : Case) (service : σ) :
    let main := c.runMain client service
    let teardown := c.runPhase client .teardown c.teardown main.session main.service
    ∃ before behind : List Event, (∀ event ∈ before, event.isSilent) ∧
      (∀ event ∈ behind, event.isSilent) ∧
      (c.execute client service).events = before ++ (main.events ++ teardown.events ++ behind) := by
  refine ⟨[.caseStarted c.source c.title c.callCount], _ :: _, ?_, ?_, rfl⟩
  · simp [Event.isSilent]
  · unfold secondError
    split <;> simp [Event.isSilent]

/-- Executing a case accounts for the errors of the client. -/
theorem errorAccount (client : Client σ) (c : Case) (service : σ) :
    ErrorAccount client c service (c.execute client service) := by
  let main := c.runMain client service
  let teardown := c.runPhase client .teardown c.teardown main.session main.service
  have hmain : PartAccount client c [.setup, .body] .start service main :=
    part_runMain client c service
  have hteardown : PartAccount client c [.teardown] (Stage.start.after main.events) main.service
      teardown := part_runPhase client c _ (by simp) _ _ _
  obtain ⟨before, behind, hbefore, hbehind, hevents⟩ := exists_events_execute client c service
  obtain ⟨hsend₁, -, hfail₁, hstart⟩ := unread_of_isSilent hbefore .start
  have hlog : LogAccount client c .start service (c.execute client service).events
      (c.execute client service).service := by
    have hparts := hmain.toLogAccount.append hteardown.toLogAccount
    rw [hevents]
    exact (LogAccount.of_isSilent hbefore).append
      (hstart.symm ▸ hparts.append (LogAccount.of_isSilent hbehind))
  have hsend : sendings .start (c.execute client service).events
      = sendings .start main.events
        ++ sendings (Stage.start.after main.events) teardown.events := by
    rw [hevents, sendings_append, sendings_append, sendings_append, hsend₁, hstart,
      (unread_of_isSilent hbehind _).sendings_eq, List.nil_append, List.append_nil]
  have hfail : failures (c.execute client service).events
      = (Error.root? main.result).toList ++ (Error.root? teardown.result).toList := by
    rw [hevents, failures_append, failures_append, failures_append, hmain.verdict,
      hteardown.verdict, hfail₁, (unread_of_isSilent hbehind .start).failures_eq,
      List.nil_append, List.append_nil]
  have hverdict : Error.root? (c.execute client service).result
      = (failures (c.execute client service).events).head? := by
    rw [hfail]
    exact root?_firstError _ _
  refine ⟨hlog, hlog.reported, ?_, hverdict, fun _ _ hu => hlog.exists_of_uncaught hverdict hu⟩
  have hcaught (x y : Sending) (hnone : x.uncaught? = none) (hsome : x.uncaught?.isSome) :
      x.phase ≠ some .teardown → y.phase = some .teardown := by simp [hnone] at hsome
  rw [hsend, List.pairwise_append]
  refine ⟨hmain.stopped.imp (hcaught _ _), hteardown.stopped.imp (hcaught _ _), ?_⟩
  intro _ _ y hy _ _
  simpa using hteardown.phase_mem y hy

/-- A call whose parameters hold a name without a value fails with the first such name and sends
nothing, whatever failure it expects. -/
theorem exists_unbound_of_tokens (client : Client σ) {call : Call} {s : Session} (service : σ)
    (h : ∃ name ∈ call.params.tokens, s.vars.get? name = none) :
    ∃ earlier name later, call.params.tokens = earlier ++ name :: later ∧
      (∀ other ∈ earlier, (s.vars.get? other).isSome) ∧ s.vars.get? name = none ∧
      s.run client (.call call) service
        = ⟨.error (.unbound name), s, service, [.actionStarted (.call call)]⟩ := by
  have hbind := s.vars.bindParams_eq_provided call.params
  cases hp : s.vars.bindParams call.params with
  | ok params =>
    obtain ⟨name, hmem, hnone⟩ := h
    rw [hp, eq_comm, Variables.provided_eq_ok_iff] at hbind
    have hsome := hbind.1 name hmem
    simp [hnone] at hsome
  | error e =>
    rw [hp, eq_comm, Variables.provided_eq_error_iff] at hbind
    obtain ⟨earlier, later, htokens, hbound, hnone⟩ := hbind
    refine ⟨earlier, e.name, later, htokens, hbound, hnone, ?_⟩
    simp only [Session.run, Session.perform, Session.call, hp]

/-- **No client error is absorbed.** Whatever the client does, a case tells exactly the client
errors that the categories of their calls do not describe, in order. Behind such an error in setup
or body only the teardown sends, and the first one is the result unless the session failed before. A
call with a name that is not bound fails and sends nothing, whatever failure it expects. -/
theorem errorAccount_execute (client : Client σ) :
    (∀ c service, ErrorAccount client c service (c.execute client service)) ∧
    ∀ (call : Call) (s : Session) (service : σ),
      (∃ name ∈ call.params.tokens, s.vars.get? name = none) →
      ∃ earlier name later, call.params.tokens = earlier ++ name :: later ∧
        (∀ other ∈ earlier, (s.vars.get? other).isSome) ∧ s.vars.get? name = none ∧
        s.run client (.call call) service
          = ⟨.error (.unbound name), s, service, [.actionStarted (.call call)]⟩ :=
  ⟨errorAccount client, fun _ _ service => exists_unbound_of_tokens client service⟩

/-- A service that never finds anything. The first call of the body expects that, the second does
not, and the third is left out; the call of the teardown fails again. A call with a name that is not
bound fails although it expects a failure. -/
theorem errorAccount_execute_of_notFound :
    let fault : ClientError := ⟨.notFound, "gone"⟩
    let client : Client Nat :=
      ⟨.stack, fun _ served => (⟨none, [], false, .error fault⟩, served + 1)⟩
    let call : Option String → Action := fun expected => .call ⟨"get", .null, expected, []⟩
    let c : Case :=
      ⟨"title", "file", [], [call (some "missing"), call none, call none], [call none]⟩
    let named : Call := ⟨"get", .string "$id", some "missing", []⟩
    (c.execute client 0).service = 3 ∧
      (failures (c.execute client 0).events).filterMap Error.client? = [fault, fault] ∧
      Error.root? (c.execute client 0).result = some (.client fault) ∧
      Session.start.run client (.call named) 0
        = ⟨.error (.unbound "id"), Session.start, 0, [.actionStarted (.call named)]⟩ := by
  intro fault client call c named
  obtain ⟨haccount, hunbound⟩ := errorAccount_execute client
  have h := haccount c 0
  have htokens : named.params.tokens = ["id"] := by decide +kernel
  refine ⟨h.served.trans rfl, h.reported.trans rfl, h.verdict.trans rfl, ?_⟩
  obtain ⟨earlier, name, later, hsplit, -, -, hrun⟩ :=
    hunbound named Session.start 0 ⟨"id", by simp [htokens], rfl⟩
  obtain rfl : name = "id" := by
    have hmem : name ∈ named.params.tokens := hsplit ▸ by simp
    simpa [htokens] using hmem
  exact hrun

end Case

end ApiReplay
