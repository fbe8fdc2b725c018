import ApiReplay.Proofs.Case.Report

/-!
# Test cases by themselves

A case starts without variables and without a response, so whatever its actions meet was left by
earlier actions of the same case: a variable has the value that was bound to it last, and the last
response is that of the latest call that got one. This holds for every client.

When the results of a client do not depend on its state, nothing that happened before a case matters
to it: the case sends the same requests and has the same result in all states of the service. The
same holds of its parts, down to one action.

## Main definitions

* `Case.Isolated`: the actions of a case meet what earlier actions of it left.
* `Outcome.Agrees`: outcomes that differ in the service only.

## Main results

* `Case.exists_isolated`: every case is isolated.
* `Case.execute_of_memoryless`: a case in two states of the service.
-/

namespace ApiReplay

variable {σ : Type} {client : Client σ}

/-! ### What actions meet -/

theorem Session.history_take (client : Client σ) (actions : List Action) (s : Session) (service : σ)
    (n : Nat) :
    history client (actions.take n) s service = (history client actions s service).take n := by
  induction actions generalizing s service n with
  | nil => simp [history]
  | cons action rest ih => cases n <;> simp [history, ih]

/-- In a run that starts without variables and without a response, an action meets the values and the
response that earlier actions left. -/
theorem Session.met_of_start (client : Client σ) (actions : List Action) (service : σ) {i : Nat}
    {m : Moment σ} (hm : (history client actions start service)[i]? = some m) :
    (∀ name, m.session.vars.get? name
      = (((history client actions start service).take i).filterMap (Moment.value? name)).getLast?) ∧
    m.session.last = (((history client actions start service).take i).filterMap
      (Moment.response? client)).getLast? := by
  obtain ⟨hsession, -⟩ := (runFrame_runAll client actions start service).met i m hm
  have hbefore := runFrame_runAll client (actions.take i) start service
  rw [history_take] at hbefore
  refine ⟨fun name => ?_, ?_⟩
  · rw [hsession, hbefore.vars name]
    exact Option.or_none
  · rw [hsession, hbefore.last]
    exact Option.or_none

theorem Event.requests_filter_isOfAction (events : List Event) :
    requests (events.filter isOfAction) = requests events := by
  rw [requests, requests, List.filterMap_filter]
  refine List.filterMap_congr fun event _ => ?_
  cases event <;> rfl

namespace Case

open Session (Moment history runAll runFrame_runAll)

/-- The actions that a case attempts meet what earlier ones left, and nothing else. -/
structure Isolated (client : Client σ) (c : Case) (setup body teardown : List (Attempt σ))
    (o : CaseOutcome σ) : Prop extends Phases client c setup body teardown where
  /-- A variable has the value that an earlier action bound to it last. -/
  vars_eq : ∀ i a, (setup ++ body ++ teardown)[i]? = some a → ∀ name, a.session.vars.get? name
    = (((setup ++ body ++ teardown).take i).filterMap (·.value? name)).getLast?
  /-- The last response is that of the latest earlier call that got one. -/
  last_eq : ∀ i a, (setup ++ body ++ teardown)[i]? = some a → a.session.last
    = (((setup ++ body ++ teardown).take i).filterMap (·.response? client)).getLast?
  /-- The requests are those of the calls whose parameters bound, in order. -/
  requests_eq : Event.requests o.events = (setup ++ body ++ teardown).filterMap (·.request?)

/-- Whatever the client does, a case is isolated from all others. -/
theorem exists_isolated (client : Client σ) (c : Case) (service : σ) :
    ∃ setup body teardown, Isolated client c setup body teardown (c.execute client service) := by
  obtain ⟨setup, body, teardown, o, closing, hphases, hran, hevents, hclosing⟩ :=
    exists_ran_execute client c service
  have hmet {i : Nat} {a : Attempt σ} (ha : (setup ++ body ++ teardown)[i]? = some a) :=
    Session.met_of_start client ((setup ++ body ++ teardown).map (·.action)) service
      (i := i) (m := a.toMoment) (by rw [hran.history_eq, List.getElem?_map, ha]; rfl)
  simp only [hran.history_eq, ← List.map_take, List.filterMap_map] at hmet
  refine ⟨setup, body, teardown, hphases, fun _ _ ha => (hmet ha).1, fun _ _ ha => (hmet ha).2, ?_⟩
  have hnone : Event.requests closing = [] :=
    List.filterMap_eq_nil_iff.mpr fun event hevent => (hclosing event hevent).2
  have hrun := (Session.runFrame_runAll client ((setup ++ body ++ teardown).map (·.action))
    Session.start service).requests
  rw [hran.history_eq, List.filterMap_map] at hrun
  rw [hevents, Event.requests_cons, Event.requests_append, hnone, List.append_nil,
    ← Event.requests_filter_isOfAction, hran.events_eq, hrun]
  rfl

end Case

/-! ### Clients without a memory -/

/-- Outcomes that differ in the state of the service, and in what went over the wire, only. -/
structure Outcome.Agrees (o o' : Outcome σ) : Prop where
  result_eq : o.result = o'.result
  session_eq : o.session = o'.session
  requests_eq : Event.requests o.events = Event.requests o'.events

/-- Outcomes that agree do so behind the same requests. -/
theorem Outcome.Agrees.after {o o' : Outcome σ} (h : o.Agrees o') {first first' : List Event}
    (hfirst : Event.requests first = Event.requests first') :
    Outcome.Agrees { o with events := first ++ o.events } { o' with events := first' ++ o'.events }
      where
  result_eq := h.result_eq
  session_eq := h.session_eq
  requests_eq := by rw [Event.requests_append, Event.requests_append, hfirst, h.requests_eq]

section Memoryless

variable (hclient : client.Memoryless) (service service' : σ)

include hclient

/-- An action sees nothing of the service but the result of its request. -/
theorem Session.run_of_memoryless (action : Action) (s : Session) :
    (s.run client action service).Agrees (s.run client action service') := by
  cases action with
  | call c =>
    cases hp : s.vars.bindParams c.params with
    | error e => simp only [run, perform, call, hp]; exact ⟨rfl, rfl, rfl⟩
    | ok params =>
      have hresult := hclient ⟨c.operation, params, c.headers⟩ service service'
      simp only [Client.result] at hresult
      simp only [run, perform, call, hp, ← hresult]
      cases (client.perform ⟨c.operation, params, c.headers⟩ service).1.result with
      | ok response => cases c.expected <;> exact ⟨rfl, rfl, rfl⟩
      | error e =>
        cases c.expected with
        | none => exact ⟨rfl, rfl, rfl⟩
        | some category => dsimp only; split <;> exact ⟨rfl, rfl, rfl⟩
  | bind path name =>
    simp only [run, perform, Session.bind]
    cases s.resolve path <;> exact ⟨rfl, rfl, rfl⟩
  | _ => exact ⟨rfl, rfl, rfl⟩

namespace Case

theorem runActions_of_memoryless (source : String) (phase : Phase) (actions : List Action)
    (s : Session) : (runActions client source phase actions s service).Agrees
      (runActions client source phase actions s service') := by
  induction actions generalizing s service service' with
  | nil => exact ⟨rfl, rfl, rfl⟩
  | cons action rest ih =>
    have hrun := Session.run_of_memoryless hclient service service' action s
    cases hr : (s.run client action service).result with
    | error e =>
      rw [runActions_of_error hr, runActions_of_error (hrun.result_eq.symm.trans hr)]
      exact ⟨rfl, hrun.session_eq, by simp [hrun.requests_eq]⟩
    | ok _ =>
      rw [runActions_of_ok hr, runActions_of_ok (hrun.result_eq.symm.trans hr)]
      simp only [← hrun.session_eq]
      refine (ih _ _ _).after ?_
      rw [Event.requests_append, Event.requests_append, hrun.requests_eq]

variable (c : Case)

theorem runPhase_of_memoryless (phase : Phase) (actions : List Action) (s : Session) :
    (c.runPhase client phase actions s service).Agrees
      (c.runPhase client phase actions s service') := by
  have hstarted : Event.requests [.phaseStarted c.source c.title phase actions.length]
      = Event.requests [.phaseStarted c.source c.title phase actions.length] := rfl
  exact (runActions_of_memoryless hclient service service' c.source phase actions s).after hstarted

theorem runMain_of_memoryless : (c.runMain client service).Agrees (c.runMain client service') := by
  have hsetup := runPhase_of_memoryless hclient service service' c .setup c.setup Session.start
  cases hr : (c.runPhase client .setup c.setup Session.start service).result with
  | error e =>
    have hr' := hsetup.result_eq.symm.trans hr
    simp only [runMain, hr, hr']
    exact hsetup
  | ok _ =>
    have hr' := hsetup.result_eq.symm.trans hr
    simp only [runMain, hr, hr', ← hsetup.session_eq]
    exact (runPhase_of_memoryless hclient _ _ c .body c.body _).after hsetup.requests_eq

/-- A case sends the same requests and has the same result, whatever happened before. -/
theorem execute_of_memoryless :
    (c.execute client service).result = (c.execute client service').result ∧
      Event.requests (c.execute client service).events
        = Event.requests (c.execute client service').events := by
  have hmain := runMain_of_memoryless hclient service service' c
  have hteardown := runPhase_of_memoryless hclient (c.runMain client service).service
    (c.runMain client service').service c .teardown c.teardown (c.runMain client service).session
  have hsecond (main teardown : Except Error Unit) :
      Event.requests (c.secondError main teardown) = [] := by
    unfold secondError
    split <;> rfl
  simp only [execute, ← hmain.session_eq]
  refine ⟨by rw [hmain.result_eq, hteardown.result_eq], ?_⟩
  simp [hmain.requests_eq, hteardown.requests_eq, hsecond, Event.request?]

end Case

end Memoryless

end ApiReplay
