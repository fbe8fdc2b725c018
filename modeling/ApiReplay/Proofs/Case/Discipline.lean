import ApiReplay.Case
import ApiReplay.Proofs.Session.Frame

/-!
# The discipline of a test case

The actions that a case attempts form the history of one plain run, which starts without variables
and without a response. They are the actions of the setup up to the first that fails, those of the
body if the setup passed, and in any case those of the teardown, in the state that was left. The
case passes when all of them do. Otherwise its result is the error of the first that failed, with
the test and the action attached once.

## Main definitions

* `Case.Attempt`: an action that a case attempts, with its phase.
* `Case.UpToFailure`: the attempts of a phase.
* `Case.Discipline`: the attempts of a case, and what follows from them.

## Main results

* `Case.phaseRun_runActions`: how a phase is run.
* `Case.discipline_execute`: how a case is executed.
-/

namespace ApiReplay

/-- Whether an event is told by an action itself, and not by the case around it. -/
def Event.isOfAction : Event → Bool
  | actionStarted _ | performed _ _ | unexpectedSuccess _ _ | responded _ _
  | failureExpected _ _ _ | bound _ _ => true
  | _ => false

/-- Whether an event is reported to whoever watches a run; the others are only logged. -/
def Event.isReported : Event → Bool
  | documentSkipped .. | caseStarted .. | actionPassed .. | actionFailed .. | runFinished _ => true
  | _ => false

/-- The events that are reported, in order. -/
def Event.reported (events : List Event) : List Event :=
  events.filter isReported

theorem Event.reported_append (first more : List Event) :
    reported (first ++ more) = reported first ++ reported more :=
  List.filter_append ..

theorem Event.reported_flatMap {α : Type} (f : α → List Event) (list : List α) :
    reported (list.flatMap f) = list.flatMap fun a => reported (f a) :=
  List.filter_flatMap ..

theorem Session.Step.isOfAction {σ : Type} {client : Client σ} {s : Session} {service : σ}
    {action : Action} {o : Outcome σ} (h : Session.Step client s service action o) :
    ∀ event ∈ o.events, event.isOfAction := by
  cases h with
  | @answered c _ _ _ _ _ _ _ => cases hc : c.expected <;> simp [Event.isOfAction]
  | _ => simp [Event.isOfAction]

namespace Case

open Session (history Moment runAll)

variable {σ : Type}

/-! ### Attempts -/

/-- An action that a case attempts in a phase, with the session and the service that it meets. -/
structure Attempt (σ : Type) extends Moment σ where
  phase : Phase

namespace Attempt

/-- The result of the action. -/
def result (client : Client σ) (a : Attempt σ) : Except Error Unit :=
  (a.outcome client).result

/-- Whether the action passes. -/
def Passes (client : Client σ) (a : Attempt σ) : Prop :=
  a.result client = .ok ()

/-- The error of an action that fails, with the test and the action attached. -/
def failure? (client : Client σ) (source : String) (a : Attempt σ) : Option Error :=
  match a.result client with
  | .ok () => none
  | .error e => some (.inAction source (a.phase.name ++ " " ++ a.action.text) e)

/-- What the case tells about the action. -/
def verdict (client : Client σ) (a : Attempt σ) : List Event :=
  match a.result client with
  | .ok () =>
    if a.phase = .body then [.actionPassed a.action (a.outcome client).session.last] else []
  | .error e => [.actionFailed a.action e]

/-- Everything that is told about the action. -/
def events (client : Client σ) (a : Attempt σ) : List Event :=
  (a.outcome client).events ++ a.verdict client

theorem failure?_eq_none_iff {client : Client σ} {source : String} {a : Attempt σ} :
    a.failure? client source = none ↔ a.Passes client := by
  unfold failure? Passes
  split <;> simp_all

theorem filter_events (client : Client σ) (a : Attempt σ) :
    (a.events client).filter Event.isOfAction = (a.outcome client).events := by
  have hv : (a.verdict client).filter Event.isOfAction = [] := by
    unfold verdict
    split
    · split <;> rfl
    · rfl
  rw [events, List.filter_append, hv, List.append_nil, List.filter_eq_self]
  exact (Session.step_run client a.action a.session a.service).isOfAction

/-- Of an action nothing is reported but how it ended. -/
theorem reported_events (client : Client σ) (a : Attempt σ) :
    Event.reported (a.events client) = a.verdict client := by
  have hown : Event.reported (a.outcome client).events = [] := by
    rw [Event.reported, List.filter_eq_nil_iff]
    intro event hevent
    have h := (Session.step_run client a.action a.session a.service).isOfAction event hevent
    cases event <;> simp [Event.isOfAction, Event.isReported] at h ⊢
  rw [events, Event.reported_append, hown, List.nil_append]
  unfold verdict
  split
  · split <;> rfl
  · rfl

end Attempt

/-- The attempts of a phase are its actions up to and including the first that fails. -/
structure UpToFailure (client : Client σ) (phase : Phase) (actions : List Action)
    (attempts : List (Attempt σ)) : Prop where
  phase_eq : ∀ a ∈ attempts, a.phase = phase
  /-- The actions are attempted in order, from the first one. -/
  in_order : attempts.map (·.action) <+: actions
  /-- Nothing is attempted after an action that fails. -/
  passed : ∀ a ∈ attempts.dropLast, a.Passes client
  /-- Without a failure all actions are attempted. -/
  complete : (∀ a ∈ attempts, a.Passes client) → attempts.map (·.action) = actions

/-- How the actions of a phase are run: the attempts form the history of a plain run. -/
structure PhaseRun (client : Client σ) (source : String) (phase : Phase) (actions : List Action)
    (s : Session) (service : σ) (attempts : List (Attempt σ)) (o : Outcome σ) : Prop where
  upToFailure : UpToFailure client phase actions attempts
  history_eq : history client (attempts.map (·.action)) s service = attempts.map (·.toMoment)
  session_eq : o.session = (runAll client (attempts.map (·.action)) s service).2.1
  service_eq : o.service = (runAll client (attempts.map (·.action)) s service).2.2.1
  events_eq : o.events = attempts.flatMap (Attempt.events client)
  result_eq : o.result
    = (attempts.findSome? (Attempt.failure? client source)).elim (.ok ()) .error

theorem upToFailure_cons {client : Client σ} {phase : Phase} {rest : List Action} {a : Attempt σ}
    {attempts : List (Attempt σ)} (hp : a.phase = phase) (ha : a.Passes client)
    (h : UpToFailure client phase rest attempts) :
    UpToFailure client phase (a.action :: rest) (a :: attempts) where
  phase_eq b hb := by
    rcases List.mem_cons.mp hb with rfl | hb
    · exact hp
    · exact h.phase_eq b hb
  in_order := by
    rw [List.map_cons, List.cons_prefix_cons]
    exact ⟨rfl, h.in_order⟩
  passed b hb := by
    cases attempts with
    | nil => cases hb
    | cons c more =>
      rcases List.mem_cons.mp hb with rfl | hb
      · exact ha
      · exact h.passed b hb
  complete hall := by
    rw [List.map_cons, h.complete fun b hb => hall b (List.mem_cons_of_mem a hb)]

theorem upToFailure_singleton {client : Client σ} {rest : List Action} {a : Attempt σ}
    (ha : ¬ a.Passes client) : UpToFailure client a.phase (a.action :: rest) [a] where
  phase_eq := by simp
  in_order := ⟨rest, rfl⟩
  passed := by simp
  complete hall := absurd (hall a List.mem_cons_self) ha

/-- A phase is run up to its first failure. -/
theorem phaseRun_runActions (client : Client σ) (source : String) (phase : Phase)
    (actions : List Action) (s : Session) (service : σ) :
    ∃ attempts, PhaseRun client source phase actions s service attempts
      (runActions client source phase actions s service) := by
  induction actions generalizing s service with
  | nil => exact ⟨[], ⟨by simp, List.prefix_rfl, by simp, fun _ => rfl⟩, rfl, rfl, rfl, rfl, rfl⟩
  | cons action rest ih =>
    let a : Attempt σ := ⟨⟨action, s, service⟩, phase⟩
    cases hr : (s.run client action service).result with
    | error e =>
      -- The attempts end here, whatever the rest of the actions is.
      have ha : a.result client = .error e := hr
      have hn : ¬ a.Passes client := by simp [Attempt.Passes, ha]
      rw [runActions_of_error hr]
      refine ⟨[a], upToFailure_singleton hn, rfl, rfl, rfl, ?_, ?_⟩
      · simp only [List.flatMap_cons, List.flatMap_nil, List.append_nil, Attempt.events,
          Attempt.verdict, ha]
        rfl
      · simp [Attempt.failure?, ha, a]
    | ok _ =>
      have ha : a.result client = .ok () := hr
      obtain ⟨attempts, h⟩ := ih (s.run client action service).session
        (s.run client action service).service
      rw [runActions_of_ok hr]
      refine ⟨a :: attempts, upToFailure_cons rfl ha h.upToFailure, ?_, h.session_eq,
        h.service_eq, ?_, ?_⟩
      · simp only [List.map_cons, history, a, h.history_eq]
      · simp only [List.flatMap_cons, h.events_eq, Attempt.events, Attempt.verdict, ha]
        rfl
      · simp [Attempt.failure?, ha, h.result_eq]

/-! ### Cases -/

/-- How attempts are run one after the other, in some phases. -/
structure Ran (client : Client σ) (source : String) (s : Session) (service : σ)
    (attempts : List (Attempt σ)) (o : Outcome σ) : Prop where
  history_eq : history client (attempts.map (·.action)) s service = attempts.map (·.toMoment)
  session_eq : o.session = (runAll client (attempts.map (·.action)) s service).2.1
  service_eq : o.service = (runAll client (attempts.map (·.action)) s service).2.2.1
  events_eq : o.events.filter Event.isOfAction
    = (runAll client (attempts.map (·.action)) s service).2.2.2
  reported_eq : Event.reported o.events = attempts.flatMap (Attempt.verdict client)
  result_eq : o.result
    = (attempts.findSome? (Attempt.failure? client source)).elim (.ok ()) .error

theorem PhaseRun.ran {client : Client σ} {c : Case} {phase : Phase} {actions : List Action}
    {s : Session} {service : σ} {attempts : List (Attempt σ)}
    (h : PhaseRun client c.source phase actions s service attempts
      (runActions client c.source phase actions s service)) :
    Ran client c.source s service attempts (c.runPhase client phase actions s service) where
  history_eq := h.history_eq
  session_eq := h.session_eq
  service_eq := h.service_eq
  events_eq := by
    have hf : (runActions client c.source phase actions s service).events.filter Event.isOfAction
        = attempts.flatMap fun a => (a.outcome client).events := by
      rw [h.events_eq, List.filter_flatMap]
      simp only [Attempt.filter_events]
    rw [Session.events_runAll, h.history_eq, List.flatMap_map, ← hf]
    rfl
  reported_eq := by
    have hr : Event.reported (runActions client c.source phase actions s service).events
        = attempts.flatMap (Attempt.verdict client) := by
      rw [h.events_eq, Event.reported_flatMap]
      simp only [Attempt.reported_events]
    rw [← hr]
    rfl
  result_eq := h.result_eq

theorem firstError_elim (first more : Option Error) :
    firstError (first.elim (.ok ()) .error) (more.elim (.ok ()) .error)
      = (first.or more).elim (.ok ()) .error := by
  cases first <;> rfl

/-- Attempts that start where others ended are run like all of them at once. -/
theorem Ran.append {client : Client σ} {source : String} {s : Session} {service : σ}
    {xs ys : List (Attempt σ)} {first more : Outcome σ} (hx : Ran client source s service xs first)
    (hy : Ran client source first.session first.service ys more) :
    Ran client source s service (xs ++ ys)
      ⟨firstError first.result more.result, more.session, more.service,
        first.events ++ more.events⟩ := by
  have hs := hx.session_eq
  have hv := hx.service_eq
  refine ⟨?_, ?_, ?_, ?_, ?_, ?_⟩
  · rw [List.map_append, List.map_append, Session.history_append, ← hs, ← hv, hx.history_eq,
      hy.history_eq]
  · simp only [List.map_append, Session.runAll_append, ← hs, ← hv, hy.session_eq]
  · simp only [List.map_append, Session.runAll_append, ← hs, ← hv, hy.service_eq]
  · simp only [List.map_append, Session.runAll_append, ← hs, ← hv, List.filter_append,
      hx.events_eq, hy.events_eq]
  · rw [Event.reported_append, hx.reported_eq, hy.reported_eq, List.flatMap_append]
  · simp only [hx.result_eq, hy.result_eq, firstError_elim, List.findSome?_append]

section Ran

variable {client : Client σ} {source : String} {s : Session} {service : σ}
  {attempts : List (Attempt σ)} {o : Outcome σ}

theorem Ran.ok_iff (h : Ran client source s service attempts o) :
    o.result = .ok () ↔ ∀ a ∈ attempts, a.Passes client := by
  have hn : attempts.findSome? (Attempt.failure? client source) = none ↔
      ∀ a ∈ attempts, a.Passes client := by
    simp only [List.findSome?_eq_none_iff, Attempt.failure?_eq_none_iff]
  rw [← hn, h.result_eq]
  cases attempts.findSome? (Attempt.failure? client source) <;> simp

/-- The first failure is the result. -/
theorem Ran.result_of_first (h : Ran client source s service attempts o)
    {earlier later : List (Attempt σ)} {a : Attempt σ} {e : Error}
    (hsplit : attempts = earlier ++ a :: later) (hpass : ∀ b ∈ earlier, b.Passes client)
    (ha : a.result client = .error e) :
    o.result = .error (.inAction source (a.phase.name ++ " " ++ a.action.text) e) := by
  have hnone : earlier.findSome? (Attempt.failure? client source) = none :=
    List.findSome?_eq_none_iff.mpr fun b hb => Attempt.failure?_eq_none_iff.mpr (hpass b hb)
  have hsome : a.failure? client source
      = some (.inAction source (a.phase.name ++ " " ++ a.action.text) e) := by
    simp only [Attempt.failure?, ha]
  rw [h.result_eq, hsplit, List.findSome?_append, hnone, List.findSome?_cons, hsome]
  rfl

end Ran

/-- The setup is run, and the body if the setup passed. -/
theorem exists_ran_runMain (client : Client σ) (c : Case) (service : σ) :
    ∃ setup body : List (Attempt σ), UpToFailure client .setup c.setup setup ∧
      ((∀ a ∈ setup, a.Passes client) → UpToFailure client .body c.body body) ∧
      ((∃ a ∈ setup, ¬ a.Passes client) → body = []) ∧
      Ran client c.source Session.start service (setup ++ body) (c.runMain client service) := by
  obtain ⟨setup, hsetup⟩ :=
    phaseRun_runActions client c.source .setup c.setup Session.start service
  have hs := hsetup.ran
  cases hr : (c.runPhase client .setup c.setup Session.start service).result with
  | error e =>
    -- The setup failed, so the body is left out and the setup is all there is.
    have hfail : ¬ ∀ a ∈ setup, a.Passes client := by
      rw [← hs.ok_iff, hr]
      rintro ⟨⟩
    refine ⟨setup, [], hsetup.upToFailure, fun hall => absurd hall hfail, fun _ => rfl, ?_⟩
    have hmain : c.runMain client service
        = c.runPhase client .setup c.setup Session.start service := by
      simp only [runMain, hr]
    rw [hmain, List.append_nil]
    exact hs
  | ok _ =>
    obtain ⟨body, hbody⟩ := phaseRun_runActions client c.source .body c.body
      (c.runPhase client .setup c.setup Session.start service).session
      (c.runPhase client .setup c.setup Session.start service).service
    have hall := hs.ok_iff.mp hr
    refine ⟨setup, body, hsetup.upToFailure, fun _ => hbody.upToFailure, ?_, ?_⟩
    · rintro ⟨a, ha, hn⟩
      exact absurd (hall a ha) hn
    · have h := hs.append hbody.ran
      rw [hr] at h
      simp only [runMain, hr]
      exact h

/-- The attempts of a case, phase by phase, and what follows from them. -/
structure Discipline (client : Client σ) (c : Case) (service : σ)
    (setup body teardown : List (Attempt σ)) (o : CaseOutcome σ) : Prop where
  setup_upToFailure : UpToFailure client .setup c.setup setup
  /-- After a setup that passed the body is attempted. -/
  body_upToFailure : (∀ a ∈ setup, a.Passes client) → UpToFailure client .body c.body body
  /-- After a setup that failed nothing of the body is. -/
  body_eq_nil : (∃ a ∈ setup, ¬ a.Passes client) → body = []
  /-- The teardown is attempted in any case. -/
  teardown_upToFailure : UpToFailure client .teardown c.teardown teardown
  /-- The attempts are one plain run that starts without variables and without a response. -/
  history_eq : history client ((setup ++ body ++ teardown).map (·.action)) ⟨.empty, none⟩ service
    = (setup ++ body ++ teardown).map (·.toMoment)
  /-- The service is left as the plain run leaves it. -/
  service_eq : o.service
    = (runAll client ((setup ++ body ++ teardown).map (·.action)) ⟨.empty, none⟩ service).2.2.1
  /-- Nothing is done but what the plain run does. -/
  events_eq : o.events.filter Event.isOfAction
    = (runAll client ((setup ++ body ++ teardown).map (·.action)) ⟨.empty, none⟩ service).2.2.2
  ok_iff : o.result = .ok () ↔ ∀ a ∈ setup ++ body ++ teardown, a.Passes client
  /-- The first failure is the result, with the test and the action attached once. -/
  first_error : ∀ earlier a later e, setup ++ body ++ teardown = earlier ++ a :: later →
    (∀ b ∈ earlier, b.Passes client) → a.result client = .error e →
    o.result = .error (.inAction c.source (a.phase.name ++ " " ++ a.action.text) e) ∧
      e.action? = none ∧
      (Error.inAction c.source (a.phase.name ++ " " ++ a.action.text) e).root = e

/-- **Discipline of a case.** Whatever the client does, the setup is attempted up to its first
failure, then the body if the setup passed, and always the teardown; the first failure of all is the
result. -/
theorem discipline_execute (client : Client σ) (c : Case) (service : σ) :
    ∃ setup body teardown, Discipline client c service setup body teardown
      (c.execute client service) := by
  obtain ⟨setup, body, hsetup, hbody, hnil, hmain⟩ := exists_ran_runMain client c service
  obtain ⟨teardown, hteardown⟩ := phaseRun_runActions client c.source .teardown c.teardown
    (c.runMain client service).session (c.runMain client service).service
  have h := hmain.append hteardown.ran
  refine ⟨setup, body, teardown, hsetup, hbody, hnil, hteardown.upToFailure, h.history_eq,
    h.service_eq, ?events, h.ok_iff, ?first⟩
  case events =>
    -- What the case tells by itself is filtered away.
    have hsecond : ∀ main other, (c.secondError main other).filter Event.isOfAction = [] := by
      intro main other
      unfold secondError
      split <;> rfl
    rw [← Session.start, ← h.events_eq]
    simp [execute, Event.isOfAction, hsecond]
  case first =>
    intro earlier a later e hsplit hpass ha
    have hbare : e.action? = none :=
      (Session.step_run client a.action a.session a.service).action?_of_error ha
    exact ⟨h.result_of_first hsplit hpass ha, hbare, Error.root_of_action?_eq_none hbare⟩

end Case

end ApiReplay
