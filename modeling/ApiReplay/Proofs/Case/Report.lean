import ApiReplay.Proofs.Case.ClientErrors
import ApiReplay.Proofs.Case.Discipline

/-!
# The report of a test case

Whoever watches a case is told that it started, then of every action of the body that passed, in
order, then of the action that failed in setup or body, if any, and at last of the one that failed
in the teardown. Of setup and teardown nothing else is told, and of the body nothing at all when the
setup failed. The first failure that is told is the result.

## Main definitions

* `Case.Attempt.passed?`, `Case.Attempt.failed?`: what is told of an action.
* `Case.Report`: what is told of a case.

## Main results

* `Case.UpToFailure.flatMap_verdict`: what is told of a phase.
* `Case.exists_report`: every case has its report.
-/

namespace ApiReplay.Case

open Session (history)

variable {σ : Type} {client : Client σ} {phase : Phase} {actions : List Action}
  {attempts : List (Attempt σ)}

/-! ### Actions -/

namespace Attempt

/-- How it is told that the action passed. -/
def passed? (client : Client σ) (a : Attempt σ) : Option Event :=
  match a.result client with
  | .ok () => some (.actionPassed a.action (a.outcome client).session.last)
  | .error _ => none

/-- How it is told that the action failed. -/
def failed? (client : Client σ) (a : Attempt σ) : Option Event :=
  match a.result client with
  | .ok () => none
  | .error e => some (.actionFailed a.action e)

/-- That an action passed is told of the body only. -/
theorem verdict_eq (client : Client σ) (a : Attempt σ) :
    a.verdict client = (if a.phase = .body then (a.passed? client).toList else [])
      ++ (a.failed? client).toList := by
  unfold verdict passed? failed?
  cases a.result client <;> simp

theorem failed?_eq_none {a : Attempt σ} (h : a.Passes client) : a.failed? client = none := by
  unfold Passes at h
  simp [failed?, h]

end Attempt

/-! ### Phases -/

theorem flatMap_verdict_of_passes (hphase : ∀ a ∈ attempts, a.phase = phase)
    (hpasses : ∀ a ∈ attempts, a.Passes client) :
    attempts.flatMap (Attempt.verdict client)
      = if phase = .body then attempts.filterMap (Attempt.passed? client) else [] := by
  have hverdict : ∀ a ∈ attempts,
      a.verdict client = if phase = .body then (a.passed? client).toList else [] := by
    intro a ha
    rw [a.verdict_eq, hphase a ha, Attempt.failed?_eq_none (hpasses a ha)]
    simp
  rw [List.flatMap_congr hverdict]
  split
  · rw [List.filterMap_eq_flatMap_toList]
  · simp

/-- Of a phase the passed actions of a body are told, and the last action if it failed. -/
theorem UpToFailure.flatMap_verdict (h : UpToFailure client phase actions attempts) :
    attempts.flatMap (Attempt.verdict client)
      = (if phase = .body then attempts.filterMap (Attempt.passed? client) else [])
        ++ (attempts.getLast?.bind (Attempt.failed? client)).toList := by
  rcases attempts.eq_nil_or_concat with rfl | ⟨earlier, a, hattempts⟩
  · simp
  · rw [List.concat_eq_append] at hattempts
    subst hattempts
    have hearlier : earlier.flatMap (Attempt.verdict client)
        = if phase = .body then earlier.filterMap (Attempt.passed? client) else [] := by
      refine flatMap_verdict_of_passes (fun b hb => h.phase_eq b (by simp [hb])) fun b hb => ?_
      exact h.passed b (by simpa using hb)
    have ha : a.phase = phase := h.phase_eq a (by simp)
    rw [List.flatMap_append, hearlier, List.flatMap_singleton, a.verdict_eq, ha]
    by_cases hbody : phase = .body
    · cases hp : a.passed? client <;> simp [hbody, hp]
    · simp [hbody]

/-! ### Cases -/

/-- The attempts of a case, phase by phase. -/
structure Phases (client : Client σ) (c : Case) (setup body teardown : List (Attempt σ)) :
    Prop where
  setup_upToFailure : UpToFailure client .setup c.setup setup
  /-- After a setup that passed the body is attempted. -/
  body_upToFailure : (∀ a ∈ setup, a.Passes client) → UpToFailure client .body c.body body
  /-- After a setup that failed nothing of the body is. -/
  body_eq_nil : (∃ a ∈ setup, ¬ a.Passes client) → body = []
  /-- The teardown is attempted in any case. -/
  teardown_upToFailure : UpToFailure client .teardown c.teardown teardown

/-- Of setup and body the passed actions of the body are told, and the action that failed. -/
theorem Phases.flatMap_verdict {c : Case} {setup body teardown : List (Attempt σ)}
    (h : Phases client c setup body teardown) :
    (setup ++ body).flatMap (Attempt.verdict client) = body.filterMap (Attempt.passed? client)
      ++ ((setup ++ body).getLast?.bind (Attempt.failed? client)).toList := by
  rw [List.flatMap_append, h.setup_upToFailure.flatMap_verdict, List.getLast?_append]
  by_cases hsetup : ∀ a ∈ setup, a.Passes client
  · have hnone : setup.getLast?.bind (Attempt.failed? client) = none := by
      rw [Option.bind_eq_none_iff]
      intro a ha
      exact Attempt.failed?_eq_none (hsetup a (List.mem_of_getLast? ha))
    rw [(h.body_upToFailure hsetup).flatMap_verdict]
    cases hbody : body.getLast? <;> simp [hnone]
  · simp [h.body_eq_nil (by simpa using hsetup)]

/-- A case attempts the actions of its phases as one plain run, and tells what this tells between its
start and its end. -/
theorem exists_ran_execute (client : Client σ) (c : Case) (service : σ) :
    ∃ (setup body teardown : List (Attempt σ)) (o : Outcome σ) (closing : List Event),
      Phases client c setup body teardown ∧
      Ran client c.source Session.start service (setup ++ body ++ teardown) o ∧
      (c.execute client service).events
        = .caseStarted c.source c.title c.callCount :: (o.events ++ closing) ∧
      ∀ event ∈ closing, event.isReported = false ∧ event.request? = none := by
  obtain ⟨setup, body, hsetup, hbody, hnil, hmain⟩ := exists_ran_runMain client c service
  obtain ⟨teardown, hteardown⟩ := phaseRun_runActions client c.source .teardown c.teardown
    (c.runMain client service).session (c.runMain client service).service
  refine ⟨setup, body, teardown, _, _, ⟨hsetup, hbody, hnil, hteardown.upToFailure⟩,
    hmain.append hteardown.ran, rfl, ?_⟩
  rw [List.forall_mem_cons]
  refine ⟨⟨rfl, rfl⟩, fun event hevent => ?_⟩
  unfold secondError at hevent
  split at hevent
  · obtain rfl := List.mem_singleton.mp hevent
    exact ⟨rfl, rfl⟩
  · cases hevent

/-- What is told of a case, by the attempts of its phases. -/
structure Report (client : Client σ) (c : Case) (service : σ) (setup body teardown : List (Attempt σ))
    (result : Except Error Unit) (told : List Event) : Prop
    extends Phases client c setup body teardown where
  /-- The attempts are what the case does, one after the other. -/
  history_eq : history client ((setup ++ body ++ teardown).map (·.action)) Session.start service
    = (setup ++ body ++ teardown).map (·.toMoment)
  /-- Only the last action of setup and body, and the last one of the teardown, can have failed. -/
  told_eq : told = .caseStarted c.source c.title c.callCount ::
    (body.filterMap (Attempt.passed? client)
      ++ ((setup ++ body).getLast?.bind (Attempt.failed? client)).toList
      ++ (teardown.getLast?.bind (Attempt.failed? client)).toList)
  /-- The first failure that is told is the result, without the test and the action. -/
  root_eq : Error.root? result = (failures told).head?

/-- All failures are reported. -/
theorem failures_reported (events : List Event) :
    failures (Event.reported events) = failures events := by
  rw [failures, Event.reported, List.filterMap_filter]
  refine List.filterMap_congr fun event _ => ?_
  cases event <;> rfl

/-- Whatever the client does, a case has its report. -/
theorem exists_report (client : Client σ) (c : Case) (service : σ) :
    ∃ setup body teardown, Report client c service setup body teardown
      (c.execute client service).result (Event.reported (c.execute client service).events) := by
  obtain ⟨setup, body, teardown, o, closing, hphases, hran, hevents, hclosing⟩ :=
    exists_ran_execute client c service
  refine ⟨setup, body, teardown, hphases, hran.history_eq, ?told, ?root⟩
  case told =>
    have hnone : Event.reported closing = [] :=
      List.filter_eq_nil_iff.mpr fun event hevent => by simp [(hclosing event hevent).1]
    have hteardown := hphases.teardown_upToFailure.flatMap_verdict
    rw [if_neg (by decide), List.nil_append] at hteardown
    calc Event.reported (c.execute client service).events
        = .caseStarted c.source c.title c.callCount :: Event.reported (o.events ++ closing) := by
          rw [hevents]
          rfl
      _ = .caseStarted c.source c.title c.callCount ::
            ((setup ++ body).flatMap (Attempt.verdict client)
              ++ teardown.flatMap (Attempt.verdict client)) := by
          rw [Event.reported_append, hnone, List.append_nil, hran.reported_eq, List.flatMap_append]
      _ = _ := by rw [hphases.flatMap_verdict, hteardown]
  case root => rw [failures_reported, (errorAccount client c service).verdict]

end ApiReplay.Case
