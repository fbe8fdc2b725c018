import ApiReplay.Proofs.Case.Isolation
import ApiReplay.Proofs.Run.Accounting
import Mathlib.Algebra.BigOperators.Group.List.Basic

/-!
# Documents by themselves

Documents and tests meet through the service and nowhere else. So when the results of a client do
not depend on its state, every test sends what it sends alone and has the result that it has alone,
and the totals of a run are sums of what each document adds alone. The order of the documents then
shows in the order of the failures only.

## Main definitions

* `Run.runnable`: the tests of a document that a run executes.
* `Run.Execution.Independent`: a test in a run does what it does alone.

## Main results

* `Run.summary_documents_of_memoryless`: the totals are sums.
* `Run.documents_perm_of_memoryless`: the order of documents does not matter.
-/

namespace ApiReplay.Run

variable {σ : Type} {client : Client σ}

/-! ### Tests of a run -/

/-- The tests that a run executes of a file: all of them, if it is a document that is meant for the
flavor and has no malformed step, and else none. -/
def runnable (flavor : Flavor) (entry : String × Except Error Document) : List Case :=
  match entry.2 with
  | .error _ => []
  | .ok d => if d.requires.allows flavor then (d.cases entry.1).toOption.getD [] else []

/-- Every test of a document that a run executes is executed, and nothing else sends anything. -/
theorem exists_executions_document (client : Client σ) (flavor : Flavor) (file : String)
    (loaded : Except Error Document) (service : σ) :
    ∃ executions : List (Execution σ),
      executions.map Execution.test = runnable flavor (file, loaded) ∧
      Threaded Execution.service (fun x => (x.outcome client).service) service executions
        (document client flavor file loaded service).service ∧
      Event.requests (document client flavor file loaded service).events
        = executions.flatMap (Execution.sent client) := by
  cases loaded with
  | error e => exact ⟨[], rfl, rfl, rfl⟩
  | ok d =>
    cases ha : d.requires.allows flavor with
    | false => exact ⟨[], by simp [runnable, ha], by simp [document, ha, Threaded],
        by simp [document, ha, Event.request?]⟩
    | true =>
      cases hc : d.cases file with
      | error fault =>
        simp only [document, runnable, ha, hc, if_true, Event.requests_append,
          requests_map_stepIgnored]
        exact ⟨[], rfl, rfl, rfl⟩
      | ok tests =>
        obtain ⟨executions, htests, hthread, -, hsent⟩ := exists_executions client file tests service
        simp only [document, runnable, ha, hc, if_true, Event.requests_append,
          requests_map_stepIgnored, List.nil_append]
        exact ⟨executions, htests, hthread, hsent⟩

theorem exists_executions_documents (client : Client σ) (flavor : Flavor)
    (files : List (String × Except Error Document)) (service : σ) :
    ∃ executions : List (Execution σ),
      executions.map Execution.test = files.flatMap (runnable flavor) ∧
      Threaded Execution.service (fun x => (x.outcome client).service) service executions
        (documents client flavor files service).service ∧
      Event.requests (documents client flavor files service).events
        = executions.flatMap (Execution.sent client) := by
  induction files generalizing service with
  | nil => exact ⟨[], rfl, rfl, rfl⟩
  | cons entry rest ih =>
    obtain ⟨file, loaded⟩ := entry
    obtain ⟨xs, hxtests, hxthread, hxsent⟩ :=
      exists_executions_document client flavor file loaded service
    obtain ⟨ys, hytests, hythread, hysent⟩ :=
      ih (document client flavor file loaded service).service
    refine ⟨xs ++ ys, ?_, hxthread.append hythread, ?_⟩
    · rw [List.map_append, hxtests, hytests, List.flatMap_cons]
    · rw [documents, Event.requests_append, hxsent, hysent, List.flatMap_append]

/-! ### Clients without a memory -/

/-- A test in a run does what it does alone, in any state of the service, and its actions meet
nothing but what earlier actions of the same test left. -/
structure Execution.Independent (client : Client σ) (x : Execution σ) : Prop where
  result_eq : ∀ alone, (x.outcome client).result = (x.test.execute client alone).result
  sent_eq : ∀ alone, x.sent client = Event.requests (x.test.execute client alone).events
  isolated : ∃ setup body teardown,
    Case.Isolated client x.test setup body teardown (x.outcome client)

section Memoryless

variable (hclient : client.Memoryless)

include hclient

theorem Execution.independent (x : Execution σ) : x.Independent client where
  result_eq alone := (Case.execute_of_memoryless hclient x.service alone x.test).1
  sent_eq alone := (Case.execute_of_memoryless hclient x.service alone x.test).2
  isolated := Case.exists_isolated client x.test x.service

theorem summary_cases_of_memoryless (file : String) (tests : List Case) (service service' : σ) :
    (cases client file tests service).summary = (cases client file tests service').summary := by
  induction tests generalizing service service' with
  | nil => rfl
  | cons test rest ih =>
    have htest := (Case.execute_of_memoryless hclient service service' test).1
    simp only [cases, case, htest]
    rw [ih]

/-- A document adds the same to the totals, whatever happened before. -/
theorem summary_document_of_memoryless (flavor : Flavor) (file : String)
    (loaded : Except Error Document) (service service' : σ) :
    (document client flavor file loaded service).summary
      = (document client flavor file loaded service').summary := by
  cases loaded with
  | error e => rfl
  | ok d =>
    cases ha : d.requires.allows flavor with
    | false => simp [document, ha]
    | true =>
      cases hc : d.cases file with
      | error fault => simp [document, ha, hc, broken]
      | ok tests =>
        simp only [document, ha, hc, if_true]
        exact summary_cases_of_memoryless hclient file tests service service'

/-- The totals of a run are the sums of what each document adds alone. -/
theorem summary_documents_of_memoryless (flavor : Flavor) (alone : σ)
    (files : List (String × Except Error Document)) (service : σ) :
    (documents client flavor files service).summary =
      { tests := (files.map fun f => (document client flavor f.1 f.2 alone).summary.tests).sum
        failures := files.flatMap fun f => (document client flavor f.1 f.2 alone).summary.failures
        skipped :=
          (files.map fun f => (document client flavor f.1 f.2 alone).summary.skipped).sum } := by
  induction files generalizing service with
  | nil => rfl
  | cons entry rest ih =>
    obtain ⟨file, loaded⟩ := entry
    rw [documents, ih, summary_document_of_memoryless hclient flavor file loaded service alone]
    rfl

end Memoryless

/-- **Independence of documents.** When the results of a client do not depend on its state, running
the same documents in another order, from any state of the service, gives the same totals and the
same failures up to their order. The tests of the documents are executed one after the other, and
each of them does what it does alone. -/
theorem documents_perm_of_memoryless (client : Client σ) (hclient : client.Memoryless)
    (flavor : Flavor) {files files' : List (String × Except Error Document)}
    (hperm : files.Perm files') (service service' : σ) :
    let run := documents client flavor files service
    let run' := documents client flavor files' service'
    run.summary.tests = run'.summary.tests ∧ run.summary.skipped = run'.summary.skipped ∧
      run.summary.failures.Perm run'.summary.failures ∧
      ∃ executions : List (Execution σ),
        executions.map Execution.test = files.flatMap (runnable flavor) ∧
        Threaded Execution.service (fun x => (x.outcome client).service) service executions
          run.service ∧
        Event.requests run.events = executions.flatMap (Execution.sent client) ∧
        ∀ x ∈ executions, x.Independent client := by
  intro run run'
  obtain ⟨executions, htests, hthread, hsent⟩ :=
    exists_executions_documents client flavor files service
  have hrun := summary_documents_of_memoryless hclient flavor service files service
  have hrun' := summary_documents_of_memoryless hclient flavor service files' service'
  refine ⟨?tests, ?skipped, ?failures, executions, htests, hthread, hsent,
    fun x _ => x.independent hclient⟩
  case tests => rw [hrun, hrun']; exact (hperm.map _).sum_eq
  case skipped => rw [hrun, hrun']; exact (hperm.map _).sum_eq
  case failures => rw [hrun, hrun']; exact hperm.flatMap_right _

/-- A service that never finds anything, with a document whose two tests both fail, one for others
and one that could not be loaded, in two orders. -/
theorem documents_perm_of_notFound :
    let client : Client Nat :=
      ⟨.stack, fun _ calls => ({ result := .error ⟨.notFound, "gone"⟩ }, calls + 1)⟩
    let steps : Json := .array [.object [("do", .string "ping")]]
    let a := ("a.yml", .ok ⟨⟨true, false⟩, [], [steps], [("one", steps), ("two", steps)]⟩)
    let b := ("b.yml", .ok ⟨⟨false, true⟩, [], [], [("three", steps)]⟩)
    let c := ("c.yml", .error .missingRequires)
    client.Memoryless ∧ [a, b, c].Perm [c, a, b] ∧
      (documents client .stack [a, b, c] 0).summary.tests = 2 ∧
      (documents client .stack [c, a, b] 7).summary.tests = 2 ∧
      (documents client .stack [a, b, c] 0).summary.failures.Perm
        (documents client .stack [c, a, b] 7).summary.failures ∧
      ∃ executions : List (Execution Nat), executions.map (·.test.title) = ["one", "two"] ∧
        ∀ x ∈ executions, x.Independent client := by
  intro client steps a b c
  have hclient : client.Memoryless := fun _ _ _ => rfl
  have hperm : ([a, b] ++ [c]).Perm ([c] ++ [a, b]) := List.perm_append_comm
  obtain ⟨htests, -, hfailures, executions, hmap, -, -, hindependent⟩ :=
    documents_perm_of_memoryless client hclient .stack hperm 0 7
  have htwo : (documents client .stack [a, b, c] 0).summary.tests = 2 := by decide +kernel
  have htitles : executions.map (·.test.title) = (executions.map Execution.test).map Case.title := by
    rw [List.map_map]
    rfl
  refine ⟨hclient, hperm, htwo, htests.symm.trans htwo, hfailures, executions, ?_, hindependent⟩
  rw [htitles, hmap]
  decide +kernel

end ApiReplay.Run
