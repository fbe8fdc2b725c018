import ApiReplay.Proofs.Run.Accounting
import ApiReplay.Report.Console
import Mathlib.Algebra.Order.BigOperators.Group.List
import Mathlib.Algebra.Order.Group.Nat

/-!
# The totals of a run

The tests of a summary are the calls in the bodies of executed tests, and its failures are tests and
whole documents. So there may be more failures than tests: a broken document is a failure without a
test, and so is a test that fails and has no call in its body. What passed is then nothing, and what
passed and what failed are more than the tests. Where no document is broken and every test that
fails has a call in its body, there are as many tests as passed and failed.

## Main definitions

* `Summary.AddsUp`: what passed and what failed are the tests.
* `Run.Turn.Counted`: the failures in the turn of a file are among its tests.
* `Run.Totals`: the totals of a run and the lines that show them.

## Main results

* `Summary.addsUp_iff`: when totals add up.
* `Run.Turn.Accounted.length_failures_le`, `Run.Account.length_failures_le`: the failures of a turn,
  and of a run, where failures are among the tests.
* `Run.totals_of_run`: every run that ends with a summary.
-/

namespace ApiReplay

/-! ### Summaries -/

namespace Summary

/-- What passed and what failed are the tests. -/
def AddsUp (s : Summary) : Prop :=
  s.passed + s.failures.length = s.tests

theorem passed_add_length (s : Summary) :
    s.passed + s.failures.length = max s.tests s.failures.length := by
  rw [passed]
  omega

/-- Totals add up as long as there are no more failures than tests. -/
theorem addsUp_iff {s : Summary} : s.AddsUp ↔ s.failures.length ≤ s.tests := by
  rw [AddsUp, passed_add_length]
  omega

end Summary

namespace Run

open Files (Disk)
open ApiReplay.Report (Console elapsedText totalsText)

variable {σ : Type} {client : Client σ} {disk : Disk} {flavor : Flavor}

/-! ### Turns -/

/-- The failures in the turn of a file are among its tests: the file can be used, and of the tests
that are executed those that fail have a call in their bodies. -/
structure Turn.Counted (client : Client σ) (disk : Disk) (flavor : Flavor) (turn : Turn σ) :
    Prop where
  usable : ∀ e, ¬ IsBroken disk flavor turn.path e
  called : ∀ executions : List (Execution σ),
    IsRunnable disk flavor turn.path (executions.map Execution.test) →
    Threaded Execution.service (fun x => (x.outcome client).service) turn.before executions
      turn.after →
    ∀ x ∈ executions, ∀ e, (x.outcome client).result = .error e → 0 < x.test.callCount

/-- Tests that have a call where they fail are no fewer than their failures. -/
theorem length_failures_le {executions : List (Execution σ)} (file : String)
    (h : ∀ x ∈ executions, ∀ e, (x.outcome client).result = .error e → 0 < x.test.callCount) :
    (executions.filterMap (Execution.failure? client file)).length
      ≤ ((executions.map Execution.test).map Case.callCount).sum := by
  induction executions with
  | nil => exact Nat.le_refl 0
  | cons x rest ih =>
    obtain ⟨hx, hrest⟩ := List.forall_mem_cons.mp h
    rw [List.map_cons, List.map_cons, List.sum_cons, List.filterMap_cons, Execution.failure?]
    have hmore := ih hrest
    cases hresult : (x.outcome client).result with
    | ok _ => exact Nat.le_add_left_of_le hmore
    | error e =>
      have hcall := hx e hresult
      rw [List.length_cons]
      omega

theorem Turn.Accounted.length_failures_le {turn : Turn σ} (h : turn.Accounted client disk flavor)
    (hcounted : turn.Counted client disk flavor) :
    turn.added.failures.length ≤ turn.added.tests := by
  cases h with
  | @broken path service e h => exact absurd h (hcounted.usable e)
  | skipped h => exact Nat.le_refl 0
  | @executed path before after tests executions h hall hthread =>
    subst hall
    exact Run.length_failures_le _ (hcounted.called executions h hthread)

/-! ### Runs -/

/-- Where the failures of every turn are among its tests, a run has no more failures than tests. -/
theorem Account.length_failures_le {paths : List String} {service : σ} {turns : List (Turn σ)}
    {block : Block σ} (h : Account client disk flavor paths service turns block)
    (hcounted : ∀ turn ∈ turns, turn.Counted client disk flavor) :
    block.summary.failures.length ≤ block.summary.tests := by
  rw [h.failures_eq, h.tests_eq, List.length_flatMap]
  exact List.sum_le_sum fun turn hturn =>
    (h.accounted turn hturn).length_failures_le (hcounted turn hturn)

/-- The totals of a run that takes some seconds, and the lines that show them. -/
structure Totals (client : Client σ) (disk : Disk) (flavor : Flavor) (elapsed : Nat)
    (turns : List (Turn σ)) (block : Block σ) : Prop where
  /-- What passed and what failed are the tests, or the failures where these are more. -/
  passed_eq : block.summary.passed + block.summary.failures.length
    = max block.summary.tests block.summary.failures.length
  addsUp_iff : block.summary.AddsUp ↔ block.summary.failures.length ≤ block.summary.tests
  addsUp : (∀ turn ∈ turns, turn.Counted client disk flavor) → block.summary.AddsUp
  /-- The last things that a console shows are the line of these totals and the time. -/
  shown : ∀ console : Console, ∃ before, console.text block.events
    = before ++ console.paint (.strong (if block.summary.success then .green else .red))
        (totalsText block.summary) ++ "\n" ++ "Elapsed time: " ++ elapsedText elapsed ++ "\n"

/-- The totals are the last thing that is shown. -/
theorem exists_text_runFinished (console : Console) (events : List Event) (summary : Summary) :
    ∃ before, console.text (events ++ [.runFinished summary])
      = before ++ console.paint (.strong (if summary.success then .green else .red))
          (totalsText summary) ++ "\n" ++ "Elapsed time: " ++ elapsedText summary.elapsed
        ++ "\n" := by
  let heading := (if console.quiet then "\n" else "") ++ console.failures summary.failures ++ "\n"
    ++ console.paint (.strong .cyan) "[SUMMARY]" ++ "\n"
  have hsummary : console.event (.runFinished summary)
      = heading ++ console.paint (.strong (if summary.success then .green else .red))
          (totalsText summary) ++ "\n" ++ "Elapsed time: " ++ elapsedText summary.elapsed
        ++ "\n" := rfl
  refine ⟨console.text events ++ heading, ?_⟩
  rw [Console.text, List.map_append, String.join_append, List.map_singleton, String.join_cons,
    String.join_nil, String.append_empty, hsummary]
  simp only [Console.text, String.append_assoc]

/-- **Totals of a run.** Whatever a run ends with, what passed is what is left of the tests when the
failures are taken from them, down to nothing. So what passed and what failed are the tests or,
where they are more, the failures, and totals add up exactly when there are no more failures than
tests. That is so if no selected file is broken and every test that fails has a call in its body. A
console shows these totals last, and how long the run took. -/
theorem totals_of_run (c : Corpus) (disk : Disk) (client : Client σ) (flavor : Flavor)
    (entries : List String) (service : σ) (elapsed : Nat) (block : Block σ)
    (hrun : c.run disk client flavor entries service elapsed = .ok block) :
    ∃ paths turns, c.select disk entries = .ok paths ∧
      Account client disk flavor paths service turns block ∧
      Totals client disk flavor elapsed turns block := by
  obtain ⟨paths, hselect⟩ : ∃ paths, c.select disk entries = .ok paths := by
    cases hselect : c.select disk entries with
    | ok paths => exact ⟨paths, rfl⟩
    | error e =>
      rw [Corpus.run, hselect] at hrun
      cases hrun
  obtain ⟨block', turns, hrun', haccount⟩ := exists_account_of_select hselect client flavor service
    elapsed
  obtain rfl := Except.ok.inj (hrun.symm.trans hrun')
  refine ⟨paths, turns, hselect, haccount, ?_⟩
  constructor
  case passed_eq => exact block.summary.passed_add_length
  case addsUp_iff => exact Summary.addsUp_iff
  case addsUp =>
    exact fun hcounted => Summary.addsUp_iff.mpr (haccount.length_failures_le hcounted)
  case shown =>
    intro console
    rw [Corpus.run_of_select hselect] at hrun
    obtain rfl := Except.ok.inj hrun
    exact exists_text_runFinished console _ _

/-- A run with known totals. -/
theorem exists_block_of_totals {c : Corpus} {entries : List String} {service : σ} {elapsed : Nat}
    {totals : Nat × Nat × Nat}
    (h : (c.run disk client flavor entries service elapsed).toOption.map (fun block =>
      (block.summary.tests, block.summary.passed, block.summary.failures.length)) = some totals) :
    ∃ block, c.run disk client flavor entries service elapsed = .ok block ∧
      block.summary.tests = totals.1 ∧ block.summary.passed = totals.2.1 ∧
      block.summary.failures.length = totals.2.2 := by
  cases hrun : c.run disk client flavor entries service elapsed with
  | error e =>
    rw [hrun] at h
    cases h
  | ok block =>
    rw [hrun] at h
    obtain rfl := Option.some.inj h
    exact ⟨block, rfl, rfl, rfl, rfl⟩

/-- A test that fails in the only call of its body, after more than an hour. -/
theorem totals_of_run_of_notFound :
    let disk : Disk := { entries := [(["corpus"], .directory),
      (["corpus", "a.yml"], .file "requires: {stack: true}\nt: [{do: {ping: {}}}]".toUTF8.toList)] }
    let client : Client Nat :=
      ⟨.stack, fun _ calls => ({ result := .error ⟨.notFound, "gone"⟩ }, calls + 1)⟩
    ∃ block turns, Corpus.run ⟨"corpus", []⟩ disk client .stack [] 0 3723 = .ok block ∧
      Totals client disk .stack 3723 turns block ∧
      (∀ turn ∈ turns, turn.Counted client disk .stack) ∧
      block.summary.AddsUp ∧ block.summary.failures.length = 1 ∧
      ∃ before, Console.text {} block.events
        = before ++ "Tests: 1 | Passed: 0 | Failed: 1" ++ "\nElapsed time: 01:02:03\n" := by
  intro disk client
  obtain ⟨block, hrun, htests, hpassed, hfailures⟩ :=
    @exists_block_of_totals _ client disk .stack ⟨"corpus", []⟩ [] 0 3723 (1, 0, 1)
      (by decide +kernel)
  obtain ⟨paths, turns, hselect, haccount, htotals⟩ :=
    totals_of_run ⟨"corpus", []⟩ disk client .stack [] 0 3723 block hrun
  have hpaths : (Corpus.select ⟨"corpus", []⟩ disk []).toOption = some ["corpus/a.yml"] := by
    decide +kernel
  have hcounts : (Corpus.load disk "corpus/a.yml").toOption.bind (fun d =>
      (d.cases (FilePath.identifier "corpus/a.yml")).toOption.map (List.map Case.callCount))
        = some [1] := by
    decide +kernel
  -- the only file can be used, and its only test has a call, whatever becomes of it
  have hcounted : ∀ turn ∈ turns, turn.Counted client disk .stack := by
    intro turn hturn
    have hpath : turn.path = "corpus/a.yml" := by
      rw [hselect] at hpaths
      have hmem := List.mem_map_of_mem (f := Turn.path) hturn
      rwa [haccount.turns_eq, Option.some.inj hpaths, List.mem_singleton] at hmem
    constructor
    case usable =>
      rw [hpath]
      rintro e (hload | ⟨d, fault, hload, -, hcases, -⟩)
      · rw [hload] at hcounts
        cases hcounts
      · rw [hload, Except.toOption, Option.bind_some, hcases] at hcounts
        cases hcounts
    case called =>
      rw [hpath]
      rintro executions ⟨d, hload, -, hcases⟩ - x hx - -
      rw [hload, Except.toOption, Option.bind_some, hcases] at hcounts
      have htest := List.mem_map_of_mem (f := Execution.test) hx
      have hmem := List.mem_map_of_mem (f := Case.callCount) htest
      rw [Option.some.inj hcounts, List.mem_singleton] at hmem
      rw [hmem]
      decide
  refine ⟨block, turns, hrun, htotals, hcounted, htotals.addsUp hcounted, hfailures, ?_⟩
  obtain ⟨before, hshown⟩ := htotals.shown {}
  have htime : elapsedText 3723 = "01:02:03" := by decide +kernel
  have hline : totalsText block.summary = "Tests: 1 | Passed: 0 | Failed: 1" := by
    rw [totalsText, htests, hpassed, hfailures]
    decide +kernel
  refine ⟨before, ?_⟩
  rw [hshown, hline, htime]
  simp only [Console.paint, String.append_assoc]
  rfl

/-- A document that is broken is a failure without a test. -/
theorem totals_not_addsUp :
    let disk : Disk := { entries := [(["corpus"], .directory),
      (["corpus", "a.yml"], .file "- 1".toUTF8.toList)] }
    let client : Client Nat := ⟨.stack, fun _ calls => ({ result := .ok (.bool true) }, calls + 1)⟩
    ∃ block, Corpus.run ⟨"corpus", []⟩ disk client .stack [] 0 = .ok block ∧
      block.summary.tests = 0 ∧ block.summary.passed = 0 ∧ block.summary.failures.length = 1 ∧
      ¬ block.summary.AddsUp := by
  intro disk client
  obtain ⟨block, hrun, htests, hpassed, hfailures⟩ :=
    @exists_block_of_totals _ client disk .stack ⟨"corpus", []⟩ [] 0 0 (0, 0, 1)
      (by decide +kernel)
  refine ⟨block, hrun, htests, hpassed, hfailures, fun h => ?_⟩
  rw [Summary.addsUp_iff, htests, hfailures] at h
  exact absurd h (by decide)

end Run

end ApiReplay
