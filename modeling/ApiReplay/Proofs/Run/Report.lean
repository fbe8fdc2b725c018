import ApiReplay.Proofs.Case.Report
import ApiReplay.Proofs.Run.Accounting
import Mathlib.Data.List.Forall2

/-!
# The report of a run

Whoever watches a run is told a block for every file, in order, and the totals at the end. The block
of a file for other flavors is that it was skipped, the block of a broken file is empty, and that of
any other file has the reports of its tests, in order. A test adds a failure to the totals exactly
when its report tells of one, and the first one it tells is the root of what it adds.

## Main definitions

* `Run.Execution.told`: what is told of a test.
* `Run.Turn.Reported`: what is told in the turn of a file, by the class of the file.
* `Run.Report`: what is told of a run.

## Main results

* `Run.Turn.Accounted.reported`: a turn that is accounted for has its report.
* `Run.report_run`: the report of a run.
-/

namespace ApiReplay.Run

open Files (Disk)

variable {σ : Type} {client : Client σ} {disk : Disk} {flavor : Flavor}

/-! ### Tests -/

/-- What is told of a test. -/
def Execution.told (client : Client σ) (x : Execution σ) : List Event :=
  Event.reported (x.outcome client).events

/-- The report of a test, and how it agrees with the failure that the test adds. -/
structure Execution.Reported (client : Client σ) (file : String) (x : Execution σ) : Prop where
  report : ∃ setup body teardown, Case.Report client x.test x.service setup body teardown
    (x.outcome client).result (x.told client)
  /-- A failure is added when one is told, and its root is the first that is told. -/
  failure_eq : (x.failure? client file).map (fun f => f.error.root)
    = (ApiReplay.failures (x.told client)).head?

theorem Execution.reported (client : Client σ) (file : String) (x : Execution σ) :
    x.Reported client file := by
  obtain ⟨setup, body, teardown, h⟩ := Case.exists_report client x.test x.service
  refine ⟨⟨setup, body, teardown, h⟩, ?_⟩
  have hroot : Error.root? (x.outcome client).result
      = (ApiReplay.failures (x.told client)).head? := h.root_eq
  rw [← hroot, failure?]
  cases (x.outcome client).result <;> rfl

theorem reported_failureEvents (file title : String) (result : Except Error Unit) :
    Event.reported (failureEvents file title result) = [] := by
  cases result <;> rfl

/-- Tests that are executed one after the other leave the service as the last of them does, and are
reported in their order. -/
theorem cases_of_threaded {tests : List Case} {executions : List (Execution σ)} {service last : σ}
    (file : String) (hall : executions.map Execution.test = tests)
    (hthread : Threaded Execution.service (fun x => (x.outcome client).service) service executions
      last) :
    (cases client file tests service).service = last ∧
      Event.reported (cases client file tests service).events
        = executions.flatMap (Execution.told client) := by
  induction executions generalizing tests service with
  | nil =>
    subst hall
    exact ⟨hthread, rfl⟩
  | cons x rest ih =>
    subst hall
    obtain ⟨rfl, hrest⟩ := hthread
    obtain ⟨hservice, htold⟩ := ih rfl hrest
    refine ⟨hservice, ?_⟩
    rw [List.flatMap_cons, ← htold]
    simp only [List.map_cons, cases, case, Event.reported_append, reported_failureEvents,
      List.append_nil]
    rfl

/-! ### Files -/

/-- What is told in the turn of a file, by the class of the file. -/
inductive Turn.Reported (client : Client σ) (disk : Disk) (flavor : Flavor) (turn : Turn σ) :
    List Event → Prop
  | broken {e} (h : IsBroken disk flavor turn.path e) : Reported client disk flavor turn []
  | skipped {d} (hload : Corpus.load disk turn.path = .ok d) (h : ¬ d.requires.allows flavor) :
      Reported client disk flavor turn
        [.documentSkipped (FilePath.identifier turn.path) d.requires flavor]
  | executed {tests} {executions : List (Execution σ)}
      (h : IsRunnable disk flavor turn.path tests) (hall : executions.map Execution.test = tests)
      (hthread : Threaded Execution.service (fun x => (x.outcome client).service) turn.before
        executions turn.after)
      (hfailures : turn.added.failures
        = executions.filterMap (Execution.failure? client (FilePath.identifier turn.path)))
      (hreported : ∀ x ∈ executions, x.Reported client (FilePath.identifier turn.path)) :
      Reported client disk flavor turn (executions.flatMap (Execution.told client))

/-- What running the file of a turn adds. -/
def Turn.block (client : Client σ) (disk : Disk) (flavor : Flavor) (turn : Turn σ) : Block σ :=
  document client flavor (FilePath.identifier turn.path) (Corpus.load disk turn.path) turn.before

theorem reported_map_stepIgnored (keywords : List String) :
    Event.reported (keywords.map Event.stepIgnored) = [] := by
  simp only [Event.reported, List.filter_eq_nil_iff, List.mem_map]
  rintro event ⟨keyword, -, rfl⟩
  simp [Event.isReported]

/-- A turn that is accounted for ends as running its file does, and is reported by its class. -/
theorem Turn.Accounted.reported {turn : Turn σ} (h : turn.Accounted client disk flavor) :
    (turn.block client disk flavor).service = turn.after ∧
      Turn.Reported client disk flavor turn
        (Event.reported (turn.block client disk flavor).events) := by
  cases h with
  | @broken path service e h =>
    have hblock : (document client flavor (FilePath.identifier path) (Corpus.load disk path)
          service).service = service ∧
        Event.reported (document client flavor (FilePath.identifier path) (Corpus.load disk path)
          service).events = [] := by
      rcases h with hload | ⟨d, fault, hload, hallows, hcases, -⟩
      · simp [document, hload, Run.broken, Event.reported, Event.isReported]
      · simp only [document, hload, hallows, hcases, Run.broken, if_true, Event.reported_append,
          reported_map_stepIgnored, true_and]
        rfl
    refine ⟨hblock.1, ?_⟩
    rw [block, hblock.2]
    exact .broken h
  | @skipped path service h =>
    obtain ⟨d, hload, hallows⟩ := h
    simp only [block, document, hload, if_neg hallows, true_and]
    exact .skipped hload hallows
  | @executed path before after tests executions h hall hthread =>
    obtain ⟨hservice, htold⟩ := cases_of_threaded (FilePath.identifier path) hall hthread
    obtain ⟨d, hload, hallows, hcases⟩ := h
    simp only [block, document, hload, hallows, hcases, if_true, Event.reported_append,
      reported_map_stepIgnored, List.nil_append, htold]
    exact ⟨hservice, .executed ⟨d, hload, hallows, hcases⟩ hall hthread rfl
      fun x _ => x.reported client _⟩

/-- Turns that are accounted for are reported in their order. -/
theorem reported_documents {turns : List (Turn σ)} {service last : σ}
    (hthread : Threaded Turn.before Turn.after service turns last)
    (haccounted : ∀ turn ∈ turns, turn.Accounted client disk flavor) :
    Event.reported (documents client flavor ((turns.map Turn.path).map fun path =>
        (FilePath.identifier path, Corpus.load disk path)) service).events
      = turns.flatMap fun turn => Event.reported (turn.block client disk flavor).events := by
  induction turns generalizing service with
  | nil => rfl
  | cons turn rest ih =>
    obtain ⟨rfl, hrest⟩ := hthread
    obtain ⟨hturn, haccounted⟩ := List.forall_mem_cons.mp haccounted
    rw [← hturn.reported.1] at hrest
    rw [List.flatMap_cons, ← ih hrest haccounted]
    simp only [List.map_cons, documents, Event.reported_append]
    rfl

/-! ### Runs -/

/-- What is told of a run: a block for every file, in order, and the totals at the end. -/
structure Report (client : Client σ) (disk : Disk) (flavor : Flavor) (paths : List String)
    (service : σ) (turns : List (Turn σ)) (blocks : List (List Event)) (block : Block σ) :
    Prop where
  turns_eq : turns.map Turn.path = paths
  threaded : Threaded Turn.before Turn.after service turns block.service
  accounted : ∀ turn ∈ turns, turn.Accounted client disk flavor
  failures_eq : block.summary.failures = turns.flatMap fun turn => turn.added.failures
  reported : List.Forall₂ (Turn.Reported client disk flavor) turns blocks
  events_eq : Event.reported block.events = blocks.flatten ++ [.runFinished block.summary]

theorem reported_exclusions (c : Corpus) (disk : Disk) (entries : List String) :
    Event.reported (c.exclusions disk entries) = [] := by
  unfold Corpus.exclusions
  split
  · simp only [Event.reported, List.filter_eq_nil_iff, List.mem_map]
    rintro event ⟨path, -, rfl⟩
    simp [Event.isReported]
  · rfl

/-- **Report of a run.** A run fails when there is no corpus. Any other run is told as a block for
every selected file, in order, and the totals; what is told of a test agrees with the failure that
it adds to them. -/
theorem report_run (c : Corpus) (disk : Disk) (client : Client σ) (flavor : Flavor)
    (entries : List String) (service : σ) (elapsed : Nat) :
    match c.run disk client flavor entries service elapsed with
    | .error e => disk.isDirectory c.root = false ∧ e = .noCorpus c.root
    | .ok block => ∃ paths turns blocks, c.select disk entries = .ok paths ∧
        Report client disk flavor paths service turns blocks block := by
  cases hroot : disk.isDirectory c.root with
  | false => simp [Corpus.run, Corpus.select, Selection.files, hroot, Except.map]
  | true =>
    obtain ⟨paths, hselect⟩ := Corpus.exists_select hroot entries
    obtain ⟨turns, h⟩ := exists_account_documents client disk flavor paths service
    have htold := reported_documents h.threaded h.accounted
    rw [h.turns_eq] at htold
    rw [Corpus.run_of_select hselect]
    refine ⟨paths, turns,
      turns.map fun turn => Event.reported (turn.block client disk flavor).events, hselect, ?_⟩
    exact {
      turns_eq := h.turns_eq
      threaded := h.threaded
      accounted := h.accounted
      failures_eq := h.failures_eq
      reported := by
        rw [List.forall₂_map_right_iff, List.forall₂_same]
        exact fun turn hturn => (h.accounted turn hturn).reported.2
      events_eq := by
        rw [Event.reported_append, Event.reported_append, Event.reported_append, htold,
          reported_exclusions]
        simp [Event.reported, Event.isReported, List.flatMap] }

end ApiReplay.Run
