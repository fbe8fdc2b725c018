import ApiReplay.Run.Corpus
import Mathlib.Algebra.GroupWithZero.Nat

/-!
# The account of a run

A run of a corpus gives every selected file its turn, in order, and ends with totals. The files
fall into three classes. A file that cannot be loaded, or that is meant for the flavor and has a
malformed step, adds one failure without a test and sends nothing. A file for other flavors is
skipped and sends nothing, whatever its steps are like. Every test of any other file is executed,
whatever became of the tests before it, and adds a failure exactly when its result is an error. The
totals are the sums of what the turns add.

## Main definitions

* `Run.IsBroken`, `Run.IsForOthers`, `Run.IsRunnable`: the classes of files.
* `Run.Execution`, `Run.Turn`: a test that is executed, and the turn of a file.
* `Run.Turn.Accounted`: what the turn of a file adds, by the class of the file.
* `Run.Account`: the account of a whole run.

## Main results

* `Run.hasOneClass`: every file is in exactly one class.
* `Run.exists_account`: a run of a corpus always has an account.
-/

namespace ApiReplay.Run

open Files (Disk)

variable {σ : Type}

/-! ### Following states -/

/-- Parts that follow each other: each starts in the state that the one before it left. -/
def Threaded {α : Type} (start finish : α → σ) : σ → List α → σ → Prop
  | first, [], last => first = last
  | first, a :: rest, last => start a = first ∧ Threaded start finish (finish a) rest last

theorem Threaded.append {α : Type} {start finish : α → σ} {first between last : σ} {xs ys : List α}
    (hx : Threaded start finish first xs between) (hy : Threaded start finish between ys last) :
    Threaded start finish first (xs ++ ys) last := by
  induction xs generalizing first with
  | nil =>
    obtain rfl := hx
    exact hy
  | cons a rest ih => exact ⟨hx.1, ih hx.2⟩

/-! ### Classes of files -/

/-- The file cannot be used: it cannot be read or parsed, or it is meant for the flavor and has a
malformed step. -/
def IsBroken (disk : Disk) (flavor : Flavor) (path : String) (e : Error) : Prop :=
  Corpus.load disk path = .error e ∨
    ∃ d fault, Corpus.load disk path = .ok d ∧ d.requires.allows flavor ∧
      d.cases (FilePath.identifier path) = .error fault ∧ e = .malformed fault

/-- The file can be parsed and is not meant for the flavor. -/
def IsForOthers (disk : Disk) (flavor : Flavor) (path : String) : Prop :=
  ∃ d, Corpus.load disk path = .ok d ∧ ¬ d.requires.allows flavor

/-- The file is meant for the flavor and states tests. -/
def IsRunnable (disk : Disk) (flavor : Flavor) (path : String) (tests : List Case) : Prop :=
  ∃ d, Corpus.load disk path = .ok d ∧ d.requires.allows flavor ∧
    d.cases (FilePath.identifier path) = .ok tests

/-- The file is in exactly one of the classes. -/
def HasOneClass (disk : Disk) (flavor : Flavor) (path : String) : Prop :=
  (∃ e, IsBroken disk flavor path e) ∧ ¬ IsForOthers disk flavor path ∧
      ¬ (∃ tests, IsRunnable disk flavor path tests) ∨
    ¬ (∃ e, IsBroken disk flavor path e) ∧ IsForOthers disk flavor path ∧
      ¬ (∃ tests, IsRunnable disk flavor path tests) ∨
    ¬ (∃ e, IsBroken disk flavor path e) ∧ ¬ IsForOthers disk flavor path ∧
      ∃ tests, IsRunnable disk flavor path tests

theorem hasOneClass (disk : Disk) (flavor : Flavor) (path : String) :
    HasOneClass disk flavor path := by
  unfold HasOneClass IsBroken IsForOthers IsRunnable
  cases hl : Corpus.load disk path with
  | error e => simp
  | ok d =>
    cases ha : d.requires.allows flavor with
    | false => simp [ha]
    | true => cases hc : d.cases (FilePath.identifier path) <;> simp [ha, hc]

/-! ### Turns -/

/-- A test that is executed, with the service that it meets. -/
structure Execution (σ : Type) where
  test : Case
  service : σ

namespace Execution

/-- What the test leaves behind. -/
def outcome (client : Client σ) (x : Execution σ) : CaseOutcome σ :=
  x.test.execute client x.service

/-- The failure that the test adds when its result is an error. -/
def failure? (client : Client σ) (file : String) (x : Execution σ) : Option Failure :=
  match (x.outcome client).result with
  | .ok () => none
  | .error e => some ⟨file, some x.test.title, e⟩

/-- The requests that the test sends. -/
def sent (client : Client σ) (x : Execution σ) : List Request :=
  Event.requests (x.outcome client).events

end Execution

/-- The turn of a file: the service before and after it, what it adds to the totals, and what it
sends. -/
structure Turn (σ : Type) where
  path : String
  before : σ
  after : σ
  added : Summary
  sent : List Request

/-- What the turn of a file adds and sends, by the class of the file. -/
inductive Turn.Accounted (client : Client σ) (disk : Disk) (flavor : Flavor) : Turn σ → Prop
  | broken {path service e} (h : IsBroken disk flavor path e) :
      Accounted client disk flavor
        ⟨path, service, service, { failures := [⟨FilePath.identifier path, none, e⟩] }, []⟩
  | skipped {path service} (h : IsForOthers disk flavor path) :
      Accounted client disk flavor ⟨path, service, service, { skipped := 1 }, []⟩
  | executed {path before after tests} {executions : List (Execution σ)}
      (h : IsRunnable disk flavor path tests) (hall : executions.map Execution.test = tests)
      (hthread : Threaded Execution.service (fun x => (x.outcome client).service) before executions
        after) :
      Accounted client disk flavor
        ⟨path, before, after,
          { tests := (tests.map Case.callCount).sum
            failures :=
              executions.filterMap (Execution.failure? client (FilePath.identifier path)) },
          executions.flatMap (Execution.sent client)⟩

/-- The account of a run: every file has its turn, and the totals are sums. -/
structure Account (client : Client σ) (disk : Disk) (flavor : Flavor) (paths : List String)
    (service : σ) (turns : List (Turn σ)) (block : Block σ) : Prop where
  turns_eq : turns.map Turn.path = paths
  threaded : Threaded Turn.before Turn.after service turns block.service
  accounted : ∀ turn ∈ turns, turn.Accounted client disk flavor
  tests_eq : block.summary.tests = (turns.map fun turn => turn.added.tests).sum
  skipped_eq : block.summary.skipped = (turns.map fun turn => turn.added.skipped).sum
  failures_eq : block.summary.failures = turns.flatMap fun turn => turn.added.failures
  requests_eq : Event.requests block.events = turns.flatMap Turn.sent

/-! ### Tests -/

theorem requests_failureEvents (file title : String) (result : Except Error Unit) :
    Event.requests (failureEvents file title result) = [] := by
  cases result <;> rfl

/-- Every test of a list is executed, and adds its failure. -/
theorem exists_executions (client : Client σ) (file : String) (tests : List Case) (service : σ) :
    ∃ executions : List (Execution σ), executions.map Execution.test = tests ∧
      Threaded Execution.service (fun x => (x.outcome client).service) service executions
        (cases client file tests service).service ∧
      (cases client file tests service).summary
        = { tests := (tests.map Case.callCount).sum
            failures := executions.filterMap (Execution.failure? client file) } ∧
      Event.requests (cases client file tests service).events
        = executions.flatMap (Execution.sent client) := by
  induction tests generalizing service with
  | nil => exact ⟨[], rfl, rfl, rfl, rfl⟩
  | cons test rest ih =>
    obtain ⟨executions, htests, hthread, hsummary, hsent⟩ :=
      ih (test.execute client service).service
    let x : Execution σ := ⟨test, service⟩
    have hfailures : failures file test.title (test.execute client service).result
        = (x.failure? client file).toList := by
      simp only [Execution.failure?, Execution.outcome, x]
      cases (test.execute client service).result <;> rfl
    refine ⟨x :: executions, ?_, ⟨rfl, hthread⟩, ?_, ?_⟩
    · rw [List.map_cons, htests]
    · simp only [cases, case, hsummary, Summary.append, hfailures]
      cases hx : x.failure? client file <;> simp [hx]
    · simp only [cases, case, Event.requests_append, hsent, requests_failureEvents,
        List.append_nil, List.flatMap_cons]
      rfl

/-! ### Files -/

theorem requests_map_stepIgnored (keywords : List String) :
    Event.requests (keywords.map Event.stepIgnored) = [] := by
  induction keywords with
  | nil => rfl
  | cons keyword rest ih =>
    rw [List.map_cons, Event.requests_cons, ih]
    rfl

/-- The turn of a file is accounted for. -/
theorem accounted_document (client : Client σ) (disk : Disk) (flavor : Flavor) (path : String)
    (service : σ) :
    let block := document client flavor (FilePath.identifier path) (Corpus.load disk path) service
    Turn.Accounted client disk flavor
      ⟨path, service, block.service, block.summary, Event.requests block.events⟩ := by
  cases hl : Corpus.load disk path with
  | error e => exact .broken (.inl hl)
  | ok d =>
    cases ha : d.requires.allows flavor with
    | false =>
      simp only [document, ha]
      exact .skipped ⟨d, hl, by simp [ha]⟩
    | true =>
      cases hc : d.cases (FilePath.identifier path) with
      | error fault =>
        simp only [document, ha, hc, broken, if_true, Event.requests_append,
          requests_map_stepIgnored, List.nil_append]
        exact .broken (.inr ⟨d, fault, hl, ha, hc, rfl⟩)
      | ok tests =>
        obtain ⟨executions, htests, hthread, hsummary, hsent⟩ :=
          exists_executions client (FilePath.identifier path) tests service
        simp only [document, ha, hc, if_true, Event.requests_append, requests_map_stepIgnored,
          List.nil_append, hsummary, hsent]
        exact .executed ⟨d, hl, ha, hc⟩ htests hthread

/-- Every document has its turn, in the state that the turns before it left. -/
theorem exists_account_documents (client : Client σ) (disk : Disk) (flavor : Flavor)
    (paths : List String) (service : σ) :
    ∃ turns, Account client disk flavor paths service turns
      (documents client flavor
        (paths.map fun path => (FilePath.identifier path, Corpus.load disk path)) service) := by
  induction paths generalizing service with
  | nil => exact ⟨[], rfl, rfl, by simp, rfl, rfl, rfl, rfl⟩
  | cons path rest ih =>
    -- The first turn is fixed by name, so that the totals below split off what it adds.
    let block := document client flavor (FilePath.identifier path) (Corpus.load disk path) service
    let first : Turn σ :=
      ⟨path, service, block.service, block.summary, Event.requests block.events⟩
    have hfirst : first.Accounted client disk flavor :=
      accounted_document client disk flavor path service
    obtain ⟨turns, h⟩ := ih block.service
    refine ⟨first :: turns, ?_, ⟨rfl, h.threaded⟩, ?_, ?_, ?_, ?_, ?_⟩
    · rw [List.map_cons, h.turns_eq]
    · intro turn hturn
      rcases List.mem_cons.mp hturn with rfl | hturn
      · exact hfirst
      · exact h.accounted turn hturn
    · simp only [List.map_cons, documents, Summary.append, List.sum_cons, ← h.tests_eq]
      rfl
    · simp only [List.map_cons, documents, Summary.append, List.sum_cons, ← h.skipped_eq]
      rfl
    · simp only [List.map_cons, documents, Summary.append, List.flatMap_cons, ← h.failures_eq]
      rfl
    · simp only [List.map_cons, documents, Event.requests_append, List.flatMap_cons,
        ← h.requests_eq]
      rfl

/-! ### Corpora -/

theorem requests_exclusions (c : Corpus) (disk : Disk) (entries : List String) :
    Event.requests (c.exclusions disk entries) = [] := by
  unfold Corpus.exclusions
  split
  · simp only [Event.requests, List.filterMap_map, List.filterMap_eq_nil_iff]
    exact fun _ _ => rfl
  · rfl

/-- A run of selected files has an account. -/
theorem exists_account_of_select {c : Corpus} {disk : Disk} {entries paths : List String}
    (hselect : c.select disk entries = .ok paths) (client : Client σ) (flavor : Flavor)
    (service : σ) (elapsed : Nat) :
    ∃ block turns, c.run disk client flavor entries service elapsed = .ok block ∧
      Account client disk flavor paths service turns block := by
  obtain ⟨turns, h⟩ := exists_account_documents client disk flavor paths service
  refine ⟨_, turns, Corpus.run_of_select hselect client flavor service elapsed, ?_⟩
  exact {
    turns_eq := h.turns_eq
    threaded := h.threaded
    accounted := h.accounted
    tests_eq := h.tests_eq
    skipped_eq := h.skipped_eq
    failures_eq := h.failures_eq
    requests_eq := by simp [requests_exclusions, h.requests_eq, Event.request?] }

/-- **Account of a run.** A run below a directory always ends with a summary, every selected file
is in one class and has its turn, and the totals are the sums of what the turns add. -/
theorem exists_account (c : Corpus) (disk : Disk) (client : Client σ) (flavor : Flavor)
    (entries : List String) (service : σ) (elapsed : Nat)
    (hroot : disk.isDirectory c.root = true) :
    ∃ paths block turns, c.select disk entries = .ok paths ∧
      c.run disk client flavor entries service elapsed = .ok block ∧
      Account client disk flavor paths service turns block ∧
      ∀ path, HasOneClass disk flavor path := by
  obtain ⟨paths, hselect⟩ := Corpus.exists_select hroot entries
  obtain ⟨block, turns, hrun, haccount⟩ :=
    exists_account_of_select hselect client flavor service elapsed
  exact ⟨paths, block, turns, hselect, hrun, haccount, hasOneClass disk flavor⟩

/-- A corpus with a file that is no document, one for others, and one that states a test. -/
theorem exists_account_of_mixed :
    let disk : Disk := { entries := [(["corpus"], .directory),
      (["corpus", "a.yml"], .file "- 1".toUTF8.toList),
      (["corpus", "b.yml"], .file "requires: {serverless: true}".toUTF8.toList),
      (["corpus", "c.yml"], .file "requires: {stack: true}\nt: [{do: ping}]".toUTF8.toList)] }
    let client : Client Nat := ⟨.stack, fun _ calls => ({ result := .ok (.bool true) }, calls + 1)⟩
    disk.isDirectory "corpus" = true ∧
      ∃ paths block turns, Corpus.select ⟨"corpus", []⟩ disk [] = .ok paths ∧
        Corpus.run ⟨"corpus", []⟩ disk client .stack [] 0 = .ok block ∧
        Account client disk .stack paths 0 turns block ∧
        ∀ path, HasOneClass disk .stack path := by
  intro disk client
  have hroot : disk.isDirectory "corpus" = true := by decide
  exact ⟨hroot, exists_account ⟨"corpus", []⟩ disk client .stack [] 0 0 hroot⟩

end ApiReplay.Run
