import ApiReplay.Proofs.Run.Accounting
import ApiReplay.Proofs.Run.Selection

/-!
# Entries that name nothing

An entry of a selection names something when it leads to a file or a directory, below the root or
from the working directory. An entry that names nothing is taken for a file that cannot be read, and
so for a failure of the run, when its path has the extension of test documents and no pattern leaves
it out. Any other such entry is taken for a directory without test files, or left out: it goes
unnoticed, and a run of nothing else succeeds without a test.

An entry may be written in several ways. The first of the candidates that are the same path counts,
since that is the one which is selected.

## Main definitions

* `Run.NamesNothing`: the entries that name nothing.
* `Run.Tells`: the failures that tell of a path that cannot be read.
* `Run.IsNoticed`: the paths that are found to be unreadable.

## Main results

* `Run.Account.mem_failures_iff`: the unreadable files of a run.
* `Run.mistyped_told_iff`: which entries that name nothing make a run fail.
-/

namespace ApiReplay.Run

open Files (Disk)
open FilePath (IsTestPath IsTidy)
open Selection (Matches candidates filesOf isSame locate)

variable {σ : Type} {disk : Disk} {c : Corpus} {root entry path file : String}
  {entries paths : List String} {fault : Files.Fault}

/-! ### Entries -/

/-- An entry leads to no file and no directory, neither below the root nor from the working
directory. For an absolute one that is the same. -/
structure NamesNothing (disk : Disk) (root entry : String) : Prop where
  below : disk.contains (FilePath.join root entry) = false
  plain : disk.contains entry = false

instance (disk : Disk) (root entry : String) : Decidable (NamesNothing disk root entry) :=
  decidable_of_iff (disk.contains (FilePath.join root entry) = false ∧ disk.contains entry = false)
    ⟨fun h => ⟨h.1, h.2⟩, fun h => ⟨h.below, h.plain⟩⟩

theorem NamesNothing.contains_locate (h : NamesNothing disk root entry) :
    disk.contains (locate disk root entry) = false := by
  unfold locate
  split
  · exact h.plain
  · dsimp only
    split
    · exact h.below
    · exact h.plain

theorem contains_eq_false_iff : disk.contains path = false ↔
    ∃ fault, disk.entry path = .error fault := by
  unfold Disk.contains
  cases disk.entry path with
  | error fault => exact iff_of_true rfl ⟨fault, rfl⟩
  | ok found => exact iff_of_false Bool.noConfusion (by rintro ⟨_, ⟨⟩⟩)

/-- Nothing can be read where a path leads to nothing. -/
theorem exists_text_eq_error (h : disk.contains path = false) :
    ∃ fault, disk.text path = .error fault := by
  obtain ⟨fault, hentry⟩ := contains_eq_false_iff.mp h
  exact ⟨fault, by rw [Disk.text, hentry]⟩

/-- A path that leads to nothing is that of a directory without files. -/
theorem testFiles_eq_nil (h : disk.contains path = false) (depth : Option Nat) :
    Selection.testFiles disk depth path = [] := by
  obtain ⟨fault, hentry⟩ := contains_eq_false_iff.mp h
  rw [Selection.testFiles, Disk.filesBelow, hentry]
  rfl

/-- An entry that names nothing stands for its path, or for no files at all. -/
theorem NamesNothing.filesOf_eq (h : NamesNothing disk root entry) :
    filesOf disk root entry
      = if FilePath.isYaml (locate disk root entry) then [locate disk root entry] else [] := by
  rw [filesOf, testFiles_eq_nil h.contains_locate]

/-! ### Unreadable files -/

/-- What is wrong with the text of a document is never that it cannot be read. -/
theorem parse_ne_unreadable (text : String) :
    Document.parse text ≠ .error (.unreadable path fault) := by
  unfold Document.parse Document.ofYaml
  split
  · nofun
  · split
    · unfold Document.Draft.finish
      split <;> nofun
    · nofun

theorem load_eq_unreadable_iff : Corpus.load disk file = .error (.unreadable path fault) ↔
    path = file ∧ disk.text file = .error fault := by
  unfold Corpus.load
  cases htext : disk.text file with
  | ok text => exact iff_of_false (parse_ne_unreadable text) nofun
  | error cause =>
    rw [Except.error.injEq, Except.error.injEq, Error.unreadable.injEq, eq_comm (a := file)]

/-- In the turn of a file it is said that a path cannot be read exactly when that is the file. -/
theorem Turn.Accounted.mem_failures_iff {client : Client σ} {flavor : Flavor} {turn : Turn σ}
    (h : turn.Accounted client disk flavor) :
    (⟨file, none, .unreadable path fault⟩ : Failure) ∈ turn.added.failures ↔
      path = turn.path ∧ disk.text turn.path = .error fault ∧
        file = FilePath.identifier turn.path := by
  rw [← and_assoc, ← load_eq_unreadable_iff]
  cases h with
  | @broken own _ e hbroken =>
    rw [List.mem_singleton, Failure.mk.injEq, eq_self, true_and, and_comm]
    refine and_congr_left fun _ => ?_
    rcases hbroken with hload | ⟨d, malformation, hload, -, -, rfl⟩
    · rw [hload, Except.error.injEq, eq_comm]
    · rw [hload]
      exact iff_of_false nofun nofun
  | skipped hothers =>
    obtain ⟨d, hload, -⟩ := hothers
    rw [hload]
    exact iff_of_false List.not_mem_nil fun h => nomatch h.1
  | executed hrunnable =>
    obtain ⟨d, hload, -⟩ := hrunnable
    rw [hload]
    refine iff_of_false (fun hfailure => ?_) fun h => nomatch h.1
    obtain ⟨x, -, hx⟩ := List.mem_filterMap.mp hfailure
    unfold Execution.failure? at hx
    split at hx
    · cases hx
    · cases hx

/-- The files of a run that cannot be read are the failures that say so. -/
theorem Account.mem_failures_iff {client : Client σ} {flavor : Flavor} {service : σ}
    {turns : List (Turn σ)} {block : Block σ}
    (h : Account client disk flavor paths service turns block) :
    (⟨file, none, .unreadable path fault⟩ : Failure) ∈ block.summary.failures ↔
      path ∈ paths ∧ disk.text path = .error fault ∧ file = FilePath.identifier path := by
  rw [h.failures_eq, List.mem_flatMap, ← h.turns_eq]
  constructor
  · rintro ⟨turn, hturn, hfailure⟩
    obtain ⟨rfl, htext, hfile⟩ := (h.accounted turn hturn).mem_failures_iff.mp hfailure
    exact ⟨List.mem_map_of_mem hturn, htext, hfile⟩
  · rintro ⟨hpath, htext, hfile⟩
    obtain ⟨turn, hturn, rfl⟩ := List.mem_map.mp hpath
    exact ⟨turn, hturn, (h.accounted turn hturn).mem_failures_iff.mpr ⟨rfl, htext, hfile⟩⟩

/-! ### Noticing -/

/-- A failure tells that a path cannot be read, which may be written in another way. -/
def Tells (path : String) (failure : Failure) : Prop :=
  ∃ written fault, isSame path written ∧
    failure = ⟨FilePath.identifier written, none, .unreadable written fault⟩

/-- A path is found to be unreadable: among the candidates the first that is the same path is
matched by no pattern, and there is no text to read. -/
def IsNoticed (disk : Disk) (c : Corpus) (entries : List String) (path : String) : Prop :=
  ∃ written fault, (candidates disk c.root entries).find? (isSame path) = some written ∧
    (∀ pattern ∈ c.excluded, ¬ Matches pattern written) ∧ disk.text written = .error fault

/-- A path that is noticed has the extension of test documents. -/
theorem IsNoticed.isTestPath (h : IsNoticed disk c entries path) : IsTestPath path := by
  obtain ⟨written, _, hfind, -⟩ := h
  have hyaml := Selection.isYaml_of_mem_candidates (List.mem_of_find?_eq_some hfind)
  have hsame := Selection.isSame_iff.mp (List.find?_some hfind)
  rw [← FilePath.isYaml_iff]
  rwa [FilePath.isYaml, FilePath.fileName?, ← hsame] at hyaml

/-- Among tidy paths an entry that names nothing is noticed when its path has the extension of test
documents and no pattern matches it. -/
theorem isNoticed_iff_of_isTidy (hdisk : disk.WellListed) (hroot : IsTidy c.root)
    (hentries : ∀ entry ∈ entries, IsTidy entry) (hentry : entry ∈ entries)
    (h : NamesNothing disk c.root entry) :
    IsNoticed disk c entries (locate disk c.root entry) ↔
      IsTestPath (locate disk c.root entry) ∧
        ∀ pattern ∈ c.excluded, ¬ Matches pattern (locate disk c.root entry) := by
  have htidy := Selection.isTidy_of_mem_candidates hdisk hroot hentries
  have hown (htest : IsTestPath (locate disk c.root entry)) :
      (candidates disk c.root entries).find? (isSame (locate disk c.root entry))
        = some (locate disk c.root entry) := by
    rw [Selection.find?_isSame_iff htidy, Selection.mem_candidates_iff hdisk]
    exact .named hentry htest
  constructor
  · intro hnoticed
    have htest := hnoticed.isTestPath
    obtain ⟨written, _, hfind, hpatterns, -⟩ := hnoticed
    obtain rfl := Option.some.inj ((hown htest).symm.trans hfind)
    exact ⟨htest, hpatterns⟩
  · rintro ⟨htest, hpatterns⟩
    obtain ⟨fault, htext⟩ := exists_text_eq_error h.contains_locate
    exact ⟨_, fault, hown htest, hpatterns, htext⟩

/-- Where no entry names anything or is noticed, nothing is selected. -/
theorem select_eq_nil (hroot : disk.isDirectory c.root) (hne : entries ≠ [])
    (h : ∀ entry ∈ entries, NamesNothing disk c.root entry ∧
      ¬ IsNoticed disk c entries (locate disk c.root entry)) :
    c.select disk entries = .ok [] := by
  obtain ⟨paths, hselect, -, hmem⟩ := Selection.exists_mem_select_iff hroot entries
  suffices hnone : paths = [] by rw [hselect, hnone]
  refine List.eq_nil_iff_forall_not_mem.mpr fun path hpath => ?_
  obtain ⟨hfind, hpatterns⟩ := (hmem path).mp hpath
  obtain ⟨entry, hentry, hfile⟩ :=
    (Selection.mem_candidates_of_ne_nil hne).mp (List.mem_of_find?_eq_some hfind)
  obtain ⟨hnothing, hunnoticed⟩ := h entry hentry
  rw [hnothing.filesOf_eq] at hfile
  split at hfile
  · rw [List.mem_singleton] at hfile
    rw [← hfile] at hunnoticed
    obtain ⟨fault, htext⟩ := exists_text_eq_error (hfile ▸ hnothing.contains_locate)
    exact hunnoticed ⟨path, fault, hfind, hpatterns, htext⟩
  · cases hfile

/-- A run tells of the unreadable paths that are noticed. -/
theorem exists_told_iff (client : Client σ) (flavor : Flavor) (service : σ) (elapsed : Nat)
    (hroot : disk.isDirectory c.root) (entries : List String) :
    ∃ block, c.run disk client flavor entries service elapsed = .ok block ∧
      (c.select disk entries = .ok [] → block.summary = { elapsed }) ∧
      ∀ path, (∃ failure ∈ block.summary.failures, Tells path failure) ↔
        IsNoticed disk c entries path := by
  obtain ⟨paths, hselect, -, hmem⟩ := Selection.exists_mem_select_iff hroot entries
  obtain ⟨turns, haccount⟩ := exists_account_documents client disk flavor paths service
  refine ⟨_, Corpus.run_of_select hselect client flavor service elapsed, fun hnone => ?_,
    fun path => ?_⟩
  · rw [hselect] at hnone
    obtain rfl := Except.ok.inj hnone
    rfl
  constructor
  · rintro ⟨_, hfailure, written, fault, hsame, rfl⟩
    obtain ⟨hwritten, htext, -⟩ := haccount.mem_failures_iff.mp hfailure
    obtain ⟨hfind, hpatterns⟩ := (hmem written).mp hwritten
    rw [← Selection.isSame_congr hsame] at hfind
    exact ⟨written, fault, hfind, hpatterns, htext⟩
  · rintro ⟨written, fault, hfind, hpatterns, htext⟩
    have hsame := List.find?_some hfind
    rw [Selection.isSame_congr hsame] at hfind
    exact ⟨_, haccount.mem_failures_iff.mpr ⟨(hmem written).mpr ⟨hfind, hpatterns⟩, htext, rfl⟩,
      written, fault, hsame, rfl⟩

/-- **Entries that name nothing.** Of an entry that names nothing a run tells exactly when it is
noticed, which it never is without the extension of test documents. A run that succeeds has only
entries that name something, if those that do not would be noticed; and a run of entries that name
nothing and are not noticed adds nothing to the totals but time, so that it succeeds. -/
theorem mistyped_told_iff (client : Client σ) (flavor : Flavor) (service : σ) (elapsed : Nat)
    (hroot : disk.isDirectory c.root) :
    ∃ block, c.run disk client flavor entries service elapsed = .ok block ∧
      (∀ entry ∈ entries, NamesNothing disk c.root entry →
        ((∃ failure ∈ block.summary.failures, Tells (locate disk c.root entry) failure) ↔
            IsNoticed disk c entries (locate disk c.root entry)) ∧
          (¬ IsTestPath (locate disk c.root entry) →
            ¬ IsNoticed disk c entries (locate disk c.root entry))) ∧
      ((∀ entry ∈ entries, NamesNothing disk c.root entry →
          IsNoticed disk c entries (locate disk c.root entry)) →
        block.summary.success → ∀ entry ∈ entries, ¬ NamesNothing disk c.root entry) ∧
      (entries ≠ [] → (∀ entry ∈ entries, NamesNothing disk c.root entry ∧
          ¬ IsNoticed disk c entries (locate disk c.root entry)) →
        block.summary = { elapsed }) := by
  obtain ⟨block, hrun, hnone, htold⟩ := exists_told_iff client flavor service elapsed hroot entries
  refine ⟨block, hrun, fun entry hentry hnothing => ⟨htold _, mt IsNoticed.isTestPath⟩,
    fun hnoticed hsuccess entry hentry hnothing => ?_,
    fun hne hunnoticed => hnone (select_eq_nil hroot hne hunnoticed)⟩
  obtain ⟨failure, hfailure, -⟩ := (htold _).mpr (hnoticed entry hentry hnothing)
  rw [Summary.success, List.isEmpty_iff] at hsuccess
  rw [hsuccess] at hfailure
  cases hfailure

/-- A file that is not there, next to one that is. -/
theorem mistyped_told_of_gone :
    let disk : Disk := { entries := [(["corpus"], .directory), (["corpus", "docs"], .directory),
      (["corpus", "docs", "10.yml"], .file [])] }
    let c : Corpus := ⟨"corpus", []⟩
    let client : Client Nat := ⟨.stack, fun _ calls => ({ result := .ok (.bool true) }, calls + 1)⟩
    let entries := ["docs/10.yml", "docs/01.yml"]
    disk.isDirectory c.root ∧ NamesNothing disk c.root "docs/01.yml" ∧
      IsNoticed disk c entries (locate disk c.root "docs/01.yml") ∧
      ∃ block, c.run disk client .stack entries 0 = .ok block ∧
        (∀ entry ∈ entries, NamesNothing disk c.root entry →
          ((∃ failure ∈ block.summary.failures, Tells (locate disk c.root entry) failure) ↔
              IsNoticed disk c entries (locate disk c.root entry)) ∧
            (¬ IsTestPath (locate disk c.root entry) →
              ¬ IsNoticed disk c entries (locate disk c.root entry))) ∧
        ((∀ entry ∈ entries, NamesNothing disk c.root entry →
            IsNoticed disk c entries (locate disk c.root entry)) →
          block.summary.success → ∀ entry ∈ entries, ¬ NamesNothing disk c.root entry) ∧
        (entries ≠ [] → (∀ entry ∈ entries, NamesNothing disk c.root entry ∧
            ¬ IsNoticed disk c entries (locate disk c.root entry)) →
          block.summary = {}) := by
  intro disk c client entries
  have hroot : disk.isDirectory c.root := by decide
  have hnothing : NamesNothing disk c.root "docs/01.yml" := by decide
  have hdisk : disk.WellListed := ⟨by decide, by decide, by decide⟩
  have htidy : ∀ entry ∈ entries, IsTidy entry := by decide
  have htest : IsTestPath (locate disk c.root "docs/01.yml") := by
    rw [← FilePath.isYaml_iff]
    decide
  have hnoticed : IsNoticed disk c entries (locate disk c.root "docs/01.yml") :=
    (isNoticed_iff_of_isTidy hdisk (by decide) htidy (by decide) hnothing).mpr ⟨htest, by simp [c]⟩
  exact ⟨hroot, hnothing, hnoticed, mistyped_told_iff client .stack 0 0 hroot⟩

/-- A run of a directory that is not there succeeds. -/
theorem exists_success_of_mistyped :
    let disk : Disk := { entries := [(["corpus"], .directory), (["corpus", "docs"], .directory),
      (["corpus", "docs", "10.yml"], .file [])] }
    let c : Corpus := ⟨"corpus", []⟩
    let client : Client Nat := ⟨.stack, fun _ calls => ({ result := .ok (.bool true) }, calls + 1)⟩
    disk.isDirectory c.root ∧ disk.contains (FilePath.join c.root "dosc") = false ∧
      disk.contains "dosc" = false ∧
      ∃ block, c.run disk client .stack ["dosc"] 0 = .ok block ∧
        block.summary.success ∧ block.summary.tests = 0 := by
  intro disk c client
  have hroot : disk.isDirectory c.root := by decide
  have hnothing : NamesNothing disk c.root "dosc" := by decide
  have hother : ¬ IsTestPath (locate disk c.root "dosc") := by
    rw [← FilePath.isYaml_iff]
    decide
  obtain ⟨block, hrun, hnone, -⟩ := exists_told_iff client .stack 0 0 hroot ["dosc"]
  have hselect : c.select disk ["dosc"] = .ok [] :=
    select_eq_nil hroot (List.cons_ne_nil _ _)
      (List.forall_mem_singleton.mpr ⟨hnothing, fun h => hother h.isTestPath⟩)
  refine ⟨hroot, hnothing.below, hnothing.plain, block, hrun, ?_, ?_⟩
  · rw [hnone hselect]
    rfl
  · rw [hnone hselect]

end ApiReplay.Run
