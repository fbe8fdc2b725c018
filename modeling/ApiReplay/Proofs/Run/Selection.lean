import ApiReplay.Proofs.Files.Listing
import ApiReplay.Proofs.Files.PathOrder
import ApiReplay.Run.Corpus
import Mathlib.Data.List.Sort

/-!
# The files that a selection names

A selection of a corpus gives its test files in the order of paths, every path once. They are the
candidates that no pattern matches. Without entries the candidates are the test files at any depth
below the root; an entry names the located path itself when that is the path of a test document,
whether or not there is such a file, and otherwise the test files directly inside.

Only the members of the list of entries matter, and of the list of patterns: neither their order nor
how often they are given changes the selection. More patterns leave fewer files.

## Main definitions

* `Selection.IsCandidate`: the files that entries name.
* `Selection.Matches`: the patterns that match a path.

## Main results

* `Selection.pairwise_ordered`, `Selection.mem_ordered_iff_find?`: ordering a list of paths.
* `Selection.mem_candidates_iff`: the list of candidates.
* `Selection.exists_pairwise_select`: the selected files.
-/

namespace ApiReplay.Selection

open Files (Disk)
open FilePath (Precedes IsTidy IsTestPath)

variable {disk : Disk} {root entry path pattern : String} {entries patterns paths : List String}

/-! ### Paths in order -/

/-- Whether a path is the same as another one, which may be written in another way. -/
def isSame (path other : String) : Bool :=
  FilePath.components path = FilePath.components other

theorem isSame_iff {other : String} : isSame path other ↔
    FilePath.components path = FilePath.components other :=
  decide_eq_true_iff

theorem isSame_self (path : String) : isSame path path :=
  isSame_iff.mpr rfl

theorem isSame_congr {same : String} (h : isSame path same) : isSame path = isSame same := by
  funext other
  simp only [isSame, isSame_iff.mp h]

/-- A list without two neighbours. -/
theorem eq_nil_or_singleton (h : ∀ a b rest, paths = a :: b :: rest → False) :
    paths = [] ∨ ∃ a, paths = [a] := by
  cases paths with
  | nil => exact .inl rfl
  | cons a rest =>
    cases rest with
    | nil => exact .inr ⟨a, rfl⟩
    | cons b rest => exact (h a b rest rfl).elim

theorem dropRepeated_sublist (paths : List String) : (dropRepeated paths).Sublist paths := by
  fun_induction dropRepeated paths with
  | case1 a b rest h ih => exact ih.trans ((List.sublist_cons_self b rest).cons_cons a)
  | case2 a b rest h ih => exact ih.cons_cons a
  | case3 paths => exact List.Sublist.refl paths

/-- In order, a path that is not the same as the next one comes before all that follow. -/
theorem precedes_of_mem {a b : String} {rest : List String} (hne : FilePath.compare a b ≠ .eq)
    (h : (a :: b :: rest).Pairwise fun a b => ¬ Precedes b a) (hpath : path ∈ b :: rest) :
    Precedes a path := by
  obtain ⟨hfirst, hmore⟩ := List.pairwise_cons.mp h
  have hab : Precedes a b := by
    by_contra hab
    exact hne (FilePath.compare_eq_eq_iff.mpr
      (FilePath.components_eq_of_not_precedes hab (hfirst b List.mem_cons_self)))
  rcases List.mem_cons.mp hpath with rfl | hrest
  · exact hab
  · by_contra hnot
    exact FilePath.not_precedes_trans ((List.pairwise_cons.mp hmore).1 path hrest) hnot hab

/-- Among paths in order those that are the same stand side by side, so that none is left twice. -/
theorem pairwise_dropRepeated (h : paths.Pairwise fun a b => ¬ Precedes b a) :
    (dropRepeated paths).Pairwise Precedes := by
  fun_induction dropRepeated paths with
  | case1 a b rest heq ih => exact ih (h.sublist ((List.sublist_cons_self b rest).cons_cons a))
  | case2 a b rest hne ih =>
    refine List.pairwise_cons.mpr ⟨fun path hpath => ?_, ih (List.pairwise_cons.mp h).2⟩
    exact precedes_of_mem hne h ((dropRepeated_sublist _).subset hpath)
  | case3 paths hshort =>
    rcases eq_nil_or_singleton hshort with rfl | ⟨a, rfl⟩
    · exact .nil
    · exact List.pairwise_singleton Precedes a

/-- Of those that are the same, the first one is left. -/
theorem mem_dropRepeated_iff (h : paths.Pairwise fun a b => ¬ Precedes b a) :
    path ∈ dropRepeated paths ↔ paths.find? (isSame path) = some path := by
  fun_induction dropRepeated paths with
  | case1 a b rest heq ih =>
    have hsame : isSame path a = isSame path b := by
      simp only [isSame, FilePath.compare_eq_eq_iff.mp heq]
    rw [ih (h.sublist ((List.sublist_cons_self b rest).cons_cons a))]
    by_cases ha : isSame path a
    · rw [List.find?_cons_of_pos ha, List.find?_cons_of_pos ha]
    · rw [List.find?_cons_of_neg ha, List.find?_cons_of_neg ha, List.find?_cons_of_neg (hsame ▸ ha)]
  | case2 a b rest hne ih =>
    rw [List.mem_cons, ih (List.pairwise_cons.mp h).2]
    by_cases ha : isSame path a
    · have hbehind : (b :: rest).find? (isSame path) ≠ some path := fun hfind => by
        have hfirst := precedes_of_mem hne h (List.mem_of_find?_eq_some hfind)
        rw [Precedes, isSame_iff.mp ha] at hfirst
        exact Std.Asymm.asymm _ _ hfirst hfirst
      rw [List.find?_cons_of_pos ha, or_iff_left hbehind, Option.some.injEq, eq_comm]
    · rw [List.find?_cons_of_neg ha, or_iff_right]
      rintro rfl
      exact ha (isSame_self path)
  | case3 paths hshort =>
    rcases eq_nil_or_singleton hshort with rfl | ⟨a, rfl⟩
    · rw [List.find?_nil]
      exact iff_of_false List.not_mem_nil (Option.some_ne_none path).symm
    · rw [List.mem_singleton, List.find?_singleton]
      split
      · rw [Option.some.injEq, eq_comm]
      · rename_i ha
        refine iff_of_false ?_ (Option.some_ne_none path).symm
        rintro rfl
        exact ha (isSame_self path)

/-- Sorting keeps the order of values of which none has to come first. -/
theorem find?_mergeSort {α : Type} {le : α → α → Bool} (htrans : ∀ a b c, le a b → le b c → le a c)
    (htotal : ∀ a b, le a b || le b a) {p : α → Bool} (h : ∀ a b, p a → p b → le a b)
    (values : List α) : (values.mergeSort le).find? p = values.find? p := by
  have hkept : (values.filter p).Pairwise (le · ·) :=
    List.pairwise_of_forall_mem_list fun a ha b hb =>
      h a b (List.of_mem_filter ha) (List.of_mem_filter hb)
  have hsub : (values.filter p).Sublist ((values.mergeSort le).filter p) := by
    have hboth := (List.sublist_mergeSort htrans htotal hkept List.filter_sublist).filter p
    simpa only [List.filter_filter, Bool.and_self] using hboth
  have hlength := ((List.mergeSort_perm values le).filter p).length_eq
  rw [← List.head?_filter, ← hsub.eq_of_length hlength.symm, List.head?_filter]

/-- Whether a path may stand in front of another one. -/
def inOrder (a b : String) : Bool :=
  FilePath.compare a b ≠ .gt

theorem inOrder_iff {a b : String} : inOrder a b ↔ ¬ Precedes b a := by
  rw [inOrder, decide_eq_true_iff, ne_eq, FilePath.compare_eq_gt_iff]

theorem inOrder_trans (a b c : String) (hab : inOrder a b) (hbc : inOrder b c) : inOrder a c := by
  rw [inOrder_iff] at *
  exact FilePath.not_precedes_trans hab hbc

theorem inOrder_total (a b : String) : inOrder a b || inOrder b a := by
  rw [Bool.or_eq_true, inOrder_iff, inOrder_iff, ← not_and_or]
  exact fun h => Std.Asymm.asymm a b h.2 h.1

theorem pairwise_mergeSort_inOrder (paths : List String) :
    (paths.mergeSort inOrder).Pairwise fun a b => ¬ Precedes b a :=
  (List.pairwise_mergeSort inOrder_trans inOrder_total paths).imp inOrder_iff.mp

/-- Paths are put in order. -/
theorem pairwise_ordered (paths : List String) : (ordered paths).Pairwise Precedes :=
  pairwise_dropRepeated (pairwise_mergeSort_inOrder paths)

/-- Of the paths of a list that are the same, the first one is left. -/
theorem mem_ordered_iff_find? :
    path ∈ ordered paths ↔ paths.find? (isSame path) = some path := by
  have hsame (a b : String) (ha : isSame path a) (hb : isSame path b) : inOrder a b := by
    rw [inOrder_iff, Precedes, ← isSame_iff.mp ha, ← isSame_iff.mp hb]
    exact fun h => Std.Asymm.asymm _ _ h h
  rw [← find?_mergeSort inOrder_trans inOrder_total hsame,
    ← mem_dropRepeated_iff (pairwise_mergeSort_inOrder paths)]
  rfl

/-- Where paths are told from their components, each is the only one that is the same. -/
theorem find?_isSame_iff (h : ∀ path ∈ paths, IsTidy path) :
    paths.find? (isSame path) = some path ↔ path ∈ paths := by
  constructor
  · exact List.mem_of_find?_eq_some
  · intro hpath
    obtain ⟨first, hfirst⟩ := Option.isSome_iff_exists.mp
      (List.find?_isSome.mpr ⟨path, hpath, isSame_self path⟩)
    have hsame := isSame_iff.mp (List.find?_some hfirst)
    have hmem := List.mem_of_find?_eq_some hfirst
    rw [hfirst, (h path hpath).eq_of_components_eq (h first hmem) hsame]

/-- Of lists in order, one whose members are all in the other is a part of it. -/
theorem sublist_of_subset {few many : List String} (hfew : few.Pairwise Precedes)
    (hmany : many.Pairwise Precedes) (h : few ⊆ many) : few.Sublist many :=
  List.sublist_of_subperm_of_pairwise (List.subperm_of_subset hfew.nodup h) hfew hmany

/-! ### Candidates -/

/-- The files that a selection names. -/
inductive IsCandidate (disk : Disk) (root : String) (entries : List String) : String → Prop
  /-- Without entries, the test files below the root. -/
  | below {names : List String} {contents : List UInt8} (hall : entries = [])
      (hfile : disk.below? root names = some (.file contents))
      (htest : IsTestPath (names.foldl FilePath.join root)) :
      IsCandidate disk root entries (names.foldl FilePath.join root)
  /-- A located path with the extension of test documents, also where there is no file. -/
  | named {entry : String} (hentry : entry ∈ entries)
      (htest : IsTestPath (locate disk root entry)) :
      IsCandidate disk root entries (locate disk root entry)
  /-- The test files directly inside any other located path. -/
  | inside {entry name : String} {contents : List UInt8} (hentry : entry ∈ entries)
      (hother : ¬ IsTestPath (locate disk root entry))
      (hfile : disk.below? (locate disk root entry) [name] = some (.file contents))
      (htest : IsTestPath (FilePath.join (locate disk root entry) name)) :
      IsCandidate disk root entries (FilePath.join (locate disk root entry) name)

theorem isTidy_locate (hroot : IsTidy root) (hentry : IsTidy entry) :
    IsTidy (locate disk root entry) := by
  unfold locate
  split
  · exact hentry
  · dsimp only
    split
    · exact hroot.join hentry
    · exact hentry

theorem mem_testFiles_iff (hdisk : disk.WellListed) {depth : Option Nat} :
    path ∈ testFiles disk depth root ↔ ∃ names contents,
      disk.below? root names = some (.file contents) ∧ depth.all (names.length ≤ ·) ∧
        path = names.foldl FilePath.join root ∧ IsTestPath path := by
  rw [testFiles, List.mem_filter, hdisk.mem_filesBelow_iff, FilePath.isYaml_iff]
  simp only [← exists_and_right, and_assoc]

theorem mem_candidates_of_ne_nil (h : entries ≠ []) :
    path ∈ candidates disk root entries ↔ ∃ entry ∈ entries, path ∈ filesOf disk root entry := by
  rw [candidates, if_neg (by simpa using h), List.mem_flatMap]

/-- All candidates have the extension of test documents. -/
theorem isYaml_of_mem_candidates (h : path ∈ candidates disk root entries) :
    FilePath.isYaml path := by
  by_cases hall : entries = []
  · rw [candidates, hall, if_pos List.isEmpty_nil] at h
    exact List.of_mem_filter h
  · obtain ⟨entry, -, hfile⟩ := (mem_candidates_of_ne_nil hall).mp h
    unfold filesOf at hfile
    dsimp only at hfile
    split at hfile
    · rwa [List.mem_singleton.mp hfile]
    · exact List.of_mem_filter hfile

/-- An entry names its own path or the test files directly inside. -/
theorem mem_filesOf_iff (hdisk : disk.WellListed) : path ∈ filesOf disk root entry ↔
    (IsTestPath (locate disk root entry) ∧ path = locate disk root entry) ∨
      (¬ IsTestPath (locate disk root entry) ∧ ∃ name contents,
        disk.below? (locate disk root entry) [name] = some (.file contents) ∧
          path = FilePath.join (locate disk root entry) name ∧ IsTestPath path) := by
  unfold filesOf
  dsimp only
  split
  · rename_i htest
    rw [FilePath.isYaml_iff] at htest
    rw [List.mem_singleton, and_iff_right htest, or_iff_left fun h => h.1 htest]
  · rename_i hother
    rw [FilePath.isYaml_iff] at hother
    rw [mem_testFiles_iff hdisk, and_iff_right hother, or_iff_right fun h => hother h.1]
    constructor
    · rintro ⟨names, contents, hfile, hdepth, hpath, htest⟩
      match names, hdepth with
      | [], _ =>
        rw [hpath] at htest
        exact absurd htest hother
      | [name], _ => exact ⟨name, contents, hfile, hpath, htest⟩
    · rintro ⟨name, contents, hfile, hpath, htest⟩
      exact ⟨[name], contents, hfile, rfl, hpath, htest⟩

/-- The candidates are listed. -/
theorem mem_candidates_iff (hdisk : disk.WellListed) :
    path ∈ candidates disk root entries ↔ IsCandidate disk root entries path := by
  by_cases hall : entries = []
  · rw [candidates, hall, if_pos List.isEmpty_nil, mem_testFiles_iff hdisk]
    constructor
    · rintro ⟨names, contents, hfile, -, rfl, htest⟩
      exact .below rfl hfile htest
    · intro h
      cases h with
      | below _ hfile htest => exact ⟨_, _, hfile, rfl, rfl, htest⟩
      | named hentry => cases hentry
      | inside hentry => cases hentry
  · simp only [mem_candidates_of_ne_nil hall, mem_filesOf_iff hdisk]
    constructor
    · rintro ⟨entry, hentry, ⟨htest, rfl⟩ | ⟨hother, name, contents, hfile, rfl, htest⟩⟩
      · exact .named hentry htest
      · exact .inside hentry hother hfile htest
    · intro h
      cases h with
      | below hnone => exact absurd hnone hall
      | named hentry htest => exact ⟨_, hentry, .inl ⟨htest, rfl⟩⟩
      | inside hentry hother hfile htest =>
        exact ⟨_, hentry, .inr ⟨hother, _, _, hfile, rfl, htest⟩⟩

/-- Tidy entries name files with tidy paths. -/
theorem isTidy_of_mem_candidates (hdisk : disk.WellListed) (hroot : IsTidy root)
    (hentries : ∀ entry ∈ entries, IsTidy entry) :
    ∀ path ∈ candidates disk root entries, IsTidy path := by
  intro path hpath
  cases (mem_candidates_iff hdisk).mp hpath with
  | below _ hfile => exact hdisk.isTidy_of_below? hroot hfile
  | named hentry => exact isTidy_locate hroot (hentries _ hentry)
  | inside hentry _ hfile =>
    exact hdisk.isTidy_of_below? (isTidy_locate hroot (hentries _ hentry)) hfile

/-- Only the members of the list of entries matter. -/
theorem IsCandidate.congr {others : List String} (h : IsCandidate disk root entries path)
    (hmem : ∀ entry, entry ∈ others ↔ entry ∈ entries) : IsCandidate disk root others path := by
  cases h with
  | below hall hfile htest =>
    refine .below (List.eq_nil_iff_forall_not_mem.mpr fun entry hentry => ?_) hfile htest
    rw [hmem, hall] at hentry
    cases hentry
  | named hentry htest => exact .named ((hmem _).mpr hentry) htest
  | inside hentry hother hfile htest => exact .inside ((hmem _).mpr hentry) hother hfile htest

/-! ### Patterns -/

/-- The patterns that match a path. -/
inductive Matches (pattern path : String) : Prop
  /-- A pattern is searched for in the path. -/
  | expression {compiled : Pattern} (h : Pattern.compile? false pattern = some compiled)
      (hin : compiled.isIn path)
  /-- A malformed pattern stands for its text. -/
  | text (h : Pattern.compile? false pattern = none) (hin : pattern.toList <:+: path.toList)

theorem isMatch_iff : isMatch pattern path ↔ Matches pattern path := by
  unfold isMatch
  split
  · rename_i compiled hcompiled
    refine ⟨.expression hcompiled, fun h => ?_⟩
    cases h with
    | expression h hin =>
      rw [hcompiled] at h
      exact (Option.some.inj h) ▸ hin
    | text h =>
      rw [hcompiled] at h
      cases h
  · rename_i hnone
    refine ⟨fun hin => .text hnone (Text.occursIn_iff.mp hin), fun h => ?_⟩
    cases h with
    | expression h =>
      rw [hnone] at h
      cases h
    | text _ hin => exact Text.occursIn_iff.mpr hin

theorem isExcluded_iff : isExcluded patterns path ↔ ∃ pattern ∈ patterns, Matches pattern path := by
  simp only [isExcluded, List.any_eq_true, isMatch_iff]

/-! ### Selections -/

/-- Of the candidates that are the same path the first one is selected, unless patterns leave it
out. -/
theorem exists_mem_select_iff {c : Corpus} (hroot : disk.isDirectory c.root)
    (entries : List String) :
    ∃ paths, c.select disk entries = .ok paths ∧ paths.Pairwise Precedes ∧
      ∀ path, path ∈ paths ↔
        (candidates disk c.root entries).find? (isSame path) = some path ∧
          ∀ pattern ∈ c.excluded, ¬ Matches pattern path := by
  refine ⟨_, by rw [Corpus.select, files, if_pos hroot]; rfl, (pairwise_ordered _).filter _,
    fun path => ?_⟩
  rw [List.mem_filter, mem_ordered_iff_find?, Bool.not_eq_true', ← Bool.not_eq_true,
    isExcluded_iff]
  simp only [not_exists, not_and]

/-- A file is selected by entries and not left out by patterns. -/
def IsSelected (disk : Disk) (c : Corpus) (entries : List String) (path : String) : Prop :=
  IsCandidate disk c.root entries path ∧ ∀ pattern ∈ c.excluded, ¬ Matches pattern path

/-- A selection is the list of the selected files, in order. -/
theorem exists_select {c : Corpus} (hdisk : disk.WellListed) (hroot : disk.isDirectory c.root)
    (htidy : IsTidy c.root) (hentries : ∀ entry ∈ entries, IsTidy entry) :
    ∃ paths, c.select disk entries = .ok paths ∧ paths.Pairwise Precedes ∧
      ∀ path, path ∈ paths ↔ IsSelected disk c entries path := by
  obtain ⟨paths, hselect, horder, hmem⟩ := exists_mem_select_iff hroot entries
  refine ⟨paths, hselect, horder, fun path => ?_⟩
  rw [hmem, find?_isSame_iff (isTidy_of_mem_candidates hdisk htidy hentries),
    mem_candidates_iff hdisk]
  rfl

/-- Only the members of the lists of entries and patterns matter. -/
theorem IsSelected.congr {c : Corpus} {others excluded : List String}
    (h : IsSelected disk c entries path) (hentries : ∀ entry, entry ∈ others ↔ entry ∈ entries)
    (hexcluded : excluded ⊆ c.excluded) : IsSelected disk { c with excluded } others path :=
  ⟨h.1.congr hentries, fun pattern hpattern => h.2 pattern (hexcluded hpattern)⟩

/-- **The selected files.** On a disk in good order, below a directory, and with tidy paths, a
selection is the list of the candidates that no pattern matches, each before those that come behind
it in the order of paths. Entries and patterns may be given in any order and more than once, and
with more patterns some of the files are left. -/
theorem exists_pairwise_select {c : Corpus} (hdisk : disk.WellListed)
    (hroot : disk.isDirectory c.root) (htidy : IsTidy c.root)
    (hentries : ∀ entry ∈ entries, IsTidy entry) :
    ∃ paths, c.select disk entries = .ok paths ∧ paths.Pairwise Precedes ∧ paths.Nodup ∧
      (∀ path, path ∈ paths ↔ IsSelected disk c entries path) ∧
      (∀ others excluded, (∀ entry, entry ∈ others ↔ entry ∈ entries) →
        (∀ pattern, pattern ∈ excluded ↔ pattern ∈ c.excluded) →
        { c with excluded }.select disk others = .ok paths) ∧
      ∀ excluded, c.excluded ⊆ excluded →
        ∃ fewer, { c with excluded }.select disk entries = .ok fewer ∧ fewer.Sublist paths := by
  obtain ⟨paths, hselect, horder, hmem⟩ := exists_select hdisk hroot htidy hentries
  refine ⟨paths, hselect, horder, horder.nodup, hmem, fun others excluded hothers hexcluded => ?_,
    fun excluded hexcluded => ?_⟩
  · obtain ⟨same, hsame, hsameOrder, hsameMem⟩ :=
      exists_select (c := { c with excluded }) hdisk hroot htidy
        fun entry hentry => hentries entry ((hothers entry).mp hentry)
    rw [hsame, hsameOrder.eq_of_mem_iff horder fun path => ?_]
    rw [hsameMem, hmem]
    constructor
    · intro h
      exact h.congr (fun entry => (hothers entry).symm) fun pattern => (hexcluded pattern).mpr
    · intro h
      exact h.congr hothers fun pattern => (hexcluded pattern).mp
  · obtain ⟨fewer, hfewer, hfewerOrder, hfewerMem⟩ :=
      exists_select (c := { c with excluded }) hdisk hroot htidy hentries
    refine ⟨fewer, hfewer, sublist_of_subset hfewerOrder horder fun path hpath => ?_⟩
    rw [hmem]
    exact ((hfewerMem path).mp hpath).congr (fun entry => Iff.rfl) hexcluded

/-- Two directories of which one name goes on behind the other, and entries that overlap. -/
theorem exists_pairwise_select_of_overlap :
    let disk : Disk := { entries := [(["corpus"], .directory), (["corpus", "docs"], .directory),
      (["corpus", "docs", "10.yml"], .file []), (["corpus", "docs-x"], .directory),
      (["corpus", "docs-x", "a.yaml"], .file []), (["corpus", "docs-x", "b.txt"], .file [])] }
    let c : Corpus := ⟨"corpus", ["b[", "20"]⟩
    let entries := ["docs-x", "docs/10.yml", "docs", "missing.yml"]
    disk.WellListed ∧ disk.isDirectory c.root ∧ IsTidy c.root ∧
      (∀ entry ∈ entries, IsTidy entry) ∧
      ∃ paths, c.select disk entries = .ok paths ∧ paths.Pairwise Precedes ∧ paths.Nodup ∧
        (∀ path, path ∈ paths ↔ IsSelected disk c entries path) ∧
        (∀ others excluded, (∀ entry, entry ∈ others ↔ entry ∈ entries) →
          (∀ pattern, pattern ∈ excluded ↔ pattern ∈ c.excluded) →
          { c with excluded }.select disk others = .ok paths) ∧
        ∀ excluded, c.excluded ⊆ excluded →
          ∃ fewer, { c with excluded }.select disk entries = .ok fewer ∧ fewer.Sublist paths := by
  intro disk c entries
  have hdisk : disk.WellListed := ⟨by decide, by decide, by decide⟩
  have hroot : disk.isDirectory c.root := by decide
  have htidy : IsTidy c.root := by decide
  have hentries : ∀ entry ∈ entries, IsTidy entry := by decide
  exact ⟨hdisk, hroot, htidy, hentries, exists_pairwise_select hdisk hroot htidy hentries⟩

end ApiReplay.Selection
