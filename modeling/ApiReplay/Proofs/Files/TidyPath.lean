import ApiReplay.Files.Path
import ApiReplay.Proofs.Text.Parts
import Mathlib.Data.List.TakeDrop
import Mathlib.Data.List.TakeWhile

/-!
# Tidy paths

A path is tidy when nothing in it is passed over: behind the slash that makes it absolute there is
nothing, or parts with a slash between each, none of which is empty or a single dot. A tidy path can
be told from its components, so that two of them are the same path only when they are the same text.
Tidy paths below others are tidy, and so are names in a tidy directory.

The extension of a name is what stands behind its last dot, unless nothing stands before.

## Main definitions

* `FilePath.IsTidy`: the tidy paths.
* `FilePath.IsName`: the names of files and directories.
* `FilePath.IsTestPath`: the paths with an extension of test documents.

## Main results

* `FilePath.IsTidy.eq_of_components_eq`: tidy paths are told from their components.
* `FilePath.IsTidy.join`, `FilePath.IsTidy.foldl_join`: tidy paths below others.
* `FilePath.isYaml_iff`: the paths of test documents.
-/

namespace ApiReplay.FilePath

open Text

/-- A part of a tidy path. -/
def IsPart (part : List Char) : Prop :=
  part ≠ [] ∧ part ≠ ['.']

instance (part : List Char) : Decidable (IsPart part) :=
  inferInstanceAs (Decidable (_ ∧ _))

/-- A path without the slash that makes it absolute. -/
def inner (path : String) : List Char :=
  if isAbsolute path then path.toList.tail else path.toList

/-- A path that is written without empty parts and single dots. The empty path is not, its only part
being empty. -/
def IsTidy (path : String) : Prop :=
  path = "/" ∨ ∀ part ∈ splitAtEach '/' (inner path), IsPart part

instance (path : String) : Decidable (IsTidy path) :=
  inferInstanceAs (Decidable (_ ∨ _))

/-- The name of a file or a directory. -/
structure IsName (name : String) : Prop where
  ne_empty : name ≠ ""
  ne_current : name ≠ "."
  ne_up : name ≠ ".."
  noSlash : '/' ∉ name.toList

instance (name : String) : Decidable (IsName name) :=
  decidable_of_iff (name ≠ "" ∧ name ≠ "." ∧ name ≠ ".." ∧ '/' ∉ name.toList)
    ⟨fun h => ⟨h.1, h.2.1, h.2.2.1, h.2.2.2⟩, fun h =>
      ⟨h.ne_empty, h.ne_current, h.ne_up, h.noSlash⟩⟩

variable {a b base path name : String} {text : List Char}

/-! ### Components -/

/-- A component as it is written. -/
def Component.chars : Component → List Char
  | .root => []
  | .current => ['.']
  | .up => ['.', '.']
  | .name text => text.toList

/-- The parts of a tidy path are told from their components. -/
theorem map_chars_filterMap {parts : List (List Char)} (h : ∀ part ∈ parts, IsPart part) :
    (parts.filterMap Component.ofPart?).map Component.chars = parts := by
  induction parts with
  | nil => rfl
  | cons part rest ih =>
    rw [List.forall_mem_cons] at h
    obtain ⟨component, hcomponent, hchars⟩ :
        ∃ component, Component.ofPart? part = some component ∧ component.chars = part := by
      unfold Component.ofPart?
      split
      case h_1 => exact absurd rfl h.1.1
      case h_2 => exact absurd rfl h.1.2
      case h_3 => exact ⟨.up, rfl, rfl⟩
      case h_4 => exact ⟨_, rfl, String.toList_ofList⟩
    rw [List.filterMap_cons_some hcomponent, List.map_cons, hchars, ih h.2]

theorem isAbsolute_iff : isAbsolute path ↔ path.toList = '/' :: inner path := by
  unfold inner isAbsolute
  cases path.toList with
  | nil => simp
  | cons c rest => by_cases hc : c = '/' <;> simp [hc]

theorem inner_of_not_isAbsolute (h : ¬ isAbsolute path) : inner path = path.toList :=
  if_neg h

theorem IsTidy.parts (h : IsTidy path) (hne : path ≠ "/") :
    ∀ part ∈ splitAtEach '/' (inner path), IsPart part :=
  h.resolve_left hne

/-- The components of a tidy path are its parts; the root stands for what is before the slash of an
absolute path. -/
theorem IsTidy.map_chars_components (h : IsTidy path) (hne : path ≠ "/") :
    (components path).map Component.chars = splitAtEach '/' path.toList := by
  have hparts := h.parts hne
  unfold components
  by_cases hab : isAbsolute path
  · have htext := isAbsolute_iff.mp hab
    generalize inner path = text at htext hparts
    rw [htext, splitAtEach, if_pos rfl]
    exact congrArg ([] :: ·) (map_chars_filterMap hparts)
  · rw [inner_of_not_isAbsolute hab] at hparts
    dsimp only
    split
    · rename_i heq
      rw [isAbsolute, heq] at hab
      exact absurd rfl hab
    · rename_i heq _
      rw [heq] at hparts
      exact absurd rfl (hparts _ List.mem_cons_self).2
    · exact map_chars_filterMap hparts

/-- A tidy path is told from its components. -/
theorem IsTidy.eq_of_components_eq (ha : IsTidy a) (hb : IsTidy b)
    (h : components a = components b) : a = b := by
  -- Only the path that is a slash has the root and nothing else.
  have htop {path : String} (hpath : IsTidy path) (hroot : components path = components "/") :
      path = "/" := by
    by_contra hne
    have hchars := hpath.map_chars_components hne
    rw [hroot] at hchars
    have hempty : path.toList = [] := (@eq_of_splitAtEach_eq _ [] _ hchars).symm
    rw [String.toList_eq_nil_iff.mp hempty] at hroot
    cases hroot
  by_cases hone : a = "/"
  · rw [hone] at h ⊢
    exact (htop hb h.symm).symm
  · by_cases hother : b = "/"
    · rw [hother] at h ⊢
      exact htop ha h
    · have hchars := ha.map_chars_components hone
      rw [h, hb.map_chars_components hother] at hchars
      exact String.toList_inj.mp (eq_of_splitAtEach_eq hchars).symm

/-! ### Paths below others -/

theorem inner_append (hne : a ≠ "") (b : String) : inner (a ++ b) = inner a ++ b.toList := by
  obtain ⟨c, rest, htext⟩ :=
    List.exists_cons_of_ne_nil fun hnil => hne (String.toList_eq_nil_iff.mp hnil)
  unfold inner isAbsolute
  rw [String.toList_append, htext]
  by_cases hc : c = '/' <;> simp [hc]

/-- A tidy path does not end in a slash, unless there is nothing else. -/
theorem IsTidy.getLast?_ne (h : IsTidy path) (hne : path ≠ "/") :
    path.toList.getLast? ≠ some '/' := by
  have hparts := h.parts hne
  intro hlast
  have hinner : (inner path).getLast? = some '/' := by
    by_cases hab : isAbsolute path
    · rw [isAbsolute_iff.mp hab] at hlast
      cases hrest : inner path with
      | nil =>
        rw [hrest] at hparts
        exact absurd rfl (hparts [] List.mem_cons_self).1
      | cons c rest => rwa [hrest, List.getLast?_cons_cons] at hlast
    · rwa [inner_of_not_isAbsolute hab]
  obtain ⟨first, hfirst⟩ := List.getLast?_eq_some_iff.mp hinner
  rw [hfirst, splitAtEach_append] at hparts
  exact (hparts [] (List.mem_append_right _ List.mem_cons_self)).1 rfl

theorem IsTidy.join (hbase : IsTidy base) (hpath : IsTidy path) : IsTidy (join base path) := by
  unfold FilePath.join
  by_cases hab : isAbsolute path
  · rwa [if_pos hab]
  · have hparts := hpath.parts (by rintro rfl; exact hab rfl)
    rw [inner_of_not_isAbsolute hab] at hparts
    rw [if_neg hab]
    by_cases htop : base = "/"
    · rw [htop, if_pos (.inr rfl)]
      refine .inr ?_
      rwa [inner_append (by decide)]
    · have hne : base ≠ "" := by
        rintro rfl
        exact (hbase.parts (by decide) [] List.mem_cons_self).1 rfl
      rw [if_neg fun h => h.elim hne (hbase.getLast?_ne htop)]
      refine .inr fun part hpart => ?_
      rw [String.append_assoc, inner_append hne, String.toList_append] at hpart
      rcases List.mem_append.mp (splitAtEach_append '/' _ _ ▸ hpart) with hpart | hpart
      · exact hbase.parts htop part hpart
      · exact hparts part hpart

theorem IsName.isTidy (h : IsName name) : IsTidy name := by
  have hab : ¬ isAbsolute name := fun hab => by
    have hmem := h.noSlash
    rw [isAbsolute_iff.mp hab] at hmem
    exact hmem List.mem_cons_self
  refine .inr fun part hpart => ?_
  rw [inner_of_not_isAbsolute hab, splitAtEach_of_not_mem h.noSlash, List.mem_singleton] at hpart
  rw [hpart]
  exact ⟨fun hnil => h.ne_empty (String.toList_eq_nil_iff.mp hnil),
    fun hdot => h.ne_current (String.toList_inj.mp hdot)⟩

theorem IsTidy.foldl_join (hbase : IsTidy base) {names : List String}
    (h : ∀ name ∈ names, IsName name) : IsTidy (names.foldl FilePath.join base) := by
  induction names generalizing base with
  | nil => exact hbase
  | cons name rest ih =>
    rw [List.forall_mem_cons] at h
    exact ih (hbase.join h.1.isTidy) h.2

/-! ### Extensions -/

theorem span_append {mark : Char} {first : List Char} (h : mark ∉ first) (rest : List Char) :
    (first ++ mark :: rest).span (· ≠ mark) = (first, mark :: rest) := by
  have hpos : ∀ c ∈ first, decide (c ≠ mark) = true := fun c hc =>
    decide_eq_true fun heq => h (heq ▸ hc)
  rw [List.span_eq_takeWhile_dropWhile, List.takeWhile_append_of_pos hpos,
    List.dropWhile_append_of_pos hpos]
  simp

/-- The extension of a name stands behind its last dot, and something stands before that. -/
theorem nameExtension?_eq_some_iff {extension : String} : nameExtension? name = some extension ↔
    ∃ stem, stem ≠ [] ∧ name.toList = stem ++ '.' :: extension.toList ∧
      '.' ∉ extension.toList := by
  unfold nameExtension?
  constructor
  · intro h
    by_cases hdot : '.' ∈ name.toList.reverse
    · obtain ⟨last, rest, htext, hlast⟩ := List.eq_append_cons_of_mem hdot
      rw [htext, span_append hlast] at h
      cases rest with
      | nil => cases h
      | cons c stem =>
        obtain rfl := Option.some.inj h
        refine ⟨(c :: stem).reverse, by simp, ?_, by simpa using hlast⟩
        simpa using congrArg List.reverse htext
    · have hall : ∀ c ∈ name.toList.reverse, decide (c ≠ '.') = true := fun c hc =>
        decide_eq_true fun heq => hdot (heq ▸ hc)
      rw [List.span_eq_takeWhile_dropWhile, List.dropWhile_eq_nil_iff.mpr hall] at h
      cases h
  · rintro ⟨stem, hstem, hname, hdot⟩
    have htext : name.toList.reverse = extension.toList.reverse ++ '.' :: stem.reverse := by
      simp [hname]
    obtain ⟨c, rest, hrest⟩ :=
      List.exists_cons_of_ne_nil fun hnil => hstem (List.reverse_eq_nil_iff.mp hnil)
    rw [htext, span_append (by simpa using hdot), hrest]
    simp

/-- A path with an extension of test documents. -/
def IsTestPath (path : String) : Prop :=
  ∃ name stem, fileName? path = some name ∧ stem ≠ "" ∧
    (name = stem ++ ".yml" ∨ name = stem ++ ".yaml")

theorem isYamlName_iff : isYamlName name ↔
    ∃ stem, stem ≠ "" ∧ (name = stem ++ ".yml" ∨ name = stem ++ ".yaml") := by
  have hone {extension : String} (hdot : '.' ∉ extension.toList) :
      nameExtension? name = some extension ↔
        ∃ stem, stem ≠ "" ∧ name = stem ++ ("." ++ extension) := by
    rw [nameExtension?_eq_some_iff]
    constructor
    · rintro ⟨stem, hstem, hname, -⟩
      refine ⟨String.ofList stem, fun hnil => hstem ?_, String.toList_inj.mp ?_⟩
      · simpa using congrArg String.toList hnil
      · simpa using hname
    · rintro ⟨stem, hstem, rfl⟩
      refine ⟨stem.toList, fun hnil => hstem (String.toList_eq_nil_iff.mp hnil), ?_, hdot⟩
      simp
  rw [isYamlName, Bool.or_eq_true, decide_eq_true_iff, decide_eq_true_iff,
    hone (by decide), hone (by decide), ← exists_or]
  exact exists_congr fun stem => and_or_left.symm

theorem isYaml_iff : isYaml path ↔ IsTestPath path := by
  simp only [isYaml, Option.any_eq_true, isYamlName_iff, IsTestPath, exists_and_left]

end ApiReplay.FilePath
