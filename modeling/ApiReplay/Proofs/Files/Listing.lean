import ApiReplay.Proofs.Files.Emptying
import ApiReplay.Proofs.Files.TidyPath

/-!
# The files of a directory

A disk lists its directories and files. When every location is listed once and the top not at all,
what is listed is what is found, and the files that are listed below a directory are all that are
found there, down to the depth asked for. With proper names, their paths are as tidy as the path of
the directory.

## Main definitions

* `Files.Disk.WellListed`: every location is listed once, under proper names.

## Main results

* `Files.Disk.WellListed.mem_filesBelow_iff`: the files below a directory.
* `Files.Disk.WellListed.isTidy_of_below?`: the paths of what is below a directory.
-/

namespace ApiReplay.Files.Disk

open FilePath (IsName IsTidy)

variable {d : Disk} {location : Location} {found : Entry} {contents : List UInt8}
  {names : List String} {path : String} {depth : Option Nat}

/-- Every location is listed once and the top not at all, and names are proper. Any tree of
directories and files can be listed so. -/
structure WellListed (d : Disk) : Prop where
  nodup : (d.entries.map Prod.fst).Nodup
  top : [] ∉ d.entries.map Prod.fst
  isName : ∀ entry ∈ d.entries, ∀ name ∈ entry.1, IsName name

/-- A disk lists the files that are found on it. -/
theorem WellListed.mem_entries_iff (h : d.WellListed) :
    (location, .file contents) ∈ d.entries ↔ d.get? location = some (.file contents) := by
  cases location with
  | nil => exact iff_of_false (fun hmem => h.top (List.mem_map_of_mem hmem)) (by simp)
  | cons name rest =>
    rw [show d.get? (name :: rest) = d.entries.lookup (name :: rest) from rfl,
      List.lookup_eq_some_iff]
    constructor
    · intro hmem
      obtain ⟨before, behind, hentries⟩ := List.append_of_mem hmem
      refine ⟨before, behind, hentries, fun entry hentry => ?_⟩
      have hnodup := h.nodup
      rw [hentries, List.map_append, List.nodup_append] at hnodup
      have hne := hnodup.2.2 _ (List.mem_map_of_mem hentry) _ List.mem_cons_self
      simpa using hne.symm
    · rintro ⟨before, behind, hentries, -⟩
      rw [hentries]
      exact List.mem_append_right before List.mem_cons_self

/-- The files below a directory are found under their names from there. -/
theorem WellListed.mem_filesBelow_iff (h : d.WellListed) {file : String} :
    file ∈ d.filesBelow depth path ↔ ∃ names contents,
      d.below? path names = some (.file contents) ∧ depth.all (names.length ≤ ·) ∧
        file = names.foldl FilePath.join path := by
  unfold filesBelow
  split
  · rename_i base hentry
    have hbelow (names : List String) : d.below? path names = d.get? (base ++ names) := by
      simp only [below?, hentry]
    simp only [List.mem_filterMap, hbelow]
    constructor
    · rintro ⟨⟨location, found⟩, hmem, hfile⟩
      dsimp only at hfile
      split at hfile
      · rename_i names contents hnames
        obtain rfl := namesBelow?_eq_some_iff.mp hnames
        split at hfile
        · rename_i hdepth
          exact ⟨names, contents, h.mem_entries_iff.mp hmem, hdepth, (Option.some.inj hfile).symm⟩
        · cases hfile
      · cases hfile
    · rintro ⟨names, contents, hget, hdepth, rfl⟩
      refine ⟨(base ++ names, .file contents), h.mem_entries_iff.mpr hget, ?_⟩
      simp only [namesBelow?_eq_some_iff.mpr rfl, hdepth, if_true]
  · rename_i hentry
    refine iff_of_false List.not_mem_nil ?_
    rintro ⟨names, contents, hfile, -⟩
    obtain ⟨base, hdir, -⟩ := below?_eq_some_iff.mp hfile
    exact hentry base hdir

/-- Below a tidy path files have tidy paths. -/
theorem WellListed.isTidy_of_below? (h : d.WellListed) (hpath : IsTidy path)
    (hfile : d.below? path names = some (.file contents)) :
    IsTidy (names.foldl FilePath.join path) := by
  obtain ⟨base, -, hget⟩ := below?_eq_some_iff.mp hfile
  exact hpath.foldl_join fun name hname =>
    h.isName _ (h.mem_entries_iff.mpr hget) name (List.mem_append_right base hname)

end ApiReplay.Files.Disk
