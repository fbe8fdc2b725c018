import ApiReplay.Files.Disk

/-!
# Removing what is in a directory

A directory is emptied entry by entry, in the order in which its names are listed. A file is removed
at once; of a directory everything inside is removed first, depth first, and then the directory
itself. The first fault ends it, and what was removed before is gone.

Each entry is looked for by the path of the directory that is emptied. A path that leads through one
of the entries is lost with that entry, and the next one is not found.

## Main definitions

* `Files.Disk.emptying`: the steps that empty a directory.
* `Files.Disk.perform`: how far steps are taken.
* `Files.Disk.clear`: empties a directory, or makes it.
-/

namespace ApiReplay.Files.Disk

open FilePath (Component)

/-! ### Steps -/

/-- Removes what is at a location. -/
def remove (d : Disk) (location : Location) : Disk :=
  { d with entries := d.entries.filter (·.1 ≠ location) }

/-- Removing what is at a location changes no other location, and never the top. -/
theorem get?_remove (d : Disk) (location other : Location) :
    (d.remove location).get? other
      = if other = location ∧ other ≠ [] then none else d.get? other := by
  cases other with
  | nil => simp
  | cons name rest =>
    have hlookup := lookup_filter (fun l => l ≠ location) (name :: rest) d.entries
    by_cases h : name :: rest = location
    · rw [decide_eq_false (not_not_intro h)] at hlookup
      rw [if_pos ⟨h, List.cons_ne_nil name rest⟩]
      exact hlookup
    · rw [decide_eq_true h] at hlookup
      rw [if_neg fun hboth => h hboth.1]
      exact hlookup

/-- The names in a directory, in the order in which they are listed. -/
def namesIn (d : Disk) (base : Location) : List String :=
  (d.entries.filterMap fun (location, _) =>
    match namesBelow? base location with
    | some [name] => some name
    | _ => none).eraseDups

/-- The steps that remove everything in a directory, down to a number of levels, from the deepest
level up. -/
def emptying (d : Disk) : Nat → Location → List (Deed × Location)
  | 0, _ => []
  | levels + 1, location =>
    if d.get? location = some .directory then
      (.list, location) :: (d.namesIn location).flatMap fun name =>
        d.emptying levels (location ++ [name]) ++ [(.remove, location ++ [name])]
    else []

/-- The number of levels of a disk. -/
def levels (d : Disk) : Nat :=
  (d.entries.map (·.1.length)).foldr max 0 + 1

/-- Takes steps one after the other, up to the first that is refused. Listing changes nothing. -/
def perform : List (Deed × Location) → Disk → Except Fault Unit × Disk
  | [], d => (.ok (), d)
  | (deed, location) :: rest, d =>
    match d.permit deed location with
    | .error fault => (.error fault, d)
    | .ok () => perform rest (if deed = .remove then d.remove location else d)

/-! ### Entries -/

/-- Removes what a path leads to, with everything inside. What is inside is removed from where it
is; then the path is followed once more, and it may be lost by now. -/
def removeEntry (components : List Component) (d : Disk) : Except Fault Unit × Disk :=
  match d.locate components with
  | .error fault => (.error fault, d)
  | .ok location =>
    if d.get? location = none then (.error .notFound, d)
    else
      match d.perform (d.emptying d.levels location) with
      | (.error fault, d) => (.error fault, d)
      | (.ok (), d) =>
        match d.locate components with
        | .error .notFound => (.ok (), d)
        | .error fault => (.error fault, d)
        | .ok location => d.perform [(.remove, location)]

/-- Removes entries of a directory that a path leads to, one after the other. -/
def removeEach (components : List Component) : List String → Disk → Except Fault Unit × Disk
  | [], d => (.ok (), d)
  | name :: rest, d =>
    match d.removeEntry (components ++ [.name name]) with
    | (.error fault, d) => (.error fault, d)
    | (.ok (), d) => removeEach components rest d

/-- Empties a directory, or makes it when nothing is there. -/
def clear (d : Disk) (path : String) : Except Fault Unit × Disk :=
  match d.entry path with
  | .ok (location, .directory) =>
    match d.permit .list location with
    | .error fault => (.error fault, d)
    | .ok () => d.removeEach (FilePath.components path) (d.namesIn location)
  | .ok (_, .file _) => (.error .notDirectory, d)
  | .error _ => d.makePath path

end ApiReplay.Files.Disk
