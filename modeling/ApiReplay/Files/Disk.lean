import ApiReplay.Files.Fault
import ApiReplay.Files.Path
import ApiReplay.Text.Utf8

/-!
# Directories and files

A disk is a finite set of directories and files, each under its location, the list of names that
leads to it from the top. A path is followed component by component from the working directory, or
from the top when it is absolute. Behind its first name every component needs a directory to start
from, also when it leads up or nowhere; in front of it none is needed, and without a name a path
always leads to a directory: the working directory can be gone, but one is still in it, and gets
away from it. What creates directories keeps those that it made before a fault.

The system beneath may refuse any change for a reason of its own, or take no more than a part of
what is written.

## Main definitions

* `Files.Disk`, `Files.Disk.get?`, `Files.Disk.set`, `Files.Disk.workingIn`: the disks.
* `Files.follow`: where components lead, whatever a disk holds.
* `Files.Disk.walk`, `Files.Disk.locate`, `Files.Disk.entry`: where a path leads on a disk.
* `Files.Disk.text`: the text of a file, and `Files.Disk.filesBelow`: the files of a directory.
* `Files.Disk.makeDirectories`, `Files.Disk.makePath`, `Files.Disk.write`: changes.
-/

namespace ApiReplay.Files

open FilePath (Component)

/-- The names that lead from the top to a directory or a file. -/
abbrev Location := List String

/-- What a location holds. -/
inductive Entry where
  | directory
  | file (contents : List UInt8)
deriving DecidableEq

/-- What may be done at a location. -/
inductive Deed where
  /-- The names in a directory are listed. -/
  | list
  | remove
  /-- A directory is made. -/
  | make
  /-- A file is opened for writing, and what was in it is gone. -/
  | write
deriving DecidableEq

/-- How many bytes the system takes for a file before it refuses more; none where it takes all. -/
abbrev Room := Option (Nat × Refusal)

/-- The bytes that there is room for, and whether these are all. -/
def taken (room : Room) (contents : List UInt8) : Except Fault Unit × List UInt8 :=
  match room with
  | none => (.ok (), contents)
  | some (bytes, refusal) =>
    if contents.length ≤ bytes then (.ok (), contents)
    else (.error (.refused refusal), contents.take bytes)

/-- A finite set of directories and files. -/
structure Disk where
  entries : List (Location × Entry) := []
  /-- The location of the working directory. -/
  current : Location := []
  /-- What the system beneath refuses to do. -/
  refuses : Deed → Location → Option Refusal := fun _ _ => none
  /-- The room that there is for files. -/
  room : Location → Room := fun _ => none

/-- Where a component leads from a location. -/
def followOne (location : Location) : Component → Location
  | .root => []
  | .current => location
  | .up => location.dropLast
  | .name text => location ++ [text]

/-- Where components lead from a location. -/
def follow (location : Location) (components : List Component) : Location :=
  components.foldl followOne location

namespace Disk

/-- What is found at a location; the top is always a directory. -/
def get? (d : Disk) : Location → Option Entry
  | [] => some .directory
  | location => d.entries.lookup location

/-- The disk with an entry put at a location. -/
def set (d : Disk) (location : Location) (entry : Entry) : Disk :=
  { d with entries := (location, entry) :: d.entries.filter (·.1 ≠ location) }

@[simp]
theorem get?_nil (d : Disk) : d.get? [] = some .directory :=
  rfl

/-- What is found at a location that is kept is what was there. -/
theorem lookup_filter (keep : Location → Bool) (location : Location)
    (entries : List (Location × Entry)) :
    (entries.filter fun e => keep e.1).lookup location
      = if keep location then entries.lookup location else none := by
  induction entries with
  | nil => simp
  | cons entry rest ih =>
    obtain ⟨other, value⟩ := entry
    by_cases hl : location = other
    · subst hl
      cases hk : keep location <;> simp [hk, ih]
    · have hb : (location == other) = false := beq_false_of_ne hl
      cases hk : keep other <;> simp [List.lookup_cons, hk, hb, ih]

/-- Putting an entry at a location changes no other location, and never the top. -/
theorem get?_set (d : Disk) (location other : Location) (entry : Entry) :
    (d.set location entry).get? other
      = if other = location ∧ other ≠ [] then some entry else d.get? other := by
  cases other with
  | nil => simp
  | cons name rest =>
    by_cases h : name :: rest = location
    · subst h
      simp [get?, set]
    · have hb : (name :: rest == location) = false := by simpa using h
      have hlookup := lookup_filter (fun l => l ≠ location) (name :: rest) d.entries
      rw [decide_eq_true h, if_pos rfl] at hlookup
      simp only [get?, set, List.lookup_cons, hb, hlookup, h, false_and, if_false]

/-! ### Following paths -/

/-- Where components lead from a location, each of them from a directory. What the last one leads to
need not exist. -/
def walk (d : Disk) : List Component → Location → Except Fault Location
  | [], location => .ok location
  | component :: rest, location =>
    match d.get? location with
    | none => .error .notFound
    | some (.file _) => .error .notDirectory
    | some .directory => walk d rest (followOne location component)

/-- Where components lead from the working directory. In front of the first name they start from the
top, or from wherever the working directory is or was. -/
def locate (d : Disk) (components : List Component) : Except Fault Location :=
  d.walk (FilePath.body components) (follow d.current (FilePath.lead components))

/-- What components find where they lead. Without a name among them this is a directory, although it
may be gone. -/
def found? (d : Disk) (components : List Component) (location : Location) : Option Entry :=
  if components.any (·.isName) then d.get? location else some .directory

/-- Whether components lead to a directory. -/
def hasDirectory (d : Disk) (components : List Component) : Bool :=
  match d.locate components with
  | .ok location => d.found? components location = some .directory
  | .error _ => false

/-- Whether a path can only be that of a directory: it ends in a slash, or in one and a dot. -/
def endsInSlash (path : String) : Bool :=
  match path.toList.reverse with
  | '/' :: _ | '.' :: '/' :: _ => true
  | _ => false

/-- What a path leads to, with its location. -/
def entry (d : Disk) (path : String) : Except Fault (Location × Entry) :=
  if path = "" then .error .notFound
  else
    match d.locate (FilePath.components path) with
    | .error fault => .error fault
    | .ok location =>
      match d.found? (FilePath.components path) location with
      | none => .error .notFound
      | some .directory => .ok (location, .directory)
      | some (.file contents) =>
        if endsInSlash path then .error .notDirectory else .ok (location, .file contents)

/-- Whether a path leads to anything. -/
def contains (d : Disk) (path : String) : Bool :=
  (d.entry path).isOk

/-- Whether a path leads to a directory. -/
def isDirectory (d : Disk) (path : String) : Bool :=
  match d.entry path with
  | .ok (_, .directory) => true
  | _ => false

/-! ### Reading -/

/-- The text of the file that a path leads to. -/
def text (d : Disk) (path : String) : Except Fault String :=
  match d.entry path with
  | .error fault => .error fault
  | .ok (_, .directory) => .error .isDirectory
  | .ok (_, .file contents) =>
    match Text.decode? contents with
    | some text => .ok text
    | none => .error .notText

/-- The names of a location below another. -/
def namesBelow? : Location → Location → Option (List String)
  | [], names => some names
  | _ :: _, [] => none
  | a :: base, b :: location => if a = b then namesBelow? base location else none

/-- The paths of the files below a directory, down to a depth where one is given. -/
def filesBelow (d : Disk) (depth : Option Nat) (path : String) : List String :=
  match d.entry path with
  | .ok (base, .directory) =>
    d.entries.filterMap fun (location, entry) =>
      match namesBelow? base location, entry with
      | some names, .file _ =>
        if depth.all (names.length ≤ ·) then some (names.foldl FilePath.join path) else none
      | _, _ => none
  | _ => []

/-! ### Changes -/

/-- Whether the system does something at a location. -/
def permit (d : Disk) (deed : Deed) (location : Location) : Except Fault Unit :=
  (d.refuses deed location).elim (.ok ()) fun refusal => .error (.refused refusal)

/-- Makes a directory in one that exists. -/
def makeDirectory (d : Disk) (components : List Component) : Except Fault Disk :=
  match d.locate components with
  | .error fault => .error fault
  | .ok location =>
    if (FilePath.lastName? components).isNone ∨ (d.get? location).isSome then .error .exists
    else (d.permit .make location).map fun () => d.set location .directory

/-- Makes a directory, after those around it when one of these is missing; one that is there will
do. -/
def makeAfter (around : Disk → Except Fault Unit × Disk) (components : List Component) (d : Disk) :
    Except Fault Unit × Disk :=
  match d.makeDirectory components with
  | .ok d => (.ok (), d)
  | .error .notFound =>
    match around d with
    | (.error fault, d) => (.error fault, d)
    | (.ok (), d) =>
      match d.makeDirectory components with
      | .ok d => (.ok (), d)
      | .error fault => (if d.hasDirectory components then .ok () else .error fault, d)
  | .error fault => (if d.hasDirectory components then .ok () else .error fault, d)

/-- Makes a directory and those around it, unless they exist; the components come in reverse. -/
def makeReversed : List Component → Disk → Except Fault Unit × Disk
  | [], d => (.ok (), d)
  | last :: outer, d => d.makeAfter (makeReversed outer) (last :: outer).reverse

/-- Makes a directory and those around it, unless they exist. -/
def makeDirectories (d : Disk) (components : List Component) : Except Fault Unit × Disk :=
  d.makeReversed components.reverse

/-- Makes the directory that a path leads to and those around it, unless they exist. A dot at the
end of the path stands in a directory that has to be there already: it is not made for the dot. -/
def makePath (d : Disk) (path : String) : Except Fault Unit × Disk :=
  let components := FilePath.components path
  if FilePath.endsInDot path then
    d.makeAfter (makeReversed components.reverse.tail) (components ++ [.current])
  else d.makeDirectories components

/-- Writes a file into a directory that exists. -/
def write (d : Disk) (components : List Component) (contents : List UInt8) :
    Except Fault Unit × Disk :=
  match d.locate components with
  | .error fault => (.error fault, d)
  | .ok location =>
    if (FilePath.lastName? components).isNone ∨ d.get? location = some .directory then
      (.error .isDirectory, d)
    else
      match d.permit .write location with
      | .error fault => (.error fault, d)
      | .ok () =>
        let (result, written) := taken (d.room location) contents
        (result, d.set location (.file written))

/-- The disk with a working directory and nothing else. -/
def workingIn (path : String) : Disk :=
  let d := (({} : Disk).makePath path).2
  { d with current := (d.locate (FilePath.components path)).toOption.getD [] }

/-- The disk with a file put at a path, and with the directories around it, where there is room. -/
def withFile (d : Disk) (path : String) (contents : List UInt8) : Disk :=
  let components := FilePath.components path
  ((d.makeDirectories components.dropLast).2.write components contents).2

end Disk

end ApiReplay.Files
