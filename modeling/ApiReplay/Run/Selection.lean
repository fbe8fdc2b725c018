import ApiReplay.Error
import ApiReplay.Files.Disk
import ApiReplay.Pattern.Reader
import ApiReplay.Pattern.Search

/-!
# The selection of test files

Without a selection the test files are all below the root of the corpus. An entry of a selection is
a single test file when it has the extension of one, and else a directory whose files count. Entries
are looked for below the root first, then relative to the working directory. The files are ordered
by path, every path once, and those that a pattern matches are left out.

## Main definitions

* `Selection.locate`, `Selection.candidates`: the files that entries name.
* `Selection.isExcluded`: whether a pattern leaves a path out.
* `Selection.ordered`: the candidates in order, each once.
-/

namespace ApiReplay.Selection

open Files (Disk)

/-- The test files below a directory, down to a depth where one is given. -/
def testFiles (disk : Disk) (depth : Option Nat) (path : String) : List String :=
  (disk.filesBelow depth path).filter FilePath.isYaml

/-- The path that an entry stands for. -/
def locate (disk : Disk) (root entry : String) : String :=
  if FilePath.isAbsolute entry then entry
  else
    let below := FilePath.join root entry
    if disk.contains below || !disk.contains entry then below else entry

/-- The files that an entry names. -/
def filesOf (disk : Disk) (root entry : String) : List String :=
  let path := locate disk root entry
  if FilePath.isYaml path then [path] else testFiles disk (some 1) path

/-- The files that a selection names, in its order. -/
def candidates (disk : Disk) (root : String) (entries : List String) : List String :=
  if entries.isEmpty then testFiles disk none root else entries.flatMap (filesOf disk root)

/-- Leaves one of several neighbours that are the same path. -/
def dropRepeated : List String → List String
  | a :: b :: rest =>
    if FilePath.compare a b = .eq then dropRepeated (a :: rest) else a :: dropRepeated (b :: rest)
  | paths => paths
termination_by paths => paths.length

/-- The paths of a list in order, each once. -/
def ordered (paths : List String) : List String :=
  dropRepeated (paths.mergeSort fun a b => FilePath.compare a b ≠ .gt)

/-- Whether a pattern matches a path. A pattern that is malformed stands for its own text. -/
def isMatch (pattern path : String) : Bool :=
  match Pattern.compile? false pattern with
  | some compiled => compiled.isIn path
  | none => Text.occurs pattern path

/-- Whether one of the patterns leaves a path out. -/
def isExcluded (patterns : List String) (path : String) : Bool :=
  patterns.any (isMatch · path)

/-- The files that a selection names, in order, before patterns leave any out. -/
def files (disk : Disk) (root : String) (entries : List String) : Except Error (List String) :=
  if disk.isDirectory root then .ok (ordered (candidates disk root entries))
  else .error (.noCorpus root)

end ApiReplay.Selection
