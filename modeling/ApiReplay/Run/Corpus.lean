import ApiReplay.Document.Reader
import ApiReplay.Run.Basic
import ApiReplay.Run.Selection

/-!
# Runs of a corpus

A corpus is a directory of test files, some of which patterns leave out. Running it selects files,
loads each one when its turn comes, and ends with the totals.

## Main definitions

* `Corpus`: a directory with patterns.
* `Corpus.load`: the document of a file.
* `Corpus.run`: a whole run.
-/

namespace ApiReplay

open Files (Disk)

/-- A directory of test files, with patterns for those to leave out. -/
structure Corpus where
  root : String
  excluded : List String := []

namespace Corpus

variable {σ : Type}

/-- The selected files, in order. -/
def select (c : Corpus) (disk : Disk) (entries : List String) : Except Error (List String) :=
  (Selection.files disk c.root entries).map
    (·.filter fun path => !Selection.isExcluded c.excluded path)

/-- What is told about the files that patterns leave out. -/
def exclusions (c : Corpus) (disk : Disk) (entries : List String) : List Event :=
  match Selection.files disk c.root entries with
  | .ok paths => (paths.filter (Selection.isExcluded c.excluded)).map .fileExcluded
  | .error _ => []

/-- The document of a file. -/
def load (disk : Disk) (path : String) : Except Error Document :=
  match disk.text path with
  | .ok text => Document.parse text
  | .error fault => .error (.unreadable path fault)

/-- Runs the files of a selection, which takes some seconds. -/
def run (c : Corpus) (disk : Disk) (client : Client σ) (flavor : Flavor) (entries : List String)
    (service : σ) (elapsed : Nat := 0) : Except Error (Block σ) :=
  (c.select disk entries).map fun paths =>
    let files := paths.map fun path => (FilePath.identifier path, load disk path)
    let block := Run.documents client flavor files service
    let start := c.exclusions disk entries ++ [.runStarted paths.length flavor]
    let summary := { block.summary with elapsed }
    { block with summary, events := start ++ block.events ++ [.runFinished summary] }

theorem exists_select {disk : Disk} {c : Corpus} (h : disk.isDirectory c.root = true)
    (entries : List String) : ∃ paths, c.select disk entries = .ok paths := by
  simp only [select, Selection.files, h, if_true]
  exact ⟨_, rfl⟩

theorem run_of_select {disk : Disk} {c : Corpus} {entries paths : List String}
    (h : c.select disk entries = .ok paths) (client : Client σ) (flavor : Flavor) (service : σ)
    (elapsed : Nat) :
    c.run disk client flavor entries service elapsed =
      let block := Run.documents client flavor
        (paths.map fun path => (FilePath.identifier path, load disk path)) service
      let summary := { block.summary with elapsed }
      .ok { block with
        summary
        events := c.exclusions disk entries ++ [.runStarted paths.length flavor] ++ block.events
          ++ [.runFinished summary] } := by
  simp only [run, h]
  rfl

end Corpus

end ApiReplay
