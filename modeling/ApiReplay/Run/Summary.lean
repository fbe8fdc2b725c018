import ApiReplay.Error

/-!
# The summary of a run

## Main definitions

* `Failure`: a test or a document that did not pass.
* `Summary`, `Summary.passed`, `Summary.success`: the totals of a run.
-/

namespace ApiReplay

/-- A test or a document that did not pass. -/
structure Failure where
  /-- The identifier of the file. -/
  file : String
  /-- The title of the test; none when the document itself is at fault. -/
  test : Option String
  error : Error

/-- The totals of a run. -/
structure Summary where
  /-- The calls in the bodies of the executed tests. -/
  tests : Nat := 0
  failures : List Failure := []
  /-- The documents that are not meant for the flavor. -/
  skipped : Nat := 0
  /-- The seconds that it took, once it has come to its end. -/
  elapsed : Nat := 0

namespace Summary

/-- The tests less the failures, down to zero. -/
def passed (s : Summary) : Nat :=
  s.tests - s.failures.length

/-- Whether nothing failed. -/
def success (s : Summary) : Bool :=
  s.failures.isEmpty

/-- The totals of two parts of a run, for which no time is taken. -/
def append (a b : Summary) : Summary where
  tests := a.tests + b.tests
  failures := a.failures ++ b.failures
  skipped := a.skipped + b.skipped

end Summary

end ApiReplay
