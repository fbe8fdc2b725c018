/-!
# Sets of characters

A set of characters is a list of ranges of code points, both ends included, in increasing order and
without overlap. The module also reads the compact forms in which the tables of character
properties are written.

## Main definitions

* `CharSet`, `CharSet.ofRanges`, `CharSet.contains`: the sets and membership.
* `CharSet.union`, `CharSet.complement`, `CharSet.inter`, `CharSet.diff`, `CharSet.symmDiff`.
* `Text.labelledRuns`, `Text.boundarySet`: the compact forms.
-/

namespace ApiReplay

/-- The greatest code point. -/
def codePointMax : Nat := 0x10FFFF

/-- A set of code points. -/
structure CharSet where
  ranges : List (Nat × Nat)

namespace CharSet

/-- Joins ranges that overlap or touch, in a list sorted by first ends. -/
def join : List (Nat × Nat) → List (Nat × Nat)
  | [] => []
  | (low, high) :: rest =>
    match join rest with
    | [] => [(low, high)]
    | (low', high') :: more =>
      if low' ≤ high + 1 then (low, max high high') :: more
      else (low, high) :: (low', high') :: more

/-- The set of the code points in any of the ranges; a range that ends before it starts is empty. -/
def ofRanges (ranges : List (Nat × Nat)) : CharSet :=
  ⟨join ((ranges.filter fun r => r.1 ≤ r.2).mergeSort fun a b => a.1 ≤ b.1)⟩

/-- The set without members. -/
def empty : CharSet := ⟨[]⟩

/-- The set of all characters. -/
def full : CharSet := ⟨[(0, codePointMax)]⟩

/-- The set of one character. -/
def single (c : Char) : CharSet := ⟨[(c.toNat, c.toNat)]⟩

/-- Whether a code point belongs to the set. -/
def containsCode (set : CharSet) (code : Nat) : Bool :=
  set.ranges.any fun r => r.1 ≤ code && code ≤ r.2

/-- Whether a character belongs to the set. -/
def contains (set : CharSet) (c : Char) : Bool :=
  set.containsCode c.toNat

/-- The code points of either set. -/
def union (a b : CharSet) : CharSet :=
  ofRanges (a.ranges ++ b.ranges)

/-- The gaps between ranges, from a code point on. -/
def gaps (start : Nat) : List (Nat × Nat) → List (Nat × Nat)
  | [] => if start ≤ codePointMax then [(start, codePointMax)] else []
  | (low, high) :: rest =>
    if start < low then (start, low - 1) :: gaps (high + 1) rest else gaps (high + 1) rest

/-- The code points that do not belong to the set. -/
def complement (set : CharSet) : CharSet :=
  ⟨gaps 0 set.ranges⟩

/-- The code points of both sets. -/
def inter (a b : CharSet) : CharSet :=
  (a.complement.union b.complement).complement

/-- The code points of the first set that are not in the second. -/
def diff (a b : CharSet) : CharSet :=
  a.inter b.complement

/-- The code points of exactly one of the sets. -/
def symmDiff (a b : CharSet) : CharSet :=
  (a.diff b).union (b.diff a)

/-- Whether no code point belongs to the set. -/
def isEmpty (set : CharSet) : Bool :=
  set.ranges.isEmpty

end CharSet

namespace Text

/-- The value of a digit in base 36. -/
def base36Value (c : Char) : Nat :=
  if c.isDigit then c.toNat - '0'.toNat else c.toNat - 'a'.toNat + 10

/-- Reads runs from a table: the distance from the previous start in base 36, then a label of
`width` letters that starts with a capital one. -/
def readRuns (width start distance : Nat) : List Char → List (Nat × String)
  | [] => []
  | c :: rest =>
    if c.isUpper then
      (start + distance, String.ofList (c :: rest.take (width - 1))) ::
        readRuns width (start + distance) 0 (rest.drop (width - 1))
    else readRuns width start (36 * distance + base36Value c) rest
termination_by text => text.length
decreasing_by all_goals simp only [List.length_cons, List.length_drop]; omega

/-- The runs of a table of labelled runs. -/
def labelledRuns (width : Nat) (table : List Char) : List (Nat × String) :=
  readRuns width 0 0 table

/-- The ranges of the runs whose label satisfies a condition. A run ends before the next starts. -/
def selectRuns (keep : String → Bool) : List (Nat × String) → List (Nat × Nat)
  | [] => []
  | [(start, label)] => if keep label then [(start, codePointMax)] else []
  | (start, label) :: (next, other) :: rest =>
    let more := selectRuns keep ((next, other) :: rest)
    if keep label then (start, next - 1) :: more else more

/-- The code points of the runs whose label satisfies a condition. -/
def labelledSet (runs : List (Nat × String)) (keep : String → Bool) : CharSet :=
  CharSet.ofRanges (selectRuns keep runs)

/-- Reads the boundaries of a table, from a boundary and a distance read so far. -/
def readBoundaries (last distance : Nat) : List Char → List Nat
  | [] => [last + distance]
  | c :: rest =>
    if c = ' ' then (last + distance) :: readBoundaries (last + distance) 0 rest
    else readBoundaries last (36 * distance + base36Value c) rest

/-- Pairs the boundaries where runs start with those where they end. -/
def pairBoundaries : List Nat → List (Nat × Nat)
  | start :: stop :: rest => (start, stop - 1) :: pairBoundaries rest
  | [start] => [(start, codePointMax)]
  | [] => []

/-- The set with the boundaries of a table. -/
def boundarySet (table : String) : CharSet :=
  CharSet.ofRanges (pairBoundaries (readBoundaries 0 0 table.toList))

end Text

end ApiReplay
