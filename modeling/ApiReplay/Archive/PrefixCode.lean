/-!
# Prefix codes

A code gives symbols words of bits, none of which continues another; so a stream of bits splits into
words in one way. A canonical code is told by the lengths of its words alone: shorter words come
first, words of one length go up with their symbols, and each word is the smallest that continues
none before it.

## Main definitions

* `Archive.PrefixCode`: codes, as the tree of their words.
* `Archive.canonicalWords`: the words of a canonical code.
* `Archive.PrefixCode.ofLengths?`: the canonical code with given lengths.
-/

namespace ApiReplay.Archive

/-- A code, as the tree in which words lead to symbols. -/
inductive PrefixCode where
  /-- No word goes on here. -/
  | missing
  | leaf (symbol : Nat)
  | fork (zero one : PrefixCode)

/-- The bits of a number, the highest first. -/
def highBits (number : Nat) : Nat → List Bool
  | 0 => []
  | count + 1 => number.testBit count :: highBits number count

/-- The words of symbols in the order of their lengths, behind a word of the length before. -/
def wordsFrom (next length : Nat) : List (Nat × Nat) → List (Nat × List Bool)
  | [] => []
  | (symbol, longer) :: rest =>
    let word := next * Nat.pow 2 (longer - length)
    (symbol, highBits word longer) :: wordsFrom (word + 1) longer rest

/-- The words of a canonical code. A symbol of length zero has none. -/
def canonicalWords (lengths : List Nat) : List (Nat × List Bool) :=
  let used := lengths.zipIdx.filterMap fun (length, symbol) =>
    if length = 0 then none else some (symbol, length)
  wordsFrom 0 0 (used.mergeSort fun a b => a.2 ≤ b.2)

namespace PrefixCode

/-- The code with one more word. -/
def insert (symbol : Nat) : List Bool → PrefixCode → PrefixCode
  | [], _ => leaf symbol
  | false :: word, fork zero one => fork (insert symbol word zero) one
  | true :: word, fork zero one => fork zero (insert symbol word one)
  | false :: word, _ => fork (insert symbol word missing) missing
  | true :: word, _ => fork missing (insert symbol word missing)

/-- The longest words. -/
def maxLength : Nat := 15

/-- Whether words of the lengths exist and leave no bits without a symbol. A code may be incomplete
only when it has a single word. -/
def isComplete (lengths : List Nat) : Bool :=
  let used := lengths.filter (· ≠ 0)
  let share := used.foldl (fun share length => share + Nat.pow 2 (maxLength - length)) 0
  used.length ≤ 1 || share = Nat.pow 2 maxLength

/-- The canonical code with given lengths. -/
def ofLengths? (lengths : List Nat) : Option PrefixCode :=
  if isComplete lengths then
    some
      ((canonicalWords lengths).foldl (fun code (symbol, word) => code.insert symbol word) missing)
  else none

end PrefixCode

end ApiReplay.Archive
