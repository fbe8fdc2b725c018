import ApiReplay.Text.CharSet

/-!
# Patterns

A pattern describes a set of pieces of a text together with conditions on the places around them.
Patterns are only ever searched for, so they carry neither groups nor a preference among matches.

## Main definitions

* `Place`: the conditions on a place between two characters.
* `Pattern`: the patterns.
* `Pattern.cost`: an estimate of a pattern's size with its repetitions written out.
-/

namespace ApiReplay

/-- A condition on a place in a text. Words are made of the characters of a set. -/
inductive Place where
  | textStart
  | textEnd
  | lineStart
  | lineEnd
  /-- The start of a line, when a carriage return ends a line too. -/
  | lineStartReturn
  /-- The end of a line, when a carriage return ends a line too. -/
  | lineEndReturn
  | wordBoundary (word : CharSet)
  | noWordBoundary (word : CharSet)
  | wordStart (word : CharSet)
  | wordEnd (word : CharSet)
  /-- No word character stands before the place. -/
  | wordStartHalf (word : CharSet)
  /-- No word character stands behind the place. -/
  | wordEndHalf (word : CharSet)

/-- A pattern to search for. -/
inductive Pattern where
  | empty
  /-- One character of a set. -/
  | one (set : CharSet)
  /-- Nothing, at a place that satisfies a condition. -/
  | place (condition : Place)
  | append (first second : Pattern)
  | either (first second : Pattern)
  /-- At least `least` and at most `most` times in a row, or as often as possible. -/
  | repeated (body : Pattern) (least : Nat) (most : Option Nat)

namespace Pattern

/-- The patterns of a list in a row. -/
def sequence (patterns : List Pattern) : Pattern :=
  patterns.foldr append empty

/-- Any of the patterns of a list. -/
def anyOf : List Pattern → Pattern
  | [] => .one .empty
  | [pattern] => pattern
  | pattern :: rest => either pattern (anyOf rest)

/-- An estimate of the room a pattern takes with its repetitions written out. -/
def cost : Pattern → Nat
  | empty => 1
  | one set => 32 + 40 * (set.ranges.length - 1)
  | place _ => 32
  | append first second => first.cost + second.cost
  | either first second => first.cost + second.cost + 32
  | repeated body least most => body.cost * (max 1 (max least (most.getD 0))) + 32

/-- Patterns of a larger cost are refused. -/
def costLimit : Nat := 10 * Nat.pow 2 20

end Pattern

end ApiReplay
