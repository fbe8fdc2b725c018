import ApiReplay.Pattern.Basic

/-!
# Searching for a pattern

A text is searched by following all possibilities at once. Places of a text are numbered from zero;
`Pattern.ends` takes the places where a pattern may start to those where it may end. A repetition
without an upper limit is followed until no new place turns up, so a search takes time polynomial in
the length of the text.

## Main definitions

* `Place.holds`: whether a place of a text satisfies a condition.
* `Pattern.ends`: the places where a pattern may end.
* `Pattern.isIn`: whether a pattern occurs anywhere in a text.
-/

namespace ApiReplay

/-- Whether the character at an index belongs to a set; there is none beyond the text. -/
def CharSet.containsAt (set : CharSet) (text : Array Char) (index : Nat) : Bool :=
  (text[index]?).any set.contains

/-- Whether a word character stands right before a place. -/
def CharSet.containsBefore (set : CharSet) (text : Array Char) (place : Nat) : Bool :=
  place ≠ 0 && set.containsAt text (place - 1)

namespace Place

/-- Whether the character right before a place is `c`. -/
def isAfter (c : Char) (text : Array Char) (place : Nat) : Bool :=
  place ≠ 0 && text[place - 1]? == some c

/-- Whether a place of a text satisfies the condition. -/
def holds (text : Array Char) (place : Nat) : Place → Bool
  | textStart => place == 0
  | textEnd => place == text.size
  | lineStart => place == 0 || isAfter '\n' text place
  | lineEnd => place == text.size || text[place]? == some '\n'
  | lineStartReturn =>
    place == 0 || isAfter '\n' text place
      || (isAfter '\r' text place && text[place]? != some '\n')
  | lineEndReturn =>
    place == text.size || text[place]? == some '\r'
      || (text[place]? == some '\n' && !isAfter '\r' text place)
  | wordBoundary word => word.containsBefore text place != word.containsAt text place
  | noWordBoundary word => word.containsBefore text place == word.containsAt text place
  | wordStart word => !word.containsBefore text place && word.containsAt text place
  | wordEnd word => word.containsBefore text place && !word.containsAt text place
  | wordStartHalf word => !word.containsBefore text place
  | wordEndHalf word => !word.containsAt text place

end Place

namespace Pattern

/-- The members of two increasing lists, in increasing order. -/
def mergePlaces : List Nat → List Nat → List Nat
  | [], bs => bs
  | as, [] => as
  | a :: as, b :: bs =>
    if a < b then a :: mergePlaces as (b :: bs)
    else if b < a then b :: mergePlaces (a :: as) bs
    else a :: mergePlaces as bs

/-- The members of the first increasing list that are not in the second. -/
def removePlaces : List Nat → List Nat → List Nat
  | [], _ => []
  | as, [] => as
  | a :: as, b :: bs =>
    if a < b then a :: removePlaces as (b :: bs)
    else if b < a then removePlaces (a :: as) bs
    else removePlaces as bs

/-- Follows `next` a number of times. -/
def iterate (next : List Nat → List Nat) : Nat → List Nat → List Nat
  | 0, places => places
  | n + 1, places => if places.isEmpty then [] else iterate next n (next places)

/-- All places reached from `places` in at most a number of rounds of `next`. A round starts only
from the places that the one before it reached first. -/
def spread (next : List Nat → List Nat) : Nat → List Nat → List Nat → List Nat
  | 0, _, reached => reached
  | n + 1, places, reached =>
    match removePlaces (next places) reached with
    | [] => reached
    | new => spread next n new (mergePlaces reached new)

/-- The places where the pattern may end, when it starts at one of the given places. -/
def ends (text : Array Char) : Pattern → List Nat → List Nat
  | empty, places => places
  | one set, places =>
    places.filterMap fun i => if set.containsAt text i then some (i + 1) else none
  | place condition, places => places.filter fun i => condition.holds text i
  | append first second, places => ends text second (ends text first places)
  | either first second, places => mergePlaces (ends text first places) (ends text second places)
  | repeated body least most, places =>
    let start := iterate (fun places => ends text body places) least places
    let rounds := match most with
      | none => text.size + 1
      | some m => m - least
    spread (fun places => ends text body places) rounds start start

/-- Whether the pattern occurs anywhere in a text. -/
def isIn (pattern : Pattern) (text : String) : Bool :=
  let characters := text.toList.toArray
  !(pattern.ends characters (List.range (characters.size + 1))).isEmpty

end Pattern

end ApiReplay
