import ApiReplay.Pattern.Reader
import ApiReplay.Pattern.Search
import ApiReplay.Json.Text
import ApiReplay.Text.Blank

/-!
# Matching of values

An actual value matches an expected one when they agree, when the actual value contains the expected
one, or when the expected value is a pattern literal that occurs in the actual one. Agreement looks
through the kind of numbers and through the order of entries.

## Main definitions

* `Json.agrees`: agreement.
* `Json.contains`: an item of an array, a key of an object, a part of a text.
* `Json.satisfiesPattern`: the pattern literal.
* `Json.satisfies`: matching.
* `Json.elementCount?`, `Json.isTruthy`, `Json.isFalsy`, `Json.order?`: the other tests of values.
-/

namespace ApiReplay.Json

mutual

/-- Whether two trees agree: numbers with the same nearest double, arrays item by item, objects of
the same size whose entries agree key by key, and any others when they are the same. -/
@[simp]
def agrees : Json → Json → Bool
  | .null, .null => true
  | .bool a, .bool b => a == b
  | .number a, .number b => a.approx == b.approx
  | .string a, .string b => a == b
  | .array as, .array bs => agreeItems as bs
  | .object as, .object bs => as.length == bs.length && agreeEntries as bs
  | _, _ => false

/-- Whether two lists of items agree. -/
def agreeItems : List Json → List Json → Bool
  | [], [] => true
  | a :: as, b :: bs => agrees a b && agreeItems as bs
  | _, _ => false

/-- Whether each entry agrees with the one of the same key. -/
def agreeEntries : List (String × Json) → List (String × Json) → Bool
  | [], _ => true
  | (key, a) :: as, bs =>
    (match Entries.find? key bs with
      | some b => agrees a b
      | none => false) && agreeEntries as bs

end

/-- Whether a value contains another: as an item, as a key, or as a part of a text. -/
def contains : Json → Json → Bool
  | .array items, member => items.any fun item => agrees item member
  | .object entries, .string key => (Entries.find? key entries).isSome
  | .string text, .string part => Text.occurs part text
  | _, _ => false

/-- The pattern between the slashes of a literal. A literal that goes over several lines is read
with blanks and comments passed over. -/
def literalPattern? (literal : String) : Option Pattern :=
  match Text.between? '/' '/' (Text.trim literal.toList) with
  | some inner => Pattern.compile? (inner.contains '\n') (String.ofList (Text.trim inner))
  | none => none

/-- Whether the expected value is a pattern literal that occurs in the text of the actual one. -/
def satisfiesPattern (actual : Json) : Json → Bool
  | .string literal => (literalPattern? literal).any fun pattern => pattern.isIn actual.plainText
  | _ => false

/-- Whether an actual value matches an expected one. -/
def satisfies (actual expected : Json) : Bool :=
  agrees actual expected || contains actual expected || satisfiesPattern actual expected

/-- The number of characters, items or entries. -/
def elementCount? : Json → Option Nat
  | .string s => some s.length
  | .array items => some items.length
  | .object entries => some entries.length
  | _ => none

/-- Whether a value passes for true: null, false, zero, the empty text and `false` do not. -/
def isTruthy : Json → Bool
  | .null => false
  | .bool b => b
  | .string s => s != "" && s != "false"
  | .number n => n.approx != 0
  | _ => true

/-- Whether a value passes for false: null, false and the text `false` do. -/
def isFalsy : Json → Bool
  | .null => true
  | .bool b => !b
  | .string s => s == "false"
  | _ => false

/-- The order of two numbers or of two texts. Numbers are compared by their nearest doubles, texts
by code points. -/
def order? : Json → Json → Option Ordering
  | .number a, .number b => some (compareOfLessAndEq a.approx b.approx)
  | .string a, .string b => some (compareOfLessAndEq a b)
  | _, _ => none

end ApiReplay.Json
