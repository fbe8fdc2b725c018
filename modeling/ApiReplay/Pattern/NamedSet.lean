import ApiReplay.Text.Blank
import ApiReplay.Text.Category
import ApiReplay.Text.Property
import ApiReplay.Text.Script

/-!
# Named sets of characters

Patterns name sets of characters by a letter (`\d`, `\s`, `\w`), by a word between `[:` and `:]`,
and by a category, script or property of the character standard. Names of the last kind are read
without regard to case, blanks, `_` and `-`, and an `is` in front of them is dropped.

## Main definitions

* `NamedSet.digit`, `NamedSet.blank`, `NamedSet.word` and their ASCII counterparts.
* `NamedSet.bracketed?`: the sets named between `[:` and `:]`.
* `NamedSet.standard?`: the sets named by the character standard.
-/

namespace ApiReplay.NamedSet

open Text

/-! ### Sets named by a letter -/

/-- The decimal digits of all scripts. -/
def digit : CharSet :=
  categorySet "Nd"

/-- White space. -/
def blank : CharSet :=
  boundarySet whiteSpaceTable

/-- The characters of words: letters, marks, decimal digits, connecting punctuation and the two
joiners. -/
def word : CharSet :=
  [categorySet "M", digit, categorySet "Pc", boundarySet joinControlTable].foldl
    CharSet.union (boundarySet alphabeticTable)

/-- The ten ASCII digits. -/
def asciiDigit : CharSet :=
  .ofRanges [(0x30, 0x39)]

/-- The ASCII blanks. -/
def asciiBlank : CharSet :=
  .ofRanges [(0x09, 0x0D), (0x20, 0x20)]

/-- The ASCII characters of words. -/
def asciiWord : CharSet :=
  .ofRanges [(0x30, 0x39), (0x41, 0x5A), (0x5F, 0x5F), (0x61, 0x7A)]

/-! ### Sets named between brackets -/

/-- The set named by a word between `[:` and `:]`. -/
def bracketed? (name : String) : Option CharSet :=
  (ranges? name).map CharSet.ofRanges
where
  /-- The ranges of the set. -/
  ranges? : String → Option (List (Nat × Nat))
    | "alnum" => some [(0x30, 0x39), (0x41, 0x5A), (0x61, 0x7A)]
    | "alpha" => some [(0x41, 0x5A), (0x61, 0x7A)]
    | "ascii" => some [(0, 0x7F)]
    | "blank" => some [(0x09, 0x09), (0x20, 0x20)]
    | "cntrl" => some [(0, 0x1F), (0x7F, 0x7F)]
    | "digit" => some [(0x30, 0x39)]
    | "graph" => some [(0x21, 0x7E)]
    | "lower" => some [(0x61, 0x7A)]
    | "print" => some [(0x20, 0x7E)]
    | "punct" => some [(0x21, 0x2F), (0x3A, 0x40), (0x5B, 0x60), (0x7B, 0x7E)]
    | "space" => some [(0x09, 0x0D), (0x20, 0x20)]
    | "upper" => some [(0x41, 0x5A)]
    | "word" => some [(0x30, 0x39), (0x41, 0x5A), (0x5F, 0x5F), (0x61, 0x7A)]
    | "xdigit" => some [(0x30, 0x39), (0x41, 0x46), (0x61, 0x66)]
    | _ => none

/-! ### Sets of the character standard -/

/-- A name in lower case, with ASCII characters only and without separators. -/
def squeeze (name : List Char) : List Char :=
  (name.filter fun c => c.toNat < 0x80 && c ≠ ' ' && c ≠ '_' && c ≠ '-').map Char.toLower

/-- The form in which names are compared. An `is` in front is no part of the name, except that
`isc` is a name of its own. -/
def normalize (name : List Char) : String :=
  let plain := squeeze name
  if (name.take 2).map Char.toLower = ['i', 's'] ∧ plain ≠ ['i', 's', 'c'] then
    String.ofList (squeeze (name.drop 2))
  else String.ofList plain

/-- The set with a name of its own. Three names are those of categories only. -/
def single? (name : String) : Option CharSet :=
  let property := if ["cf", "sc", "lc"].contains name then none else property? name
  property <|> category? name <|> script? name

/-- The set of the characters for which a property has a value. -/
def valued? (property value : String) : Option CharSet :=
  if ["gc", "generalcategory"].contains property then category? value
  else if ["sc", "script", "scx", "scriptextensions"].contains property then script? value
  else none

/-- Splits a name at the first `=`, `:` or `!=`; the result tells whether it was the last. -/
def splitValue (read : List Char) : List Char → Option (List Char × Bool × List Char)
  | [] => none
  | '!' :: '=' :: rest => some (read.reverse, true, rest)
  | c :: rest =>
    if c = '=' ∨ c = ':' then some (read.reverse, false, rest) else splitValue (c :: read) rest

/-- The set named by a category, script or property, or by a property and its value. -/
def standard? (name : List Char) : Option CharSet :=
  match splitValue [] name with
  | none => single? (normalize name)
  | some (property, negated, value) =>
    (valued? (normalize property) (normalize value)).map fun set =>
      if negated then set.complement else set

end ApiReplay.NamedSet
