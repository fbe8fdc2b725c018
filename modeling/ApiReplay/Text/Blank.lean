/-!
# White space and substrings

White space is the set of characters with the property of that name: the control characters from
tab to carriage return, the space, and the wider spaces and separators beyond ASCII.

## Main definitions

* `Text.isBlank`, `Text.trimStart`, `Text.trimEnd`, `Text.trim`: white space at the ends of a text.
* `Text.occursIn`: whether a text occurs inside another.
* `Text.splitAtEach`: the parts of a text between the occurrences of a character.
-/

namespace ApiReplay.Text

/-- Whether a character is white space. -/
def isBlank (c : Char) : Bool :=
  let n := c.toNat
  (0x09 ≤ n && n ≤ 0x0D) || n == 0x20 || n == 0x85 || n == 0xA0 || n == 0x1680
    || (0x2000 ≤ n && n ≤ 0x200A) || n == 0x2028 || n == 0x2029 || n == 0x202F || n == 0x205F
    || n == 0x3000

/-- The text without leading white space. -/
def trimStart (text : List Char) : List Char :=
  text.dropWhile isBlank

/-- The text without trailing white space. -/
def trimEnd (text : List Char) : List Char :=
  (text.reverse.dropWhile isBlank).reverse

/-- The text without white space at either end. -/
def trim (text : List Char) : List Char :=
  trimEnd (trimStart text)

/-- Whether `part` occurs somewhere in a text. -/
def occursIn (part : List Char) : List Char → Bool
  | [] => part.isEmpty
  | c :: rest => part.isPrefixOf (c :: rest) || occursIn part rest

/-- Whether `part` occurs somewhere in `whole`. -/
def occurs (part whole : String) : Bool :=
  occursIn part.toList whole.toList

/-- A text occurs inside another when that is made of it with something in front and behind. -/
theorem occursIn_iff {part whole : List Char} : occursIn part whole ↔ part <:+: whole := by
  induction whole with
  | nil => rw [occursIn, List.isEmpty_iff, List.infix_nil]
  | cons c rest ih =>
    rw [occursIn, Bool.or_eq_true, List.isPrefixOf_iff_prefix, ih, List.infix_cons_iff]

/-- The parts of a text between the occurrences of a separator; there is always at least one. -/
def splitAtEach (separator : Char) : List Char → List (List Char)
  | [] => [[]]
  | c :: rest =>
    if c = separator then [] :: splitAtEach separator rest
    else (splitAtEach separator rest).modifyHead (c :: ·)

theorem splitAtEach_eq_splitOn (separator : Char) (text : List Char) :
    splitAtEach separator text = text.splitOn separator := by
  induction text with
  | nil => rfl
  | cons c rest ih => simp [splitAtEach, ih, List.splitOn_cons_eq_if_modifyHead]

/-- The text between an opening and a closing character, when it starts and ends with them and
they are two characters of it. -/
def between? (first last : Char) : List Char → Option (List Char)
  | [] => none
  | c :: rest =>
    if c = first ∧ rest.getLast? = some last then some rest.dropLast else none

end ApiReplay.Text
