import ApiReplay.Json.Basic

/-!
# The compact text of a tree

The compact text has no blanks. A text is written between quotes with `"`, `\` and the control
characters below `U+0020` escaped, and every other character as it is.

## Main definitions

* `Json.escape`, `Json.quote`: a character and a text as they are written.
* `Json.chars`, `Json.text`: the compact text of a tree.
* `Json.plainText`: a text as it is, any other tree by its compact text.
-/

namespace ApiReplay.Json

/-- The lower-case hexadecimal digit of a number below sixteen. -/
def hexDigit (n : Nat) : Char :=
  Nat.digitChar n

/-- A character as it is written between quotes. -/
def escape (c : Char) : List Char :=
  if c = '"' then ['\\', '"']
  else if c = '\\' then ['\\', '\\']
  else if c = '\n' then ['\\', 'n']
  else if c = '\r' then ['\\', 'r']
  else if c = '\t' then ['\\', 't']
  else if c = '\x08' then ['\\', 'b']
  else if c = '\x0c' then ['\\', 'f']
  else if c.toNat < 0x20 then
    ['\\', 'u', '0', '0', hexDigit (c.toNat / 16), hexDigit (c.toNat % 16)]
  else [c]

/-- A text between quotes. -/
def quote (s : String) : List Char :=
  '"' :: (s.toList.flatMap escape ++ ['"'])

mutual

/-- The compact text of a tree. -/
def chars : Json → List Char
  | .null => ['n', 'u', 'l', 'l']
  | .bool true => ['t', 'r', 'u', 'e']
  | .bool false => ['f', 'a', 'l', 's', 'e']
  | .number n => n.chars
  | .string s => quote s
  | .array items => '[' :: (itemChars items ++ [']'])
  | .object entries => '{' :: (entryChars entries ++ ['}'])

/-- The items of an array, with commas between them. -/
def itemChars : List Json → List Char
  | [] => []
  | [item] => chars item
  | item :: rest => chars item ++ ',' :: itemChars rest

/-- The entries of an object, with commas between them. -/
def entryChars : List (String × Json) → List Char
  | [] => []
  | [(key, value)] => quote key ++ ':' :: chars value
  | (key, value) :: rest => quote key ++ ':' :: (chars value ++ ',' :: entryChars rest)

end

/-- The compact text of a tree. -/
def text (tree : Json) : String :=
  String.ofList tree.chars

/-- A text stands for itself; any other tree is written compactly. -/
def plainText : Json → String
  | .string s => s
  | tree => tree.text

end ApiReplay.Json
