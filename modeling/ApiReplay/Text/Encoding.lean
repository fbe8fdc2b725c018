import ApiReplay.Text.CodePage
import ApiReplay.Text.Utf8

/-!
# Encodings of text

A label tells how the bytes of a text stand for its characters. The bytes may tell themselves by a
mark in front, which counts more than the label and is no part of the text. Malformed bytes are
replaced.

## Main definitions

* `Text.Encoding`, `Text.Encoding.ofLabel?`: the encodings and their labels.
* `Text.Encoding.decode`: the text of bytes.
-/

namespace ApiReplay.Text

/-- A way in which bytes stand for characters. -/
inductive Encoding where
  | utf8
  | utf16 (bigEndian : Bool)
  /-- One byte stands for each character. -/
  | byteWise (page : CodePage)
  /-- An encoding that is refused: one replacement character stands for any bytes. -/
  | refused
deriving DecidableEq

namespace Encoding

/-- The encodings with their labels, in lower case. -/
def labelled : List (Encoding × List String) :=
  [(utf8, ["unicode-1-1-utf-8", "unicode11utf8", "unicode20utf8", "utf-8", "utf8",
      "x-unicode20utf8"]),
    (utf16 false, ["csunicode", "iso-10646-ucs-2", "ucs-2", "unicode", "unicodefeff", "utf-16",
      "utf-16le"]),
    (utf16 true, ["unicodefffe", "utf-16be"]),
    (refused, ["csiso2022kr", "hz-gb-2312", "iso-2022-cn", "iso-2022-cn-ext", "iso-2022-kr",
      "replacement"])] ++
    CodePage.labelled.map fun entry => (byteWise entry.1, entry.2)

/-- Whether a character is white space around a label. -/
def isLabelSpace (c : Char) : Bool :=
  c = ' ' || c = '\t' || c = '\n' || c = '\x0c' || c = '\r'

/-- The encoding of a label, without regard to case and to white space around it. -/
def ofLabel? (label : List Char) : Option Encoding :=
  let label := ((label.dropWhile isLabelSpace).reverse.dropWhile isLabelSpace).reverse
  let name := String.ofList (label.map Char.toLower)
  (labelled.find? fun entry => entry.2.contains name).map Prod.fst

/-! ### Decoding -/

/-- The units of two bytes each, and whether a byte is left. -/
def units (bigEndian : Bool) : List UInt8 → List Nat × Bool
  | a :: b :: rest =>
    let unit := if bigEndian then a.toNat * 256 + b.toNat else b.toNat * 256 + a.toNat
    let (more, left) := units bigEndian rest
    (unit :: more, left)
  | [_] => ([], true)
  | [] => ([], false)

/-- The characters of units, of which some count in pairs. -/
def unitChars : List Nat → List Char
  | a :: b :: rest =>
    if 0xD800 ≤ a ∧ a < 0xDC00 then
      if 0xDC00 ≤ b ∧ b < 0xE000 then
        Char.ofNat (0x10000 + (a - 0xD800) * 1024 + (b - 0xDC00)) :: unitChars rest
      else replacement :: unitChars (b :: rest)
    else (if a.isValidChar then Char.ofNat a else replacement) :: unitChars (b :: rest)
  | [a] => [if a.isValidChar then Char.ofNat a else replacement]
  | [] => []

/-- The characters of bytes without a mark. -/
def decodePlain (bytes : List UInt8) : Encoding → List Char
  | utf8 => decodeLossy bytes
  | utf16 bigEndian =>
    let (units, left) := units bigEndian bytes
    unitChars units ++ if left then [replacement] else []
  | byteWise page => bytes.map fun b => (page.char? b).getD replacement
  | refused => if bytes.isEmpty then [] else [replacement]

/-- The text of bytes in an encoding, unless a mark in front tells another one. -/
def decode (encoding : Encoding) : List UInt8 → String
  | 0xEF :: 0xBB :: 0xBF :: rest => String.ofList (decodePlain rest utf8)
  | 0xFF :: 0xFE :: rest => String.ofList (decodePlain rest (utf16 false))
  | 0xFE :: 0xFF :: rest => String.ofList (decodePlain rest (utf16 true))
  | bytes => String.ofList (decodePlain bytes encoding)

end Encoding

end ApiReplay.Text
