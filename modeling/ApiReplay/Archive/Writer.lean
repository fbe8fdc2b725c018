import ApiReplay.Archive.Checksum
import ApiReplay.Archive.Deflate
import ApiReplay.Archive.Reader

/-!
# Writing archives

Files and directories are written one after the other, each behind a header, and the table of
contents follows. Files are compressed in a single block of the fixed code without repetitions.

## Main definitions

* `Archive.deflate`: a compressed stream of given bytes.
* `Archive.Item`, `Archive.write`: an archive of given files and directories.
-/

namespace ApiReplay.Archive

/-! ### Compressed streams -/

/-- The words of the fixed code. -/
def fixedWords : List (Nat × List Bool) :=
  canonicalWords fixedLengths

/-- The word of a symbol in the fixed code. -/
def fixedWord (symbol : Nat) : List Bool :=
  (fixedWords.lookup symbol).getD []

/-- The number that bits write, the lowest first. -/
def bitsValue (bits : List Bool) : Nat :=
  bits.foldr (fun bit rest => bit.toNat + 2 * rest) 0

/-- The bytes that bits fill, the lowest bit first. -/
def packBits : Nat → List Bool → List UInt8
  | 0, _ | _, [] => []
  | fuel + 1, bits => UInt8.ofNat (bitsValue (bits.take 8)) :: packBits fuel (bits.drop 8)

/-- A compressed stream of given bytes. -/
def deflate (bytes : List UInt8) : List UInt8 :=
  let coded := (bytes.map UInt8.toNat ++ [256]).flatMap fixedWord
  packBits (coded.length + 1) ([true, true, false] ++ coded)

/-! ### Items -/

/-- A file or a directory that is written. -/
structure Item where
  name : String
  /-- The contents of a file. -/
  contents : Option (List UInt8)

namespace Item

/-- The name as it is written; that of a directory ends in a slash. -/
def path (item : Item) : String :=
  if item.contents.isNone ∧ item.name.toList.getLast? ≠ some '/' then item.name ++ "/"
  else item.name

/-- The bytes of the contents as they are written. -/
def packed (item : Item) : List UInt8 :=
  item.contents.elim [] deflate

/-- A number in so many bytes, the lowest first. -/
def field (width number : Nat) : List UInt8 :=
  (List.range width).map fun index => UInt8.ofNat (number / Nat.pow 256 index % 256)

/-- The fields that the header and the record have in common. -/
def common (item : Item) : List UInt8 :=
  let name := Text.encode item.path.toList
  let plain := item.contents.getD []
  field 2 20 ++ field 2 (if name.all (· < 0x80) then 0 else Nat.pow 2 11)
    ++ field 2 (if item.contents.isSome then 8 else 0) ++ field 4 0
    ++ field 4 (checksum plain).toNat ++ field 4 item.packed.length ++ field 4 plain.length
    ++ field 2 name.length ++ field 2 0

/-- The header and the contents. -/
def body (item : Item) : List UInt8 :=
  headerMark ++ item.common ++ Text.encode item.path.toList ++ item.packed

/-- The record of an item whose header starts at a position. -/
def record (item : Item) (start : Nat) : List UInt8 :=
  recordMark ++ field 2 20 ++ item.common ++ field 2 0 ++ field 2 0 ++ field 2 0 ++ field 4 0
    ++ field 4 start ++ Text.encode item.path.toList

end Item

/-! ### Archives -/

/-- The records of items of which the first starts at a position. -/
def recordsFrom (start : Nat) : List Item → List UInt8
  | [] => []
  | item :: rest => item.record start ++ recordsFrom (start + item.body.length) rest

/-- An archive of given files and directories. -/
def write (items : List Item) : List UInt8 :=
  let bodies := items.flatMap Item.body
  let records := recordsFrom 0 items
  bodies ++ records ++ tailMark ++ Item.field 4 0 ++ Item.field 2 items.length
    ++ Item.field 2 items.length ++ Item.field 4 records.length ++ Item.field 4 bodies.length
    ++ Item.field 2 0

end ApiReplay.Archive
