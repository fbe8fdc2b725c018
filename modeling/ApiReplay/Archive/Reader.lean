import ApiReplay.Archive.Basic
import ApiReplay.Archive.Checksum
import ApiReplay.Archive.Deflate
import ApiReplay.Archive.Name
import ApiReplay.Entries

/-!
# Reading archives

The table of contents stands at the end of an archive and is found through its last record. Each
record before it describes one entry and tells where that starts. Anything may stand in front of an
archive: all positions are then shifted. Of two entries of one name the last counts, at the place of
the first.

## Main definitions

* `Archive.Tail`, `Archive.Tail.shift`: the last record, and how far positions are shifted.
* `Archive.Record`, `Archive.Record.contents`: a record, and the contents of its entry.
* `Archive.read`: the entries of an archive.
-/

namespace ApiReplay.Archive

/-! ### Fields -/

/-- The number that bytes write, the lowest first. -/
def value : List UInt8 → Nat
  | [] => 0
  | byte :: rest => byte.toNat + 256 * value rest

/-- The number in a field of so many bytes. -/
def fieldAt (start width : Nat) (bytes : List UInt8) : Nat :=
  value ((bytes.drop start).take width)

/-- The mark at the start of the header of an entry. -/
def headerMark : List UInt8 := [0x50, 0x4B, 0x03, 0x04]

/-- The mark at the start of a record of the table of contents. -/
def recordMark : List UInt8 := [0x50, 0x4B, 0x01, 0x02]

/-- The mark at the start of the last record. -/
def tailMark : List UInt8 := [0x50, 0x4B, 0x05, 0x06]

/-- The positions of a mark in bytes that start at a position. -/
def positionsFrom (mark : List UInt8) : Nat → List UInt8 → List Nat
  | _, [] => []
  | position, byte :: rest =>
    let more := positionsFrom mark (position + 1) rest
    if mark.isPrefixOf (byte :: rest) then position :: more else more

/-- The positions of a mark. -/
def positions (mark bytes : List UInt8) : List Nat :=
  positionsFrom mark 0 bytes

/-! ### The last record -/

/-- The last record of the table of contents. -/
structure Tail where
  position : Nat
  /-- The disk that the record is on, and the one where the table of contents starts. -/
  disks : Nat × Nat
  /-- How many entries this disk has, and how many there are. -/
  counts : Nat × Nat
  /-- Where the table of contents starts, before any shift. -/
  start : Nat

namespace Tail

/-- The last record at a position. -/
def read (bytes : List UInt8) (position : Nat) : Except Fault Tail :=
  let record := bytes.drop position
  if record.length < 22 then .error .ended
  else if record.length < 22 + fieldAt 20 2 record then .error .remark
  else
    .ok {
      position
      disks := (fieldAt 4 2 record, fieldAt 6 2 record)
      counts := (fieldAt 8 2 record, fieldAt 10 2 record)
      start := fieldAt 16 4 record }

/-- How far positions are shifted: the table of contents starts with the first record that is
found. -/
def shift (tail : Tail) (bytes : List UInt8) : Except Fault Nat :=
  if tail.counts.2 = 0 then .ok (tail.position - tail.start)
  else if tail.position ≤ tail.start then .error .directoryStart
  else
    match positions recordMark ((bytes.take tail.position).drop tail.start) with
    | [] => .error .noRecord
    | shift :: _ => .ok shift

end Tail

/-! ### Records -/

/-- A record of the table of contents. -/
structure Record where
  isEncrypted : Bool
  method : Nat
  checksum : Nat
  /-- The number of bytes that the contents take in the archive. -/
  size : Nat
  name : String
  /-- Where the header of the entry starts. -/
  start : Nat

namespace Record

/-- The method of contents that are encrypted in a newer way, which tell their real method
elsewhere. -/
def wrappedMethod : Nat := 99

/-- The record that starts bytes, and what follows it. -/
def read? (shift : Nat) (bytes : List UInt8) : Option (Record × List UInt8) :=
  let nameLength := fieldAt 28 2 bytes
  let length := 46 + nameLength + fieldAt 30 2 bytes + fieldAt 32 2 bytes
  let method := fieldAt 10 2 bytes
  if bytes.length < length ∨ !recordMark.isPrefixOf bytes ∨ method = wrappedMethod then none
  else
    let flags := fieldAt 8 2 bytes
    let record : Record := {
      isEncrypted := flags.testBit 0
      method
      checksum := fieldAt 16 4 bytes
      size := fieldAt 20 4 bytes
      name := nameOf (!flags.testBit 11) ((bytes.drop 46).take nameLength)
      start := fieldAt 42 4 bytes + shift }
    some (record, bytes.drop length)

/-- So many records one after the other. -/
def readAll? (shift : Nat) : Nat → List UInt8 → Option (List Record)
  | 0, _ => some []
  | count + 1, bytes => do
    let (record, rest) ← read? shift bytes
    some (record :: (← readAll? shift count rest))

/-- Where the contents start in the archive. -/
def contentsStart (bytes : List UInt8) (record : Record) : Except Fault Nat :=
  let header := bytes.drop record.start
  if header.length < 30 then .error .ended
  else if !headerMark.isPrefixOf header then .error .noHeader
  else .ok (record.start + 30 + fieldAt 26 2 header + fieldAt 28 2 header)

/-- Contents that are compared with the checksum of a record. -/
def checked (record : Record) (bytes : List UInt8) : Contents :=
  { bytes,
    fault := if (Archive.checksum bytes).toNat = record.checksum then none else some .checksum }

/-- The contents of the entry of a record. Of a corrupt stream nothing is kept. -/
def contents (bytes : List UInt8) (record : Record) : Except Fault Contents :=
  if record.isEncrypted then .error .encrypted
  else do
    let start ← record.contentsStart bytes
    let packed := (bytes.drop start).take record.size
    match record.method with
    | 0 => .ok (record.checked packed)
    | 8 =>
      match inflate packed with
      | some plain => .ok (record.checked plain)
      | none => .ok { bytes := [], fault := some .corrupt }
    | _ => .error .method

end Record

/-! ### Archives -/

/-- The records that a last record leads to. An archive in several parts has none. -/
def records? (bytes : List UInt8) (tail : Tail) (shift : Nat) : Option (List Record) :=
  if tail.disks.1 = tail.disks.2 then
    Record.readAll? shift tail.counts.1 (bytes.drop (tail.start + shift))
  else none

/-- The records of the first last record that leads to any. -/
def findRecords (bytes : List UInt8) (fault : Fault) : List Nat → Except Fault (List Record)
  | [] => .error fault
  | position :: rest =>
    match Tail.read bytes position with
    | .error fault => findRecords bytes fault rest
    | .ok tail =>
      match tail.shift bytes with
      | .error fault => findRecords bytes fault rest
      | .ok shift =>
        match records? bytes tail shift with
        | some records => .ok records
        | none => findRecords bytes .noDirectory rest

/-- The entries of an archive. -/
def read (bytes : List UInt8) : Except Fault (List Entry) :=
  (findRecords bytes .noDirectory (positions tailMark bytes).reverse).map fun records =>
    (Entries.ofList (records.map fun record => (record.name, record))).map fun (name, record) =>
      { name, contents := record.contents bytes }

end ApiReplay.Archive
