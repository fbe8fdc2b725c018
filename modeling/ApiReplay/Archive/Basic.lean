import ApiReplay.Files.Fault

/-!
# Archives

An archive is a list of entries with names and contents. A damaged entry cannot be opened at all, or
its contents break off.

## Main definitions

* `Archive.Contents`, `Archive.Entry`: entries and what they hold.
* `Archive.Fault`, `Archive.Fault.message`: why an archive or an entry cannot be opened.
-/

namespace ApiReplay.Archive

/-- Why an archive or an entry of it cannot be opened. -/
inductive Fault where
  /-- There is no table of contents. -/
  | noDirectory
  /-- The remark behind the table of contents is longer than the archive. -/
  | remark
  /-- The table of contents starts behind its end. -/
  | directoryStart
  /-- There is no first record where the table of contents should start. -/
  | noRecord
  /-- The archive ends too early. -/
  | ended
  /-- An entry has no header. -/
  | noHeader
  | encrypted
  | method
deriving DecidableEq

/-- The wording of a fault. -/
def Fault.message : Fault → String
  | noDirectory => "invalid Zip archive: Could not find EOCD"
  | remark => "invalid Zip archive: EOCD comment exceeds file boundary"
  | directoryStart => "invalid Zip archive: Invalid CDFH offset in EOCD"
  | noRecord => "invalid Zip archive: No CDFH found"
  | ended => "i/o error: failed to fill whole buffer"
  | noHeader => "invalid Zip archive: Invalid local file header"
  | encrypted => "unsupported Zip archive: Password required to decrypt file"
  | method => "unsupported Zip archive: Compression method not supported"

/-- The contents of an entry, as far as they can be read. -/
structure Contents where
  bytes : List UInt8
  /-- What is wrong with the contents, told behind the bytes. -/
  fault : Option Files.Fault := none
deriving DecidableEq

/-- An entry of an archive, with its contents if it can be opened. -/
structure Entry where
  name : String
  contents : Except Fault Contents

end ApiReplay.Archive
