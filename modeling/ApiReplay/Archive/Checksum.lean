/-!
# Checksums

The checksum of a list of bytes is the remainder of the polynomial that its bits write, lowest bits
first, with the first and the last 32 bits turned round.

## Main definitions

* `Archive.checksum`: the checksum of a list of bytes.
-/

namespace ApiReplay.Archive

/-- The remainder behind one more bit. -/
def shiftRemainder (remainder : UInt32) : UInt32 :=
  if remainder &&& 1 = 1 then (remainder >>> 1) ^^^ 0xEDB88320 else remainder >>> 1

/-- The remainder behind one more byte. -/
def addToRemainder (remainder : UInt32) (byte : UInt8) : UInt32 :=
  Nat.repeat shiftRemainder 8 (remainder ^^^ byte.toUInt32)

/-- The checksum of a list of bytes. -/
def checksum (bytes : List UInt8) : UInt32 :=
  bytes.foldl addToRemainder 0xFFFFFFFF ^^^ 0xFFFFFFFF

end ApiReplay.Archive
