/-!
# Characters as bytes

A character is one to four bytes; the first byte tells how many follow, and in which range the
second lies. Bytes that fit no character are malformed parts: a part is what starts a character as
far as it could go on, or a single byte that starts none.

## Main definitions

* `Text.Pending`: a character of which some bytes are read.
* `Text.decodeParts`: the characters and the malformed parts of a list of bytes.
* `Text.decode?`, `Text.decodeLossy`: the characters, where malformed parts are refused or replaced.
* `Text.encode`: the bytes of a text.
-/

namespace ApiReplay.Text

/-- A character of which some bytes are read: its code so far, how many bytes are missing, and the
range of the next one. -/
structure Pending where
  code : Nat
  missing : Nat
  low : Nat := 0x80
  high : Nat := 0xBF

/-- What a first byte of several starts. -/
def Pending.ofFirst? (byte : Nat) : Option Pending :=
  if 0xC2 ≤ byte ∧ byte ≤ 0xDF then some { code := byte - 0xC0, missing := 1 }
  else if byte = 0xE0 then some { code := 0, missing := 2, low := 0xA0 }
  else if byte = 0xED then some { code := 0xD, missing := 2, high := 0x9F }
  else if 0xE1 ≤ byte ∧ byte ≤ 0xEF then some { code := byte - 0xE0, missing := 2 }
  else if byte = 0xF0 then some { code := 0, missing := 3, low := 0x90 }
  else if byte = 0xF4 then some { code := 4, missing := 3, high := 0x8F }
  else if 0xF1 ≤ byte ∧ byte ≤ 0xF3 then some { code := byte - 0xF0, missing := 3 }
  else none

/-- What remains of a character behind its next byte, when the byte continues it. -/
def Pending.next? (p : Pending) (byte : Nat) : Option Pending :=
  if p.low ≤ byte ∧ byte ≤ p.high then
    some { code := p.code * 64 + (byte - 0x80), missing := p.missing - 1 }
  else none

/-- The parts that a byte at the start of a character completes, and the character it starts. -/
def startPart (byte : Nat) : List (Option Char) × Option Pending :=
  if byte < 0x80 then ([some (Char.ofNat byte)], none)
  else
    match Pending.ofFirst? byte with
    | some p => ([], some p)
    | none => ([none], none)

/-- The parts that a byte completes, and the character that is then begun. -/
def nextPart (pending : Option Pending) (byte : Nat) : List (Option Char) × Option Pending :=
  match pending with
  | none => startPart byte
  | some p =>
    match p.next? byte with
    | some p => if p.missing = 0 then ([some (Char.ofNat p.code)], none) else ([], some p)
    | none =>
      let (parts, pending) := startPart byte
      (none :: parts, pending)

/-- The characters of a list of bytes behind the start of a character; a malformed part is none. -/
def decodeFrom : Option Pending → List UInt8 → List (Option Char)
  | none, [] => []
  | some _, [] => [none]
  | pending, byte :: rest =>
    let (parts, pending) := nextPart pending byte.toNat
    parts ++ decodeFrom pending rest

/-- The characters of a list of bytes; a malformed part is none. -/
def decodeParts (bytes : List UInt8) : List (Option Char) :=
  decodeFrom none bytes

/-- The text of a list of bytes without malformed parts. -/
def decode? (bytes : List UInt8) : Option String :=
  ((decodeParts bytes).mapM id).map String.ofList

/-- The sign that stands for a malformed part. -/
def replacement : Char := '\uFFFD'

/-- The characters of a list of bytes, with malformed parts replaced. -/
def decodeLossy (bytes : List UInt8) : List Char :=
  (decodeParts bytes).map (·.getD replacement)

/-- The bytes of a text. -/
def encode (text : List Char) : List UInt8 :=
  text.flatMap String.utf8EncodeChar

end ApiReplay.Text
