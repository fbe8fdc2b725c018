import ApiReplay.Number

/-!
# Faults of file operations

## Main definitions

* `Files.Refusal`: what the system beneath does not allow.
* `Files.Fault`, `Files.Fault.message`: why a file operation failed, and its wording.
-/

namespace ApiReplay.Files

/-- A reason of the system beneath, such as missing permission or a lack of space, not to do what
could be done otherwise. -/
structure Refusal where
  code : Nat
  reason : String
deriving DecidableEq

/-- Why a file operation failed. -/
inductive Fault where
  | notFound
  | exists
  | notDirectory
  | isDirectory
  /-- The contents of a file are no text. -/
  | notText
  /-- The compressed contents of an entry of an archive are no stream. -/
  | corrupt
  /-- The contents of an entry of an archive do not agree with their checksum. -/
  | checksum
  | refused (refusal : Refusal)
deriving DecidableEq

/-- The wording of a fault. -/
def Fault.message : Fault → String
  | notFound => "No such file or directory (os error 2)"
  | .exists => "File exists (os error 17)"
  | notDirectory => "Not a directory (os error 20)"
  | isDirectory => "Is a directory (os error 21)"
  | notText => "stream did not contain valid UTF-8"
  | corrupt => "corrupt deflate stream"
  | checksum => "Invalid checksum"
  | refused refusal => refusal.reason ++ " (os error " ++ natText refusal.code ++ ")"

end ApiReplay.Files
