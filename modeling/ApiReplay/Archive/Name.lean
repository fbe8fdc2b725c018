import ApiReplay.Files.Path
import ApiReplay.Text.Utf8

/-!
# Names in archives

The names of entries are paths with slashes. Old archives write them with one byte for each
character. An archive of a repository keeps everything inside one directory, which is left out when
its entries are unpacked. A name is good only when no beginning of it leads out of the place where
it starts.

## Main definitions

* `Archive.nameOf`: a name from its bytes.
* `Archive.isEnclosed`, `Archive.inner?`: good names, and what they are inside their directory.
* `Archive.isDirectory`: whether a name is that of a directory.
-/

namespace ApiReplay.Archive

open FilePath (Component)

/-! ### Bytes -/

/-- The characters of the bytes from 128 on in old archives. -/
def oldChars : List Char :=
  ("ÇüéâäàåçêëèïîìÄÅÉæÆôöòûùÿÖÜ¢£¥₧ƒáíóúñÑªº¿⌐¬½¼¡«»░▒▓│┤╡╢╖╕╣║╗╝╜╛┐" ++
    "└┴┬├─┼╞╟╚╔╩╦╠═╬╧╨╤╥╙╘╒╓╫╪┘┌█▄▌▐▀αßΓπΣσµτΦΘΩδ∞φε∩≡±≥≤⌠⌡÷≈°∙·√ⁿ²■\u00a0").toList

/-- The character of a byte in an old archive. -/
def oldChar (byte : UInt8) : Char :=
  if byte < 0x80 then Char.ofNat byte.toNat
  else oldChars.getD (byte.toNat - 0x80) Text.replacement

/-- A name from its bytes. -/
def nameOf (isOld : Bool) (bytes : List UInt8) : String :=
  String.ofList (if isOld then bytes.map oldChar else Text.decodeLossy bytes)

/-! ### Paths -/

/-- Whether components that start so many levels below a place never leave it. -/
def staysInside : Nat → List Component → Bool
  | _, [] => true
  | _, .root :: _ => false
  | depth, .current :: rest => staysInside depth rest
  | 0, .up :: _ => false
  | depth + 1, .up :: rest => staysInside depth rest
  | depth, .name _ :: rest => staysInside (depth + 1) rest

/-- Whether a name never leads out of the place where it starts. -/
def isEnclosed (name : String) : Bool :=
  !name.toList.contains '\x00' && staysInside 0 (FilePath.components name)

/-- The components of a good name inside the directory that holds everything; nothing for the
directory itself. -/
def inner? (name : String) : Option (List Component) :=
  if isEnclosed name then
    match (FilePath.components name).drop 1 with
    | [] => none
    | components => some components
  else none

/-- Whether a name is that of a directory. -/
def isDirectory (name : String) : Bool :=
  match name.toList.getLast? with
  | some c => c = '/' || c = '\\'
  | none => false

end ApiReplay.Archive
