import ApiReplay.Http.Url

/-!
# References

A reply may name another address by a reference, which is seen from the address that was asked. A
reference holds letters, digits, some signs and escapes; what it has in front of its path tells
whether it stands for itself. Other texts lead nowhere, and neither does any reference that is seen
from an address with other characters in it.

## Main definitions

* `Http.isReference`: whether a text is a reference.
* `Http.Url.follow?`: the address that a reference leads to.
-/

namespace ApiReplay.Http

/-- Whether a name in a reference may hold a character. -/
def isReferenceChar (c : Char) : Bool :=
  c.isAlphanum || "-._~!$&'()*+,;=".toList.contains c

/-- Whether a text is made of escapes and of characters that satisfy a condition. -/
def isWritten (holds : Char → Bool) : List Char → Bool
  | '%' :: a :: b :: rest =>
    (Text.hexValue? a).isSome && (Text.hexValue? b).isSome && isWritten holds rest
  | c :: rest => c ≠ '%' && holds c && isWritten holds rest
  | [] => true

/-- Whether a text is a host with or without a port. -/
def isPlace (text : List Char) : Bool :=
  match text with
  | '[' :: rest =>
    let (inner, behind) := Url.cutAt (· = ']') rest
    (bracketHost? inner).isSome &&
      match behind with
      | [']'] => true
      | ']' :: ':' :: port => port.all Char.isDigit
      | _ => false
  | name =>
    let (name, port) := Url.cutAt (· = ':') name
    !name.isEmpty && isWritten isReferenceChar name && (port.drop 1).all Char.isDigit

/-- Whether a text names a host, perhaps with a user in front. -/
def isWhom (text : List Char) : Bool :=
  match Url.cutAt (· = '@') text with
  | (user, '@' :: place) => isWritten (fun c => isReferenceChar c || c = ':') user && isPlace place
  | (place, _) => isPlace place

/-- Whether a text is a reference without a scheme. Unless a host is named, its path does not start
with a part that could be taken for a scheme. -/
def isRelative (hasScheme : Bool) (text : List Char) : Bool :=
  let inPath := fun c => isReferenceChar c || c = ':' || c = '@' || c = '/'
  let inTail := fun c => inPath c || c = '?'
  let (front, tail) := Url.cutAt (fun c => c = '?' || c = '#') text
  let (query, fragment) := Url.cutAt (· = '#') tail
  let isPath := match front with
    | '/' :: '/' :: rest =>
      let (whom, path) := Url.cutAt (· = '/') rest
      isWhom whom && isWritten inPath path
    | path =>
      isWritten inPath path && (hasScheme || !(path.takeWhile (· ≠ '/')).contains ':')
  isPath && isWritten inTail query && isWritten inTail (fragment.drop 1)

/-- Whether a text is a reference. -/
def isReference (text : List Char) : Bool :=
  match Url.splitScheme? text with
  | some (_, rest) => isRelative true rest
  | none => isRelative false text

/-- The address that a reference leads to, seen from another address. The fragment is of no account
for requests. -/
def Url.follow? (base : Url) (text : List Char) : Option Url :=
  let base := { base with fragment := none }
  if isReference text && isReference base.text.toList then
    (base.join? text).map ({ · with fragment := none })
  else none

end ApiReplay.Http
