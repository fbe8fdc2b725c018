import ApiReplay.Http.Host

/-!
# Addresses

An address has a scheme, a host with a port, a path, a query and a fragment. Reading one cleans its
text: white space at the ends and ends of lines anywhere are dropped, parts of the path that stand
for the same place or the one above are resolved, and characters that a part does not hold are
escaped. Schemes of hierarchies, like those of the protocol, always have a host.

## Main definitions

* `Http.Authority`, `Http.Url`: the addresses.
* `Http.Url.parse?`, `Http.Url.join?`: addresses from texts, also relative to others.
* `Http.Url.text`, `Http.Url.target`: an address as it is shown, and as it is requested.
* `Http.Url.addQuery`: an address with more pairs in its query.
-/

namespace ApiReplay.Http

/-- Whom an address names: a host, a port unless it is the usual one, and a user. -/
structure Authority where
  host : List Char
  port : Option Nat := none
  user : List Char := []
  password : Option (List Char) := none
deriving DecidableEq

/-- An address. -/
structure Url where
  scheme : List Char
  /-- The host; only schemes without hierarchies do without one. -/
  authority : Option Authority
  path : List Char
  query : Option (List Char) := none
  fragment : Option (List Char) := none
deriving DecidableEq

namespace Url

/-! ### Parts -/

/-- The usual port of a scheme of hierarchies. -/
def usualPort? (scheme : List Char) : Option Nat :=
  match String.ofList scheme with
  | "http" | "ws" => some 80
  | "https" | "wss" => some 443
  | "ftp" => some 21
  | _ => none

/-- Whether a scheme is that of local files, which need no host. -/
def isLocal (scheme : List Char) : Bool :=
  scheme = "file".toList

/-- Whether a scheme is one of hierarchies, in which a backslash counts as a slash. -/
def isSpecial (scheme : List Char) : Bool :=
  (usualPort? scheme).isSome || isLocal scheme

/-- Whether a character separates the parts of a path. -/
def isSlash (special : Bool) (c : Char) : Bool :=
  c = '/' || (special && c = '\\')

/-- The text without what does not count: control characters and spaces at the ends, and tabs and
ends of lines. -/
def clean (text : List Char) : List Char :=
  let isEnd := fun (c : Char) => c.toNat ≤ 0x20
  ((text.dropWhile isEnd).reverse.dropWhile isEnd).reverse.filter fun c =>
    c ≠ '\t' && c ≠ '\n' && c ≠ '\r'

/-- The scheme of a text in small letters, and what follows its colon. -/
def splitScheme? (text : List Char) : Option (List Char × List Char) :=
  let scheme := text.takeWhile fun c => c.isAlphanum || c = '+' || c = '-' || c = '.'
  match text.drop scheme.length with
  | ':' :: rest =>
    if scheme.head?.any Char.isAlpha then some (scheme.map Char.toLower, rest) else none
  | _ => none

/-- Cuts a text in front of the first character that satisfies a condition. -/
def cutAt (stop : Char → Bool) (text : List Char) : List Char × List Char :=
  text.span fun c => !stop c

/-- The query and the fragment of a text that starts with either or is empty. -/
def splitTail (special : Bool) (text : List Char) : Option (List Char) × Option (List Char) :=
  let (query, fragment) := cutAt (· = '#') text
  let query := match query with
    | '?' :: query =>
      some (escapeWhere (fun c => isQueryEscaped c && (special || c ≠ '\'')) query)
    | _ => none
  let fragment := match fragment with
    | '#' :: fragment => some (escapeWhere isFragmentEscaped fragment)
    | _ => none
  (query, fragment)

/-! ### Paths -/

/-- A part of a path with its escaped dots put in, in order to tell whether it is made of dots. -/
def dotsOf : List Char → List Char
  | '%' :: '2' :: x :: rest => (if x = 'e' ∨ x = 'E' then ['.'] else ['%', '2', x]) ++ dotsOf rest
  | c :: rest => c :: dotsOf rest
  | [] => []

/-- Follows the parts of a path; those before come last first. A part of one dot stays, one of two
dots leads up, and at the end either leaves an empty part. -/
def resolveParts (before : List (List Char)) : List (List Char) → List (List Char)
  | [] => before.reverse
  | part :: rest =>
    let close := fun (parts : List (List Char)) => if rest.isEmpty then [] :: parts else parts
    match dotsOf part with
    | ['.'] => resolveParts (close before) rest
    | ['.', '.'] => resolveParts (close before.tail) rest
    | _ => resolveParts (part :: before) rest

/-- The path of a text behind the parts that lie in front of it. -/
def pathOf (special : Bool) (before : List (List Char)) (text : List Char) : List Char :=
  let slashed := text.map fun c => if isSlash special c then '/' else c
  let parts := resolveParts before ((slashed.splitOn '/').map (escapeWhere isPathEscaped))
  parts.flatMap ('/' :: ·)

/-! ### Hosts -/

/-- A port; none of it is the usual one. -/
def port? (scheme digits : List Char) : Option (Option Nat) :=
  if digits.isEmpty then some none
  else
    match Text.natural? 10 digits with
    | none => none
    | some n =>
      if n < Nat.pow 2 16 then some (if usualPort? scheme = some n then none else some n) else none

/-- The host that a name stands for. Only schemes that are special and not local need one, and only
special ones give names a canonical text. The local host of local files goes without saying. -/
def host? (scheme name : List Char) : Option (List Char) :=
  if isLocal scheme then
    if name.isEmpty then some []
    else (hostName? name).map fun host => if host = "localhost".toList then [] else host
  else if isSpecial scheme then hostName? name
  else if name.any fun c => c ≠ '%' && c.toNat < 0x7F && isHostForbidden c then none
  else some (escapeWhere isControl name)

/-- The host that a text names for local files, without a port or a user. -/
def localAuthority? (scheme text : List Char) : Option Authority :=
  match text with
  | '[' :: rest =>
    match cutAt (· = ']') rest with
    | (inner, [']']) => (bracketHost? inner).map fun host => { host }
    | _ => none
  | name => (host? scheme name).map fun host => { host }

/-- Whom a text names, in front of the path. A port or a user needs a host. -/
def authority? (scheme text : List Char) : Option Authority := do
  let back := text.reverse.takeWhile (· ≠ '@')
  let place := back.reverse
  let login := if back.length < text.length then text.take (text.length - back.length - 1) else []
  let (user, word) := cutAt (· = ':') login
  let password := match word with
    | ':' :: word => if word.isEmpty then none else some word
    | _ => none
  match place with
  | '[' :: rest =>
    let (inner, behind) := cutAt (· = ']') rest
    let host ← bracketHost? inner
    let digits ← match behind with
      | [']'] => some []
      | ']' :: ':' :: digits => some digits
      | _ => none
    some { host, port := ← port? scheme digits, user, password }
  | place =>
    let (name, behind) := cutAt (· = ':') place
    if name.isEmpty ∧ !text.isEmpty then none
    else
      some { host := ← host? scheme name, port := ← port? scheme (behind.drop 1), user, password }

/-- The address of a text behind the slashes of its scheme. -/
def withAuthority? (scheme text : List Char) : Option Url := do
  let special := isSpecial scheme
  let (place, rest) := cutAt (fun c => isSlash special c || c = '?' || c = '#') text
  let authority ← if isLocal scheme then localAuthority? scheme place else authority? scheme place
  let (path, tail) := cutAt (fun c => c = '?' || c = '#') rest
  let (query, fragment) := splitTail special tail
  let path := if path.isEmpty ∧ !special then [] else pathOf special [] (path.drop 1)
  some { scheme, authority, path, query, fragment }

/-! ### Whole addresses -/

/-- The address of a text that names no scheme, seen from another address. -/
def relative? (base : Url) (text : List Char) : Option Url :=
  let special := isSpecial base.scheme
  let (path, tail) := cutAt (fun c => c = '?' || c = '#') text
  let (query, fragment) := splitTail special tail
  match path with
  | a :: b :: _ =>
    if isSlash special a ∧ isSlash special b then
      withAuthority? base.scheme ((text.drop 2).dropWhile (isSlash special))
    else if isSlash special a then
      some { base with path := pathOf special [] (path.drop 1), query, fragment }
    else below path query fragment
  | [a] =>
    if isSlash special a then some { base with path := ['/'], query, fragment }
    else below path query fragment
  | [] => some { base with query := if tail.head? = some '?' then query else base.query, fragment }
where
  below (path : List Char) (query fragment : Option (List Char)) : Option Url :=
    let before := (base.path.splitOn '/').drop 1
    let special := isSpecial base.scheme
    some { base with path := pathOf special before.dropLast.reverse path, query, fragment }

/-- The address of a text that names a scheme. -/
def absolute? (scheme rest : List Char) : Option Url :=
  if isLocal scheme then
    if (rest.take 2).all (isSlash true) ∧ 2 ≤ rest.length then withAuthority? scheme (rest.drop 2)
    else relative? { scheme, authority := some { host := [] }, path := ['/'] } rest
  else if isSpecial scheme then withAuthority? scheme (rest.dropWhile (isSlash true))
  else
    match rest with
    | '/' :: '/' :: rest => withAuthority? scheme rest
    | rest =>
      let (path, tail) := cutAt (fun c => c = '?' || c = '#') rest
      let (query, fragment) := splitTail false tail
      let path := match path with
        | '/' :: path => pathOf false [] path
        | path => escapeWhere isControl path
      some { scheme, authority := none, path, query, fragment }

/-- The address that a text writes. -/
def parse? (text : List Char) : Option Url :=
  (splitScheme? (clean text)).bind fun (scheme, rest) => absolute? scheme rest

/-- The address that a text writes, seen from another address. -/
def join? (base : Url) (text : List Char) : Option Url :=
  let text := clean text
  match splitScheme? text with
  | some (scheme, rest) =>
    if isSpecial scheme ∧ scheme = base.scheme
        ∧ !("//".toList.isPrefixOf (rest.map fun c => if c = '\\' then '/' else c)) then
      relative? base rest
    else absolute? scheme rest
  | none => relative? base text

/-- The host with its port. -/
def hostText (a : Authority) : List Char :=
  a.host ++ match a.port with
    | some n => ':' :: natChars n
    | none => []

/-- Whether an address names a host. -/
def hasHost (u : Url) : Bool :=
  u.authority.any fun a => !a.host.isEmpty

/-- Where an address leads to: its scheme and whom it names. -/
def origin (u : Url) : List Char :=
  u.scheme ++ ':' :: match u.authority with
    | some a => '/' :: '/' :: hostText a
    | none => []

/-- The path and the query, as they are requested. -/
def target (u : Url) : List Char :=
  u.path ++ match u.query with
    | some query => '?' :: query
    | none => []

/-- An address as it is shown. -/
def text (u : Url) : String :=
  String.ofList (u.origin ++ u.target ++ match u.fragment with
    | some fragment => '#' :: fragment
    | none => [])

/-- The address without its user, and the user's name and password. -/
def takeUser (u : Url) : Url × Option (List Char × Option (List Char)) :=
  match u.authority with
  | none => (u, none)
  | some a =>
    let user := if a.user.isEmpty ∧ a.password.isNone then none else some (a.user, a.password)
    ({ u with authority := some { a with user := [], password := none } }, user)

/-- An address with pairs of names and values behind its query; an empty query counts as none. -/
def addQuery (u : Url) (pairs : List (String × String)) : Url :=
  let added := ['&'].intercalate (pairs.map formPair)
  let old := u.query.getD []
  let query := if old.isEmpty ∨ added.isEmpty then old ++ added else old ++ '&' :: added
  { u with query := if query.isEmpty then none else some query }

end Url

end ApiReplay.Http
