import ApiReplay.Toml.Scalar

/-!
# Reading configuration texts

A text is a row of lines: comments, headers that open tables, and keys with values, which belong to
the table that was opened last. Values may nest arrays and tables.

## Main definitions

* `Toml.readKeys`, `Toml.readValue`: keys and values.
* `Toml.read`: the tree of a text, or the place of its first fault.
-/

namespace ApiReplay.Toml

/-- The text behind blanks. -/
def skipSpace (text : List Char) : List Char :=
  text.dropWhile isSpace

/-- The text behind a comment, if there is one. -/
def skipComment : List Char → List Char
  | '#' :: rest => rest.dropWhile isText
  | text => text

/-- The text behind the end of a line, in front of which nothing but a comment may stand. -/
def finishLine (text : List Char) : Except Nat (List Char) :=
  match skipComment (skipSpace text) with
  | [] => .ok []
  | text => (newline? text).elim (.error text.length) .ok

/-- The text behind blanks, comments and ends of lines. -/
def skipLines : Nat → List Char → List Char
  | 0, text => text
  | fuel + 1, text =>
    let text := skipSpace text
    match newline? (skipComment text) with
    | some rest => skipLines fuel rest
    | none => text

/-! ### Keys -/

/-- Whether a character may stand in a key without quotes. -/
def isKeyChar (c : Char) : Bool :=
  c.isAlphanum || c = '_' || c = '-'

/-- Reads a key. -/
def readKey (text : List Char) : Except Nat (Option (Key × List Char)) :=
  let place := text.length
  match text with
  | '"' :: rest =>
    (readBasic (rest.length + 1) [] rest).map fun (key, rest) => some (⟨key, place⟩, rest)
  | '\'' :: rest => (readLiteral rest).map fun (key, rest) => some (⟨key, place⟩, rest)
  | text =>
    let key := text.takeWhile isKeyChar
    .ok (if key.isEmpty then none
      else some (⟨String.ofList key, place⟩, text.drop key.length))

/-- Reads further keys behind dots, with blanks around. -/
def readDotted : Nat → List Key → List Char → Except Nat (List Key × List Char)
  | 0, read, text => .ok (read.reverse, text)
  | fuel + 1, read, text =>
    match text with
    | '.' :: rest => do
      match ← readKey (skipSpace rest) with
      | some (key, rest) => readDotted fuel (key :: read) (skipSpace rest)
      | none => .ok (read.reverse, text)
    | text => .ok (read.reverse, text)

/-- The least number of keys, and of arrays and tables in one another, that is refused. -/
def depthLimit : Nat := 80

/-- Reads keys with dots between them and blanks around. -/
def readKeys (text : List Char) : Except Nat (Option (List Key × List Char)) := do
  match ← readKey (skipSpace text) with
  | none => .ok none
  | some (key, rest) =>
    let (keys, rest) ← readDotted rest.length [key] (skipSpace rest)
    if depthLimit ≤ keys.length then .error text.length else .ok (some (keys, rest))

/-- Reads keys that have to be there. -/
def needKeys (text : List Char) : Except Nat (List Key × List Char) := do
  match ← readKeys text with
  | some read => .ok read
  | none => .error (skipSpace text).length

/-- The keys of a path, and the last one. -/
def splitLast? (keys : List Key) : Option (List Key × Key) :=
  keys.getLast?.map (keys.dropLast, ·)

/-! ### Values -/

/-- Reads a word that has to be there. -/
def needWord (word : String) (node : Node) (text : List Char) :
    Except Nat (Option (Node × List Char)) :=
  if word.toList.isPrefixOf text then .ok (some (node, text.drop word.length))
  else .error text.length

/-- Reads a date or a number. -/
def readNumber (text : List Char) : Except Nat (Option (Node × List Char)) := do
  let place := text.length
  match ← readDate text with
  | some ((), rest) => .ok (some (.date place, rest))
  | none =>
    match ← readDouble text with
    | some ((), rest) => .ok (some (.double place, rest))
    | none => return (← readInteger text).map fun (n, rest) => (.integer place n, rest)

/-- Reads a value other than an array or a table. -/
def readScalar (text : List Char) : Except Nat (Option (Node × List Char)) :=
  match text with
  | [] => .ok none
  | x :: _ =>
    let place := text.length
    if x = '"' ∨ x = '\'' then
      (readString text).map fun (s, rest) => some (.string place s, rest)
    else if x = 't' then needWord "true" (.boolean place true) text
    else if x = 'f' then needWord "false" (.boolean place false) text
    else if x.isDigit ∨ x = '+' ∨ x = '-' ∨ x = 'i' ∨ x = 'n' then readNumber text
    else .ok none

/-- The place of the fault where a text starts with no value. -/
def missingValue (text : List Char) : Nat :=
  match text.head? with
  | some '+' | some '-' => text.length - 1
  | _ => text.length

/-- Adds a value under keys to a table between braces. -/
def insertPair? (table : Node) (pair : List Key × Node) : Option Node := do
  let (path, key) ← splitLast? pair.1
  table.insert? path key pair.2

mutual

/-- Reads a value; arrays and tables may nest to a depth. -/
def readValue : Nat → Nat → List Char → Except Nat (Option (Node × List Char))
  | 0, _, text => .error text.length
  | fuel + 1, depth, text =>
    match text with
    | '[' :: rest =>
      if depth = 0 then .error text.length
      else do
        let (items, rest) ← readItems fuel (depth - 1) [] rest
        .ok (some (.array text.length false items, rest))
    | '\x7b' :: rest =>
      if depth = 0 then .error text.length
      else do
        let (pairs, behind) :=
          (← readPairs fuel (depth - 1) rest).getD ([], skipSpace rest)
        match pairs.foldlM insertPair? (.table (some text.length) .inline []) with
        | none => .error rest.length
        | some table =>
          let behind ← needSign '\x7d' behind
          .ok (some (table, behind))
    | text => readScalar text

/-- Reads the rest of an array, where an item or the end may come. -/
def readItems : Nat → Nat → List Node → List Char → Except Nat (List Node × List Char)
  | 0, _, _, text => .error text.length
  | fuel + 1, depth, read, text => do
    let start := skipLines (text.length + 1) text
    match ← readValue fuel depth start with
    | none =>
      let rest ← needSign ']' start
      .ok (read.reverse, rest)
    | some (item, rest) =>
      match skipLines (rest.length + 1) rest with
      | ',' :: rest => readItems fuel depth (item :: read) rest
      | rest =>
        let rest ← needSign ']' rest
        .ok ((item :: read).reverse, rest)

/-- Reads keys with values and commas between them. -/
def readPairs : Nat → Nat → List Char → Except Nat (Option ((List (List Key × Node)) × List Char))
  | 0, _, text => .error text.length
  | fuel + 1, depth, text => do
    match ← readKeys text with
    | none => .ok none
    | some (keys, rest) =>
      let start := skipSpace (← needSign '=' rest)
      match ← readValue fuel depth start with
      | none => .error (missingValue start)
      | some (value, rest) =>
        let behind := skipSpace rest
        let more ← match behind with
          | ',' :: rest => readPairs fuel depth rest
          | _ => .ok none
        match more with
        | some (pairs, rest) => .ok (some ((keys, value) :: pairs, rest))
        | none => .ok (some ([(keys, value)], behind))

end

/-! ### Lines -/

/-- A text being read: the tree so far and the header of the table that was opened last. -/
structure Draft where
  root : Node := .table none .header []
  header : List Key := []

/-- The tree that a step leads to; the fault is at the place of its line when there is none. -/
def Draft.grow (place : Nat) (header : List Key) (root : Option Node) : Except Nat Draft :=
  root.elim (.error place) fun root => .ok { root, header }

/-- Reads a header. -/
def Draft.readHeader (d : Draft) (text : List Char) : Except Nat (Draft × List Char) := do
  let place := text.length
  let array := "[[".toList.isPrefixOf text
  let (keys, rest) ← needKeys (text.drop (if array then 2 else 1))
  let rest ← if array then
      if "]]".toList.isPrefixOf rest then .ok (rest.drop 2) else .error rest.length
    else needSign ']' rest
  let rest ← finishLine rest
  match splitLast? keys with
  | none => .error place
  | some (path, key) =>
    let root := if array then d.root.openArray? path key place
      else d.root.openTable? path key place
    .ok (← Draft.grow place keys root, rest)

/-- Reads a key with its value. -/
def Draft.readPair (d : Draft) (text : List Char) : Except Nat (Draft × List Char) := do
  let (keys, rest) ← needKeys text
  let start := skipSpace (← needSign '=' rest)
  match ← readValue (2 * start.length + 2) (depthLimit - 1) start with
  | none => .error (missingValue start)
  | some (value, rest) =>
    let rest ← finishLine rest
    match splitLast? keys with
    | none => .error text.length
    | some (path, key) =>
      .ok (← Draft.grow text.length d.header (d.root.insertBelow? d.header path key value), rest)

/-- Reads lines. -/
def Draft.readLines : Nat → Draft → List Char → Except Nat Node
  | 0, _, text => .error text.length
  | fuel + 1, d, text =>
    match skipSpace text with
    | [] => .ok d.root
    | '#' :: rest => do readLines fuel d (← finishLine ('#' :: rest))
    | '\n' :: rest => readLines fuel d rest
    | '\r' :: rest => do readLines fuel d (← finishLine ('\r' :: rest))
    | '[' :: rest => do
      if rest.isEmpty then .error 1
      else
        let (d, rest) ← d.readHeader ('[' :: rest)
        readLines fuel d rest
    | text => do
      let (d, rest) ← d.readPair text
      readLines fuel d rest

/-- The tree of a text, or the place of its first fault. -/
def read (text : List Char) : Except Nat Node :=
  let text := if text.head? = some '\uFEFF' then text.drop 1 else text
  Draft.readLines (text.length + 1) {} text

/-- The line and the column of a place in a text. Behind the end stands the last character's column
and one more. In front of a character beyond ASCII the column counts bytes, else it counts
characters. -/
def position (text : List Char) (place : Nat) : Nat × Nat :=
  let index := min (text.length - place) (text.length - 1)
  let before := text.take index
  let line := (before.filter (· = '\n')).length
  let start := (before.reverse.takeWhile (· ≠ '\n')).reverse
  let beyond := text.length - place - index
  let column := match text.drop index with
    | c :: _ =>
      if c.toNat < 0x80 ∨ place = 0 then start.length
      else start.foldl (fun size c => size + c.utf8Size) 0
    | [] => start.length
  (line + 1, column + beyond + 1)

end ApiReplay.Toml
