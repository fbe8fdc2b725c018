/-!
# Configuration trees

A configuration text is a tree of tables. Every node that is written somewhere has a place, which is
told by how many characters are left from there to the end of the text; a table that only the
headers or the dotted keys of others imply has none.

## Main definitions

* `Toml.Origin`, `Toml.Node`: how a table came about, and the trees.
* `Toml.Key`: keys with their places.
* `Toml.Node.insertBelow?`, `Toml.Node.openTable?`, `Toml.Node.openArray?`: how a tree grows by a
  key with a value and by the two kinds of headers.
-/

namespace ApiReplay.Toml

/-- How a table came about. -/
inductive Origin where
  /-- Between braces. -/
  | inline
  /-- By its header. -/
  | header
  /-- By the header of a table inside it. -/
  | implied
  /-- By a dotted key. -/
  | dotted
deriving DecidableEq

/-- A key with its place. -/
structure Key where
  text : String
  place : Nat

/-- A node of a tree. -/
inductive Node where
  | string (place : Nat) (text : String)
  | integer (place : Nat) (value : Int)
  | boolean (place : Nat) (value : Bool)
  | double (place : Nat)
  | date (place : Nat)
  /-- An array; `tables` tells whether headers open its items. -/
  | array (place : Nat) (tables : Bool) (items : List Node)
  | table (place : Option Nat) (origin : Origin) (entries : List (Key × Node))
deriving Inhabited

/-- The node under a key. -/
def nodeUnder? (text : String) (entries : List (Key × Node)) : Option Node :=
  (entries.find? fun e => e.1.text = text).map Prod.snd

/-- The entries with the node under a key replaced. -/
def replaceNode (text : String) (node : Node) (entries : List (Key × Node)) : List (Key × Node) :=
  entries.map fun (key, old) => if key.text = text then (key, node) else (key, old)

namespace Node

/-- The place of a node. -/
def place? : Node → Option Nat
  | string place _ | integer place _ | boolean place _ | double place | date place
  | array place _ _ => some place
  | table place _ _ => place

/-! ### Growth -/

/-- Changes the entries of the table that a path leads to, which an array of tables stands for by
its last one. Tables on the way that are not there yet come about as `origin` says. Dotted keys may
not lead into tables that have a header; no path leads into other values. -/
def descend (origin : Origin)
    (change : Origin → List (Key × Node) → Option (List (Key × Node))) :
    List Key → Node → Option Node
  | [], table place kind entries => (change kind entries).map (table place kind)
  | [], _ => none
  | key :: path, table place kind entries =>
    match nodeUnder? key.text entries with
    | none => do
      let made ← descend origin change path (table none origin [])
      some (table place kind (entries ++ [(key, made)]))
    | some node => do
      let next ← match node with
        | table _ .inline _ => none
        | table _ .header _ =>
          if origin = .dotted then none else descend origin change path node
        | array place true items =>
          match items.getLast? with
          | some last =>
            (descend origin change path last).map fun last =>
              array place true (items.dropLast ++ [last])
          | none => none
        | node => descend origin change path node
      some (table place kind (replaceNode key.text next entries))
  | _ :: _, _ => none

/-- Adds an entry to a table under the last of several keys; those before it are dotted. A key
counts once, and dotted keys may not add to a table that came about without them. -/
def insert? (root : Node) (path : List Key) (key : Key) (value : Node) : Option Node :=
  descend .dotted (fun kind entries =>
    if (decide (kind = .dotted) == path.isEmpty) || (nodeUnder? key.text entries).isSome then none
    else some (entries ++ [(key, value)])) path root

/-- Adds an entry below the table that a header opened. -/
def insertBelow? (root : Node) (header path : List Key) (key : Key) (value : Node) :
    Option Node :=
  descend .implied (fun kind entries => do
    match ← insert? (table none kind entries) path key value with
    | table _ _ entries => some entries
    | _ => none) header root

/-- Opens a table by its header. It may have come about by the headers of tables inside it, but not
otherwise. -/
def openTable? (root : Node) (path : List Key) (key : Key) (place : Nat) : Option Node :=
  descend .implied (fun _ entries =>
    match nodeUnder? key.text entries with
    | none => some (entries ++ [(key, table (some place) .header [])])
    | some (table _ .implied inner) =>
      some (entries.filter (·.1.text ≠ key.text) ++ [(key, table (some place) .header inner)])
    | some _ => none) path root

/-- Opens a further table of an array by its header. -/
def openArray? (root : Node) (path : List Key) (key : Key) (place : Nat) : Option Node :=
  let item := table (some place) .header []
  descend .implied (fun _ entries =>
    match nodeUnder? key.text entries with
    | none => some (entries ++ [(key, array place true [item])])
    | some (array place true items) =>
      some (replaceNode key.text (array place true (items ++ [item])) entries)
    | some _ => none) path root

end Node

end ApiReplay.Toml
