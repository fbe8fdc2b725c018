/-!
# Nodes

A document of markup is a tree of nodes: scalars, sequences, and mappings whose keys are nodes too.
A node may carry an anchor, and an alias stands for the node with a given anchor. An alias reaches
back to the anchors that come before it, and every anchor has a number: how many names of anchors
there were in front of it.

## Main definitions

* `Yaml.Node`: the trees, with anchors of any type.
* `Yaml.Node.link?`: numbers the anchors and looks up the aliases.
* `Yaml.Node.find?`: the node that the aliases of a number stand for.
* `Yaml.Node.size`: how many events it takes to tell a tree.
-/

namespace ApiReplay.Yaml

/-- A node of a document, where anchors are of type `α`. -/
inductive Node (α : Type) where
  | reference (name : α)
  | scalar (anchor : Option α) (tag : Option String) (plain : Bool) (text : String)
  | sequence (anchor : Option α) (tag : Option String) (items : List (Node α))
  | mapping (anchor : Option α) (tag : Option String) (entries : List (Node α × Node α))

namespace Node

variable {α : Type}

/-- The empty scalar that stands where a node is left out. -/
def empty : Node α :=
  .scalar none none true ""

/-! ### Size -/

mutual

/-- The number of events that tell a tree: one for a scalar or an alias, and two around a
collection. -/
def size : Node α → Nat
  | reference _ | scalar .. => 1
  | sequence _ _ items => sizeOfItems items + 2
  | mapping _ _ entries => sizeOfEntries entries + 2

/-- The number of events that tell a list of trees. -/
def sizeOfItems : List (Node α) → Nat
  | [] => 0
  | node :: rest => node.size + sizeOfItems rest

/-- The number of events that tell the entries of a mapping. -/
def sizeOfEntries : List (Node α × Node α) → Nat
  | [] => 0
  | (key, value) :: rest => key.size + value.size + sizeOfEntries rest

end

/-! ### Anchors -/

/-- The numbers that names of anchors have. -/
abbrev Anchors := List (String × Nat)

/-- Gives an anchor the number of names so far, whether or not the name is new. -/
def Anchors.add (anchors : Anchors) : Option String → Option Nat × Anchors
  | none => (none, anchors)
  | some name => (some anchors.length, (name, anchors.length) :: anchors.filter (·.1 ≠ name))

mutual

/-- Numbers the anchors of a tree and looks up its aliases; none when an alias has no anchor. -/
def link? (anchors : Anchors) : Node String → Option (Node Nat × Anchors)
  | reference name =>
    (anchors.lookup name).map fun number => (reference number, anchors)
  | scalar anchor tag plain text =>
    let (anchor, anchors) := anchors.add anchor
    some (scalar anchor tag plain text, anchors)
  | sequence anchor tag items => do
    let (anchor, anchors) := anchors.add anchor
    let (items, anchors) ← linkItems? anchors items
    some (sequence anchor tag items, anchors)
  | mapping anchor tag entries => do
    let (anchor, anchors) := anchors.add anchor
    let (entries, anchors) ← linkEntries? anchors entries
    some (mapping anchor tag entries, anchors)

/-- Numbers the anchors of a list of trees. -/
def linkItems? (anchors : Anchors) : List (Node String) → Option (List (Node Nat) × Anchors)
  | [] => some ([], anchors)
  | node :: rest => do
    let (node, anchors) ← node.link? anchors
    let (rest, anchors) ← linkItems? anchors rest
    some (node :: rest, anchors)

/-- Numbers the anchors of the entries of a mapping. -/
def linkEntries? (anchors : Anchors) :
    List (Node String × Node String) → Option (List (Node Nat × Node Nat) × Anchors)
  | [] => some ([], anchors)
  | (key, value) :: rest => do
    let (key, anchors) ← key.link? anchors
    let (value, anchors) ← value.link? anchors
    let (rest, anchors) ← linkEntries? anchors rest
    some ((key, value) :: rest, anchors)

end

/-! ### Anchored nodes -/

mutual

/-- The anchored nodes of a tree, each in front of those inside it. -/
def anchored : Node α → List (α × Node α)
  | reference _ => []
  | scalar anchor tag plain text =>
    anchor.toList.map fun name => (name, scalar anchor tag plain text)
  | sequence anchor tag items =>
    (anchor.toList.map fun name => (name, sequence anchor tag items)) ++ anchoredItems items
  | mapping anchor tag entries =>
    (anchor.toList.map fun name => (name, mapping anchor tag entries)) ++ anchoredEntries entries

/-- The anchored nodes of a list of trees. -/
def anchoredItems : List (Node α) → List (α × Node α)
  | [] => []
  | node :: rest => node.anchored ++ anchoredItems rest

/-- The anchored nodes of the entries of a mapping. -/
def anchoredEntries : List (Node α × Node α) → List (α × Node α)
  | [] => []
  | (key, value) :: rest => key.anchored ++ value.anchored ++ anchoredEntries rest

end

/-- The node that the aliases of a number stand for: the last one that has it. -/
def find? (number : Nat) (root : Node Nat) : Option (Node Nat) :=
  root.anchored.reverse.lookup number

end Node

end ApiReplay.Yaml
