import ApiReplay.Entries
import ApiReplay.Text.Blank

/-!
# Namespaces of handlers

Handlers are kept in a tree of namespaces: the dots of an operation's name separate the namespaces
that it lies in, and its last part names the handler. A name may be that of a handler and of a
namespace at once.

## Main definitions

* `Namespace`: the tree.
* `Namespace.insert`, `Namespace.find?`: registration and look-up along the parts of a name.
* `Namespace.nameParts`: the parts of a name.
-/

namespace ApiReplay

/-- A tree of named handlers. -/
inductive Namespace (α : Type) where
  | node (handlers : List (String × α)) (children : List (String × Namespace α))

namespace Namespace

variable {α : Type}

/-- The namespace without handlers. -/
def empty : Namespace α :=
  .node [] []

/-- Registers a handler under the parts of a name, in place of one that has the same name. -/
def insert (handler : α) : List String → Namespace α → Namespace α
  | [], n => n
  | [name], .node handlers children => .node (Entries.insert name handler handlers) children
  | first :: second :: rest, .node handlers children =>
    let child := (Entries.find? first children).getD empty
    .node handlers (Entries.insert first (insert handler (second :: rest) child) children)

/-- The handler under the parts of a name. -/
def find? : List String → Namespace α → Option α
  | [], _ => none
  | [name], .node handlers _ => Entries.find? name handlers
  | first :: second :: rest, .node _ children =>
    (Entries.find? first children).bind (find? (second :: rest))

/-- The parts of a name between its dots. -/
def nameParts (name : String) : List String :=
  (Text.splitAtEach '.' name.toList).map String.ofList

end Namespace

end ApiReplay
