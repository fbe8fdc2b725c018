import ApiReplay.Yaml.Node
import ApiReplay.Yaml.Tokens

/-!
# Streams of documents

The tokens of a text form a stream of documents, each of them one node. A document may start without
a marker only in front of all others. Directives stand in front of a marker and hold for one
document; they say what the handles of its tags stand for.

## Main definitions

* `Yaml.Handles`: what the handles of tags stand for.
* `Yaml.node?`: the node at the head of a list of tokens.
* `Yaml.Stream`, `Yaml.stream`: the documents of a text in front of the first fault.
-/

namespace ApiReplay.Yaml

/-! ### Handles of tags -/

/-- The handles of tags with what they stand for. -/
abbrev Handles := List (String × String)

/-- The handles that every document has. -/
def Handles.standard : Handles :=
  [("!", "!"), ("!!", "tag:yaml.org,2002:")]

/-- The tag that a handle and a suffix make up; none when the handle is not known. -/
def Handles.tag? (handles : Handles) (handle suffix : String) : Option String :=
  if handle = "" then some suffix else (handles.lookup handle).map (· ++ suffix)

/-- Reads the directives in front of a document: at most one version, and no handle twice. -/
def directives? (versioned : Bool) (handles : Handles) : List Token → Option (Handles × List Token)
  | .version major minor :: rest =>
    if !versioned && major = 1 && (minor = 1 || minor = 2) then directives? true handles rest
    else none
  | .handle name expansion :: rest =>
    if (handles.lookup name).isSome then none
    else directives? versioned ((name, expansion) :: handles) rest
  | rest => some (handles ++ Handles.standard, rest)

/-! ### Nodes -/

/-- Reads the anchor and the tag of a node, in either order. -/
def properties? (handles : Handles) :
    List Token → Option (Option String × Option String × List Token)
  | .anchor anchor :: .tag handle suffix :: rest
  | .tag handle suffix :: .anchor anchor :: rest =>
    (handles.tag? handle suffix).map fun tag => (some anchor, some tag, rest)
  | .anchor anchor :: rest => some (some anchor, none, rest)
  | .tag handle suffix :: rest =>
    (handles.tag? handle suffix).map fun tag => (none, some tag, rest)
  | rest => some (none, none, rest)

/-- The place of a node: in a block, where an entry of a mapping may hold a sequence that is not
indented further, or inside brackets. -/
inductive Place where
  | block
  | entry
  | flow
deriving DecidableEq

mutual

/-- Reads a node. -/
def node? (handles : Handles) (place : Place) :
    Nat → List Token → Option (Node String × List Token)
  | 0, _ => none
  | fuel + 1, tokens =>
    match tokens with
    | .reference name :: rest => some (.reference name, rest)
    | tokens => do
      let (anchor, tag, tokens) ← properties? handles tokens
      match tokens with
      | .scalar plain text :: rest =>
        some (.scalar anchor (tag.filter (· ≠ "!")) plain text, rest)
      | .openSequence :: rest =>
        let (items, rest) ← flowItems? handles true fuel rest
        some (.sequence anchor tag items, rest)
      | .openMapping :: rest =>
        let (entries, rest) ← flowEntries? handles true fuel rest
        some (.mapping anchor tag entries, rest)
      | tokens =>
        match place, tokens with
        | .entry, .blockEntry :: _ =>
          let (items, rest) ← blockItems? handles false fuel tokens
          some (.sequence anchor tag items, rest)
        | .block, .blockSequence :: rest | .entry, .blockSequence :: rest =>
          let (items, rest) ← blockItems? handles true fuel rest
          some (.sequence anchor tag items, rest)
        | .block, .blockMapping :: rest | .entry, .blockMapping :: rest =>
          let (entries, rest) ← blockEntries? handles fuel rest
          some (.mapping anchor tag entries, rest)
        | _, _ =>
          if anchor.isSome ∨ tag.isSome then some (.scalar anchor tag true "", tokens) else none

/-- Reads a node unless one of the given tokens shows that it is left out. -/
def nodeBefore? (stops : List Token) (handles : Handles) (place : Place) :
    Nat → List Token → Option (Node String × List Token)
  | 0, _ => none
  | _ + 1, [] => none
  | fuel + 1, token :: rest =>
    if stops.contains token then some (.empty, token :: rest)
    else node? handles place fuel (token :: rest)

/-- Reads the items of a sequence behind dashes. One that is indented is closed by a token. -/
def blockItems? (handles : Handles) (indented : Bool) :
    Nat → List Token → Option (List (Node String) × List Token)
  | 0, _ => none
  | fuel + 1, tokens =>
    match tokens with
    | .blockEntry :: rest => do
      let stops := if indented then [.blockEntry, .blockEnd]
        else [.blockEntry, .key, .value, .blockEnd]
      let (item, rest) ← nodeBefore? stops handles .block fuel rest
      let (items, rest) ← blockItems? handles indented fuel rest
      some (item :: items, rest)
    | tokens =>
      if indented then
        match tokens with
        | .blockEnd :: rest => some ([], rest)
        | _ => none
      else some ([], tokens)

/-- Reads the entries of an indented mapping. A key or a value may be left out. -/
def blockEntries? (handles : Handles) :
    Nat → List Token → Option (List (Node String × Node String) × List Token)
  | 0, _ => none
  | fuel + 1, tokens =>
    match tokens with
    | .blockEnd :: rest => some ([], rest)
    | .key :: rest => do
      let (key, rest) ← nodeBefore? [.key, .value, .blockEnd] handles .entry fuel rest
      let (value, rest) ← match rest with
        | .value :: rest => nodeBefore? [.key, .value, .blockEnd] handles .entry fuel rest
        | rest => some (.empty, rest)
      let (entries, rest) ← blockEntries? handles fuel rest
      some ((key, value) :: entries, rest)
    | _ => none

/-- Reads the items of a sequence in brackets; all but the first follow a comma. An item with a key
is a mapping of one entry. Where its key is left out, the next token is passed over. -/
def flowItems? (handles : Handles) (first : Bool) :
    Nat → List Token → Option (List (Node String) × List Token)
  | 0, _ => none
  | fuel + 1, tokens =>
    match tokens with
    | .closeSequence :: rest => some ([], rest)
    | tokens => do
      let tokens ← if first then some tokens
        else match tokens with
          | .flowEntry :: rest => some rest
          | _ => none
      match tokens with
      | .closeSequence :: rest => some ([], rest)
      | .key :: rest =>
        let (key, rest) ← match rest with
          | .value :: rest | .flowEntry :: rest | .closeSequence :: rest => some (.empty, rest)
          | rest => node? handles .flow fuel rest
        let (value, rest) ← match rest with
          | .value :: rest => nodeBefore? [.flowEntry, .closeSequence] handles .flow fuel rest
          | rest => some (.empty, rest)
        let (items, rest) ← flowItems? handles false fuel rest
        some (.mapping none none [(key, value)] :: items, rest)
      | tokens =>
        let (item, rest) ← node? handles .flow fuel tokens
        let (items, rest) ← flowItems? handles false fuel rest
        some (item :: items, rest)

/-- Reads the entries of a mapping in brackets; all but the first follow a comma. -/
def flowEntries? (handles : Handles) (first : Bool) :
    Nat → List Token → Option (List (Node String × Node String) × List Token)
  | 0, _ => none
  | fuel + 1, tokens =>
    match tokens with
    | .closeMapping :: rest => some ([], rest)
    | tokens => do
      let tokens ← if first then some tokens
        else match tokens with
          | .flowEntry :: rest => some rest
          | _ => none
      match tokens with
      | .closeMapping :: rest => some ([], rest)
      | .key :: rest =>
        let (key, rest) ← nodeBefore? [.value, .flowEntry, .closeMapping] handles .flow fuel rest
        let (value, rest) ← match rest with
          | .value :: rest => nodeBefore? [.flowEntry, .closeMapping] handles .flow fuel rest
          | rest => some (.empty, rest)
        let (entries, rest) ← flowEntries? handles false fuel rest
        some ((key, value) :: entries, rest)
      | tokens =>
        let (key, rest) ← node? handles .flow fuel tokens
        let (entries, rest) ← flowEntries? handles false fuel rest
        some ((key, .empty) :: entries, rest)

end

/-! ### Documents -/

/-- The documents in front of the first fault, and whether there is none. -/
structure Stream where
  documents : List (Node String)
  sound : Bool

/-- Reads the node of a document behind its marker, where it may be left out. -/
def content? (handles : Handles) (tokens : List Token) : Option (Node String × List Token) :=
  match tokens with
  | [] => none
  | .version .. :: _ | .handle .. :: _ | .documentStart :: _ | .documentEnd :: _
  | .streamEnd :: _ => some (.empty, tokens)
  | _ => node? handles .block (2 * tokens.length + 2) tokens

/-- Reads a document. It needs a marker unless it stands in front of all others. -/
def document? (first : Bool) (tokens : List Token) : Option (Node String × List Token) :=
  match tokens with
  | .version .. :: _ | .handle .. :: _ | .documentStart :: _ => marked tokens
  | _ =>
    if first then node? Handles.standard .block (2 * tokens.length + 2) tokens else marked tokens
where
  marked (tokens : List Token) : Option (Node String × List Token) := do
    match ← directives? false [] tokens with
    | (handles, .documentStart :: rest) => content? handles rest
    | _ => none

/-- Passes over the markers that end documents. -/
def skipEnds : List Token → List Token
  | .documentEnd :: rest => skipEnds rest
  | tokens => tokens

/-- Reads documents. -/
def documents : Nat → Bool → List Token → List (Node String) → Stream
  | 0, _, _, read => ⟨read.reverse, false⟩
  | fuel + 1, first, tokens, read =>
    let tokens := if first then tokens else skipEnds tokens
    match tokens with
    | .streamEnd :: _ => ⟨read.reverse, true⟩
    | tokens =>
      match document? first tokens with
      | some (node, token :: rest) => documents fuel false (token :: rest) (node :: read)
      | _ => ⟨read.reverse, false⟩

/-- The documents of a text. -/
def stream (text : String) : Stream :=
  let tokens := tokens text
  documents (tokens.length + 1) true tokens []

end ApiReplay.Yaml
