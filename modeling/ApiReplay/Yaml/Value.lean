import ApiReplay.Double.Decimal
import ApiReplay.Integer
import ApiReplay.Json.Basic
import ApiReplay.Yaml.Stream

/-!
# The data of documents

A node stands for data. The text of a plain scalar is read as null, a boolean or a number where it
looks like one; other scalars are texts. A tag may state the kind of a scalar, which then has to
look like it. Keys of mappings are scalars and stay texts.

A document may nest collections 128 deep, counting those that aliases stand for, and may follow at
most a hundred times as many aliases as it has events.

## Main definitions

* `Yaml.plainValue?`: the data of a plain scalar.
* `Yaml.Node.value?`: the data of a document.
* `Yaml.Fragments`, `Yaml.fragments`: the data of the documents of a text.
-/

namespace ApiReplay.Yaml

/-! ### Plain scalars -/

/-- The written forms of null. -/
def isNull (text : String) : Bool :=
  ["null", "Null", "NULL", "~"].contains text

/-- The boolean that a text writes. -/
def bool? (text : String) : Option Bool :=
  if ["true", "True", "TRUE"].contains text then some true
  else if ["false", "False", "FALSE"].contains text then some false
  else none

/-- Whether a text without its sign has several digits of which the first is zero, and nothing
else. Such a text is no number. -/
def isPadded (text : List Char) : Bool :=
  let digits := (Text.splitSign text).2
  1 < digits.length && digits.head? = some '0' && digits.all Char.isDigit

/-- The integer that a text writes: decimal, or behind `0x`, `0o` or `0b`. -/
def integer? (text : List Char) : Option Int :=
  let (negative, magnitude) := Text.splitSign text
  let natural := match magnitude with
    | '0' :: 'x' :: digits => Text.natural? 16 digits
    | '0' :: 'o' :: digits => Text.natural? 8 digits
    | '0' :: 'b' :: digits => Text.natural? 2 digits
    | digits => if isPadded text then none else Text.natural? 10 digits
  natural.map fun n => if negative then -n else n

/-- Whether a text writes an infinity or the value that is no number. -/
def isNonFinite (text : String) : Bool :=
  [".inf", ".Inf", ".INF", "+.inf", "+.Inf", "+.INF", "-.inf", "-.Inf", "-.INF",
    ".nan", ".NaN", ".NAN"].contains text

/-- The data of a floating-point number: null stands for those that are not finite. -/
def float? (text : String) : Option Json :=
  if isNonFinite text then some .null
  else (Double.parse? text.toList).map fun x => .number (.double x)

/-- The data of an integer; the outer result is none for a text that is no integer. Integers of more
than 64 bits have no data, and those of more than 128 bits count as none. -/
def integerData? (text : String) : Option (Option Json) :=
  match integer? text.toList with
  | none => none
  | some i =>
    if Integer.isSigned 64 i || Integer.isUnsigned 64 i then some (some (.int i))
    else if Integer.isSigned 128 i || Integer.isUnsigned 128 i then some none
    else none

/-- The data of a plain scalar without a tag. -/
def plainValue? (text : String) : Option Json :=
  if text = "" ∨ isNull text then some .null
  else
    match bool? text with
    | some b => some (.bool b)
    | none =>
      match integerData? text with
      | some data => data
      | none =>
        if isPadded text.toList then some (.string text)
        else some ((float? text).getD (.string text))

/-- The data of a scalar. Tags that start with an exclamation mark have no meaning here. -/
def scalarValue? (tag : Option String) (plain : Bool) (text : String) : Option Json :=
  match tag with
  | none => if plain then plainValue? text else some (.string text)
  | some "tag:yaml.org,2002:bool" => (bool? text).map .bool
  | some "tag:yaml.org,2002:int" => (integerData? text).join
  | some "tag:yaml.org,2002:float" => float? text
  | some "tag:yaml.org,2002:null" => if isNull text then some .null else none
  | some tag => if tag.toList.head? = some '!' then none else some (.string text)

/-! ### Nodes -/

namespace Node

/-- How deep collections may nest. -/
def depthLimit : Nat := 128

/-- What an alias stands for, and the number of aliases that may still be followed. -/
def target? (root : Node Nat) (jumps : Nat) : Node Nat → Option (Node Nat × Nat)
  | reference number =>
    match jumps with
    | 0 => none
    | jumps + 1 => (root.find? number).map (·, jumps)
  | node => some (node, jumps)

/-- Whether a collection may carry a tag. -/
def plainTag (tag : Option String) : Bool :=
  tag.all fun tag => tag.toList.head? ≠ some '!'

/-- The text of a key. -/
def keyText? (root : Node Nat) (jumps : Nat) (node : Node Nat) : Option (String × Nat) := do
  match ← target? root jumps node with
  | (scalar _ _ _ text, jumps) => some (text, jumps)
  | _ => none

/-- The data of a node of a document, whose collections may nest to a depth; also the number of
aliases that may still be followed. -/
def valueAt? (root : Node Nat) : Nat → Nat → Node Nat → Option (Json × Nat)
  | depth, jumps, node =>
    match target? root jumps node, depth with
    | some (scalar _ tag plain text, jumps), _ =>
      (scalarValue? tag plain text).map (·, jumps)
    | some (sequence _ tag items, jumps), depth + 1 =>
      if plainTag tag then do
        let (items, jumps) ← items.foldlM (fun (read, jumps) item => do
          let (value, jumps) ← valueAt? root depth jumps item
          some (value :: read, jumps)) ([], jumps)
        some (.array items.reverse, jumps)
      else none
    | some (mapping _ tag entries, jumps), depth + 1 =>
      if plainTag tag then do
        let (entries, jumps) ← entries.foldlM (fun (read, jumps) (key, value) => do
          let (key, jumps) ← keyText? root jumps key
          let (value, jumps) ← valueAt? root depth jumps value
          some (Entries.insert key value read, jumps)) ([], jumps)
        some (.object entries, jumps)
      else none
    | _, _ => none

/-- The data of a document. -/
def value? (document : Node String) : Option Json := do
  let (root, _) ← document.link? []
  let (value, _) ← valueAt? root depthLimit (100 * root.size) root
  some value

end Node

/-! ### Streams -/

/-- The data of the documents in front of the first fault, and whether there is none. -/
structure Fragments where
  values : List Json
  sound : Bool

/-- The data of documents in front of the first that has none. -/
def fragmentsOf (sound : Bool) : List (Node String) → Fragments
  | [] => ⟨[], sound⟩
  | document :: rest =>
    match document.value? with
    | none => ⟨[], false⟩
    | some value =>
      let fragments := fragmentsOf sound rest
      { fragments with values := value :: fragments.values }

/-- The data of the documents of a text. -/
def fragments (text : String) : Fragments :=
  let stream := stream text
  fragmentsOf stream.sound stream.documents

end ApiReplay.Yaml
