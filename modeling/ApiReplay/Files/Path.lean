import ApiReplay.Text.Blank

/-!
# File paths

A path keeps its text; what it means is told by its components. Repeated and trailing slashes and
inner dots separate nothing, a leading dot and double dots are components of their own. Paths are
ordered component by component.

## Main definitions

* `FilePath.Component`, `FilePath.components`: the components of a path.
* `FilePath.lead`, `FilePath.body`: the components up to the first name, and from there on.
* `FilePath.fileName?`, `FilePath.parentName?`, `FilePath.isYaml`: the last names of a path.
* `FilePath.join`, `FilePath.isAbsolute`: paths relative to others.
* `FilePath.compare`: the order.
* `FilePath.identifier`: the short name of a test file.
-/

namespace ApiReplay.FilePath

/-- A component of a path. -/
inductive Component where
  | root
  | current
  | up
  | name (text : String)
deriving DecidableEq

/-- Whether a component is a name. -/
def Component.isName : Component → Bool
  | name _ => true
  | _ => false

/-- The components in front of the first name. -/
def lead (components : List Component) : List Component :=
  components.takeWhile (!·.isName)

/-- The components from the first name on. -/
def body (components : List Component) : List Component :=
  components.dropWhile (!·.isName)

/-- Whether a path starts at the root. -/
def isAbsolute (path : String) : Bool :=
  path.toList.head? = some '/'

/-- The component that a part between slashes stands for. -/
def Component.ofPart? (part : List Char) : Option Component :=
  match part with
  | [] | ['.'] => none
  | ['.', '.'] => some .up
  | _ => some (.name (String.ofList part))

/-- The components of a path. -/
def components (path : String) : List Component :=
  let parts := Text.splitAtEach '/' path.toList
  let start : List Component := match path.toList, parts with
    | '/' :: _, _ => [.root]
    | _, ['.'] :: _ => [.current]
    | _, _ => []
  start ++ parts.filterMap Component.ofPart?

/-- Whether a path ends in a dot behind a slash, which its components do not tell. Slashes may
follow. -/
def endsInDot (path : String) : Bool :=
  match path.toList.reverse.dropWhile (· = '/') with
  | '.' :: '/' :: _ => true
  | _ => false

/-- The last component of a list, when it is a name. -/
def lastName? (components : List Component) : Option String :=
  match components.getLast? with
  | some (.name text) => some text
  | _ => none

@[simp]
theorem lastName?_concat (outer : List Component) (text : String) :
    lastName? (outer ++ [.name text]) = some text := by
  simp [lastName?]

/-- The name of the file. -/
def fileName? (path : String) : Option String :=
  lastName? (components path)

/-- The name of the directory that the file lies in. -/
def parentName? (path : String) : Option String :=
  lastName? (components path).dropLast

/-- The part of a name behind its last dot. A dot in front makes no extension. -/
def nameExtension? (name : String) : Option String :=
  match name.toList.reverse.span (· ≠ '.') with
  | (_, []) | (_, ['.']) => none
  | (last, _) => some (String.ofList last.reverse)

/-- Whether a name has an extension of test documents. -/
def isYamlName (name : String) : Bool :=
  nameExtension? name = some "yml" || nameExtension? name = some "yaml"

/-- Whether the name of a file has an extension of test documents. -/
def isYaml (path : String) : Bool :=
  (fileName? path).any isYamlName

/-- A path below another; an absolute path stays as it is. -/
def join (base path : String) : String :=
  if isAbsolute path then path
  else if base = "" ∨ base.toList.getLast? = some '/' then base ++ path
  else base ++ "/" ++ path

/-- The short name of a test file: the name of its directory and its own. -/
def identifier (path : String) : String :=
  let file := (fileName? path).getD ""
  match parentName? path with
  | some parent => parent ++ "/" ++ file
  | none => file

/-! ### Order -/

/-- The rank of the kind of a component. -/
def Component.rank : Component → Nat
  | root => 0
  | current => 1
  | up => 2
  | name _ => 3

/-- The order of components: by kind, and names by their text. -/
def Component.compare : Component → Component → Ordering
  | name a, name b => compareOfLessAndEq a b
  | a, b => compareOfLessAndEq a.rank b.rank

/-- The order of lists of components. -/
def compareComponents : List Component → List Component → Ordering
  | [], [] => .eq
  | [], _ :: _ => .lt
  | _ :: _, [] => .gt
  | a :: as, b :: bs =>
    match a.compare b with
    | .eq => compareComponents as bs
    | order => order

/-- The order of paths. -/
def compare (a b : String) : Ordering :=
  compareComponents (components a) (components b)

end ApiReplay.FilePath
