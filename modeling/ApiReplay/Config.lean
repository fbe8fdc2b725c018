import ApiReplay.Environment
import ApiReplay.Error
import ApiReplay.Files.Disk
import ApiReplay.Toml.Reader

/-!
# Configurations

A configuration selects tests, describes the service, and maps operations to endpoints. All of it
has defaults. A text that states it is a tree of tables; a section may also be an array that gives
its settings in order. What is not known is passed over, and a setting of the wrong kind is a fault.

## Main definitions

* `Endpoint`: how an operation is requested.
* `Config`, `Config.parse`, `Config.load`: configurations and how they are read.
* `Config.flavor?`: the flavor to run as, which the environment may override.
-/

namespace ApiReplay

/-- How an operation is requested. -/
structure Endpoint where
  method : String
  /-- The templates of the path, tried in order; names in braces stand for parameters. -/
  paths : List String
  /-- Whether the status of the reply is a plain answer. -/
  boolean : Bool := false
deriving DecidableEq

/-- The selection of tests. -/
structure Config.Selection where
  testsPath : String
  skip : List String := []
  flavor : Option Flavor := none

/-- The description of the service. -/
structure Config.Service where
  url : String := "http://localhost:9200"
  /-- After how many seconds a request is given up. -/
  timeout : Nat := 30
  apiKey : Option String := none
  username : Option String := none
  password : Option String := none
  serverless : Bool := false

/-- A configuration. -/
structure Config where
  run : Config.Selection
  client : Config.Service := {}
  /-- Endpoints by the names of operations. -/
  endpoints : List (String × Endpoint) := []

namespace Config

/-- The configuration without any settings. -/
def standard (e : Environment) : Config :=
  { run := { testsPath := e.testsPath } }

/-! ### Settings

Each reading takes the place that counts where a node has none of its own, and fails with a place.
-/

/-- A text. -/
def text (place : Nat) : Toml.Node → Except Nat String
  | .string _ text => .ok text
  | node => .error (node.place?.getD place)

/-- A boolean. -/
def boolean (place : Nat) : Toml.Node → Except Nat Bool
  | .boolean _ value => .ok value
  | node => .error (node.place?.getD place)

/-- A number that is not negative. -/
def natural (place : Nat) : Toml.Node → Except Nat Nat
  | .integer place value => if value < 0 then .error place else .ok value.toNat
  | node => .error (node.place?.getD place)

/-- A list of texts. -/
def texts (place : Nat) : Toml.Node → Except Nat (List String)
  | .array place _ items => items.mapM (text place)
  | node => .error (node.place?.getD place)

/-- Whether a node holds nothing. -/
def isVoid : Toml.Node → Bool
  | .array _ _ [] | .table _ _ [] => true
  | _ => false

/-- A flavor: its name, or a table with an empty entry under its name. -/
def flavor (place : Nat) : Toml.Node → Except Nat Flavor
  | .string place name => (Flavor.ofName? name).elim (.error place) .ok
  | .table at? origin entries =>
    let place := at?.getD place
    match entries with
    | (key, node) :: rest =>
      match Flavor.ofName? key.text with
      | some flavor =>
        if isVoid node && (rest.isEmpty || origin ≠ .inline) then .ok flavor
        else .error (if isVoid node then place else node.place?.getD key.place)
      | none => .error (if rest.isEmpty || origin ≠ .inline then key.place else place)
    | [] => .error place
  | node => .error (node.place?.getD place)

/-- The entries of a section. Items of an array belong to the names in order, and as many as
`needed` have to be there; the second result tells whether they are. -/
def entries (names : List String) (needed : Nat) (place : Nat) :
    Toml.Node → Except Nat (List (Toml.Key × Toml.Node) × Bool)
  | .table _ _ entries => .ok (entries, true)
  | .array place _ items =>
    .ok ((names.zip items).map fun (name, node) => (⟨name, place⟩, node), needed ≤ items.length)
  | .date _ => .ok ([], true)
  | node => .error (node.place?.getD place)

/-- Reads a section entry by entry. -/
def readEntries {α : Type} (names : List String) (needed place : Nat)
    (set : α → Toml.Key → Toml.Node → Except Nat α) (start : α) (node : Toml.Node) :
    Except Nat α := do
  let (entries, complete) ← entries names needed place node
  let result ← entries.foldlM (fun result (key, node) => set result key node) start
  if complete then .ok result else .error (node.place?.getD place)

/-- Adds a setting of the selection of tests. -/
def Selection.set (s : Selection) (key : Toml.Key) (node : Toml.Node) : Except Nat Selection :=
  match key.text with
  | "tests_path" => (text key.place node).map fun path => { s with testsPath := path }
  | "skip" => (texts key.place node).map fun patterns => { s with skip := patterns }
  | "flavor" => (Config.flavor key.place node).map fun f => { s with flavor := some f }
  | _ => .ok s

/-- Adds a setting of the service. -/
def Service.set (s : Service) (key : Toml.Key) (node : Toml.Node) : Except Nat Service :=
  match key.text with
  | "url" => (text key.place node).map fun url => { s with url }
  | "timeout_secs" => (natural key.place node).map fun n => { s with timeout := n }
  | "api_key" => (text key.place node).map fun apiKey => { s with apiKey }
  | "username" => (text key.place node).map fun name => { s with username := name }
  | "password" => (text key.place node).map fun word => { s with password := word }
  | "serverless" => (boolean key.place node).map fun b => { s with serverless := b }
  | _ => .ok s

/-- An endpoint of which some settings are read. -/
structure EndpointDraft where
  method : Option String := none
  paths : Option (List String) := none
  boolean : Bool := false

/-- Adds a setting of an endpoint. -/
def EndpointDraft.set (e : EndpointDraft) (key : Toml.Key) (node : Toml.Node) :
    Except Nat EndpointDraft :=
  match key.text with
  | "method" => (text key.place node).map fun method => { e with method }
  | "paths" => (texts key.place node).map fun paths => { e with paths }
  | "boolean" => (Config.boolean key.place node).map fun b => { e with boolean := b }
  | _ => .ok e

/-- Reads an endpoint, which needs a method and paths. -/
def endpoint (place : Nat) (node : Toml.Node) : Except Nat Endpoint := do
  let draft ← readEntries ["method", "paths", "boolean"] 2 place EndpointDraft.set {} node
  match draft with
  | ⟨some method, some paths, boolean⟩ => .ok { method, paths, boolean }
  | _ => .error (node.place?.getD place)

/-- Reads the table of endpoints. -/
def endpointTable (place : Nat) : Toml.Node → Except Nat (List (String × Endpoint))
  | .table _ _ entries => entries.mapM fun (key, node) => do
    .ok (key.text, ← endpoint key.place node)
  | node => .error (node.place?.getD place)

/-- Adds a section. -/
def set (c : Config) (key : Toml.Key) (node : Toml.Node) : Except Nat Config :=
  match key.text with
  | "run" =>
    (readEntries ["tests_path", "skip", "flavor"] 3 key.place Selection.set c.run
      node).map fun run => { c with run }
  | "client" =>
    (readEntries ["url", "timeout_secs", "api_key", "username", "password", "serverless"] 5
      key.place Service.set c.client node).map fun client => { c with client }
  | "endpoints" => (endpointTable key.place node).map fun endpoints => { c with endpoints }
  | _ => .ok c

/-! ### Whole configurations -/

/-- The configuration that a tree states. -/
def ofToml (e : Environment) (tree : Toml.Node) : Except Nat Config :=
  readEntries [] 0 0 set (standard e) tree

/-- The configuration that a text states. -/
def parse (e : Environment) (text : String) : Except Error Config :=
  match Toml.read text.toList >>= ofToml e with
  | .ok config => .ok config
  | .error place =>
    let (line, column) := Toml.position text.toList place
    .error (.configSyntax line column)

/-- The configuration that a file states. -/
def load (e : Environment) (disk : Files.Disk) (path : String) : Except Error Config :=
  match disk.text path with
  | .ok text => parse e text
  | .error fault => .error (.unreadable path fault)

/-- The configuration of a user, who may have none. -/
def loadStandard (e : Environment) (disk : Files.Disk) : Except Error Config :=
  match e.configPath?.filter disk.contains with
  | some path => load e disk path
  | none => .ok (standard e)

/-- The flavor to run as, if one is asked for. -/
def flavor? (c : Config) (e : Environment) : Option Flavor :=
  e.flavor?.or c.run.flavor

end Config

end ApiReplay
