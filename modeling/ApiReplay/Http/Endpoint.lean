import ApiReplay.Config
import ApiReplay.Json.Text

/-!
# Endpoints

An operation is requested through its endpoint. The templates of an endpoint name parameters between
braces; the first template counts whose parameters are all given. Those parameters become part of
the path, and the others, in an order in which the last one takes the place of each that is used,
become the query.

## Main definitions

* `Http.Piece`, `Http.pieces`: templates.
* `Http.paramText`: a parameter as text.
* `Http.selectPath?`: the path of an operation and the parameters that are left.
* `Http.standardEndpoints`, `Http.findEndpoint?`: the endpoints that need no configuration.
-/

namespace ApiReplay.Http

/-! ### Templates -/

/-- A piece of a template. -/
inductive Piece where
  | literal (c : Char)
  | placeholder (name : String)
deriving DecidableEq

/-- Whether a character may stand in the name of a placeholder. -/
def isPlaceholderChar (c : Char) : Bool :=
  c.isAlphanum || c = '_'

/-- The pieces of a template. A brace that opens no placeholder stands for itself. -/
def piecesUpTo : Nat → List Char → List Piece
  | 0, _ => []
  | _ + 1, [] => []
  | fuel + 1, c :: rest =>
    let name := rest.takeWhile isPlaceholderChar
    match rest.drop name.length with
    | '\x7d' :: behind =>
      if c = '\x7b' ∧ name ≠ [] then
        .placeholder (String.ofList name) :: piecesUpTo fuel behind
      else .literal c :: piecesUpTo fuel rest
    | _ => .literal c :: piecesUpTo fuel rest

/-- The pieces of a template. -/
def pieces (template : String) : List Piece :=
  piecesUpTo (template.length + 1) template.toList

/-- The name of a placeholder. -/
def Piece.name? : Piece → Option String
  | literal _ => none
  | placeholder name => some name

/-- The names of the placeholders of a template. -/
def placeholders (template : String) : List String :=
  (pieces template).filterMap Piece.name?

/-! ### Parameters -/

mutual

/-- A parameter as text: a text as it is, and a list as its items with commas between them. -/
def paramChars : Json → List Char
  | .string s => s.toList
  | .array items => paramItems items
  | tree => tree.chars

/-- The items of a list, with commas between them. -/
def paramItems : List Json → List Char
  | [] => []
  | [item] => paramChars item
  | item :: rest => paramChars item ++ ',' :: paramItems rest

end

/-- A parameter as text. -/
def paramText (value : Json) : String :=
  String.ofList (paramChars value)

/-- What a piece of a template stands for. -/
def Piece.fill (params : List (String × Json)) : Piece → List Char
  | literal c => [c]
  | placeholder name => ((Entries.find? name params).map paramChars).getD []

/-- The path that a template stands for. -/
def fillTemplate (params : List (String × Json)) (template : String) : String :=
  String.ofList ((pieces template).flatMap (Piece.fill params))

/-- Whether the parameters of a template are all given. -/
def isFilled (params : List (String × Json)) (template : String) : Bool :=
  (placeholders template).all fun name => (Entries.find? name params).isSome

/-- The path by the first template whose parameters are all given, and the parameters that it does
not use. -/
def selectPath? (templates : List String) (params : List (String × Json)) :
    Option (String × List (String × Json)) :=
  (templates.find? (isFilled params)).map fun template =>
    (fillTemplate params template,
      (placeholders template).foldl (fun left name => Entries.remove name left) params)

/-! ### The table -/

/-- An endpoint; the method that asks for headers only answers with a plain status. -/
def standardEndpoint (method : String) (paths : List String) : Endpoint :=
  { method, paths, boolean := method = "HEAD" }

/-- The endpoints that need no configuration. -/
def standardEndpoints : List (String × Endpoint) :=
  [("info", standardEndpoint "GET" ["/"]),
    ("ping", standardEndpoint "HEAD" ["/"]),
    ("index", standardEndpoint "POST" ["/\x7bindex\x7d/_doc/\x7bid\x7d", "/\x7bindex\x7d/_doc"]),
    ("get", standardEndpoint "GET" ["/\x7bindex\x7d/_doc/\x7bid\x7d"]),
    ("exists", standardEndpoint "HEAD" ["/\x7bindex\x7d/_doc/\x7bid\x7d"]),
    ("delete", standardEndpoint "DELETE" ["/\x7bindex\x7d/_doc/\x7bid\x7d"]),
    ("update", standardEndpoint "POST" ["/\x7bindex\x7d/_update/\x7bid\x7d"]),
    ("search", standardEndpoint "POST" ["/\x7bindex\x7d/_search", "/_search"]),
    ("count", standardEndpoint "POST" ["/\x7bindex\x7d/_count", "/_count"]),
    ("bulk", standardEndpoint "POST" ["/\x7bindex\x7d/_bulk", "/_bulk"]),
    ("indices.create", standardEndpoint "PUT" ["/\x7bindex\x7d"]),
    ("indices.delete", standardEndpoint "DELETE" ["/\x7bindex\x7d"]),
    ("indices.exists", standardEndpoint "HEAD" ["/\x7bindex\x7d"]),
    ("indices.refresh", standardEndpoint "POST" ["/\x7bindex\x7d/_refresh", "/_refresh"]),
    ("indices.get_mapping", standardEndpoint "GET" ["/\x7bindex\x7d/_mapping", "/_mapping"]),
    ("indices.put_mapping", standardEndpoint "PUT" ["/\x7bindex\x7d/_mapping"])]

/-- The endpoint of an operation; those of a configuration come first. -/
def findEndpoint? (configured : List (String × Endpoint)) (operation : String) : Option Endpoint :=
  (Entries.find? operation configured).or (Entries.find? operation standardEndpoints)

end ApiReplay.Http
