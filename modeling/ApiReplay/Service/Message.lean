import ApiReplay.Json.Text

/-!
# Requests and responses

A request names an operation and carries a tree of parameters and headers. A response has a status,
headers and a body, or is a plain boolean, as predicates answer.

## Main definitions

* `Request`, `Request.param?`: the requests.
* `Reply`, `Response`: the responses; `Response.body?`, `Response.attribute?` and `Response.bool?`
  look into them.
* `Response.text`: a response in messages.
-/

namespace ApiReplay

/-- A call of an operation. -/
structure Request where
  /-- The name of the operation; dots separate the namespaces it lies in. -/
  operation : String
  params : Json
  headers : List (String × String)

/-- The value of a top-level parameter. -/
def Request.param? (name : String) (r : Request) : Option Json :=
  r.params.get? name

/-- A structured response. -/
structure Reply where
  status : Nat
  headers : List (String × String)
  body : Json

/-- What a call returns. -/
inductive Response where
  | reply (reply : Reply)
  | bool (value : Bool)

namespace Response

/-- A structured response without headers. -/
def ok (status : Nat) (body : Json) : Response :=
  reply ⟨status, [], body⟩

/-- The body of a structured response. -/
def body? : Response → Option Json
  | reply r => some r.body
  | bool _ => none

/-- The boolean of a predicate. -/
def bool? : Response → Option Bool
  | reply _ => none
  | bool b => some b

/-- The status, the body or the headers of a structured response. A repeated header stays at its
first position and takes the last value. -/
def attribute? (name : String) : Response → Option Json
  | bool _ => none
  | reply r =>
    match name with
    | "status" => some (.nat r.status)
    | "body" => some r.body
    | "headers" => some (.object (Entries.ofList (r.headers.map fun h => (h.1, .string h.2))))
    | _ => none

/-- A response as it stands in messages. -/
def text : Response → String
  | reply r => "[" ++ natText r.status ++ "] " ++ r.body.text
  | bool true => "true"
  | bool false => "false"

end Response

end ApiReplay
