import ApiReplay.Http.Endpoint
import ApiReplay.Http.Identity
import ApiReplay.Http.Transfer
import ApiReplay.Json.Reader
import ApiReplay.Service.Client

/-!
# The client of a service behind a server

A request is refused, and nothing is sent, when its operation has no endpoint, its parameters are no
mapping or too few for a path, or the method of the endpoint is none. The body parameter becomes
the body: lists as lines, texts as they are, and other trees compactly. The status of the reply
decides between a response and an error.

## Main definitions

* `Http.Plan`, `Http.plan`: what a request asks for in terms of methods, paths and bodies.
* `Http.draft`: the request to send.
* `Http.respond`: what a reply answers.
* `Http.client`: the client.
-/

namespace ApiReplay.Http

/-- What a request asks for. -/
structure Plan where
  endpoint : Endpoint
  path : String
  query : List (String × String)
  body : Option Json

/-- The parameters of a request as entries. -/
def paramEntries (request : ApiReplay.Request) : Except ClientError (List (String × Json)) :=
  match request.params with
  | .object entries => .ok entries
  | .null => .ok []
  | other =>
    .error (.refused ("parameters for '" ++ request.operation ++ "' must be a mapping, got "
      ++ other.text))

/-- What a request asks for, unless it is refused. -/
def plan (endpoints : List (String × Endpoint)) (request : ApiReplay.Request) :
    Except ClientError Plan :=
  match findEndpoint? endpoints request.operation with
  | none => .error (.refused ("no endpoint for operation '" ++ request.operation ++ "'"))
  | some endpoint => do
    let params ← paramEntries request
    let body := Entries.find? "body" params
    match selectPath? endpoint.paths (Entries.remove "body" params) with
    | none =>
      .error (.refused ("missing path parameters for '" ++ request.operation ++ "' (paths: "
        ++ String.intercalate ", " endpoint.paths ++ ")"))
    | some (path, left) =>
      if isMethod endpoint.method then
        .ok { endpoint, path, query := left.map fun (name, value) => (name, paramText value), body }
      else .error (.refused ("invalid HTTP method '" ++ endpoint.method ++ "'"))

/-! ### Drafts -/

/-- A list as a body: one line for each item, texts as they are. -/
def lines (items : List Json) : String :=
  String.join (items.map fun item => item.plainText ++ "\n")

/-- The headers and the body that carry the body parameter. -/
def carry (headers : List Header) : Option Json → List Header × Option String
  | none => (headers, none)
  | some (.array items) =>
    (headers ++ [("content-type", "application/x-ndjson")], some (lines items))
  | some (.string raw) => (headers ++ [("content-type", "application/json")], some raw)
  | some tree => (Draft.addDefault "content-type" "application/json" headers, some tree.text)

/-- The header that identifies the client, by a key or else by a user. -/
def identity (service : Config.Service) : List Header :=
  match service.apiKey, service.username with
  | some key, _ => [("authorization", "ApiKey " ++ key)]
  | none, some user => [basicHeader user.toList (service.password.getD "").toList]
  | none, none => []

/-- The text without slashes at its end. -/
def withoutSlashes (text : String) : String :=
  String.ofList (text.toList.reverse.dropWhile (· = '/')).reverse

/-- The request to send, unless it cannot be made. -/
def draft (service : Config.Service) (headers : List Header) (plan : Plan) : Except Fault Draft :=
  match Url.parse? (withoutSlashes service.url ++ plan.path).toList with
  | none => .error .malformed
  | some url =>
    let (url, user) := url.takeUser
    let given := userHeader user ++ identity service ++ headers
    if !url.hasHost then .error (.scheme url)
    else if given.all fun h => isHeaderName h.1 && isHeaderValue h.2 then
      let named := given.map fun (name, value) => (lower name, value)
      let (headers, body) := carry named plan.body
      .ok { method := plan.endpoint.method, url := url.addQuery plan.query,
            headers := withDefaults headers, body }
    else .error .malformed

/-! ### Replies -/

/-- The error of a client that gets no reply. -/
def Fault.clientError (fault : Fault) : ClientError :=
  match fault with
  | .timeout _ => ⟨.requestTimeout, fault.message⟩
  | _ => ⟨.transport, fault.message⟩

/-- The tree that the text of a body stands for: nothing for white space, and the text itself when
it is no data. -/
def bodyTree (text : String) : Json :=
  if (Text.trim text.toList).isEmpty then .null else (Json.parse? text).getD (.string text)

/-- What a reply answers. -/
def respond (endpoint : Endpoint) (reply : Reply) (text : String) : Except ClientError Response :=
  if endpoint.boolean then
    if 200 ≤ reply.status ∧ reply.status < 300 then .ok (.bool true)
    else if reply.status = 404 then .ok (.bool false)
    else .error (.ofStatus reply.status text)
  else if 400 ≤ reply.status then .error (.ofStatus reply.status text)
  else .ok (.reply ⟨reply.status, reply.shownHeaders, bodyTree text⟩)

/-- What the end of a transfer answers. -/
def conclude (endpoint : Endpoint) : Except Fault (Draft × Reply) → Except ClientError Response
  | .error fault => .error fault.clientError
  | .ok (draft, reply) =>
    match reply.text? draft.method with
    | none => .error Fault.body.clientError
    | some text => respond endpoint reply text

/-! ### The client -/

/-- Performs a request. -/
def perform (network : Network) (service : Config.Service) (endpoints : List (String × Endpoint))
    (request : ApiReplay.Request) (server : Server) : Exchange × Server :=
  match plan endpoints request with
  | .error e => ({ result := .error e }, server)
  | .ok plan =>
    match draft service request.headers plan with
    | .error fault => ({ path := plan.path, result := .error fault.clientError }, server)
    | .ok draft =>
      let transfer := send network service.timeout draft server
      ({ path := plan.path
         sent := transfer.sent
         stalled := transfer.stalled
         result := conclude plan.endpoint transfer.outcome }, transfer.server)

/-- The client of a service. -/
def client (network : Network) (service : Config.Service) (endpoints : List (String × Endpoint)) :
    Client Server where
  flavor := if service.serverless then .serverless else .stack
  perform := perform network service endpoints

end ApiReplay.Http
