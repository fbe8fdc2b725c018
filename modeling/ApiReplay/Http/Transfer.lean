import ApiReplay.Http.Message
import ApiReplay.Http.Reference

/-!
# Sending requests

One server can be reached, at a known origin; it serves one delivery after the other. A reply may
send the client on to another address, up to ten times. Some of the statuses that do so turn the
request into a plain one without a body, others keep it as it is.

## Main definitions

* `Http.Network`, `Http.Server`: the origin that can be reached, and what will be delivered there.
* `Http.Fault`, `Http.Fault.message`: why there is no reply, and its wording.
* `Http.Draft`, `Http.Draft.redirected?`: requests, and what a reply turns them into.
* `Http.Transfer`, `Http.send`: the account of sending a request.
-/

namespace ApiReplay.Http

/-- The deliveries of a server that are to come; the last repeats. -/
abbrev Server := List Delivery

/-- What a server does next, and what it will do then. -/
def Server.next : Server → Delivery × Server
  | [] => (.closed, [])
  | [delivery] => (delivery, [delivery])
  | delivery :: rest => (delivery, rest)

/-- What can be reached. -/
structure Network where
  /-- Scheme, host and port of the server. -/
  origin : String

/-- Why there is no reply to a request. -/
inductive Fault where
  /-- The request cannot be made. -/
  | malformed
  /-- The address has no host, or no scheme that the client speaks. -/
  | scheme (url : Url)
  | unreachable (url : Url)
  | timeout (url : Url)
  | redirects (url : Url)
  /-- The body ended early. -/
  | body
  /-- The status of the reply is that of an error. -/
  | status (code : Nat) (reason : String) (url : Url)

/-- The wording of a fault. -/
def Fault.message : Fault → String
  | malformed => "builder error"
  | scheme url => "builder error for url (" ++ url.text ++ ")"
  | unreachable url | timeout url => "error sending request for url (" ++ url.text ++ ")"
  | redirects url => "error following redirect for url (" ++ url.text ++ ")"
  | body => "error decoding response body"
  | status code reason url =>
    "HTTP status " ++ (if code < 500 then "client" else "server") ++ " error (" ++ natText code
      ++ " " ++ reason ++ ") for url (" ++ url.text ++ ")"

/-! ### Requests -/

/-- A request that is to be sent. -/
structure Draft where
  method : String
  url : Url
  /-- The headers, names in small letters. -/
  headers : List Header
  body : Option String := none

namespace Draft

/-- The request as the server sees it. -/
def wire (d : Draft) : Request where
  method := d.method
  target := String.ofList d.url.target
  headers := d.headers.map fun (name, value) => (name, trimValue value)
  body := d.body.getD ""

/-- The headers with one set in place of any of its name. -/
def setHeader (name value : String) (headers : List Header) : List Header :=
  headers.filter (·.1 ≠ name) ++ [(name, value)]

/-- The headers with one added unless there is one of its name. -/
def addDefault (name value : String) (headers : List Header) : List Header :=
  if (headerValue? name headers).isSome then headers else headers ++ [(name, value)]

/-- The request by another method, without the body and the headers that tell of it. -/
def withoutBody (d : Draft) (method : String) : Draft :=
  let dropped := ["transfer-encoding", "content-encoding", "content-type", "content-length"]
  { d with method, headers := d.headers.filter fun h => !dropped.contains h.1, body := none }

/-- The address that a server is asked for, which is without a fragment. -/
def asked (d : Draft) : Url :=
  { d.url with fragment := none }

/-- The request to another address, which tells where it comes from. -/
def moved (d : Draft) (url : Url) : Draft :=
  { d with url, headers := setHeader "referer" d.asked.text d.headers }

/-- The request as a status asks for it elsewhere, if it does. Two of these statuses turn only posts
into plain requests, one turns all requests into plain ones, and two change nothing. -/
def elsewhere? (d : Draft) : Nat → Option Draft
  | 301 | 302 => some (if d.method = "POST" then d.withoutBody "GET" else d)
  | 303 => some (d.withoutBody (if d.method = "HEAD" then "HEAD" else "GET"))
  | 307 | 308 => some d
  | _ => none

/-- The request that a reply asks for instead, if it does. -/
def redirected? (d : Draft) (reply : Reply) : Option Draft := do
  let next ← d.elsewhere? reply.status
  let location ← headerValue? "location"
    (reply.headers.map fun (name, value) => (lower name, trimValue value))
  let url ← d.url.follow? location.toList
  some (next.moved url)

/-- Whether the client speaks the scheme of the address. -/
def isSpoken (d : Draft) : Bool :=
  d.url.scheme = "http".toList || d.url.scheme = "https".toList

end Draft

/-! ### Sending -/

/-- The account of sending a request. -/
structure Transfer where
  sent : List Request := []
  /-- Whether the server went silent. -/
  stalled : Bool := false
  /-- The reply, with the request that it answers. -/
  outcome : Except Fault (Draft × Reply)
  server : Server

/-- Sends a request and follows redirections, so many as are left; a patience of zero gives every
request up. Where no reply comes, the fault names the address that was asked at first. -/
def follow (network : Network) (patience : Nat) (first : Url) : Nat → Draft → Server → Transfer
  | left, draft, server =>
    if !draft.isSpoken then { outcome := .error (.scheme draft.url), server }
    else if patience = 0 then { outcome := .error (.timeout first), server }
    else if String.ofList draft.url.origin ≠ network.origin then
      { outcome := .error (.unreachable first), server }
    else
      match server.next with
      | (.closed, server) =>
        { sent := [draft.wire], outcome := .error (.unreachable first), server }
      | (.silence, server) =>
        { sent := [draft.wire], stalled := true, outcome := .error (.timeout first), server }
      | (.reply reply, server) =>
        match draft.redirected? reply, left with
        | none, _ => { sent := [draft.wire], outcome := .ok (draft, reply), server }
        | some _, 0 =>
          { sent := [draft.wire], outcome := .error (.redirects draft.asked), server }
        | some next, left + 1 =>
          let more := follow network patience first left next server
          { more with sent := draft.wire :: more.sent }

/-- How many redirections are followed. -/
def redirectLimit : Nat := 10

/-- Sends a request. -/
def send (network : Network) (patience : Nat) (draft : Draft) (server : Server) : Transfer :=
  follow network patience draft.url redirectLimit draft server

/-- The headers of a request with those that every request has. -/
def withDefaults (headers : List Header) : List Header :=
  Draft.addDefault "user-agent" "api-conformance" (Draft.addDefault "accept" "*/*" headers)

end ApiReplay.Http
