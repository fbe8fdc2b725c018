import ApiReplay.Http.Message
import ApiReplay.Service.ClientError
import ApiReplay.Service.Flavor
import ApiReplay.Service.Message

/-!
# Clients

A client performs requests one after the other. What it answers may depend on everything that
happened before, so a client comes with a type of states and takes a state to the next; all that a
run knows of a service is its client. Besides its result an exchange tells what went over the wire.

## Main definitions

* `Exchange`: the account of one performed request.
* `Client`: the clients.
* `Client.after`: the state that requests leave behind.
* `Client.Memoryless`: clients whose results do not depend on their state.
-/

namespace ApiReplay

/-- The account of one performed request. -/
structure Exchange where
  /-- The path that was requested, when a request got as far as being sent. -/
  path : Option String := none
  /-- The requests that went over the wire. -/
  sent : List Http.Request := []
  /-- Whether the service went silent instead of answering. -/
  stalled : Bool := false
  result : Except ClientError Response

/-- A client with states in `σ`. -/
structure Client (σ : Type) where
  /-- The flavor of the service. -/
  flavor : Flavor
  perform : Request → σ → Exchange × σ

namespace Client

/-- The result of a request in a state. -/
def result {σ : Type} (client : Client σ) (request : Request) (state : σ) :
    Except ClientError Response :=
  (client.perform request state).1.result

/-- The state behind requests that were performed one after the other. -/
def after {σ : Type} (client : Client σ) (requests : List Request) (state : σ) : σ :=
  requests.foldl (fun state request => (client.perform request state).2) state

@[simp]
theorem after_append {σ : Type} (client : Client σ) (first more : List Request) (state : σ) :
    client.after (first ++ more) state = client.after more (client.after first state) :=
  List.foldl_append

/-- The result of a request is the same in all states. -/
def Memoryless {σ : Type} (client : Client σ) : Prop :=
  ∀ request state state', client.result request state = client.result request state'

end Client

end ApiReplay
