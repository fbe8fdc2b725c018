import ApiReplay.Registry.Namespace
import ApiReplay.Service.Client

/-!
# Registries

A registry is a client made of registered handlers. Its state is the list of all requests that were
performed so far; a handler answers from that list and the request. A request that no handler is
registered for is refused, and is part of the list all the same.

## Main definitions

* `Handler`, `Registry`, `Registry.register`: handlers and their registration.
* `Registry.answer`: the answer to a request.
* `Registry.client`: the client.
-/

namespace ApiReplay

/-- Answers a request, given all requests before it. -/
abbrev Handler := List Request → Request → Except ClientError Response

/-- Handlers under the names of operations. -/
structure Registry where
  flavor : Flavor
  root : Namespace Handler

namespace Registry

/-- The registry without handlers. -/
def empty (flavor : Flavor) : Registry :=
  ⟨flavor, .empty⟩

/-- Registers a handler under the name of an operation. -/
def register (operation : String) (handler : Handler) (r : Registry) : Registry :=
  { r with root := r.root.insert handler (Namespace.nameParts operation) }

/-- What is said about an operation without a handler. -/
def unknownOperation (operation : String) : ClientError :=
  .refused ("unknown operation '" ++ operation ++ "'")

/-- The answer to a request. -/
def answer (r : Registry) (earlier : List Request) (request : Request) :
    Except ClientError Response :=
  match r.root.find? (Namespace.nameParts request.operation) with
  | some handler => handler earlier request
  | none => .error (unknownOperation request.operation)

/-- The client that dispatches requests to the handlers. -/
def client (r : Registry) : Client (List Request) where
  flavor := r.flavor
  perform request calls := ({ result := r.answer calls request }, calls ++ [request])

end Registry

end ApiReplay
