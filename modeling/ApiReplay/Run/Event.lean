import ApiReplay.Action.Basic
import ApiReplay.Document.Requirement
import ApiReplay.Run.Summary
import ApiReplay.Service.Client

/-!
# Events

A run of the tests, or the download of a corpus, is described by the list of everything that happens
in it, in order. The console, the diagnostics and the account of what was sent are all read off this
list.

## Main definitions

* `Phase`: the phases of a test.
* `Event`: what happens.
* `Event.requests`, `Event.sent`: the requests performed, and the messages that went over the wire.
* `Event.uninterrupted`: the events up to the first request that the service did not answer.
-/

namespace ApiReplay

/-- The phases of a test. -/
inductive Phase where
  | setup
  | body
  | teardown
  | done
deriving DecidableEq

/-- The name of a phase. -/
def Phase.name : Phase → String
  | setup => "setup"
  | body => "body"
  | teardown => "teardown"
  | done => "done"

/-- What happens in a run of the tests or in the download of a corpus. -/
inductive Event where
  /-- The service of a run is known. -/
  | connecting (address : String)
  /-- A file is left out because a pattern occurs in its path. -/
  | fileExcluded (path : String)
  | runStarted (files : Nat) (flavor : Flavor)
  | documentSkipped (file : String) (requirement : Requirement) (flavor : Flavor)
  /-- A step of an unknown kind is passed over. -/
  | stepIgnored (keyword : String)
  | caseStarted (source title : String) (calls : Nat)
  | phaseStarted (source title : String) (phase : Phase) (actions : Nat)
  | actionStarted (action : Action)
  | performed (request : Request) (exchange : Exchange)
  /-- A call succeeded that should have failed. -/
  | unexpectedSuccess (operation category : String)
  | responded (operation : String) (response : Response)
  | failureExpected (operation category : String) (error : ClientError)
  | bound (name : String) (value : Json)
  /-- An action of a body passed; the response is the last one. -/
  | actionPassed (action : Action) (response : Option Response)
  | actionFailed (action : Action) (error : Error)
  | caseFinished (source title : String) (failed : Bool)
  /-- The teardown failed although the test had failed before. -/
  | teardownFailed (source : String) (error : Error)
  | caseFailed (file title : String) (error : Error)
  | documentFailed (file : String) (error : Error)
  | runFinished (summary : Summary)
  | fetchStarted (destination : String)
  /-- An archive is asked for; the server may go silent. -/
  | requested (sent : List Http.Request) (stalled : Bool)
  | downloaded (bytes : Nat) (address : String)
  /-- Everything in a directory is removed. -/
  | emptied (destination : String)
  | unpacked (files : Nat) (destination : String)
  /-- Someone asks the program to stop. -/
  | interrupted

namespace Event

/-- The request that an event is about. -/
def request? : Event → Option Request
  | performed request _ => some request
  | _ => none

/-- The requests that were performed, in order. -/
def requests (events : List Event) : List Request :=
  events.filterMap request?

@[simp]
theorem requests_nil : requests [] = [] :=
  rfl

@[simp]
theorem requests_cons (e : Event) (events : List Event) :
    requests (e :: events) = e.request?.toList ++ requests events := by
  cases h : e.request? <;> simp [requests, h]

@[simp]
theorem requests_append (first more : List Event) :
    requests (first ++ more) = requests first ++ requests more :=
  List.filterMap_append

/-- The messages that an event sent over the wire. -/
def messages : Event → List Http.Request
  | performed _ exchange => exchange.sent
  | requested sent _ => sent
  | _ => []

/-- The messages that went over the wire, in order. -/
def sent (events : List Event) : List Http.Request :=
  events.flatMap messages

/-- The directory that an event empties. -/
def emptied? : Event → Option String
  | emptied destination => some destination
  | _ => none

/-- Whether an event is a request that was not answered. -/
def isStalled : Event → Bool
  | performed _ exchange => exchange.stalled
  | requested _ stalled => stalled
  | _ => false

/-- The events up to the first request that was not answered, that request included. -/
def uninterrupted : List Event → List Event
  | [] => []
  | e :: rest => if e.isStalled then [e] else e :: uninterrupted rest

end Event

end ApiReplay
