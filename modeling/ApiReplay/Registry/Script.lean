import ApiReplay.Registry.Basic

/-!
# Scripted handlers

A script says what a handler answers: a fixed response or error, an account of the request, a choice
by a parameter, or a sequence whose last entry repeats.

## Main definitions

* `Script`: the scripts.
* `Script.answer`: what a script answers to a request.
* `Script.handler`: the handler that follows a script.
* `Script.echoClient`: the client that answers every request with an account of it.
-/

namespace ApiReplay

/-- What a handler answers. -/
inductive Script where
  /-- A fixed response. -/
  | reply (response : Response)
  /-- A fixed error. -/
  | fail (error : ClientError)
  /-- An account of the request. -/
  | echo
  /-- A choice by the text of a top-level parameter. -/
  | switch (param : String) (cases : List (String × Script)) (other : Script)
  /-- One script for each call; the last repeats. -/
  | sequence (scripts : List Script)

namespace Script

/-- An account of a request. -/
def account (request : Request) : Response :=
  let header := fun (h : String × String) => Json.array [.string h.1, .string h.2]
  .ok 200 (.object [("operation", .string request.operation), ("params", request.params),
    ("headers", .array (request.headers.map header))])

/-- The text by which a switch decides. -/
def switchText (param : String) (request : Request) : String :=
  match request.param? param with
  | some value => value.plainText
  | none => "<none>"

mutual

/-- What a script answers to a request, given the number of calls of its operation before. -/
def answer (earlier : Nat) (request : Request) : Script → Except ClientError Response
  | reply response => .ok response
  | fail error => .error error
  | echo => .ok (account request)
  | switch param cases other =>
    answerCase earlier request (switchText param request) (answer earlier request other) cases
  | sequence scripts => answerAt earlier request earlier scripts

/-- What the script of a case answers, or else what `other` says. -/
def answerCase (earlier : Nat) (request : Request) (text : String)
    (other : Except ClientError Response) : List (String × Script) → Except ClientError Response
  | [] => other
  | (name, script) :: rest =>
    if name = text then answer earlier request script
    else answerCase earlier request text other rest

/-- What the script at a position answers, or the last one. -/
def answerAt (earlier : Nat) (request : Request) : Nat → List Script → Except ClientError Response
  | _, [] => .ok (account request)
  | _, [script] => answer earlier request script
  | 0, script :: _ => answer earlier request script
  | n + 1, _ :: next :: rest => answerAt earlier request n (next :: rest)

end

/-- The handler that follows a script. -/
def handler (script : Script) : Handler := fun calls request =>
  answer (calls.filter (·.operation = request.operation)).length request script

/-- The client that answers every request with an account of it. -/
def echoClient (flavor : Flavor) : Client (List Request) where
  flavor
  perform request calls := ({ result := .ok (account request) }, calls ++ [request])

end Script

end ApiReplay
