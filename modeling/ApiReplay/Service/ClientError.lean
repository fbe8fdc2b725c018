import ApiReplay.Number

/-!
# Errors of client calls

A call that fails has a kind and a message. The kinds that an HTTP status stands for are fixed; all
other error statuses share one kind that keeps the number.

## Main definitions

* `ClientError.Kind`, `ClientError.Kind.ofStatus`: the kinds.
* `ClientError`, `ClientError.ofStatus`, `ClientError.text`: the errors and their wording.
-/

namespace ApiReplay

/-- What went wrong in a call. -/
inductive ClientError.Kind where
  | requestTimeout
  | notFound
  | conflict
  | serverError
  | badRequest
  | unauthorized
  | forbidden
  /-- The call was refused before anything was sent. -/
  | argument
  /-- The connection failed. -/
  | transport
  /-- Any other status. -/
  | status (code : Nat)
deriving DecidableEq

/-- A failed call. -/
structure ClientError where
  kind : ClientError.Kind
  message : String
deriving DecidableEq

namespace ClientError

/-- The kind of an error status. -/
def Kind.ofStatus : Nat → Kind
  | 400 => badRequest
  | 401 => unauthorized
  | 403 => forbidden
  | 404 => notFound
  | 408 => requestTimeout
  | 409 => conflict
  | 500 => serverError
  | code => status code

/-- The wording of a kind. -/
def Kind.text : Kind → String
  | requestTimeout => "request timeout"
  | notFound => "not found"
  | conflict => "conflict"
  | serverError => "internal server error"
  | badRequest => "bad request"
  | unauthorized => "unauthorized"
  | forbidden => "forbidden"
  | argument => "invalid argument"
  | transport => "transport error"
  | status code => "status " ++ natText code

/-- The error of an HTTP reply with an error status: the status in brackets, then the body. -/
def ofStatus (code : Nat) (body : String) : ClientError :=
  ⟨.ofStatus code, "[" ++ natText code ++ "] " ++ body⟩

/-- The error of a call that was refused before anything was sent. -/
def refused (message : String) : ClientError :=
  ⟨.argument, message⟩

/-- The wording of an error. -/
def text (e : ClientError) : String :=
  e.kind.text ++ ": " ++ e.message

end ClientError

end ApiReplay
