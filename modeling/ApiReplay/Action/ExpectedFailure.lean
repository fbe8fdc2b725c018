import ApiReplay.Pattern.Reader
import ApiReplay.Pattern.Search
import ApiReplay.Service.ClientError
import ApiReplay.Text.Blank

/-!
# Expected failures

A call may state the category of the failure it should end in. Some categories are words for a kind
of error, some are recognised by an exception name that they mention, and any other is searched for
in the message of the error: as a pattern, or as plain text when it is not a pattern. The rules are
tried in a fixed order.

## Main definitions

* `ExpectedFailure.literal`: a category without the slashes of a pattern literal.
* `ExpectedFailure.holds`: whether an error is the failure that a category describes.
-/

namespace ApiReplay.ExpectedFailure

open Text

/-- The text between slashes at the ends of a category, or else the category, in both cases without
white space at the ends. -/
def literal (category : List Char) : List Char :=
  match between? '/' '/' (trim category) with
  | some inner => trim inner
  | none => trim category

/-- Whether a pattern occurs in a message; a text that is no pattern is searched for as it is. -/
def searches (pattern message : String) : Bool :=
  match Pattern.compile? false pattern with
  | some p => p.isIn message
  | none => occurs pattern message

/-- Whether an error is the failure that a category describes. -/
def holds (category : String) (error : ClientError) : Bool :=
  let mentions := fun name => occurs name category
  if category = "request_timeout" then error.kind = .requestTimeout
  else if category = "missing" ∨ mentions "resource_not_found_exception" then
    error.kind = .notFound
  else if category = "conflict" then error.kind = .conflict
  else if category = "request" then error.kind = .serverError
  else if category = "bad_request" then error.kind = .badRequest
  else if category = "param" then error.kind = .argument
  else if category = "unauthorized" then error.kind = .unauthorized
  else if category = "forbidden" then error.kind = .forbidden
  else if mentions "error parsing field" ∨ mentions "illegal_argument_exception" then
    occurs "[400]" error.message || error.kind = .badRequest
  else if mentions "NullPointerException" then occurs "[400]" error.message
  else if mentions "status_exception" then occurs "[409]" error.message
  else searches (String.ofList (literal category.toList)) error.message

end ApiReplay.ExpectedFailure
