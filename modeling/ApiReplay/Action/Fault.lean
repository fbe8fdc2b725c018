import ApiReplay.Json.Text

/-!
# Faults of test documents

What makes a document malformed although its text can be read, each fault with the tree that has the
wrong shape.

## Main definitions

* `DocumentFault`, `DocumentFault.message`: the faults and their wording.
-/

namespace ApiReplay

/-- A part of a document that does not have the shape it should have. -/
inductive DocumentFault where
  /-- A step is not a mapping with an entry. -/
  | step (got : Json)
  /-- A list of steps is something else. -/
  | stepList (got : Json)
  /-- An assertion has no mapping with an entry. -/
  | entry (keyword : String) (got : Json)
  /-- The expected length is not a count. -/
  | count (path : String) (got : Json)
  /-- The headers of a call are not a mapping. -/
  | headers (got : Json)
  /-- A call is neither a mapping nor a name. -/
  | call (got : Json)
  /-- A call has nothing but options. -/
  | noOperation
  /-- A call names two operations. -/
  | twoOperations (first second : String)
  /-- A fragment of a document is not a mapping. -/
  | fragment (got : Json)
  /-- A requirement is not a mapping. -/
  | requirement (got : Json)

/-- The wording of a fault. -/
def DocumentFault.message : DocumentFault → String
  | step got => "test step must be a mapping, got " ++ got.text
  | stepList got => "expected a list of steps, got " ++ got.text
  | entry keyword got => "'" ++ keyword ++ "' expects a mapping, got " ++ got.text
  | count path got => "'length' of '" ++ path ++ "' must be a count, got " ++ got.text
  | headers got => "'headers' expects a mapping, got " ++ got.text
  | call got => "'do' expects a mapping or an operation name, got " ++ got.text
  | noOperation => "'do' names no operation"
  | twoOperations first second =>
    "'do' names more than one operation: '" ++ first ++ "' and '" ++ second ++ "'"
  | fragment got => "top-level fragment must be a mapping, got " ++ got.text
  | requirement got => "'requires' expects a mapping, got " ++ got.text

end ApiReplay
