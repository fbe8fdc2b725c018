import ApiReplay.Document.Basic
import ApiReplay.Yaml.Value

/-!
# Reading test documents

A document is the stream of fragments that a text of markup writes. Fragments count as they come, so
a fragment that is no mapping is the error even when the text has a fault further on; the missing
requirement is noticed at the end only.

## Main definitions

* `Document.parse`: the document that a text writes.
-/

namespace ApiReplay.Document

/-- The document made of the fragments of a text. -/
def ofYaml (fragments : Yaml.Fragments) : Except Error Document :=
  match gather fragments.values with
  | .error fault => .error (.malformed fault)
  | .ok draft => if fragments.sound then draft.finish else .error .markup

/-- The document that a text writes. -/
def parse (text : String) : Except Error Document :=
  ofYaml (Yaml.fragments text)

end ApiReplay.Document
