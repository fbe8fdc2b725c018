import ApiReplay.Action.Fault
import ApiReplay.Archive.Basic
import ApiReplay.Http.Transfer
import ApiReplay.Service.ClientError

/-!
# Errors

Everything that can stop an action, a test, a document or a command. Errors of the client are kept
apart because only they may be expected. A test attaches itself and the failing action to an error;
`Error.root` takes that context off again.

## Main definitions

* `FetchFault`: why a corpus could not be fetched.
* `Error`, `Error.message`: the errors and their wording.
* `Error.root`, `Error.action?`, `Error.isFailure`: the innermost error, the failing action, and
  whether an assertion failed.
-/

namespace ApiReplay

/-- Why a corpus could not be fetched. -/
inductive FetchFault where
  | download (fault : Http.Fault)
  /-- The download broke off. -/
  | interrupted (fault : Http.Fault)
  | notArchive (fault : Archive.Fault)
  | entry (index : Nat) (fault : Archive.Fault)

/-- The wording of a fault. -/
def FetchFault.message : FetchFault → String
  | download fault => "Couldn't download test corpus: " ++ fault.message
  | interrupted fault => "Download interrupted: " ++ fault.message
  | notArchive fault => "Corpus archive is not a zip: " ++ fault.message
  | entry index fault => "Corrupt corpus entry " ++ natText index ++ ": " ++ fault.message

/-- What stops an action, a test, a document or a command. -/
inductive Error where
  /-- The root of the corpus is not a directory. -/
  | noCorpus (root : String)
  /-- A configuration file is malformed at a line and a column. -/
  | configSyntax (line column : Nat)
  | unreadable (path : String) (fault : Files.Fault)
  | malformed (fault : DocumentFault)
  /-- The text of a document cannot be read. -/
  | markup
  | missingRequires
  | unbound (name : String)
  | client (error : ClientError)
  | mismatch (path expected : String) (actual : Option String) (response : String)
  | assertion (action response : String)
  /-- An error of an action, with the test and the action attached. -/
  | inAction (test action : String) (cause : Error)
  | files (fault : Files.Fault)
  | fetch (fault : FetchFault)

namespace Error

/-- The wording of an error. -/
def message : Error → String
  | noCorpus root =>
    "Configuration error: Couldn't find test files in '" ++ root
      ++ "'. Run 'conformance fetch' to download them"
  | configSyntax line column =>
    "Invalid configuration file: TOML parse error at line " ++ natText line
      ++ ", column " ++ natText column
  | unreadable path fault => "Failed to read file '" ++ path ++ "': " ++ fault.message
  | malformed fault => "Malformed test document: " ++ fault.message
  | markup => "YAML error: the text is malformed"
  | missingRequires => "Test document has no 'requires' section"
  | unbound name => "No such variable: $" ++ name
  | client error => "Client error: " ++ error.text
  | mismatch path expected actual response =>
    "Match failed for '" ++ path ++ "'\n  Expected: " ++ expected ++ "\n  Actual  : "
      ++ actual.getD "<missing>" ++ "\n  Response: " ++ response
  | assertion action response => "Assertion failed: " ++ action ++ "\n  Response: " ++ response
  | inAction test action cause => test ++ ": action " ++ action ++ " failed: " ++ cause.message
  | files fault => "IO error: " ++ fault.message
  | fetch fault => "Internal error: " ++ fault.message

/-- The failing action, when one is attached. -/
def action? : Error → Option String
  | inAction _ action _ => some action
  | _ => none

/-- The innermost error, without tests and actions. -/
def root : Error → Error
  | inAction _ _ cause => cause.root
  | e => e

/-- An error without context is its own innermost error. -/
theorem root_of_action?_eq_none {e : Error} (h : e.action? = none) : e.root = e := by
  cases e with
  | inAction test action cause => cases h
  | _ => rfl

/-- Whether the innermost error is a failed assertion. -/
def isFailure (e : Error) : Bool :=
  match e.root with
  | mismatch .. | assertion .. => true
  | _ => false

end Error

end ApiReplay
