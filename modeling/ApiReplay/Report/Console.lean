import ApiReplay.Report.Style
import ApiReplay.Run.Event

/-!
# The console

The console shows a line for every document that is skipped, every test and every action of a body,
or, when it is quiet, a mark for every action; then come the failures and the totals.

## Main definitions

* `Report.elapsedText`, `Report.totalsText`: the time that a run took, and its totals.
* `Report.Console`: how events are shown.
* `Report.Console.event`, `Report.Console.text`: what is shown of an event, and of a run.
-/

namespace ApiReplay.Report

/-- A number with two digits at least. -/
def twoDigits (n : Nat) : String :=
  if n < 10 then "0" ++ natText n else natText n

/-- A time of so many seconds, in hours, minutes and seconds. -/
def elapsedText (seconds : Nat) : String :=
  twoDigits (seconds / 3600) ++ ":" ++ twoDigits (seconds / 60 % 60) ++ ":"
    ++ twoDigits (seconds % 60)

/-- The totals of a run in one line. -/
def totalsText (m : Summary) : String :=
  "Tests: " ++ natText m.tests ++ " | Passed: " ++ natText m.passed ++ " | Failed: "
    ++ natText m.failures.length

/-- How events are shown. -/
structure Console where
  /-- One mark for each action instead of one line. -/
  quiet : Bool := false
  color : Bool := false

namespace Console

/-- A text in a style, where styles are shown. -/
def paint (c : Console) (style : Style) (text : String) : String :=
  if c.color then style.apply text else text

/-- The first line of a text. -/
def firstLine (text : String) : String :=
  let line := text.toList.takeWhile (· ≠ '\n')
  if line.length < text.length ∧ line.getLast? = some '\r' then String.ofList line.dropLast
  else String.ofList line

/-- The status shown behind an action that passed. -/
def status : Option Response → String
  | some (.reply r) => natText r.status
  | some (.bool b) => if b then "true" else "false"
  | none => "-"

/-- A line of a failure: a label and what it stands for. -/
def labelled (c : Console) (label text : String) : String :=
  "  " ++ c.paint { bold := true } (label ++ ":") ++ " " ++ text ++ "\n"

/-- The lines of a failure. -/
def failure (c : Console) (f : Failure) : String :=
  let case := f.test.elim "" (c.labelled "Case")
  let action := f.error.action?.elim "" (c.labelled "Action")
  let kind := if f.error.isFailure then "Failure" else "Error"
  "\n" ++ c.labelled "Test" f.file ++ case ++ action ++ c.labelled kind f.error.root.message

/-- The lines of all failures. -/
def failures (c : Console) (list : List Failure) : String :=
  if list.isEmpty then ""
  else
    "\n" ++ c.paint (.strong .red) ("Errors/Failures: " ++ natText list.length) ++ "\n"
      ++ String.join (list.map c.failure)

/-- The lines of a summary. -/
def summary (c : Console) (m : Summary) : String :=
  (if c.quiet then "\n" else "") ++ c.failures m.failures
    ++ "\n" ++ c.paint (.strong .cyan) "[SUMMARY]" ++ "\n"
    ++ c.paint (.strong (if m.success then .green else .red)) (totalsText m) ++ "\n"
    ++ "Elapsed time: " ++ elapsedText m.elapsed ++ "\n"

/-- The line of an action: a sign, the action and how it ended. -/
def actionLine (c : Console) (color : Color) (sign result : String) (action : Action) : String :=
  "  " ++ c.paint (.colored color) sign ++ " " ++ c.paint { dimmed := true } action.text ++ " "
    ++ c.paint (.colored color) result

/-- What is shown of an event. -/
def event (c : Console) : Event → String
  | .documentSkipped file requirement _ =>
    if c.quiet then ""
    else
      c.paint { dimmed := true } "-" ++ " " ++ c.paint (.colored .yellow) file ++ " (requires "
        ++ c.paint { dimmed := true } requirement.text ++ ")\n"
  | .caseStarted source title _ =>
    if c.quiet then ""
    else
      "\n" ++ c.paint (.colored .yellow) source ++ " " ++ c.paint (.strong .white) title ++ "\n"
  | .actionPassed action response =>
    if c.quiet then c.paint (.colored .green) "."
    else c.actionLine .green "✓" "passed" action ++ " [" ++ status response ++ "]\n"
  | .actionFailed action error =>
    if c.quiet then c.paint (.colored .red) "F"
    else
      c.actionLine .red "✗" "failed" action ++ "\n    "
        ++ c.paint (.colored .red) (firstLine error.root.message) ++ "\n"
  | .runFinished m => c.summary m
  | .fetchStarted destination => "Downloading test corpus to " ++ destination ++ "\n"
  | .unpacked files _ => "Fetched " ++ natText files ++ " test files\n"
  | _ => ""

/-- What is shown of a list of events. -/
def text (c : Console) (events : List Event) : String :=
  String.join (events.map c.event)

end Console

end ApiReplay.Report
