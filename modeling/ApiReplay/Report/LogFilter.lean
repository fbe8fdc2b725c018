import ApiReplay.Report.Log

/-!
# Filters of diagnostics

A filter is a list of rules: a level for all topics, or for those that start with a text. For a
topic the rule with the longest text counts, and a topic without a rule is not told of. A text
states the rules between commas. Rules on anything but topics are passed over.

## Main definitions

* `Log.Rule`, `Log.Filter`: the rules.
* `Log.Filter.parse?`: the rules that a text states.
* `Log.Filter.allows`: whether an entry is told.
-/

namespace ApiReplay.Log

/-- How detailed the entries on some topics are; zero turns them off. -/
structure Rule where
  /-- What the topics start with. -/
  start : String := ""
  detail : Nat
deriving DecidableEq

/-- How detailed a level is that a text names or counts. -/
def detail? (text : String) : Option Nat :=
  match text.map Char.toLower with
  | "off" | "0" => some 0
  | "error" | "1" => some 1
  | "warn" | "2" => some 2
  | "info" | "3" => some 3
  | "debug" | "4" => some 4
  | "trace" | "5" => some 5
  | _ => none

/-- The rule that a text states, or none when it is about anything but topics. -/
def Rule.parse? (text : List Char) : Option (Option Rule) :=
  let isStart := fun (c : Char) => c.isAlphanum || c = '-' || c = ':' || c = '_' || c = '['
  if text.contains '[' then
    if text.head?.any isStart then some none else none
  else if text.head?.any isStart then
    let topic := text.takeWhile (· ≠ '=')
    match text.drop topic.length with
    | [] =>
      match detail? (String.ofList text) with
      | some detail => some (some { detail })
      | none => some (some { start := String.ofList text, detail := Level.trace.rank })
    | _ :: level =>
      if level.isEmpty then some (some { start := String.ofList topic, detail := Level.trace.rank })
      else (detail? (String.ofList level)).map fun detail =>
        some { start := String.ofList topic, detail }
  else none

/-- The rules of a filter. -/
abbrev Filter := List Rule

namespace Filter

/-- The rules that a text states; without any, only errors are told. -/
def parse? (text : String) : Option Filter := do
  let parts := (Text.splitAtEach ',' text.toList).filter (!·.isEmpty)
  let rules := (← parts.mapM fun part => Rule.parse? (Text.trim part)).filterMap id
  some (if rules.isEmpty then [{ detail := Level.error.rank }] else rules)

/-- The filter unless the environment states one. -/
def standard (verbose : Bool) : Filter :=
  [{ start := "conformance", detail := (if verbose then Level.debug else .info).rank },
    { detail := Level.warn.rank }]

/-- The more specific of two rules; of equal ones the later. -/
def prefer (topic : String) (best : Option Rule) (rule : Rule) : Option Rule :=
  if rule.start.toList.isPrefixOf topic.toList then
    match best with
    | none => some rule
    | some before => if before.start.length ≤ rule.start.length then some rule else some before
  else best

/-- Whether an entry is told. -/
def allows (filter : Filter) (e : Entry) : Bool :=
  match filter.foldl (prefer e.topic) none with
  | none => false
  | some rule => e.level.rank ≤ rule.detail

end Filter

/-- What the events of a program leave in the log. -/
def lines (filter : Filter) (events : List Event) : List String :=
  ((events.filterMap entry?).filter filter.allows).map Entry.text

end ApiReplay.Log
