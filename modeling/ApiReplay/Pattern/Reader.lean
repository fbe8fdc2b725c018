import ApiReplay.Json.Numeral
import ApiReplay.Pattern.Bracket

/-!
# Reading patterns

A pattern is read from left to right with a stack of open groups. Groups may carry names, which have
to differ, and modes; looking ahead or behind and referring back are not part of the language. A
repetition needs something to repeat.

## Main definitions

* `Pattern.Level`, `Pattern.Reader`: an open group, and the state of reading.
* `Pattern.compile?`: the pattern that a text stands for.
-/

namespace ApiReplay.Pattern

/-- An open group: the alternatives that are complete and the items of the present one, both last
first, and the modes that hold again when the group ends. An item without a pattern is a switch of
modes, which cannot be repeated. -/
structure Level where
  alternatives : List Pattern
  items : List (Option Pattern)
  flags : Flags

/-- The state of reading: the present group, the groups around it and the names given so far. -/
structure Reader where
  present : Level
  outer : List Level
  flags : Flags
  names : List (List Char)

namespace Reader

/-- Appends an item. -/
def push (item : Option Pattern) (r : Reader) : Reader :=
  { r with present := { r.present with items := item :: r.present.items } }

/-- The pattern of the present alternative. -/
def alternative (r : Reader) : Pattern :=
  sequence (r.present.items.reverse.filterMap id)

/-- Starts another alternative. -/
def alternate (r : Reader) : Reader :=
  { r with present :=
      { r.present with alternatives := r.alternative :: r.present.alternatives, items := [] } }

/-- The pattern of the present group. -/
def group (r : Reader) : Pattern :=
  anyOf (r.alternative :: r.present.alternatives).reverse

/-- Opens a group with modes of its own. -/
def enter (flags : Flags) (r : Reader) : Reader :=
  { r with present := ⟨[], [], r.flags⟩, outer := r.present :: r.outer, flags }

/-- Closes the present group. -/
def leave? (r : Reader) : Option Reader :=
  match r.outer with
  | [] => none
  | around :: outer =>
    some (push (some r.group) { r with present := around, outer, flags := r.present.flags })

/-- Repeats the last item. -/
def repeat? (least : Nat) (most : Option Nat) (r : Reader) : Option Reader :=
  match r.present.items with
  | some body :: items =>
    some { r with
      present := { r.present with items := some (.repeated body least most) :: items } }
  | _ => none

end Reader

/-! ### Groups -/

/-- Whether a character may stand in a name, in front or further on. -/
def isNameChar (first : Bool) (c : Char) : Bool :=
  c == '_' || (NamedSet.single? "alphabetic").any (·.contains c)
    || (!first && (c == '.' || c == '[' || c == ']' || (Text.categorySet "N").contains c))

/-- Reads a name up to the closing `>`. -/
def scanName? (text : List Char) : Option (List Char × List Char) :=
  match text.dropWhile (· ≠ '>'), text.takeWhile (· ≠ '>') with
  | '>' :: rest, c :: name =>
    if isNameChar true c && name.all (isNameChar false) then some (c :: name, rest) else none
  | _, _ => none

/-- Opens a group behind its parenthesis. -/
def scanGroup? (r : Reader) (text : List Char) : Option (Reader × List Char) :=
  match r.flags.skip text with
  | '?' :: '=' :: _ | '?' :: '!' :: _ | '?' :: '<' :: '=' :: _ | '?' :: '<' :: '!' :: _ => none
  | '?' :: 'P' :: '<' :: rest | '?' :: '<' :: rest => do
    let (name, rest) ← scanName? rest
    if r.names.contains name then none
    else some ({ r.enter r.flags with names := name :: r.names }, rest)
  | '?' :: rest => do
    let (flags, switched, last, rest) ← r.flags.scan? [] rest
    if last = ':' then some (r.enter flags, rest)
    else if switched then some ({ r.push none with flags }, rest)
    else none
  | text => some (r.enter r.flags, text)

/-! ### Repetitions -/

/-- Reads a decimal number below `2 ^ 32` with white space around it. -/
def scanCount? (flags : Flags) (text : List Char) : Option (Nat × List Char) :=
  let rec digits : Nat → List Char → List Char × List Char
    | 0, text => ([], text)
    | fuel + 1, text =>
      match text with
      | c :: rest =>
        if c.isDigit then
          let (read, rest) := digits fuel (flags.skip rest)
          (c :: read, rest)
        else ([], text)
      | [] => ([], [])
  let start := text.dropWhile Text.isBlank
  match digits start.length start with
  | ([], _) => none
  | (read, rest) =>
    let n := Json.digitsValue read
    if n < Nat.pow 2 32 then some (n, flags.skip (rest.dropWhile Text.isBlank)) else none

/-- Reads the limits of a repetition behind its opening brace. -/
def scanLimits? (flags : Flags) (text : List Char) :
    Option (Nat × Option Nat × List Char) := do
  let (least, rest) ← scanCount? flags (flags.skip text)
  let (most, rest) ← match rest with
    | ',' :: rest =>
      match flags.skip rest with
      | '}' :: rest => some (none, '}' :: rest)
      | rest => (scanCount? flags rest).map fun (n, rest) => (some n, rest)
    | _ => some (some least, rest)
  match rest with
  | '}' :: rest =>
    if most.any (· < least) then none
    else
      match flags.skip rest with
      | '?' :: rest => some (least, most, rest)
      | rest => some (least, most, rest)
  | _ => none

/-- Passes over the question mark that changes which match is preferred. -/
def dropPreference : List Char → List Char
  | '?' :: rest => rest
  | text => text

/-! ### The reader -/

/-- The pattern of an escape. -/
def Escape.pattern? (flags : Flags) : Escape → Option Pattern
  | .char c => some (.one (flags.literal c))
  | .set members =>
    if flags.ascii ∧ members.ranges.any (fun r => 0x7F < r.2) then none else some (.one members)
  | .place condition => some (.place condition)

/-- Reads a text part by part. -/
def read? : Nat → Reader → List Char → Option Pattern
  | 0, _, _ => none
  | fuel + 1, r, text =>
    match r.flags.skip text with
    | [] => if r.outer.isEmpty then some r.group else none
    | '(' :: rest => do
      let (r, rest) ← scanGroup? r rest
      read? fuel r rest
    | ')' :: rest => do read? fuel (← r.leave?) rest
    | '|' :: rest => read? fuel r.alternate rest
    | '[' :: rest => do
      let (set, rest) ← scanBracket? r.flags rest
      read? fuel (r.push (some (.one set))) rest
    | '?' :: rest => do read? fuel (← r.repeat? 0 (some 1)) (dropPreference rest)
    | '*' :: rest => do read? fuel (← r.repeat? 0 none) (dropPreference rest)
    | '+' :: rest => do read? fuel (← r.repeat? 1 none) (dropPreference rest)
    | '{' :: rest => do
      let (least, most, rest) ← scanLimits? r.flags rest
      read? fuel (← r.repeat? least most) rest
    | '\\' :: rest => do
      let (escape, rest) ← scanEscape? r.flags rest
      read? fuel (r.push (some (← escape.pattern? r.flags))) rest
    | '.' :: rest => do read? fuel (r.push (some (.one (← r.flags.dot?)))) rest
    | '^' :: rest => read? fuel (r.push (some (.place r.flags.caret))) rest
    | '$' :: rest => read? fuel (r.push (some (.place r.flags.dollar))) rest
    | c :: rest => read? fuel (r.push (some (.one (r.flags.literal c)))) rest

/-- The pattern that a text stands for, read with or without passing over blanks and comments; none
when the text is no pattern or the pattern is too large. -/
def compile? (extended : Bool) (text : String) : Option Pattern := do
  let flags : Flags := { extended }
  let characters := text.toList
  let pattern ← read? (characters.length + 1) ⟨⟨[], [], flags⟩, [], flags, []⟩ characters
  if pattern.cost ≤ costLimit then some pattern else none

end ApiReplay.Pattern
