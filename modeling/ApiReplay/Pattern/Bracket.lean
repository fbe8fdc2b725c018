import ApiReplay.Pattern.Escape

/-!
# Sets of characters between brackets

A set between brackets is a union of characters, ranges, named sets and further brackets, or the
intersection (`&&`), difference (`--`) or symmetric difference (`~~`) of such unions, taken from
left to right. A caret in front takes the complement. A closing bracket that comes first and hyphens
that come first stand for themselves.

## Main definitions

* `Pattern.Bracket`: an open bracket with what it holds so far.
* `Pattern.scanBracket?`: the set behind an opening bracket and what follows it.
-/

namespace ApiReplay.Pattern

/-- The operations between unions. -/
inductive SetOperation where
  | inter
  | diff
  | symmDiff

/-- An open bracket: the union that is being read, the operation that waits for it, if any, and
whether the complement is meant. -/
structure Bracket where
  negated : Bool
  waiting : Option (SetOperation × CharSet)
  union : CharSet

namespace Bracket

/-- The result of the operations so far. -/
def combined (flags : Flags) (b : Bracket) : CharSet :=
  match b.waiting with
  | none => b.union
  | some (operation, first) =>
    let first := flags.fold first
    let second := flags.fold b.union
    match operation with
    | .inter => first.inter second
    | .diff => first.diff second
    | .symmDiff => first.symmDiff second

/-- Starts the second operand of an operation. -/
def operate (flags : Flags) (operation : SetOperation) (b : Bracket) : Bracket :=
  { b with waiting := some (operation, b.combined flags), union := .empty }

/-- The set of a bracket that ends. -/
def close (flags : Flags) (b : Bracket) : CharSet :=
  let set := flags.fold (b.combined flags)
  if b.negated then set.complement else set

/-- Adds a set to the union. -/
def add (set : CharSet) (b : Bracket) : Bracket :=
  { b with union := b.union.union set }

end Bracket

/-- Passes over leading hyphens, counting them. -/
def leadingHyphens (flags : Flags) : Nat → List Char → Bool × List Char
  | 0, text => (false, text)
  | fuel + 1, text =>
    match text with
    | '-' :: rest => (true, (leadingHyphens flags fuel (flags.skip rest)).2)
    | _ => (false, text)

/-- Reads what may stand right behind an opening bracket. -/
def openBracket? (flags : Flags) (text : List Char) : Option (Bracket × List Char) :=
  let (negated, text) := match flags.skip text with
    | '^' :: rest => (true, flags.skip rest)
    | text => (false, text)
  let (hyphens, text) := leadingHyphens flags text.length text
  let start : Bracket :=
    ⟨negated, none, if hyphens then .single '-' else .empty⟩
  match text with
  | [] => none
  | ']' :: rest =>
    if hyphens then some (start, text)
    else
      match flags.skip rest with
      | [] => none
      | rest => some (start.add (.single ']'), rest)
  | _ => some (start, text)

/-- Reads `:name:]` behind an opening bracket, with a caret before the name for the complement. -/
def scanNamed? (flags : Flags) (text : List Char) : Option (CharSet × List Char) :=
  match text with
  | ':' :: rest =>
    let (negated, rest) := match rest with
      | '^' :: more => (true, more)
      | _ => (false, rest)
    match rest.dropWhile (· ≠ ':') with
    | ':' :: ']' :: more =>
      (NamedSet.bracketed? (String.ofList (rest.takeWhile (· ≠ ':')))).map fun set =>
        let set := flags.fold set
        (if negated then set.complement else set, more)
    | _ => none
  | _ => none

/-- Reads one character or escape inside brackets. -/
def scanMember? (flags : Flags) : List Char → Option (Escape × List Char)
  | [] => none
  | '\\' :: rest => scanEscape? flags rest
  | c :: rest => some (.char c, rest)

/-- The set of a member that is no end of a range; places are no members. -/
def Escape.member? : Escape → Option CharSet
  | .char c => some (.single c)
  | .set members => some members
  | .place _ => none

/-- Reads a member or a range of characters. A hyphen before a closing bracket or before another
hyphen makes no range. -/
def scanRange? (flags : Flags) (text : List Char) : Option (CharSet × List Char) := do
  let (first, rest) ← scanMember? flags text
  match flags.skip rest with
  | [] => none
  | '-' :: more =>
    if flags.peek? more = some ']' ∨ flags.peek? more = some '-' then
      some (← first.member?, '-' :: more)
    else
      let (second, rest) ← scanMember? flags (flags.skip more)
      match first, second with
      | .char low, .char high =>
        if low ≤ high then some (.ofRanges [(low.toNat, high.toNat)], rest) else none
      | _, _ => none
  | rest => some (← first.member?, rest)

/-- Reads brackets until the outermost closes; `outer` holds the brackets around the present one. -/
def scanBrackets? (flags : Flags) :
    Nat → List Bracket → Bracket → List Char → Option (CharSet × List Char)
  | 0, _, _, _ => none
  | fuel + 1, outer, present, text =>
    match flags.skip text with
    | [] => none
    | '[' :: rest =>
      match scanNamed? flags rest with
      | some (set, rest) => scanBrackets? flags fuel outer (present.add set) rest
      | none =>
        match openBracket? flags rest with
        | none => none
        | some (inner, rest) => scanBrackets? flags fuel (present :: outer) inner rest
    | ']' :: rest =>
      match outer with
      | [] => some (present.close flags, rest)
      | around :: outer => scanBrackets? flags fuel outer (around.add (present.close flags)) rest
    | '&' :: '&' :: rest => scanBrackets? flags fuel outer (present.operate flags .inter) rest
    | '-' :: '-' :: rest => scanBrackets? flags fuel outer (present.operate flags .diff) rest
    | '~' :: '~' :: rest => scanBrackets? flags fuel outer (present.operate flags .symmDiff) rest
    | text =>
      match scanRange? flags text with
      | none => none
      | some (set, rest) => scanBrackets? flags fuel outer (present.add set) rest

/-- The set behind an opening bracket, and the text that follows it. Where only ASCII counts, the
set may not reach beyond it. -/
def scanBracket? (flags : Flags) (text : List Char) : Option (CharSet × List Char) := do
  let (first, rest) ← openBracket? flags text
  let (set, rest) ← scanBrackets? flags (rest.length + 1) [] first rest
  if flags.ascii ∧ set.ranges.any (fun r => 0x7F < r.2) then none else some (set, rest)

end ApiReplay.Pattern
