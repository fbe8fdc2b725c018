import ApiReplay.Variables.Binding
import Mathlib.Data.List.Basic

/-!
# The tokens of a text

A token is a dollar sign with a name behind it that reaches as far as it can. The pieces of a text
are found from left to right, and written back they are the text; since a dollar sign is no
character of a name, no token hides another, and the tokens among the pieces are all there are.

What a list of pieces stands for has two sides: the names it needs, and the text that it is when all
of them are bound. `Variables.provided` joins the two: it is the value if the names are bound, and
else the error of the first that is not.

## Main definitions

* `Variables.HasToken`: that a name stands in a text as a token.
* `Variables.tokens`: the names of the tokens of a text, from left to right.
* `Variables.provided`: a value that needs some names.
* `Variables.rendered`: a text with the texts of variables in the place of its tokens.

## Main results

* `Variables.flatMap_written_pieces`, `Variables.mem_tokens_iff`: the pieces are the text, and the
  tokens among them are those that stand in it.
* `Variables.substitute_eq_provided`: substitution needs the tokens of a text and renders it.
-/

namespace ApiReplay.Variables

/-! ### Pieces and tokens -/

namespace Piece

/-- A piece as it is written. -/
def written : Piece → List Char
  | literal c => [c]
  | token name => '$' :: name

/-- The name of a token. -/
def name? : Piece → Option String
  | literal _ => none
  | token name => some (String.ofList name)

end Piece

/-- The names of the tokens of a text, from left to right. -/
def tokens (text : String) : List String :=
  (pieces text.toList).filterMap Piece.name?

/-- A name stands in a text as a token: behind a dollar sign, with at least one character, and in
front of no further character of names. -/
def HasToken (text name : List Char) : Prop :=
  ∃ before after, text = before ++ '$' :: (name ++ after) ∧ name ≠ [] ∧
    (∀ c ∈ name, isNameChar c) ∧ ∀ c ∈ after.head?, ¬ isNameChar c

theorem not_isNameChar_dollar : ¬ isNameChar '$' := by decide

/-- The pieces are the text. -/
theorem flatMap_written_pieces (text : List Char) : (pieces text).flatMap Piece.written = text := by
  fun_induction pieces text with
  | case1 => rfl
  | case2 c rest h ih =>
    rw [List.flatMap_cons, ih, Piece.written, List.cons_append, List.takeWhile_append_dropWhile,
      h.1]
  | case3 c rest h ih => rw [List.flatMap_cons, ih, Piece.written, List.singleton_append]

/-- A name in front of no further character of names reaches as far as it can. -/
theorem takeWhile_append_eq {name after : List Char} (hname : ∀ c ∈ name, isNameChar c)
    (hafter : ∀ c ∈ after.head?, ¬ isNameChar c) :
    (name ++ after).takeWhile isNameChar = name := by
  rw [List.takeWhile_append_of_pos hname]
  cases after with
  | nil => rw [List.takeWhile_nil, List.append_nil]
  | cons c rest => rw [List.takeWhile_cons_of_neg (hafter c rfl), List.append_nil]

/-- Behind the first character a token stands in the rest of a text. -/
theorem hasToken_cons_iff {c : Char} {rest name : List Char} :
    HasToken (c :: rest) name ↔
      (c = '$' ∧ name ≠ [] ∧ rest.takeWhile isNameChar = name) ∨ HasToken rest name := by
  constructor
  · rintro ⟨before, after, htext, hne, hname, hafter⟩
    cases before with
    | nil =>
      obtain ⟨rfl, rfl⟩ := List.cons.inj htext
      exact .inl ⟨rfl, hne, takeWhile_append_eq hname hafter⟩
    | cons b more =>
      obtain ⟨rfl, rfl⟩ := List.cons.inj htext
      exact .inr ⟨more, after, rfl, hne, hname, hafter⟩
  · rintro (⟨rfl, hne, rfl⟩ | ⟨before, after, rfl, h⟩)
    · refine ⟨[], rest.dropWhile isNameChar, by simp, hne, ?_, ?_⟩
      · exact List.all_eq_true.mp List.all_takeWhile
      · intro c hc
        have hhead := List.head?_dropWhile_not isNameChar rest
        rw [Option.mem_def.mp hc] at hhead
        simpa using hhead
    · exact ⟨c :: before, after, rfl, h⟩

/-- Characters of names in front of a text hold no token. -/
theorem hasToken_append_iff {run : List Char} (hrun : ∀ c ∈ run, isNameChar c)
    (rest name : List Char) : HasToken (run ++ rest) name ↔ HasToken rest name := by
  induction run with
  | nil => rfl
  | cons c run ih =>
    rw [List.cons_append, hasToken_cons_iff, ih fun x hx => hrun x (List.mem_cons_of_mem c hx)]
    refine or_iff_right ?_
    rintro ⟨rfl, _⟩
    exact not_isNameChar_dollar (hrun '$' List.mem_cons_self)

theorem token_mem_pieces_iff {text name : List Char} :
    .token name ∈ pieces text ↔ HasToken text name := by
  fun_induction pieces text with
  | case1 => simp [HasToken]
  | case2 c rest h ih =>
    -- The rest of the text is the name of the token and what follows it.
    have hrest : HasToken rest name ↔ HasToken (rest.dropWhile isNameChar) name := by
      have hrun : ∀ c ∈ rest.takeWhile isNameChar, isNameChar c :=
        List.all_eq_true.mp List.all_takeWhile
      have happend := hasToken_append_iff hrun (rest.dropWhile isNameChar) name
      rwa [List.takeWhile_append_dropWhile] at happend
    rw [List.mem_cons, ih, hasToken_cons_iff, hrest, Piece.token.injEq]
    refine or_congr_left ⟨?_, ?_⟩
    · rintro rfl
      exact ⟨h.1, h.2, rfl⟩
    · exact fun h => h.2.2.symm
  | case3 c rest h ih =>
    rw [List.mem_cons, ih, hasToken_cons_iff]
    refine or_congr_left ⟨by simp, ?_⟩
    rintro ⟨rfl, hne, rfl⟩
    exact absurd ⟨rfl, hne⟩ h

/-- The tokens of a text are those that stand in it. -/
theorem mem_tokens_iff {text name : String} :
    name ∈ tokens text ↔ HasToken text.toList name.toList := by
  rw [tokens, List.mem_filterMap, ← token_mem_pieces_iff]
  constructor
  · rintro ⟨piece, hmem, hname⟩
    cases piece with
    | literal c => cases hname
    | token letters =>
      obtain rfl := Option.some.inj hname
      rwa [String.toList_ofList]
  · exact fun hmem => ⟨_, hmem, by rw [Piece.name?, String.ofList_toList]⟩

/-! ### Values that need names -/

/-- A value, provided that names are bound; otherwise the error is the first that is not. -/
def provided {α : Type} (vars : Variables) (names : List String) (value : α) :
    Except UnboundVariable α :=
  match names.find? fun name => (vars.get? name).isNone with
  | some name => .error ⟨name⟩
  | none => .ok value

section

variable {α β γ : Type} {vars : Variables}

@[simp]
theorem provided_nil (value : α) : vars.provided [] value = .ok value :=
  rfl

theorem provided_map (names : List String) (value : α) (f : α → β) :
    (vars.provided names value).map f = vars.provided names (f value) := by
  unfold provided
  split <;> rfl

/-- What needs some names first and more of them afterwards needs all of them. -/
theorem provided_bind (names more : List String) (a : α) (b : β) (f : α → β → γ) :
    (do
      let x ← vars.provided names a
      let y ← vars.provided more b
      .ok (f x y)) = vars.provided (names ++ more) (f a b) := by
  unfold provided
  rw [List.find?_append]
  cases names.find? fun name => (vars.get? name).isNone with
  | some name => rfl
  | none => cases more.find? fun name => (vars.get? name).isNone <;> rfl

theorem provided_eq_ok_iff {names : List String} {value result : α} :
    vars.provided names value = .ok result ↔
      (∀ name ∈ names, (vars.get? name).isSome) ∧ value = result := by
  unfold provided
  cases hfind : names.find? fun name => (vars.get? name).isNone with
  | some name =>
    simp only [reduceCtorEq, false_iff, not_and]
    intro hall
    have hsome := hall name (List.mem_of_find?_eq_some hfind)
    have hnone := List.find?_some hfind
    simp_all
  | none =>
    have hall := List.find?_eq_none.mp hfind
    simp only [Except.ok.injEq, iff_and_self]
    intro _ name hname
    simpa [Option.isSome_iff_ne_none] using hall name hname

/-- The error is the first name that is not bound. -/
theorem provided_eq_error_iff {names : List String} {value : α} {e : UnboundVariable} :
    vars.provided names value = .error e ↔ ∃ earlier later, names = earlier ++ e.name :: later ∧
      (∀ name ∈ earlier, (vars.get? name).isSome) ∧ vars.get? e.name = none := by
  have hfirst : vars.provided names value = .error e ↔
      names.find? (fun name => (vars.get? name).isNone) = some e.name := by
    unfold provided
    cases names.find? fun name => (vars.get? name).isNone with
    | none => simp
    | some name =>
      cases e
      simp
  rw [hfirst, List.find?_eq_some_iff_append]
  simp only [Option.isNone_iff_eq_none, Option.not_isNone]
  constructor
  · rintro ⟨hnone, earlier, later, hnames, hall⟩
    exact ⟨earlier, later, hnames, hall, hnone⟩
  · rintro ⟨earlier, later, hnames, hall, hnone⟩
    exact ⟨hnone, earlier, later, hnames, hall⟩

/-- Only the names that are needed count. -/
theorem provided_congr {vars' : Variables} {names : List String} (value : α)
    (h : ∀ name ∈ names, vars.get? name = vars'.get? name) :
    vars.provided names value = vars'.provided names value := by
  have hfind : names.find? (fun name => (vars.get? name).isNone)
      = names.find? fun name => (vars'.get? name).isNone := by
    induction names with
    | nil => rfl
    | cons name rest ih =>
      rw [List.find?_cons, List.find?_cons, h name List.mem_cons_self,
        ih fun k hk => h k (List.mem_cons_of_mem name hk)]
  rw [provided, provided, hfind]

end

/-! ### Substitution in a text -/

/-- The text that a piece stands for; a token of no variable would stand for nothing. -/
def pieceValue (vars : Variables) : Piece → List Char
  | .literal c => [c]
  | .token name =>
    ((vars.get? (String.ofList name)).map fun value => value.plainText.toList).getD []

/-- A text with the texts of variables in the place of its tokens. -/
def rendered (vars : Variables) (text : String) : String :=
  String.ofList ((pieces text.toList).flatMap vars.pieceValue)

theorem pieceText_eq_provided (vars : Variables) (piece : Piece) :
    vars.pieceText piece = vars.provided piece.name?.toList (vars.pieceValue piece) := by
  cases piece with
  | literal c => rfl
  | token name =>
    unfold pieceText lookup provided pieceValue
    cases h : vars.get? (String.ofList name) <;> simp [Piece.name?, h, Except.map]

theorem pieceTexts_eq_provided (vars : Variables) (list : List Piece) :
    vars.pieceTexts list
      = vars.provided (list.filterMap Piece.name?) (list.flatMap vars.pieceValue) := by
  induction list with
  | nil => rfl
  | cons piece rest ih =>
    have hnames : (piece :: rest).filterMap Piece.name?
        = piece.name?.toList ++ rest.filterMap Piece.name? := by
      cases h : piece.name? <;> simp [h]
    rw [pieceTexts, pieceText_eq_provided, ih, hnames, List.flatMap_cons]
    exact provided_bind _ _ _ _ _

/-- Substitution needs the tokens of a text and renders it. -/
theorem substitute_eq_provided (vars : Variables) (text : String) :
    vars.substitute text = vars.provided (tokens text) (vars.rendered text) := by
  rw [substitute, pieceTexts_eq_provided, provided_map]
  rfl

/-- A text without tokens stays as it is. -/
theorem rendered_eq_self {text : String} (h : tokens text = []) (vars : Variables) :
    vars.rendered text = text := by
  have hwritten : (pieces text.toList).flatMap vars.pieceValue
      = (pieces text.toList).flatMap Piece.written := by
    refine List.flatMap_congr fun piece hpiece => ?_
    cases piece with
    | literal c => rfl
    | token name => exact absurd (List.filterMap_eq_nil_iff.mp h _ hpiece) (by simp [Piece.name?])
  rw [rendered, hwritten, flatMap_written_pieces, String.ofList_toList]

/-- Only the variables that a text names count. -/
theorem rendered_congr {vars vars' : Variables} {text : String}
    (h : ∀ name ∈ tokens text, vars.get? name = vars'.get? name) :
    vars.rendered text = vars'.rendered text := by
  have hvalue : (pieces text.toList).flatMap vars.pieceValue
      = (pieces text.toList).flatMap vars'.pieceValue := by
    refine List.flatMap_congr fun piece hpiece => ?_
    cases piece with
    | literal c => rfl
    | token name =>
      have hname : String.ofList name ∈ tokens text := List.mem_filterMap.mpr ⟨_, hpiece, rfl⟩
      rw [pieceValue, pieceValue, h _ hname]
  rw [rendered, rendered, hvalue]

end ApiReplay.Variables
