import ApiReplay.Http.Endpoint
import Mathlib.Data.List.Infix
import Mathlib.Data.List.TakeWhile

/-!
# The placeholders of a template

A placeholder is a name between braces. It is read from left to right, and since a brace is no
character of a name, no two placeholders overlap and the ones that are read are all there are. A
path is its template with the text of a parameter in the place of each placeholder. It is put
together from the pieces of the template, so that what a parameter brings along is never read again.

## Main definitions

* `Http.Opens`, `Http.HasPlaceholder`: that a text starts with a placeholder, and that it has one.
* `Http.Reads`: the reading of a text as characters and placeholders.

## Main results

* `Http.reads_iff`: a template has one reading, its pieces.
* `Http.mem_placeholders_iff`: the placeholders that are read are those that stand in the template.
-/

namespace ApiReplay.Http

/-- A text starts with the placeholder of a name: an opening brace, a name of at least one character,
and a closing brace. -/
def Opens (text name : List Char) : Prop :=
  name ≠ [] ∧ (∀ c ∈ name, isPlaceholderChar c) ∧
    ∃ behind, text = '\x7b' :: (name ++ '\x7d' :: behind)

/-- The placeholder of a name stands in a text. -/
def HasPlaceholder (text name : List Char) : Prop :=
  ∃ tail, tail <:+ text ∧ Opens tail name

/-- How a text reads from left to right: a placeholder where one starts, and elsewhere the character
itself. -/
inductive Reads : List Char → List Piece → Prop
  | nil : Reads [] []
  | placeholder {name rest : List Char} {pieces : List Piece} (hne : name ≠ [])
      (hname : ∀ c ∈ name, isPlaceholderChar c) (h : Reads rest pieces) :
      Reads ('\x7b' :: (name ++ '\x7d' :: rest)) (.placeholder (String.ofList name) :: pieces)
  | literal {c : Char} {rest : List Char} {pieces : List Piece}
      (hc : ∀ name, ¬ Opens (c :: rest) name) (h : Reads rest pieces) :
      Reads (c :: rest) (.literal c :: pieces)

/-! ### One placeholder -/

/-- In front of a closing brace a name reaches as far as it can. -/
theorem takeWhile_name {name : List Char} (hname : ∀ c ∈ name, isPlaceholderChar c)
    (behind : List Char) : (name ++ '\x7d' :: behind).takeWhile isPlaceholderChar = name := by
  rw [List.takeWhile_append_of_pos hname, List.takeWhile_cons_of_neg (by decide), List.append_nil]

/-- A placeholder that a text starts with is one of the longest name. -/
theorem Opens.takeWhile_eq {c : Char} {rest name : List Char} (h : Opens (c :: rest) name) :
    c = '\x7b' ∧ rest.takeWhile isPlaceholderChar = name ∧
      ∃ behind, rest.drop name.length = '\x7d' :: behind := by
  obtain ⟨_, hname, behind, heq⟩ := h
  obtain ⟨rfl, rfl⟩ := List.cons.inj heq
  exact ⟨rfl, takeWhile_name hname behind, behind, List.drop_left⟩

theorem Opens.unique {text name name' : List Char} (h : Opens text name) (h' : Opens text name') :
    name = name' := by
  cases text with
  | nil =>
    obtain ⟨_, _, _, heq⟩ := h
    cases heq
  | cons c rest => exact h.takeWhile_eq.2.1.symm.trans h'.takeWhile_eq.2.1

/-- Behind the first character a placeholder stands in the rest of a text. -/
theorem hasPlaceholder_cons_iff {c : Char} {rest name : List Char} :
    HasPlaceholder (c :: rest) name ↔ Opens (c :: rest) name ∨ HasPlaceholder rest name := by
  simp only [HasPlaceholder, List.suffix_cons_iff, or_and_right, exists_or, exists_eq_left]

/-- No placeholder starts inside of a text without opening braces. -/
theorem hasPlaceholder_append_iff {run : List Char} (hrun : '\x7b' ∉ run) (rest name : List Char) :
    HasPlaceholder (run ++ rest) name ↔ HasPlaceholder rest name := by
  induction run with
  | nil => rfl
  | cons c run ih =>
    rw [List.mem_cons, not_or] at hrun
    rw [List.cons_append, hasPlaceholder_cons_iff, ih hrun.2]
    exact or_iff_right fun h => hrun.1 h.takeWhile_eq.1.symm

/-! ### The reading of a template -/

theorem reads_piecesUpTo {fuel : Nat} {text : List Char} (hfuel : text.length < fuel) :
    Reads text (piecesUpTo fuel text) := by
  induction fuel generalizing text with
  | zero => omega
  | succ fuel ih =>
    cases text with
    | nil => exact .nil
    | cons c rest =>
      rw [List.length_cons] at hfuel
      have hliteral (hc : ∀ name, ¬ Opens (c :: rest) name) :
          Reads (c :: rest) (.literal c :: piecesUpTo fuel rest) :=
        .literal hc (ih (by omega))
      simp only [piecesUpTo]
      split
      case h_1 behind hdrop =>
        have hrest : rest = rest.takeWhile isPlaceholderChar ++ '\x7d' :: behind := by
          rw [← hdrop]
          exact (List.prefix_iff_eq_append.mp (List.takeWhile_prefix isPlaceholderChar)).symm
        split
        case isTrue hopen =>
          rw [hopen.1]
          conv => arg 1; rw [hrest]
          refine .placeholder hopen.2 (List.all_eq_true.mp List.all_takeWhile) (ih ?_)
          have hlength := congrArg List.length hrest
          simp only [List.length_append, List.length_cons] at hlength
          omega
        case isFalse hclosed =>
          refine hliteral fun name h => hclosed ⟨h.takeWhile_eq.1, ?_⟩
          rw [h.takeWhile_eq.2.1]
          exact h.1
      case h_2 hdrop =>
        refine hliteral fun name h => ?_
        obtain ⟨_, rfl, behind, heq⟩ := h.takeWhile_eq
        exact hdrop behind heq

/-- The pieces of a template are its reading. -/
theorem reads_pieces (template : String) : Reads template.toList (pieces template) :=
  reads_piecesUpTo (by rw [String.length_toList]; exact Nat.lt_succ_self _)

/-- A text has one reading. -/
theorem Reads.unique {text : List Char} {pieces pieces' : List Piece} (h : Reads text pieces)
    (h' : Reads text pieces') : pieces = pieces' := by
  induction h generalizing pieces' with
  | nil =>
    cases h'
    rfl
  | @placeholder name rest pieces hne hname _ ih =>
    have hopens : Opens ('\x7b' :: (name ++ '\x7d' :: rest)) name := ⟨hne, hname, rest, rfl⟩
    generalize htext : '\x7b' :: (name ++ '\x7d' :: rest) = text at hopens h'
    cases h' with
    | nil => cases htext
    | literal hc _ => exact absurd hopens (hc name)
    | @placeholder name' rest' pieces' hne' hname' h' =>
      obtain rfl := hopens.unique ⟨hne', hname', rest', rfl⟩
      obtain rfl : rest = rest' := by simpa using htext
      rw [ih h']
  | literal hc _ ih =>
    generalize htext : _ :: _ = text at h'
    cases h' with
    | nil => cases htext
    | literal _ h' =>
      obtain ⟨rfl, rfl⟩ := List.cons.inj htext
      rw [ih h']
    | @placeholder name' rest' _ hne' hname' _ =>
      exact absurd ⟨hne', hname', rest', htext⟩ (hc name')

/-- The only reading of a template is the one by its pieces. -/
theorem reads_iff {template : String} {reading : List Piece} :
    Reads template.toList reading ↔ reading = pieces template := by
  constructor
  · exact fun h => h.unique (reads_pieces template)
  · rintro rfl
    exact reads_pieces template

/-- The placeholders of a reading are those that stand in the text. -/
theorem Reads.mem_iff {text : List Char} {pieces : List Piece} (h : Reads text pieces)
    (name : List Char) :
    .placeholder (String.ofList name) ∈ pieces ↔ HasPlaceholder text name := by
  induction h with
  | nil => simp [HasPlaceholder, Opens]
  | @placeholder other rest pieces hne hname _ ih =>
    have hopens : Opens ('\x7b' :: (other ++ '\x7d' :: rest)) other := ⟨hne, hname, rest, rfl⟩
    have hrun : '\x7b' ∉ other ++ ['\x7d'] := by
      intro hmem
      rcases List.mem_append.mp hmem with hmem | hmem
      · exact absurd (hname _ hmem) (by decide)
      · simp at hmem
    have hrest := hasPlaceholder_append_iff hrun rest name
    rw [List.append_assoc, List.singleton_append] at hrest
    rw [List.mem_cons, ih, hasPlaceholder_cons_iff, hrest, Piece.placeholder.injEq,
      String.ofList_inj]
    refine or_congr_left ⟨?_, fun h => h.unique hopens⟩
    rintro rfl
    exact hopens
  | literal hc _ ih =>
    rw [List.mem_cons, ih, hasPlaceholder_cons_iff]
    exact or_congr_left ⟨by simp, fun h => absurd h (hc name)⟩

theorem mem_placeholders_iff_mem_pieces {template name : String} :
    name ∈ placeholders template ↔ .placeholder name ∈ pieces template := by
  rw [placeholders, List.mem_filterMap]
  constructor
  · rintro ⟨piece, hmem, hname⟩
    cases piece with
    | literal c => cases hname
    | placeholder other =>
      obtain rfl := Option.some.inj hname
      exact hmem
  · exact fun hmem => ⟨_, hmem, rfl⟩

/-- The placeholders that are read off a template are those that stand in it. -/
theorem mem_placeholders_iff {template name : String} :
    name ∈ placeholders template ↔ HasPlaceholder template.toList name.toList := by
  rw [mem_placeholders_iff_mem_pieces, ← (reads_pieces template).mem_iff, String.ofList_toList]

end ApiReplay.Http
