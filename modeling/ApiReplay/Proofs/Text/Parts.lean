import ApiReplay.Text.Blank
import Mathlib.Data.List.Basic

/-!
# The parts of a text

A text is cut at every occurrence of a separator, and is told from its parts. Texts without the
separator, each with one behind it, are cut into these texts, and an empty one is left behind the
last.

## Main results

* `Text.splitAtEach_append`: a separator cuts a text in two.
* `Text.eq_of_splitAtEach_eq`: a text is told from its parts.
* `Text.splitAtEach_flatMap`: texts that each have a separator behind them.
-/

namespace ApiReplay.Text

variable {separator : Char} {text : List Char} {texts : List (List Char)}

theorem splitAtEach_of_not_mem (h : separator ∉ text) : splitAtEach separator text = [text] := by
  have hjoin : [separator].intercalate [text] = text := List.intercalate_singleton
  have hsplit : ([separator].intercalate [text]).splitOn separator = [text] :=
    List.splitOn_intercalate separator (by simpa using h) (List.cons_ne_nil text [])
  rwa [hjoin, ← splitAtEach_eq_splitOn] at hsplit

/-- A separator cuts a text in two. -/
theorem splitAtEach_append (separator : Char) (first more : List Char) :
    splitAtEach separator (first ++ separator :: more)
      = splitAtEach separator first ++ splitAtEach separator more := by
  induction first with
  | nil => simp [splitAtEach]
  | cons c rest ih =>
    rw [List.cons_append, splitAtEach, splitAtEach, ih]
    split
    · rfl
    · obtain ⟨part, parts, hparts⟩ : ∃ part parts, splitAtEach separator rest = part :: parts := by
        rw [splitAtEach_eq_splitOn]
        exact List.exists_cons_of_ne_nil (List.splitOn_ne_nil separator rest)
      rw [hparts]
      rfl

/-- A text is told from its parts. -/
theorem eq_of_splitAtEach_eq {first more : List Char}
    (h : splitAtEach separator first = splitAtEach separator more) : first = more := by
  have hjoined := congrArg [separator].intercalate h
  rwa [splitAtEach_eq_splitOn, splitAtEach_eq_splitOn, List.intercalate_splitOn,
    List.intercalate_splitOn] at hjoined

/-! ### Texts with a separator behind each -/

/-- Texts without the separator are found again. -/
theorem splitAtEach_flatMap (h : ∀ text ∈ texts, separator ∉ text) :
    splitAtEach separator (texts.flatMap (· ++ [separator])) = texts ++ [[]] := by
  induction texts with
  | nil => rfl
  | cons text rest ih =>
    obtain ⟨htext, hrest⟩ := List.forall_mem_cons.mp h
    rw [List.flatMap_cons, List.append_assoc, List.singleton_append, splitAtEach_append,
      splitAtEach_of_not_mem htext, ih hrest, List.singleton_append, List.cons_append]

/-- There are as many separators as texts. -/
theorem count_flatMap (h : ∀ text ∈ texts, separator ∉ text) :
    (texts.flatMap (· ++ [separator])).count separator = texts.length := by
  induction texts with
  | nil => rfl
  | cons text rest ih =>
    obtain ⟨htext, hrest⟩ := List.forall_mem_cons.mp h
    rw [List.flatMap_cons, List.count_append, List.count_append, List.count_eq_zero.mpr htext,
      List.count_singleton_self, ih hrest, List.length_cons]
    omega

/-- The last character is a separator. -/
theorem getLast?_flatMap (separator : Char) (h : texts ≠ []) :
    (texts.flatMap (· ++ [separator])).getLast? = some separator := by
  obtain ⟨front, text, rfl⟩ := (List.eq_nil_or_concat texts).resolve_left h
  rw [List.concat_eq_append, List.flatMap_append, List.flatMap_singleton, ← List.append_assoc,
    List.getLast?_concat]

end ApiReplay.Text
