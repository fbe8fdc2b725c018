import ApiReplay.Text.Blank
import Mathlib.Data.List.Basic

/-!
# The ends of texts

A text is white space, a part that neither starts nor ends with white space, and white space again;
trimming gives the part in the middle, and there is only one way to see it so. What starts and ends
with a character that is none of a kind occurs in a text with characters of that kind around it only
where it occurs in the text itself.

## Main definitions

* `Text.IsBlanks`, `Text.IsTight`: white space, and texts without white space at their ends.

## Main results

* `Text.trim_eq_iff`: what trimming gives.
* `Text.trim_append`: white space around a text does not count.
* `Text.between?_eq_some_iff`: the text between two characters.
* `Text.infix_append_append_iff`: occurrences in a text with something around it.
-/

namespace ApiReplay.Text

variable {before text core after : List Char}

/-! ### White space -/

/-- White space, or nothing. -/
def IsBlanks (text : List Char) : Prop :=
  ∀ c ∈ text, isBlank c

instance (text : List Char) : Decidable (IsBlanks text) :=
  List.decidableBAll _ text

/-- A text that neither starts nor ends with white space. -/
structure IsTight (text : List Char) : Prop where
  head : ∀ c ∈ text.head?, ¬ isBlank c
  last : ∀ c ∈ text.getLast?, ¬ isBlank c

theorem isBlanks_reverse_iff : IsBlanks text.reverse ↔ IsBlanks text := by
  simp [IsBlanks]

theorem isBlanks_takeWhile (text : List Char) : IsBlanks (text.takeWhile isBlank) :=
  List.all_eq_true.mp List.all_takeWhile

theorem trimStart_append (h : IsBlanks before) (text : List Char) :
    trimStart (before ++ text) = trimStart text :=
  List.dropWhile_append_of_pos h

theorem trimStart_eq_self (h : ∀ c ∈ text.head?, ¬ isBlank c) : trimStart text = text := by
  cases text with
  | nil => rfl
  | cons c rest => exact List.dropWhile_cons_of_neg (h c rfl)

theorem head?_trimStart (text : List Char) : ∀ c ∈ (trimStart text).head?, ¬ isBlank c := by
  intro c hc
  have hhead := List.head?_dropWhile_not isBlank text
  rw [← trimStart, Option.mem_def.mp hc] at hhead
  simp [hhead]

/-- At the end a text is trimmed as its reverse is at the start. -/
theorem trimEnd_eq (text : List Char) : trimEnd text = (trimStart text.reverse).reverse :=
  rfl

theorem trimEnd_append (text : List Char) (h : IsBlanks after) :
    trimEnd (text ++ after) = trimEnd text := by
  rw [trimEnd_eq, List.reverse_append, trimStart_append (isBlanks_reverse_iff.mpr h), ← trimEnd_eq]

theorem trimEnd_eq_self (h : ∀ c ∈ text.getLast?, ¬ isBlank c) : trimEnd text = text := by
  rw [← List.head?_reverse] at h
  rw [trimEnd_eq, trimStart_eq_self h, List.reverse_reverse]

/-- Trimming leaves out white space at both ends. -/
theorem exists_eq_append_trim (text : List Char) :
    ∃ before after, IsBlanks before ∧ IsBlanks after ∧ text = before ++ trim text ++ after := by
  let start := (trimStart text).reverse
  refine ⟨text.takeWhile isBlank, (start.takeWhile isBlank).reverse, isBlanks_takeWhile text,
    isBlanks_reverse_iff.mpr (isBlanks_takeWhile start), ?_⟩
  have hend : trim text ++ (start.takeWhile isBlank).reverse = trimStart text := by
    change (start.dropWhile isBlank).reverse ++ _ = _
    rw [← List.reverse_append, List.takeWhile_append_dropWhile, List.reverse_reverse]
  rw [List.append_assoc, hend]
  exact List.takeWhile_append_dropWhile.symm

theorem isTight_trim (text : List Char) : IsTight (trim text) where
  head := by
    -- What is left of a text starts as the text does, unless nothing is left.
    obtain ⟨after, hafter⟩ : trim text <+: trimStart text := by
      rw [← List.reverse_suffix]
      simpa [trim, trimEnd] using List.dropWhile_suffix isBlank
    intro c hc
    refine head?_trimStart text c ?_
    rw [← hafter, List.head?_append, Option.mem_def.mp hc]
    rfl
  last := by
    rw [trim, trimEnd_eq, List.getLast?_reverse]
    exact head?_trimStart _

theorem trim_append_of_isTight (hbefore : IsBlanks before) (hcore : IsTight core)
    (hafter : IsBlanks after) : trim (before ++ core ++ after) = core := by
  have hstart : trimStart (before ++ core ++ after) = trimStart (core ++ after) := by
    rw [List.append_assoc, trimStart_append hbefore]
  rw [trim, hstart]
  cases core with
  | nil =>
    have hnil := trimStart_append hafter []
    rw [List.append_nil] at hnil
    rw [List.nil_append, hnil]
    rfl
  | cons c rest =>
    have hself : trimStart (c :: rest ++ after) = c :: rest ++ after :=
      trimStart_eq_self hcore.head
    rw [hself, trimEnd_append _ hafter, trimEnd_eq_self hcore.last]

/-- Trimming gives the part of a text with white space around it that has none at its ends. -/
theorem trim_eq_iff : trim text = core ↔
    IsTight core ∧ ∃ before after, IsBlanks before ∧ IsBlanks after ∧
      text = before ++ core ++ after := by
  constructor
  · rintro rfl
    exact ⟨isTight_trim text, exists_eq_append_trim text⟩
  · rintro ⟨hcore, before, after, hbefore, hafter, rfl⟩
    exact trim_append_of_isTight hbefore hcore hafter

/-- White space around a text does not count. -/
theorem trim_append (hbefore : IsBlanks before) (hafter : IsBlanks after) (text : List Char) :
    trim (before ++ text ++ after) = trim text := by
  obtain ⟨first, last, hfirst, hlast, htext⟩ := exists_eq_append_trim text
  rw [trim_eq_iff]
  refine ⟨isTight_trim text, before ++ first, last ++ after,
    List.forall_mem_append.mpr ⟨hbefore, hfirst⟩, List.forall_mem_append.mpr ⟨hlast, hafter⟩, ?_⟩
  nth_rewrite 1 [htext]
  simp only [List.append_assoc]

/-! ### Texts between two characters -/

/-- A text between two characters is that text with them around it. -/
theorem between?_eq_some_iff {first last : Char} {inner : List Char} :
    between? first last text = some inner ↔ text = first :: (inner ++ [last]) := by
  cases text with
  | nil => simp [between?]
  | cons c rest =>
    rw [between?]
    constructor
    · intro h
      split at h
      case isTrue hends =>
        obtain ⟨front, rfl⟩ := List.getLast?_eq_some_iff.mp hends.2
        rw [List.dropLast_concat] at h
        rw [hends.1, Option.some.inj h]
      case isFalse => cases h
    · intro h
      obtain ⟨rfl, rfl⟩ := List.cons.inj h
      rw [if_pos ⟨rfl, List.getLast?_concat⟩, List.dropLast_concat]

/-! ### Occurrences -/

section

variable {p : Char → Prop} {part : List Char}

theorem infix_append_left_iff (hne : part ≠ []) (hhead : ∀ c ∈ part.head?, ¬ p c)
    (hbefore : ∀ c ∈ before, p c) : part <:+: before ++ text ↔ part <:+: text := by
  induction before with
  | nil => rfl
  | cons c rest ih =>
    obtain ⟨hc, hrest⟩ := List.forall_mem_cons.mp hbefore
    have hstart : ¬ part <+: c :: (rest ++ text) := by
      intro hprefix
      rw [List.prefix_cons_iff] at hprefix
      obtain ⟨more, rfl, -⟩ := hprefix.resolve_left hne
      exact hhead c rfl hc
    rw [List.cons_append, List.infix_cons_iff, or_iff_right hstart, ih hrest]

/-- What starts and ends otherwise occurs in a text with characters of a kind around it where it
occurs in the text. -/
theorem infix_append_append_iff (hne : part ≠ []) (hhead : ∀ c ∈ part.head?, ¬ p c)
    (hlast : ∀ c ∈ part.getLast?, ¬ p c) (hbefore : ∀ c ∈ before, p c) (hafter : ∀ c ∈ after, p c) :
    part <:+: before ++ text ++ after ↔ part <:+: text := by
  rw [← List.head?_reverse] at hlast
  rw [List.append_assoc, infix_append_left_iff hne hhead hbefore, ← List.reverse_infix,
    List.reverse_append, infix_append_left_iff (by simpa using hne) hlast (by simpa using hafter),
    List.reverse_infix]

end

end ApiReplay.Text
