import ApiReplay.Json.Text
import ApiReplay.Proofs.Json.Texts
import ApiReplay.Proofs.Text.Numbers
import Mathlib.Data.Bool.AllAny

/-!
# The compact text of a tree is one line

Control characters in texts and keys are escaped, and all that stands around them is printable. So
the compact text of a tree has no control character below `U+0020`, and no line feed in particular.

## Main definitions

* `Json.IsPlain`: the characters that are no such control characters.

## Main results

* `Json.isPlain_of_mem_quote`: the characters of a text between quotes.
* `Json.isPlain_of_mem_chars`: the characters of a tree.
* `Json.newline_notMem_text`: the compact text of a tree is one line.
-/

namespace ApiReplay

namespace Json

/-- A character other than the control characters below `U+0020`. -/
def IsPlain (c : Char) : Prop :=
  0x20 ≤ c.toNat

instance (c : Char) : Decidable (IsPlain c) :=
  inferInstanceAs (Decidable (_ ≤ _))

/-! ### Numbers -/

theorem isPlain_of_isNumeric {c : Char} (h : IsNumeric c) : IsPlain c := by
  rcases h with hdigit | hsign
  · have hrange := Char.isDigit_iff_toNat.mp hdigit
    exact Nat.le_trans (by decide) hrange.1
  · simp only [List.mem_cons, List.not_mem_nil, or_false] at hsign
    rcases hsign with rfl | rfl | rfl | rfl <;> decide

theorem isPlain_of_mem_number (n : Number) : ∀ c ∈ n.chars, IsPlain c :=
  fun c hc => isPlain_of_isNumeric (n.isNumeric_of_mem_chars c hc)

/-! ### Texts -/

/-- The characters of a given text are looked at one by one. -/
theorem isPlain_of_all {text : List Char} (h : text.all fun c => IsPlain c) :
    ∀ c ∈ text, IsPlain c :=
  List.all_iff_forall_prop.mp h

theorem isPlain_hexDigit {n : Nat} (h : n < 16) : IsPlain (hexDigit n) := by
  revert n
  decide

/-- Every control character below `U+0020` is escaped by printable ones. -/
theorem isPlain_of_mem_escape (c : Char) : ∀ e ∈ escape c, IsPlain e := by
  unfold escape
  split_ifs
  -- seven characters have an escape of their own
  iterate 7 exact isPlain_of_all (by decide)
  case pos hcontrol =>
    have hhigh := @isPlain_hexDigit (c.toNat / 16) (by omega)
    have hlow := @isPlain_hexDigit (c.toNat % 16) (Nat.mod_lt _ (by decide))
    have hfront : ∀ e ∈ ['\\', 'u', '0', '0'], IsPlain e := isPlain_of_all (by decide)
    exact List.forall_mem_append.mpr
      ⟨hfront, List.forall_mem_cons.mpr ⟨hhigh, List.forall_mem_singleton.mpr hlow⟩⟩
  case neg hprintable => exact List.forall_mem_singleton.mpr (Nat.not_lt.mp hprintable)

theorem isPlain_of_mem_quote (s : String) : ∀ c ∈ quote s, IsPlain c := by
  have hescaped : ∀ c ∈ s.toList.flatMap escape, IsPlain c := by
    intro c hc
    obtain ⟨d, -, hd⟩ := List.mem_flatMap.mp hc
    exact isPlain_of_mem_escape d c hd
  exact List.forall_mem_cons.mpr ⟨by decide, List.forall_mem_append.mpr
    ⟨hescaped, List.forall_mem_singleton.mpr (by decide)⟩⟩

/-! ### Trees -/

theorem isPlain_of_mem_itemChars {items : List Json}
    (h : ∀ item ∈ items, ∀ c ∈ item.chars, IsPlain c) : ∀ c ∈ itemChars items, IsPlain c := by
  induction items with
  | nil => exact List.forall_mem_nil _
  | cons item rest ih =>
    obtain ⟨hitem, hrest⟩ := List.forall_mem_cons.mp h
    cases rest with
    | nil => exact hitem
    | cons next more =>
      exact List.forall_mem_append.mpr
        ⟨hitem, List.forall_mem_cons.mpr ⟨by decide, ih hrest⟩⟩

theorem isPlain_of_mem_entryChars {entries : List (String × Json)}
    (h : ∀ entry ∈ entries, ∀ c ∈ entry.2.chars, IsPlain c) :
    ∀ c ∈ entryChars entries, IsPlain c := by
  induction entries with
  | nil => exact List.forall_mem_nil _
  | cons entry rest ih =>
    obtain ⟨hvalue, hrest⟩ := List.forall_mem_cons.mp h
    obtain ⟨key, value⟩ := entry
    cases rest with
    | nil =>
      exact List.forall_mem_append.mpr
        ⟨isPlain_of_mem_quote key, List.forall_mem_cons.mpr ⟨by decide, hvalue⟩⟩
    | cons next more =>
      exact List.forall_mem_append.mpr
        ⟨isPlain_of_mem_quote key, List.forall_mem_cons.mpr ⟨by decide,
          List.forall_mem_append.mpr ⟨hvalue, List.forall_mem_cons.mpr ⟨by decide, ih hrest⟩⟩⟩⟩

/-- The compact text of a tree has no control character below `U+0020`. -/
theorem isPlain_of_mem_chars (tree : Json) : ∀ c ∈ tree.chars, IsPlain c := by
  induction tree using induct with
  | null => exact isPlain_of_all (by decide)
  | bool b => cases b <;> exact isPlain_of_all (by decide)
  | number n => exact isPlain_of_mem_number n
  | string s => exact isPlain_of_mem_quote s
  | array items ih =>
    rw [chars]
    exact List.forall_mem_cons.mpr ⟨by decide, List.forall_mem_append.mpr
      ⟨isPlain_of_mem_itemChars ih, List.forall_mem_singleton.mpr (by decide)⟩⟩
  | object entries ih =>
    rw [chars]
    exact List.forall_mem_cons.mpr ⟨by decide, List.forall_mem_append.mpr
      ⟨isPlain_of_mem_entryChars ih, List.forall_mem_singleton.mpr (by decide)⟩⟩

/-- The compact text of a tree is one line. -/
theorem newline_notMem_text (tree : Json) : '\n' ∉ tree.text.toList := by
  rw [text, String.toList_ofList]
  intro h
  exact absurd (isPlain_of_mem_chars tree _ h) (by decide)

end Json

end ApiReplay
