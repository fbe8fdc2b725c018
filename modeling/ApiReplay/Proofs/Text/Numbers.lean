import ApiReplay.Number
import Mathlib.Data.List.Basic

/-!
# The characters of written numbers

Numbers are written with decimal digits, signs, a point and the letter of an exponent.

## Main definitions

* `IsNumeric`: the characters of written numbers.

## Main results

* `isDigit_of_mem_natChars`, `isDigit_or_eq_of_mem_intChars`: the characters of integers.
* `Number.isNumeric_of_mem_chars`: the characters of numbers.
-/

namespace ApiReplay

/-! ### Integers -/

theorem isDigit_of_mem_natChars {n : Nat} {c : Char} (h : c ∈ natChars n) : c.isDigit :=
  Nat.isDigit_of_mem_toDigits (by decide) (by decide) h

theorem isDigit_or_eq_of_mem_intChars {i : Int} {c : Char} (h : c ∈ intChars i) :
    c.isDigit ∨ c = '-' := by
  cases i with
  | ofNat n => exact .inl (isDigit_of_mem_natChars h)
  | negSucc n => exact (List.mem_cons.mp h).symm.imp_left isDigit_of_mem_natChars

/-! ### Numbers -/

/-- A character of written numbers. -/
def IsNumeric (c : Char) : Prop :=
  c.isDigit ∨ c ∈ ['-', '+', '.', 'e']

instance (c : Char) : Decidable (IsNumeric c) :=
  inferInstanceAs (Decidable (_ ∨ _))

theorem isNumeric_of_mem_natChars {n : Nat} : ∀ c ∈ natChars n, IsNumeric c :=
  fun _ h => .inl (isDigit_of_mem_natChars h)

theorem isNumeric_of_mem_intChars {i : Int} : ∀ c ∈ intChars i, IsNumeric c := by
  intro c h
  rcases isDigit_or_eq_of_mem_intChars h with hdigit | rfl
  · exact .inl hdigit
  · decide

theorem isNumeric_of_mem_replicate {n : Nat} : ∀ c ∈ List.replicate n '0', IsNumeric c := by
  intro c h
  rw [List.eq_of_mem_replicate h]
  decide

theorem Decimal.isNumeric_of_mem_chars (d : Decimal) : ∀ c ∈ d.chars, IsNumeric c := by
  have hdigits := @isNumeric_of_mem_natChars d.coefficient
  have htake (n : Nat) : ∀ c ∈ (natChars d.coefficient).take n, IsNumeric c :=
    fun c hc => hdigits c (List.mem_of_mem_take hc)
  have hdrop (n : Nat) : ∀ c ∈ (natChars d.coefficient).drop n, IsNumeric c :=
    fun c hc => hdigits c (List.mem_of_mem_drop hc)
  unfold Decimal.chars
  dsimp only
  split_ifs
  all_goals
    simp only [List.forall_mem_append, List.forall_mem_cons, List.not_mem_nil, false_imp_iff,
      implies_true, and_true, List.nil_append, List.append_nil]
  case pos => exact ⟨⟨hdigits, isNumeric_of_mem_replicate⟩, by decide⟩
  case pos => exact ⟨htake _, by decide, hdrop _⟩
  case pos => exact ⟨by decide, by decide, isNumeric_of_mem_replicate, hdigits⟩
  -- a single digit has no fraction, and the sign of an exponent may be that of its own text
  case pos => exact ⟨htake 1, by decide, by decide, isNumeric_of_mem_intChars⟩
  case neg => exact ⟨htake 1, by decide, isNumeric_of_mem_intChars⟩
  case pos => exact ⟨⟨htake 1, by decide, hdrop 1⟩, by decide, by decide, isNumeric_of_mem_intChars⟩
  case neg => exact ⟨⟨htake 1, by decide, hdrop 1⟩, by decide, isNumeric_of_mem_intChars⟩

theorem Double.isNumeric_of_mem_chars (x : Double) : ∀ c ∈ x.chars, IsNumeric c := by
  unfold Double.chars
  dsimp only
  split
  · exact List.forall_mem_cons.mpr ⟨by decide, x.shortest.isNumeric_of_mem_chars⟩
  · exact x.shortest.isNumeric_of_mem_chars

theorem Number.isNumeric_of_mem_chars (n : Number) : ∀ c ∈ n.chars, IsNumeric c := by
  cases n with
  | int i => exact isNumeric_of_mem_intChars
  | double x => exact x.isNumeric_of_mem_chars

end ApiReplay
