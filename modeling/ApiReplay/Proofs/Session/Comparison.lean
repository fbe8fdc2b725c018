import ApiReplay.Proofs.Double.Rounding
import ApiReplay.Proofs.Session.Matching
import ApiReplay.Proofs.Session.Step

/-!
# Comparison of numbers

A match action and the four order comparisons look at the nearest doubles of two numbers. Rounding
keeps the order, so that a number is never found below another one that is not greater, and equal
numbers always match. What may go wrong is that two different numbers are taken for equal. This
happens just when they round to the same double, which takes an integer with more than 53
significant bits: `9007199254740993` matches `9007199254740992`.

## Main definitions

* `Comparison.Relates`: the relation that a comparison stands for.
* `Session.ComparesExactly`: that the verdicts on two numbers are those on their values.

## Main results

* `Session.check_equal_number_iff`, `Session.check_compare_number_iff`: the verdicts.
* `Session.comparesExactly_iff`: when they are those on the values.
-/

namespace ApiReplay

/-! ### Comparisons as relations -/

namespace Comparison

/-- The relation that a comparison stands for. -/
def Relates {α : Type} [LinearOrder α] : Comparison → α → α → Prop
  | lt, x, y => x < y
  | lte, x, y => x ≤ y
  | gt, x, y => y < x
  | gte, x, y => y ≤ x

/-- A comparison holds of the order of two values when its relation does. -/
theorem holds_compare_iff {α : Type} [LinearOrder α] (comparison : Comparison) (x y : α) :
    comparison.holds (compareOfLessAndEq x y) ↔ comparison.Relates x y := by
  rcases lt_trichotomy x y with h | rfl | h
  · cases comparison <;> simp [holds, Relates, compareOfLessAndEq, h, h.le, h.not_gt, h.not_ge]
  · cases comparison <;> simp [holds, Relates, compareOfLessAndEq]
  · cases comparison <;>
      simp [holds, Relates, compareOfLessAndEq, h, h.le, h.not_gt, h.not_ge, h.ne']

end Comparison

namespace Session

variable {s : Session} {path : String} {a b : Number}

/-! ### The verdicts on numbers -/

/-- A number contains nothing and no number is a pattern, so that only agreement counts. -/
theorem satisfies_number_iff (a b : Number) :
    (Json.number a).satisfies (.number b) ↔ a.approx = b.approx := by
  have hcontains : (Json.number a).contains (.number b) = false := rfl
  have hpattern : (Json.number a).satisfiesPattern (.number b) = false := rfl
  rw [Json.satisfies, hcontains, hpattern, Json.agrees, Bool.or_false, Bool.or_false, beq_iff_eq]

/-- A match action passes on two numbers with the same nearest double. -/
theorem check_equal_number_iff (hr : s.resolve path = .ok (some (.number a))) :
    s.check (.equal path (.number b)) = .ok () ↔ a.approx = b.approx := by
  rw [check, checkEqual_eq_ok_iff, ← satisfies_number_iff]
  constructor
  · rintro ⟨e, value, he, hv, hsatisfies⟩
    obtain rfl := Except.ok.inj he
    rw [hr] at hv
    obtain rfl := Option.some.inj (Except.ok.inj hv)
    exact hsatisfies
  · exact fun h => ⟨.number b, .number a, rfl, hr, h⟩

/-- An order comparison passes on two numbers when it holds of their nearest doubles. -/
theorem check_compare_number_iff (comparison : Comparison)
    (hr : s.resolve path = .ok (some (.number a))) :
    s.check (.compare comparison path (.number b)) = .ok () ↔
      comparison.Relates a.approx b.approx := by
  rw [check, require_eq_ok_iff, compares, hr]
  simp [Except.map, Json.order?, Comparison.holds_compare_iff]

/-! ### Exact verdicts -/

/-- The verdicts on a number that a path names and an expected one are those on their values. -/
structure ComparesExactly (s : Session) (path : String) (a b : Number) : Prop where
  /-- The two match when they are equal. -/
  equal : s.check (.equal path (.number b)) = .ok () ↔ a.scaled = b.scaled
  /-- An order comparison passes when it holds of the values. -/
  compare : ∀ comparison : Comparison,
    s.check (.compare comparison path (.number b)) = .ok () ↔
      comparison.Relates a.scaled b.scaled

/-- **Comparison of numbers.** The verdicts on two numbers are those on their values unless the
numbers are different and have the same nearest double. They are exact on doubles and on integers
with 53 significant bits. They err in one direction only: equal numbers match, and a number that is
found below or above another one is. -/
theorem comparesExactly_iff (s : Session) (path : String) (a b : Number)
    (hr : s.resolve path = .ok (some (.number a))) :
    (ComparesExactly s path a b ↔ a.scaled = b.scaled ∨ a.approx ≠ b.approx) ∧
    (a.IsExact → b.IsExact → ComparesExactly s path a b) ∧
    (a.scaled = b.scaled → s.check (.equal path (.number b)) = .ok ()) ∧
    (s.check (.compare .lt path (.number b)) = .ok () → a.scaled < b.scaled) ∧
    (s.check (.compare .gt path (.number b)) = .ok () → b.scaled < a.scaled) := by
  have hequal := check_equal_number_iff (b := b) hr
  have horder (comparison : Comparison) := check_compare_number_iff (b := b) comparison hr
  have hab := Number.approx_mono (a := a) (b := b)
  have hba := Number.approx_mono (a := b) (b := a)
  refine ⟨⟨fun h => ?collapse, fun h => ⟨?equal, fun comparison => ?compare⟩⟩, fun ha hb => ?exact,
    fun h => ?equalMatch, fun h => ?below, fun h => ?above⟩
  case collapse =>
    by_contra hne
    rw [not_or, not_not] at hne
    exact hne.1 (h.equal.mp (hequal.mpr hne.2))
  case equal =>
    rw [hequal]
    omega
  case compare =>
    rw [horder]
    cases comparison <;> simp only [Comparison.Relates] <;> omega
  case exact =>
    refine ⟨?_, fun comparison => ?_⟩
    · rw [hequal, Number.approx_eq_scaled ha, Number.approx_eq_scaled hb]
    · rw [horder, Number.approx_eq_scaled ha, Number.approx_eq_scaled hb]
  case equalMatch => exact hequal.mpr (le_antisymm (hab h.le) (hba h.ge))
  case below =>
    have hlt : a.approx < b.approx := (horder .lt).mp h
    by_contra hge
    exact absurd (hba (not_lt.mp hge)) (not_le.mpr hlt)
  case above =>
    have hgt : b.approx < a.approx := (horder .gt).mp h
    by_contra hle
    exact absurd (hab (not_lt.mp hle)) (not_le.mpr hgt)

/-- The successor of `2 ^ 53` passes for `2 ^ 53`, and does not pass for greater. -/
theorem comparison_not_exact_beyond_two_pow :
    let a : Number := .int 9007199254740993
    let b : Number := .int 9007199254740992
    let s : Session := ⟨.empty, some (.ok 200 (.object [("id", .number a)]))⟩
    s.resolve "id" = .ok (some (.number a)) ∧ b.scaled < a.scaled ∧
      s.check (.equal "id" (.number b)) = .ok () ∧
      s.check (.compare .lte "id" (.number b)) = .ok () ∧
      s.check (.compare .gt "id" (.number b)) ≠ .ok () ∧ ¬ ComparesExactly s "id" a b := by
  intro a b s
  have hr : s.resolve "id" = .ok (some (.number a)) := rfl
  have hlt : b.scaled < a.scaled := by decide +kernel
  have happrox : a.approx = b.approx := by decide +kernel
  refine ⟨hr, hlt, (check_equal_number_iff hr).mpr happrox,
    (check_compare_number_iff .lte hr).mpr happrox.le, ?_, fun h => ?_⟩
  · rw [Ne, check_compare_number_iff .gt hr, Comparison.Relates, happrox]
    exact lt_irrefl _
  · exact hlt.ne' (h.equal.mp ((check_equal_number_iff hr).mpr happrox))

/-- The greatest exact integer of 64 bits is greater than the double below it. -/
theorem comparesExactly_of_short_mantissa :
    let a : Number := .int 18446744073709549568
    let b : Number := .double ⟨false, 9007199254740990, 1085, by decide⟩
    let s : Session := ⟨.empty, some (.ok 200 (.object [("id", .number a)]))⟩
    s.resolve "id" = .ok (some (.number a)) ∧ a.IsExact ∧ b.IsExact ∧
      ComparesExactly s "id" a b ∧ s.check (.compare .gt "id" (.number b)) = .ok () := by
  intro a b s
  have hr : s.resolve "id" = .ok (some (.number a)) := rfl
  have ha : a.IsExact := ⟨9007199254740991, 11, by decide, by decide⟩
  have hexact : ComparesExactly s "id" a b := (comparesExactly_iff s "id" a b hr).2.1 ha trivial
  have hlt : b.scaled < a.scaled := by decide +kernel
  exact ⟨hr, ha, trivial, hexact, (hexact.compare .gt).mpr hlt⟩

end Session

end ApiReplay
