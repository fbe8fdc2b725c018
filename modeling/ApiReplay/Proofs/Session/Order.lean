import ApiReplay.Proofs.Session.Comparison
import ApiReplay.Proofs.Text.Order
import ApiReplay.Proofs.Variables.Readers

/-!
# The order comparisons

Two numbers have an order and so have two texts; no other two values have one. All four comparisons
ask for this order, each for its own part of the three possible answers, and so they cannot
contradict each other. Where the answer is that none of the two comes first, the two agree, and a
match passes as well. Without an order none of the comparisons passes, and all of them fail as
assertions.

The order of texts is that of their code points, which is that of their bytes.

## Main definitions

* `Json.Comparable`: the values that have an order.
* `Session.Holds`, `Session.Refuted`: the verdicts of a comparison.
* `Session.Consistent`: that the four comparisons and matching go together.

## Main results

* `Json.order?_trans`, `Json.agrees_of_order?_eq`, `Json.order?_string_lt_iff`: the order of values.
* `Session.holds_iff`, `Session.refuted_iff`: the verdicts as questions about the order.
* `Session.comparisons_consistent`: the four comparisons go together.
-/

namespace ApiReplay

/-! ### The order of values -/

namespace Json

variable {a b c : Json}

/-- Two numbers, or two texts. -/
inductive Comparable : Json → Json → Prop
  | numbers (a b : Number) : Comparable (.number a) (.number b)
  | texts (s t : String) : Comparable (.string s) (.string t)

theorem order?_number_eq_iff (a b : Number) (o : Ordering) :
    order? (.number a) (.number b) = some o ↔ compareOfLessAndEq a.approx b.approx = o := by
  rw [order?, Option.some.injEq]

theorem order?_string_eq_iff (s t : String) (o : Ordering) :
    order? (.string s) (.string t) = some o ↔ compareOfLessAndEq s t = o := by
  rw [order?, Option.some.injEq]

/-- The values that have an order are those that can be compared. -/
theorem exists_order?_iff : (∃ o, order? a b = some o) ↔ Comparable a b := by
  constructor
  · rintro ⟨o, ho⟩
    unfold order? at ho
    split at ho
    case h_1 => exact .numbers _ _
    case h_2 => exact .texts _ _
    case h_3 => cases ho
  · rintro (⟨a, b⟩ | ⟨s, t⟩)
    · exact ⟨_, rfl⟩
    · exact ⟨_, rfl⟩

/-- Values of which none comes first agree. -/
theorem agrees_of_order?_eq (h : order? a b = some .eq) : agrees a b := by
  cases exists_order?_iff.mp ⟨_, h⟩ with
  | numbers a b =>
    rw [order?_number_eq_iff, compareOfLessAndEq_eq_eq le_refl not_le] at h
    simp [h]
  | texts s t =>
    rw [order?_string_eq_iff, compareOfLessAndEq_eq_eq le_refl not_le] at h
    simp [h]

/-- What comes before a value comes before all that it comes before. -/
theorem order?_trans (hab : order? a b = some .lt) (hbc : order? b c = some .lt) :
    order? a c = some .lt := by
  cases exists_order?_iff.mp ⟨_, hab⟩ with
  | numbers a b =>
    cases exists_order?_iff.mp ⟨_, hbc⟩ with
    | numbers _ c =>
      rw [order?_number_eq_iff, compareOfLessAndEq_eq_lt] at hab hbc ⊢
      exact hab.trans hbc
  | texts s t =>
    cases exists_order?_iff.mp ⟨_, hbc⟩ with
    | texts _ u =>
      rw [order?_string_eq_iff, compareOfLessAndEq_eq_lt] at hab hbc ⊢
      exact hab.trans hbc

/-- Texts are ordered by their code points, and so by their bytes. -/
theorem order?_string_lt_iff (s t : String) :
    (order? (.string s) (.string t) = some .lt ↔
      s.toList.map Char.toNat < t.toList.map Char.toNat) ∧
    (order? (.string s) (.string t) = some .lt ↔
      Text.encode s.toList < Text.encode t.toList) := by
  rw [order?_string_eq_iff, compareOfLessAndEq_eq_lt, String.lt_iff_toList_lt,
    Text.map_toNat_lt_iff, Text.encode_lt_iff]
  exact ⟨Iff.rfl, Iff.rfl⟩

end Json

/-! ### Verdicts -/

namespace Session

open Json (Comparable order?)

variable {s : Session} {path : String} {e : Json} {found : Option Json} {comparison : Comparison}

/-- A comparison passes. -/
def Holds (s : Session) (path : String) (e : Json) (comparison : Comparison) : Prop :=
  s.check (.compare comparison path e) = .ok ()

/-- A comparison fails, and it does so as an assertion. -/
def Refuted (s : Session) (path : String) (e : Json) (comparison : Comparison) : Prop :=
  ∃ error, s.check (.compare comparison path e) = .error error ∧ error.isFailure

/-- A comparison passes when the values have an order that it accepts. -/
theorem holds_iff (hr : s.resolve path = .ok found) :
    s.Holds path e comparison ↔
      ∃ a o, found = some a ∧ order? a e = some o ∧ comparison.holds o := by
  rw [Holds, check, require_eq_ok_iff, compares, hr]
  cases found with
  | none => simp [Except.map]
  | some a => cases ho : order? a e <;> simp [Except.map, ho]

/-- A comparison fails as an assertion whenever it does not pass. -/
theorem refuted_iff (hr : s.resolve path = .ok found) :
    s.Refuted path e comparison ↔ ¬ s.Holds path e comparison := by
  constructor
  · rintro ⟨error, herror, -⟩ hholds
    rw [Holds, herror] at hholds
    cases hholds
  · intro hholds
    cases hcheck : s.check (.compare comparison path e) with
    | ok _ => exact absurd hcheck hholds
    | error error =>
      refine ⟨error, hcheck, ?_⟩
      rw [check, require_eq_error_iff, compares, hr] at hcheck
      obtain ⟨-, rfl⟩ := hcheck.resolve_left (fun h => by cases h)
      rfl

/-- The verdicts of the four comparisons of what a path names with an expected value, and that of a
match of the two. -/
structure Consistent (s : Session) (path : String) (e : Json) : Prop where
  /-- Less passes, or greater passes, or both comparisons that allow for equality do. -/
  one_of_three :
    (s.Holds path e .lt ∧ ¬ s.Holds path e .gt ∧ ¬ (s.Holds path e .lte ∧ s.Holds path e .gte)) ∨
    (¬ s.Holds path e .lt ∧ s.Holds path e .gt ∧ ¬ (s.Holds path e .lte ∧ s.Holds path e .gte)) ∨
    (¬ s.Holds path e .lt ∧ ¬ s.Holds path e .gt ∧ s.Holds path e .lte ∧ s.Holds path e .gte)
  lte_iff : s.Holds path e .lte ↔ s.Refuted path e .gt
  gte_iff : s.Holds path e .gte ↔ s.Refuted path e .lt
  /-- Where both pass, a match passes too, unless the expected value is a reference, which only a
  match looks up. -/
  equal : s.Holds path e .lte → s.Holds path e .gte →
    (∀ name, name ≠ "" → e ≠ .string (Variables.reference name)) →
    s.check (.equal path e) = .ok ()

theorem consistent {a : Json} (hr : s.resolve path = .ok (some a)) (h : Comparable a e) :
    Consistent s path e := by
  obtain ⟨o, ho⟩ := Json.exists_order?_iff.mpr h
  have hholds (comparison : Comparison) : s.Holds path e comparison ↔ comparison.holds o := by
    rw [holds_iff hr]
    constructor
    · rintro ⟨_, o', ha, ho', hcomparison⟩
      obtain rfl := Option.some.inj ha
      obtain rfl := Option.some.inj (ho.symm.trans ho')
      exact hcomparison
    · exact fun hcomparison => ⟨a, o, rfl, ho, hcomparison⟩
  refine ⟨?_, ?_, ?_, fun hlte hgte href => ?_⟩
  · simp only [hholds]
    cases o <;> decide
  · simp only [refuted_iff hr, hholds]
    cases o <;> decide
  · simp only [refuted_iff hr, hholds]
    cases o <;> decide
  · rw [hholds] at hlte hgte
    have heq : o = .eq := by
      cases o with
      | eq => rfl
      | lt => exact absurd hgte (by decide)
      | gt => exact absurd hlte (by decide)
    have hagrees := Json.agrees_of_order?_eq (ho.trans (congrArg some heq))
    refine checkEqual_eq_ok_iff.mpr ⟨e, a, s.vars.expand_eq_self href, hr, ?_⟩
    rw [Json.satisfies, hagrees, Bool.true_or, Bool.true_or]

/-- **The four comparisons go together.** In every session, the comparisons of what a path names
with an expected value are consistent with each other and with a match when the two are both numbers
or both texts. Otherwise, or when the path names nothing, all four fail as assertions. Of texts, less
asks for the order of code points, as the bytes give it. What is less than a value is less than all
that this value is less than, wherever the values come from. -/
theorem comparisons_consistent (s : Session) (path : String) (e : Json) :
    (∀ a, s.resolve path = .ok (some a) → Comparable a e → Consistent s path e) ∧
    (∀ found, s.resolve path = .ok found → (∀ a ∈ found, ¬ Comparable a e) →
      ∀ comparison, s.Refuted path e comparison) ∧
    (∀ x y, s.resolve path = .ok (some (.string x)) → e = .string y →
      (s.Holds path e .lt ↔ x.toList.map Char.toNat < y.toList.map Char.toNat) ∧
      (s.Holds path e .lt ↔ Text.encode x.toList < Text.encode y.toList)) ∧
    ∀ a b (s' : Session) (path' : String), s.resolve path = .ok (some a) →
      s'.resolve path' = .ok (some b) → s.Holds path b .lt → s'.Holds path' e .lt →
      s.Holds path e .lt := by
  have hlt {s : Session} {path : String} {a e : Json} (hr : s.resolve path = .ok (some a)) :
      s.Holds path e .lt ↔ order? a e = some .lt := by
    rw [holds_iff hr]
    simp [Comparison.holds]
  refine ⟨fun a hr h => consistent hr h, fun found hr hnone comparison => ?failed,
    fun x y hr he => ?texts, fun a b s' path' hr hr' hab hbe => ?trans⟩
  case failed =>
    rw [refuted_iff hr, holds_iff hr]
    rintro ⟨a, o, rfl, ho, -⟩
    exact hnone a rfl (Json.exists_order?_iff.mp ⟨o, ho⟩)
  case texts =>
    rw [hlt hr, he]
    exact Json.order?_string_lt_iff x y
  case trans =>
    rw [hlt hr] at hab ⊢
    rw [hlt hr'] at hbe
    exact Json.order?_trans hab hbe

/-- The double `1.0` is neither less nor greater than the integer `1` and matches it, and `z` is
less than `é` but has no order with a number. -/
theorem comparisons_consistent_of_double :
    let one : Json := .number (.double ⟨false, 4503599627370496, 1022, by decide⟩)
    let s : Session := ⟨.empty, some (.ok 200 (.object [("n", .nat 1), ("t", .string "z")]))⟩
    s.resolve "n" = .ok (some (.nat 1)) ∧ s.Refuted "n" one .lt ∧ s.Refuted "n" one .gt ∧
      s.check (.equal "n" one) = .ok () ∧ s.Holds "t" (.string "é") .lt ∧
      s.Refuted "t" one .lte := by
  intro one s
  have hr : s.resolve "n" = .ok (some (.nat 1)) := rfl
  have ht : s.resolve "t" = .ok (some (.string "z")) := rfl
  have hconsistent := (comparisons_consistent s "n" one).1 _ hr (.numbers _ _)
  have horder : order? (.nat 1) one = some .eq := by decide +kernel
  have hlte : s.Holds "n" one .lte := (holds_iff hr).mpr ⟨_, _, rfl, horder, rfl⟩
  have hgte : s.Holds "n" one .gte := (holds_iff hr).mpr ⟨_, _, rfl, horder, rfl⟩
  refine ⟨hr, hconsistent.gte_iff.mp hgte, hconsistent.lte_iff.mp hlte,
    hconsistent.equal hlte hgte fun name _ => Json.noConfusion, ?_, ?_⟩
  · exact ((comparisons_consistent s "t" (.string "é")).2.2.1 "z" "é" ht rfl).1.mpr (by decide)
  · refine (comparisons_consistent s "t" one).2.1 _ ht (fun a ha hcomparable => ?_) .lte
    obtain rfl := Option.some.inj ha
    change Comparable _ (.number _) at hcomparable
    cases hcomparable

end Session

end ApiReplay
