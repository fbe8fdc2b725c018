import ApiReplay.Files.Path
import Mathlib.Data.Char
import Mathlib.Data.List.Lex

/-!
# The order of paths

Paths are ordered component by component: at the first place where they differ the components
decide, and a path comes before those that go on behind it. Components of different kinds are
ordered by their kinds, and names by their texts. Neither of two paths comes before the other one
only when they have the same components.

## Main definitions

* `FilePath.Component.Before`: the order of components.
* `FilePath.Precedes`: the order of paths.

## Main results

* `FilePath.tells_compare`: comparing paths decides the order.
* `FilePath.Precedes.trans`, `FilePath.components_eq_of_not_precedes`: the laws of the order.
-/

namespace ApiReplay.FilePath

/-! ### Orderings -/

/-- What an ordering tells of two values in a strict order. -/
def Tells {α : Type} (r : α → α → Prop) (a b : α) : Ordering → Prop
  | .lt => r a b
  | .eq => a = b
  | .gt => r b a

theorem tells_compareOfLessAndEq {α : Type} [LT α] [DecidableLT α] [DecidableEq α] {a b : α}
    (h : ¬ a < b → a ≠ b → b < a) : Tells (· < ·) a b (compareOfLessAndEq a b) := by
  unfold compareOfLessAndEq
  split_ifs with hlt heq
  · exact hlt
  · exact heq
  · exact h hlt heq

/-- In an order that holds one way only, an ordering that tells the truth is greater just when the
second value comes first. -/
theorem Tells.eq_gt_iff {α : Type} {r : α → α → Prop} [Std.Asymm r] {a b : α} {o : Ordering}
    (h : Tells r a b o) : o = .gt ↔ r b a := by
  cases o with
  | lt => exact iff_of_false Ordering.noConfusion fun hba => Std.Asymm.asymm a b h hba
  | eq =>
    obtain rfl : a = b := h
    exact iff_of_false Ordering.noConfusion fun haa => Std.Asymm.asymm a a haa haa
  | gt => exact iff_of_true rfl h

theorem Tells.eq_eq_iff {α : Type} {r : α → α → Prop} [Std.Asymm r] {a b : α} {o : Ordering}
    (h : Tells r a b o) : o = .eq ↔ a = b := by
  have hirrefl (hr : r a b ∨ r b a) : a ≠ b := by
    rintro rfl
    exact hr.elim (fun haa => Std.Asymm.asymm a a haa haa) fun haa => Std.Asymm.asymm a a haa haa
  cases o with
  | lt => exact iff_of_false Ordering.noConfusion (hirrefl (.inl h))
  | eq => exact iff_of_true rfl h
  | gt => exact iff_of_false Ordering.noConfusion (hirrefl (.inr h))

/-! ### Components -/

namespace Component

variable {a b c : Component}

/-- A component comes before another one: by its kind, and names by the code points of their
texts. -/
def Before (a b : Component) : Prop :=
  a.rank < b.rank ∨ ∃ s t, a = .name s ∧ b = .name t ∧ s.toList < t.toList

theorem before_name_iff {s t : String} : (name s).Before (name t) ↔ s.toList < t.toList := by
  simp [Before, rank]

theorem Before.rank_le (h : a.Before b) : a.rank ≤ b.rank := by
  rcases h with h | ⟨s, t, rfl, rfl, -⟩
  · exact h.le
  · exact le_rfl

theorem Before.trans (h : a.Before b) (h' : b.Before c) : a.Before c := by
  rcases h with h | ⟨s, t, rfl, rfl, h⟩
  · exact .inl (h.trans_le h'.rank_le)
  · rcases h' with h' | ⟨t', u, heq, rfl, h'⟩
    · exact .inl h'
    · obtain rfl := Component.name.inj heq
      exact .inr ⟨s, u, rfl, rfl, h.trans h'⟩

instance : Std.Asymm Before where
  asymm a b h h' := by
    rcases h with h | ⟨s, t, rfl, rfl, h⟩
    · exact absurd h'.rank_le h.not_ge
    · exact h.asymm (before_name_iff.mp h')

/-- Components are compared by their order. -/
theorem tells_compare (a b : Component) : Tells Before a b (a.compare b) := by
  have hnames (s t : String) : Tells Before (.name s) (.name t) (compareOfLessAndEq s t) := by
    have htext : Tells (· < ·) s t (compareOfLessAndEq s t) :=
      tells_compareOfLessAndEq fun hlt hne =>
        (lt_or_gt_of_ne fun h => hne (String.toList_inj.mp h)).resolve_left hlt
    cases ho : compareOfLessAndEq s t with
    | lt => exact before_name_iff.mpr (by rwa [ho] at htext)
    | eq => exact congrArg name (by rwa [ho] at htext)
    | gt => exact before_name_iff.mpr (by rwa [ho] at htext)
  cases a <;> cases b
  case name.name s t => exact hnames s t
  all_goals simp [compare, compareOfLessAndEq, rank, Tells, Before]

end Component

/-! ### Paths -/

variable {a b c : String}

theorem tells_compareComponents (as bs : List Component) :
    Tells (List.Lex Component.Before) as bs (compareComponents as bs) := by
  induction as generalizing bs with
  | nil =>
    cases bs with
    | nil => rfl
    | cons b bs => exact .nil
  | cons a as ih =>
    cases bs with
    | nil => exact .nil
    | cons b bs =>
      have hfirst := Component.tells_compare a b
      rw [compareComponents]
      cases ho : a.compare b with
      | lt => exact .rel (by rwa [ho] at hfirst)
      | gt => exact .rel (by rwa [ho] at hfirst)
      | eq =>
        obtain rfl : a = b := by rwa [ho] at hfirst
        have hrest := ih bs
        cases hr : compareComponents as bs with
        | lt => exact .cons (by rwa [hr] at hrest)
        | eq => exact congrArg (List.cons a) (by rwa [hr] at hrest)
        | gt => exact .cons (by rwa [hr] at hrest)

/-- A path comes before another one: at the first place where their components differ, or because
the other one goes on. -/
def Precedes (a b : String) : Prop :=
  List.Lex Component.Before (components a) (components b)

/-- Comparing paths tells which of them comes first, if any. -/
theorem tells_compare (a b : String) :
    Tells (List.Lex Component.Before) (components a) (components b) (compare a b) :=
  tells_compareComponents _ _

theorem compare_eq_gt_iff : compare a b = .gt ↔ Precedes b a :=
  (tells_compare a b).eq_gt_iff

theorem compare_eq_eq_iff : compare a b = .eq ↔ components a = components b :=
  (tells_compare a b).eq_eq_iff

-- A hyphen comes before a slash, but the name that is shorter comes first.
example : compare "docs/a.yml" "docs-x/a.yml" = .lt ∧ "docs-x/a.yml" < "docs/a.yml" := by decide

theorem Precedes.trans (h : Precedes a b) (h' : Precedes b c) : Precedes a c :=
  List.lex_trans Component.Before.trans h h'

instance : Std.Asymm Precedes where
  asymm a b := Std.Asymm.asymm (components a) (components b)

/-- Two paths of which none comes first have the same components. -/
theorem components_eq_of_not_precedes (h : ¬ Precedes a b) (h' : ¬ Precedes b a) :
    components a = components b := by
  have htells := tells_compare a b
  cases ho : compare a b with
  | lt => exact absurd (by rwa [ho] at htells) h
  | eq => exact compare_eq_eq_iff.mp ho
  | gt => exact absurd (compare_eq_gt_iff.mp ho) h'

/-- What does not come before a path does not come before those behind it either. -/
theorem not_precedes_trans (h : ¬ Precedes b a) (h' : ¬ Precedes c b) : ¬ Precedes c a := by
  intro hca
  by_cases hab : Precedes a b
  · exact h' (hca.trans hab)
  · rw [Precedes, components_eq_of_not_precedes hab h] at hca
    exact h' hca

end ApiReplay.FilePath
