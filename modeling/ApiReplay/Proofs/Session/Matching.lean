import ApiReplay.Proofs.Json.Agreement
import ApiReplay.Session.Basic

/-!
# The action that matches

A match action expands its expected value, resolves its path, and passes when the path leads to a
value that satisfies the expected one. An expected value that is not a text is no reference and no
pattern literal, so all that counts of it is what it agrees with.

## Main results

* `Session.checkEqual_eq_ok_iff`: when a match action passes.
* `Session.equivalence_agrees_and_check_congr`: agreement is an equivalence, and match actions
  respect it.
-/

namespace ApiReplay

/-- An expected value that is not a text stands for itself. -/
theorem Variables.expand_of_string?_eq_none (vars : Variables) {e : Json}
    (he : e.string? = none) : vars.expand e = .ok e := by
  cases e <;> simp_all [Variables.expand, Json.string?]

namespace Session

open Json

/-- A match action passes when its path leads to a value that satisfies the expected one. -/
theorem checkEqual_eq_ok_iff {s : Session} {path : String} {expected : Json} :
    s.checkEqual path expected = .ok () ↔ ∃ e value, s.vars.expand expected = .ok e ∧
      s.resolve path = .ok (some value) ∧ value.satisfies e := by
  unfold checkEqual
  cases he : s.vars.expand expected with
  | error fault => simp [Except.mapError, Bind.bind, Except.bind]
  | ok e =>
    cases hr : s.resolve path with
    | error fault => simp [Except.mapError, Bind.bind, Except.bind]
    | ok found => cases found <;> simp [Except.mapError, Bind.bind, Except.bind]

/-- **Agreement is an equivalence that match actions respect.** On trees with distinct keys
agreement is an equivalence, and trees that differ only in the order of entries agree. When actual
and expected values are exchanged for values that agree with them, and the expected one is not a
text, a match action passes as it did before. -/
theorem equivalence_agrees_and_check_congr :
    Equivalence (fun a b : Tree => agrees a.1 b.1) ∧
    (∀ a b : Tree, Reordered a.1 b.1 → agrees a.1 b.1) ∧
    ∀ a a' e e' : Tree, e.1.string? = none → agrees a.1 a'.1 → agrees e.1 e'.1 →
      satisfies a.1 e.1 = satisfies a'.1 e'.1 ∧
      ∀ (s s' : Session) (path path' : String), s.resolve path = .ok (some a.1) →
        s'.resolve path' = .ok (some a'.1) →
        (s.check (.equal path e.1) = .ok () ↔ s'.check (.equal path' e'.1) = .ok ()) := by
  refine ⟨⟨fun a => agrees_refl a.2, fun {a b} => agrees_symm a.2 b.2,
    fun {a _ _} => agrees_trans a.2⟩, fun a b => agrees_of_reordered a.2 b.2, ?_⟩
  intro a a' e e' hs haa hee
  have hsat := satisfies_congr a.2 a'.2 e.2 e'.2 haa hee hs
  have hs' := string?_eq_none_of_agrees hs hee
  refine ⟨hsat, fun s s' path path' hr hr' => ?_⟩
  have he := s.vars.expand_of_string?_eq_none hs
  have he' := s'.vars.expand_of_string?_eq_none hs'
  rw [Session.check, Session.check, checkEqual_eq_ok_iff, checkEqual_eq_ok_iff]
  simp [he, he', hr, hr', hsat]

/-- An object in two orders, as the actual and as the expected value. -/
theorem equivalence_agrees_and_check_congr_of_reordered :
    let entries : List (String × Json) := [("a", .null), ("b", .bool true)]
    let a : Json := .object entries
    let b : Json := .object entries.reverse
    let session : Json → Session := fun value => ⟨.empty, some (.ok 200 (.object [("v", value)]))⟩
    agrees a b ∧ agrees b a ∧
      ((session a).check (.equal "v" b) = .ok () ↔ (session b).check (.equal "v" a) = .ok ()) := by
  intro entries a b session
  have ha : a.DistinctKeys :=
    .object (by decide) (by simp [entries, DistinctKeys.null, DistinctKeys.bool])
  have hb : b.DistinctKeys :=
    .object (by decide) (by simp [entries, DistinctKeys.null, DistinctKeys.bool])
  have hreordered : Reordered a b := by
    refine .object ((List.reverse_perm entries).symm.map _) fun key x y hx hy => ?_
    simp only [entries, List.mem_cons, List.mem_reverse, List.not_mem_nil, or_false,
      Prod.mk.injEq] at hx hy
    rcases hx with ⟨rfl, rfl⟩ | ⟨rfl, rfl⟩
    · obtain rfl : y = .null := by simpa using hy
      exact .null
    · obtain rfl : y = .bool true := by simpa using hy
      exact .bool true
  obtain ⟨hequiv, hagrees, hcongr⟩ := equivalence_agrees_and_check_congr
  have hab : agrees a b := hagrees ⟨a, ha⟩ ⟨b, hb⟩ hreordered
  have hba : agrees b a := hequiv.symm (x := ⟨a, ha⟩) (y := ⟨b, hb⟩) hab
  have hcheck := hcongr ⟨a, ha⟩ ⟨b, hb⟩ ⟨b, hb⟩ ⟨a, ha⟩ rfl hab hba
  exact ⟨hab, hba, hcheck.2 (session a) (session b) "v" "v" (by rfl) (by rfl)⟩

end Session

end ApiReplay
