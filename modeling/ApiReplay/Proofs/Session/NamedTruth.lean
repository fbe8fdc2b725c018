import ApiReplay.Proofs.Double.Rounding
import ApiReplay.Proofs.Session.Step

/-!
# The truth tests of a named path

Asked about what a path names, `is_true` and `is_false` exclude each other, but they do not cover
all values between them. `is_false` passes where nothing is found and on three values: null, false
and the text `false`. `is_true` refuses these too, and the empty text and zero besides, which
therefore pass neither test. The tests have the error of the path when it refers to a variable that
is not bound, and no other error but that of a failed assertion.

A boolean response answers both tests whatever the path is, and the empty path is about the response
as a whole; so neither is looked at here.

## Main definitions

* `Number.IsZero`: zero, as an integer and as a double of either sign.
* `Json.IsFalse`, `Json.IsVoid`: the values that pass for false, and those that pass for neither.
* `Session.NamedVerdicts`: what the results of the two tests say about the path.

## Main results

* `Number.approx_eq_zero_iff`: only zero has the nearest double zero.
* `Json.isFalsy_iff`, `Json.isTruthy_iff`: the tests of values.
* `Session.named_truth_checks`: the results of the two tests.
-/

namespace ApiReplay

/-! ### Zero -/

/-- Nothing but zero is rounded to zero. -/
theorem nearestScaled_eq_zero_iff {value : Int} : nearestScaled value = 0 ↔ value = 0 := by
  constructor
  · intro h
    by_contra hne
    have hone : roundToBits 1 = 1 := roundToBits_eq_self ⟨1, 0, rfl, by decide⟩
    have hpos : 1 ≤ roundToBits value.natAbs :=
      hone ▸ roundToBits_mono (Int.natAbs_pos.mpr hne)
    rcases Int.mul_eq_zero.mp h with hsign | hround
    · exact hne (Int.sign_eq_zero_iff_zero.mp hsign)
    · omega
  · rintro rfl
    rfl

namespace Number

/-- The numbers that are zero. -/
inductive IsZero : Number → Prop
  | int : IsZero (.int 0)
  | double (negative : Bool) : IsZero (.double (.zero negative))

theorem scaled_eq_zero_iff {n : Number} : n.scaled = 0 ↔ n.IsZero := by
  constructor
  · intro h
    cases n with
    | int i =>
      have hunit (k : Nat) : ((2 ^ k : Nat) : Int) ≠ 0 :=
        Int.natCast_ne_zero.mpr (Nat.two_pow_pos k).ne'
      obtain rfl : i = 0 := (Int.mul_eq_zero.mp h).resolve_right (hunit 1074)
      exact .int
    | double x =>
      obtain ⟨negative, mantissa, exponent, canonical⟩ := x
      have hmantissa : mantissa = 0 := by
        have hunits : mantissa * Nat.pow 2 exponent = 0 := by
          cases negative
          · exact Int.ofNat_eq_zero.mp h
          · exact Int.ofNat_eq_zero.mp (Int.neg_eq_zero.mp h)
        exact (Nat.mul_eq_zero.mp hunits).resolve_right (Nat.two_pow_pos exponent).ne'
      subst hmantissa
      -- A mantissa without its highest bit goes with the smallest exponent only.
      obtain rfl : exponent = 0 := canonical.2.2.resolve_right (by decide)
      exact .double negative
  · rintro (_ | negative)
    · exact Int.zero_mul _
    · cases negative <;> rfl

/-- Only zero has the nearest double zero. -/
theorem approx_eq_zero_iff {n : Number} : n.approx = 0 ↔ n.IsZero := by
  rw [approx_eq_nearestScaled, nearestScaled_eq_zero_iff, scaled_eq_zero_iff]

end Number

/-! ### Values -/

namespace Json

/-- The values that pass for false. -/
inductive IsFalse : Json → Prop
  | null : IsFalse .null
  | bool : IsFalse (.bool false)
  | text : IsFalse (.string "false")

/-- The values that pass neither for false nor for true. -/
inductive IsVoid : Json → Prop
  | text : IsVoid (.string "")
  | number {n : Number} (hn : n.IsZero) : IsVoid (.number n)

variable {value : Json}

theorem isFalsy_iff : value.isFalsy ↔ value.IsFalse := by
  constructor
  · intro h
    cases value with
    | null => exact .null
    | bool b =>
      obtain rfl : b = false := by simpa [isFalsy] using h
      exact .bool
    | string s =>
      obtain rfl : s = "false" := by simpa [isFalsy] using h
      exact .text
    | _ => cases h
  · rintro (_ | _ | _) <;> rfl

theorem IsVoid.not_isFalse (h : value.IsVoid) : ¬ value.IsFalse := by
  rw [← isFalsy_iff]
  cases h with
  | text => decide
  | number hn => nofun

/-- Every value passes for true, for false, or for neither. -/
theorem isTruthy_iff : value.isTruthy ↔ ¬ value.IsFalse ∧ ¬ value.IsVoid := by
  rw [← isFalsy_iff]
  cases value with
  | null => simp [isTruthy, isFalsy]
  | bool b =>
    have hvoid : ¬ (Json.bool b).IsVoid := nofun
    simp [isTruthy, isFalsy, hvoid]
  | number n =>
    have hvoid : (Json.number n).IsVoid ↔ n.IsZero := ⟨fun | .number hn => hn, .number⟩
    simp [isTruthy, isFalsy, hvoid, Number.approx_eq_zero_iff]
  | string s =>
    have hvoid : (Json.string s).IsVoid ↔ s = "" := ⟨fun | .text => rfl, fun h => h ▸ .text⟩
    simp [isTruthy, isFalsy, hvoid, and_comm]
  | array items =>
    have hvoid : ¬ (Json.array items).IsVoid := nofun
    simp [isTruthy, isFalsy, hvoid]
  | object entries =>
    have hvoid : ¬ (Json.object entries).IsVoid := nofun
    simp [isTruthy, isFalsy, hvoid]

theorem isVoid_iff : value.IsVoid ↔ ¬ value.isTruthy ∧ ¬ value.isFalsy := by
  rw [isTruthy_iff, isFalsy_iff, not_and, not_not]
  exact ⟨fun h => ⟨fun _ => h, h.not_isFalse⟩, fun h => h.1 h.2⟩

end Json

/-! ### Tests of what a path names -/

namespace Session

variable {σ : Type} {s : Session} {path : String} {action : Action} {test : Option Json → Bool}
  {e : Error}

/-- The only error of a path is a reference to a variable that is not bound. -/
theorem exists_eq_unbound_of_resolve (h : s.resolve path = .error e) :
    ∃ name, e = .unbound name := by
  unfold resolve at h
  cases hp : Path.resolve s.vars s.last path with
  | ok value => rw [hp] at h; cases h
  | error fault =>
    rw [hp] at h
    exact ⟨fault.name, (Except.error.inj h).symm⟩

/-- A test passes when the path resolves to something that it holds of. -/
theorem require_map_eq_ok_iff : s.require action ((s.resolve path).map test) = .ok () ↔
    ∃ found, s.resolve path = .ok found ∧ test found := by
  rw [require_eq_ok_iff]
  cases s.resolve path <;> simp [Except.map]

/-- A test fails as an assertion when the path resolves to something that it does not hold of. -/
theorem require_map_eq_assertion_iff :
    s.require action ((s.resolve path).map test)
        = .error (.assertion action.text s.responseText) ↔
      ∃ found, s.resolve path = .ok found ∧ ¬ test found := by
  rw [require_eq_error_iff]
  cases hr : s.resolve path with
  | ok found => simp [Except.map]
  | error fault =>
    obtain ⟨name, rfl⟩ := exists_eq_unbound_of_resolve hr
    simp [Except.map]

/-- A test fails at a variable that is not bound when the path does. -/
theorem require_map_eq_unbound_iff {name : String} :
    s.require action ((s.resolve path).map test) = .error (.unbound name) ↔
      s.resolve path = .error (.unbound name) := by
  rw [require_eq_error_iff]
  cases s.resolve path <;> simp [Except.map]

/-- A test has no other errors. -/
theorem error_of_require_map (h : s.require action ((s.resolve path).map test) = .error e) :
    e = .assertion action.text s.responseText ∨
      ∃ name, e = .unbound name ∧ s.resolve path = .error e := by
  cases hr : s.resolve path with
  | ok found =>
    rw [hr, require_eq_error_iff] at h
    exact .inl (h.resolve_left nofun).2
  | error fault =>
    obtain ⟨name, rfl⟩ := exists_eq_unbound_of_resolve hr
    rw [hr] at h
    obtain rfl := Except.error.inj h
    exact .inr ⟨name, rfl, rfl⟩

/-- The results of the two tests of a named path, where `onTrue` is that of `is_true` and `onFalse`
that of `is_false`. -/
structure NamedVerdicts (s : Session) (path : String) (onTrue onFalse : Except Error Unit) :
    Prop where
  /-- Both tests fail at a variable that is not bound when the path does. -/
  unbound_iff : ∀ name, onTrue = .error (.unbound name) ∧ onFalse = .error (.unbound name) ↔
    s.resolve path = .error (.unbound name)
  not_both : ¬ (onTrue = .ok () ∧ onFalse = .ok ())
  /-- `is_false` passes where nothing is found, and on what passes for false. -/
  isFalse_iff : onFalse = .ok () ↔
    s.resolve path = .ok none ∨ ∃ value, s.resolve path = .ok (some value) ∧ value.IsFalse
  /-- `is_true` passes on all that is found but what passes for false or for neither. -/
  isTrue_iff : onTrue = .ok () ↔
    ∃ value, s.resolve path = .ok (some value) ∧ ¬ value.IsFalse ∧ ¬ value.IsVoid
  /-- Both tests fail as assertions on what passes for neither. -/
  neither_iff :
    onTrue = .error (.assertion (Action.isTrue path).text s.responseText) ∧
      onFalse = .error (.assertion (Action.isFalse path).text s.responseText) ↔
    ∃ value, s.resolve path = .ok (some value) ∧ value.IsVoid
  /-- There is no other error. -/
  error_isTrue : ∀ e, onTrue = .error e →
    e = .assertion (Action.isTrue path).text s.responseText ∨
      ∃ name, e = .unbound name ∧ s.resolve path = .error e
  error_isFalse : ∀ e, onFalse = .error e →
    e = .assertion (Action.isFalse path).text s.responseText ∨
      ∃ name, e = .unbound name ∧ s.resolve path = .error e

section

variable (hlast : ∀ b, s.last ≠ some (.bool b))

include hlast in
theorem bool?_last_eq_none : s.last.bind Response.bool? = none := by
  cases hl : s.last with
  | none => rfl
  | some r =>
    cases r with
    | reply reply => rfl
    | bool b => exact absurd hl (hlast b)

include hlast in
theorem check_isTrue_eq (hpath : path ≠ "") : s.check (.isTrue path) =
    s.require (.isTrue path) ((s.resolve path).map fun found => found.any Json.isTruthy) := by
  simp [check, isTrue, bool?_last_eq_none hlast, hpath]

include hlast in
theorem check_isFalse_eq : s.check (.isFalse path) =
    s.require (.isFalse path) ((s.resolve path).map fun found => found.all Json.isFalsy) := by
  simp [check, isFalse, bool?_last_eq_none hlast]

end

/-- **The truth tests of a named path.** In every session without a boolean response, whatever is
bound in it, and for every path but the empty one, the results of `is_true` and `is_false` are those
of `NamedVerdicts`. -/
theorem named_truth_checks (client : Client σ) (s : Session) (service : σ) (path : String)
    (hlast : ∀ b, s.last ≠ some (.bool b)) (hpath : path ≠ "") :
    NamedVerdicts s path (s.run client (.isTrue path) service).result
      (s.run client (.isFalse path) service).result := by
  change NamedVerdicts s path (s.check (.isTrue path)) (s.check (.isFalse path))
  rw [check_isTrue_eq hlast hpath, check_isFalse_eq hlast]
  refine ⟨fun name => ?unbound, ?notBoth, ?isFalse, ?isTrue, ?neither, fun e h => ?errorTrue,
    fun e h => ?errorFalse⟩
  case unbound =>
    rw [require_map_eq_unbound_iff, require_map_eq_unbound_iff, and_self]
  case notBoth =>
    rw [require_map_eq_ok_iff, require_map_eq_ok_iff]
    rintro ⟨⟨found, hfound, htrue⟩, other, hother, hfalse⟩
    obtain rfl := Except.ok.inj (hfound.symm.trans hother)
    cases found with
    | none => cases htrue
    | some value => exact (Json.isTruthy_iff.mp htrue).1 (Json.isFalsy_iff.mp hfalse)
  case isFalse =>
    rw [require_map_eq_ok_iff, Option.exists]
    simp [Json.isFalsy_iff]
  case isTrue =>
    rw [require_map_eq_ok_iff, Option.exists]
    simp [Json.isTruthy_iff]
  case neither =>
    rw [require_map_eq_assertion_iff, require_map_eq_assertion_iff]
    constructor
    · rintro ⟨⟨found, hfound, htrue⟩, other, hother, hfalse⟩
      obtain rfl := Except.ok.inj (hfound.symm.trans hother)
      cases found with
      | none => exact absurd rfl hfalse
      | some value => exact ⟨value, hfound, Json.isVoid_iff.mpr ⟨htrue, hfalse⟩⟩
    · rintro ⟨value, hvalue, hvoid⟩
      obtain ⟨htrue, hfalse⟩ := Json.isVoid_iff.mp hvoid
      exact ⟨⟨_, hvalue, htrue⟩, _, hvalue, hfalse⟩
  case errorTrue => exact error_of_require_map h
  case errorFalse => exact error_of_require_map h

/-- Negative zero passes neither test, the text `false` passes one of them, and a variable that is
not bound is the error of both. -/
theorem named_truth_checks_of_negative_zero :
    let client : Client Unit :=
      { flavor := .stack, perform := fun _ state => ({ result := .ok (.bool true) }, state) }
    let s : Session := ⟨.empty, some (.ok 200 (.object
      [("took", .number (.double (.zero true))), ("errors", .string "false")]))⟩
    let onTrue : String → Except Error Unit := fun path => (s.run client (.isTrue path) ()).result
    let onFalse : String → Except Error Unit := fun path => (s.run client (.isFalse path) ()).result
    (onTrue "took" = .error (.assertion "is_true took" s.responseText) ∧
      onFalse "took" = .error (.assertion "is_false took" s.responseText)) ∧
    onFalse "errors" = .ok () ∧
    onTrue "$id.x" = .error (.unbound "id") ∧ onFalse "$id.x" = .error (.unbound "id") := by
  intro client s onTrue onFalse
  have hlast : ∀ b, s.last ≠ some (.bool b) := nofun
  have htook : s.resolve "took" = .ok (some (.number (.double (.zero true)))) := rfl
  have herrors : s.resolve "errors" = .ok (some (.string "false")) := rfl
  have hunbound : s.resolve "$id.x" = .error (.unbound "id") := rfl
  exact ⟨(named_truth_checks client s () "took" hlast (by decide)).neither_iff.mpr
      ⟨_, htook, .number (.double true)⟩,
    (named_truth_checks client s () "errors" hlast (by decide)).isFalse_iff.mpr
      (.inr ⟨_, herrors, .text⟩),
    ((named_truth_checks client s () "$id.x" hlast (by decide)).unbound_iff "id").mpr hunbound⟩

end Session

end ApiReplay
