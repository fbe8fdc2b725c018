import ApiReplay.Number
import Mathlib.Data.Nat.Log
import Mathlib.Data.Int.Order.Basic
import Mathlib.Algebra.Order.Ring.Int

/-!
# Rounding to the nearest double

Every number is a whole multiple of `2 ^ (-1074)`, and in these units rounding to the nearest double
is rounding to 53 significant bits. Rounding never changes the order of two values, though it may
make them equal, and it leaves a value alone that has 53 significant bits anyway. Numbers are
compared by the rounded values, so a comparison never finds them in the wrong order, and it takes
two different numbers for equal just when they round to the same double.

## Main definitions

* `FitsMantissa`: that a natural number has at most 53 significant bits.
* `Number.IsExact`: that a number needs no rounding.
* `Number.scaled`: the value of a number, which is not rounded.
* `nearestScaled`: the value of the double nearest to a value.

## Main results

* `roundToBits_mono`, `roundToBits_eq_self`: rounding keeps the order, and the values with 53 bits.
* `Number.approx_eq_nearestScaled`: numbers are compared by the nearest doubles.
* `Number.approx_mono`, `Number.approx_eq_scaled`: what follows for the numbers.
-/

namespace ApiReplay

/-! ### Rounded quotients -/

section

variable {num den q : Nat}

/-- A quotient is rounded down, or up by one. -/
theorem roundHalfEven_le_succ (num den : Nat) : roundHalfEven num den ≤ num / den + 1 := by
  simp only [roundHalfEven]
  split_ifs <;> omega

theorem div_le_roundHalfEven (num den : Nat) : num / den ≤ roundHalfEven num den := by
  simp only [roundHalfEven]
  split_ifs <;> omega

/-- A multiple of the denominator needs no rounding. -/
theorem roundHalfEven_mul (q : Nat) (hden : 0 < den) : roundHalfEven (q * den) den = q := by
  simp [roundHalfEven, hden]

/-- Rounded quotients by the same denominator are in the order of the numerators. -/
theorem roundHalfEven_mono {num' : Nat} (den : Nat) (h : num ≤ num') :
    roundHalfEven num den ≤ roundHalfEven num' den := by
  rcases (Nat.div_le_div_right h : num / den ≤ num' / den).lt_or_eq with hlt | heq
  · exact (roundHalfEven_le_succ num den).trans (hlt.trans_le (div_le_roundHalfEven num' den))
  · -- The quotients are the same, so that the remainders are in the order of the numerators.
    have hrem : num % den ≤ num' % den := by
      have hnum := Nat.div_add_mod num den
      have hnum' := Nat.div_add_mod num' den
      rw [heq] at hnum
      omega
    simp only [roundHalfEven, heq]
    split_ifs <;> omega

/-- Only the quotient counts. -/
theorem roundHalfEven_mul_mul {c : Nat} (hc : 0 < c) (num den : Nat) :
    roundHalfEven (num * c) (den * c) = roundHalfEven num den := by
  have hlt (a b : Nat) : 2 * (a * c) < b * c ↔ 2 * a < b := by
    rw [← Nat.mul_assoc, Nat.mul_lt_mul_right hc]
  have hgt (a b : Nat) : b * c < 2 * (a * c) ↔ b < 2 * a := by
    rw [← Nat.mul_assoc, Nat.mul_lt_mul_right hc]
  simp only [roundHalfEven, Nat.mul_div_mul_right _ _ hc, Nat.mul_mod_mul_right, hlt, hgt]

end

/-! ### Rounding to 53 bits -/

/-- A number has at most 53 significant bits. -/
def FitsMantissa (n : Nat) : Prop :=
  ∃ mantissa exponent, n = mantissa * 2 ^ exponent ∧ mantissa < 2 ^ 53

/-- The unit that numbers of the size of `n` are rounded to. -/
def roundingUnit (n : Nat) : Nat :=
  2 ^ (n.log2 - 52)

theorem roundingUnit_pos (n : Nat) : 0 < roundingUnit n :=
  Nat.two_pow_pos _

theorem roundToBits_eq (n : Nat) :
    roundToBits n = roundHalfEven n (roundingUnit n) * roundingUnit n :=
  rfl

/-- A number with 53 significant bits is a multiple of the unit for its size. -/
theorem FitsMantissa.exists_eq_mul {n : Nat} (h : FitsMantissa n) : ∃ q, n = q * roundingUnit n := by
  obtain ⟨mantissa, exponent, rfl, hm⟩ := h
  rcases Nat.eq_zero_or_pos mantissa with rfl | hpos
  · exact ⟨0, by simp⟩
  · have hlog : (mantissa * 2 ^ exponent).log2 - 52 ≤ exponent := by
      have hne : mantissa * 2 ^ exponent ≠ 0 := (Nat.mul_pos hpos (Nat.two_pow_pos _)).ne'
      have hlt : (mantissa * 2 ^ exponent).log2 < 53 + exponent := by
        rw [Nat.log2_lt hne, Nat.pow_add]
        exact Nat.mul_lt_mul_of_pos_right hm (Nat.two_pow_pos _)
      omega
    refine ⟨mantissa * 2 ^ (exponent - ((mantissa * 2 ^ exponent).log2 - 52)), ?_⟩
    rw [roundingUnit, Nat.mul_assoc, ← Nat.pow_add, Nat.sub_add_cancel hlog]

/-- A number with 53 significant bits stays as it is. -/
theorem roundToBits_eq_self {n : Nat} (h : FitsMantissa n) : roundToBits n = n := by
  obtain ⟨q, hq⟩ := h.exists_eq_mul
  have hround : roundHalfEven n (roundingUnit n) = q := by
    conv_lhs => arg 1; rw [hq]
    exact roundHalfEven_mul q (roundingUnit_pos n)
  rw [roundToBits_eq, hround, ← hq]

/-- A power of two that is not too small is a multiple of the unit. -/
theorem two_pow_eq_mul {n k : Nat} (h : n.log2 - 52 ≤ k) :
    2 ^ k = 2 ^ (k - (n.log2 - 52)) * roundingUnit n := by
  rw [roundingUnit, ← Nat.pow_add, Nat.sub_add_cancel h]

/-- Rounding does not get below a multiple of the unit that lies below a number. -/
theorem mul_le_roundToBits {n q : Nat} (h : q * roundingUnit n ≤ n) :
    q * roundingUnit n ≤ roundToBits n := by
  have hround := roundHalfEven_mono (roundingUnit n) h
  rw [roundHalfEven_mul q (roundingUnit_pos n)] at hround
  exact Nat.mul_le_mul_right _ hround

/-- Rounding does not get beyond a multiple of the unit that lies above a number. -/
theorem roundToBits_le_mul {n q : Nat} (h : n ≤ q * roundingUnit n) :
    roundToBits n ≤ q * roundingUnit n := by
  have hround := roundHalfEven_mono (roundingUnit n) h
  rw [roundHalfEven_mul q (roundingUnit_pos n)] at hround
  exact Nat.mul_le_mul_right _ hround

/-- Rounding keeps the order. -/
theorem roundToBits_mono {n m : Nat} (h : n ≤ m) : roundToBits n ≤ roundToBits m := by
  have hlog : n.log2 ≤ m.log2 := by
    rw [Nat.log2_eq_log_two, Nat.log2_eq_log_two]
    exact Nat.log_mono_right h
  rcases hlog.lt_or_eq with hlt | heq
  · -- A power of two lies between the two numbers, and between what they are rounded to.
    have hm : m ≠ 0 := by
      rintro rfl
      simp at hlt
    have hbelow : roundToBits n ≤ 2 ^ (n.log2 + 1) := by
      rw [two_pow_eq_mul (n := n) (by omega)]
      refine roundToBits_le_mul ?_
      rw [← two_pow_eq_mul (by omega)]
      exact Nat.lt_log2_self.le
    have habove : 2 ^ m.log2 ≤ roundToBits m := by
      rw [two_pow_eq_mul (n := m) (Nat.sub_le _ _)]
      refine mul_le_roundToBits ?_
      rw [← two_pow_eq_mul (Nat.sub_le _ _)]
      exact Nat.log2_self_le hm
    exact hbelow.trans ((Nat.pow_le_pow_right (by decide) hlt).trans habove)
  · have hunit : roundingUnit n = roundingUnit m := by rw [roundingUnit, roundingUnit, heq]
    rw [roundToBits_eq, roundToBits_eq, hunit]
    exact Nat.mul_le_mul_right _ (roundHalfEven_mono _ h)

/-- Rounding does not depend on the place of the binary point. -/
theorem roundToBits_mul_two_pow (n k : Nat) : roundToBits (n * 2 ^ k) = roundToBits n * 2 ^ k := by
  rcases Nat.lt_or_ge n (2 ^ 53) with hsmall | hlarge
  · rw [roundToBits_eq_self ⟨n, k, rfl, hsmall⟩,
      roundToBits_eq_self ⟨n, 0, (Nat.mul_one n).symm, hsmall⟩]
  · have hn : n ≠ 0 := by omega
    have hlog : (n * 2 ^ k).log2 = n.log2 + k := by
      rw [Nat.log2_eq_iff (Nat.mul_pos (by omega) (Nat.two_pow_pos k)).ne', Nat.pow_add,
        show n.log2 + k + 1 = n.log2 + 1 + k by omega, Nat.pow_add 2 (n.log2 + 1) k]
      exact ⟨Nat.mul_le_mul_right _ (Nat.log2_self_le hn),
        Nat.mul_lt_mul_of_pos_right Nat.lt_log2_self (Nat.two_pow_pos k)⟩
    have hbits : 53 ≤ n.log2 := (Nat.le_log2 hn).mpr hlarge
    have hunit : roundingUnit (n * 2 ^ k) = roundingUnit n * 2 ^ k := by
      rw [roundingUnit, roundingUnit, hlog, ← Nat.pow_add, Nat.sub_add_comm (by omega)]
    rw [roundToBits_eq, roundToBits_eq, hunit, roundHalfEven_mul_mul (Nat.two_pow_pos k),
      Nat.mul_assoc]

/-! ### The nearest double -/

/-- The value of the double nearest to a value, both in units of `2 ^ (-1074)`. -/
def nearestScaled (value : Int) : Int :=
  value.sign * roundToBits value.natAbs

theorem nearestScaled_natCast (n : Nat) : nearestScaled n = roundToBits n := by
  rcases Nat.eq_zero_or_pos n with rfl | hpos
  · rfl
  · rw [nearestScaled, Int.natAbs_natCast, Int.sign_natCast_of_ne_zero hpos.ne', Int.one_mul]

theorem nearestScaled_neg (value : Int) : nearestScaled (-value) = -nearestScaled value := by
  rw [nearestScaled, nearestScaled, Int.sign_neg, Int.natAbs_neg, Int.neg_mul]

theorem nearestScaled_nonneg {value : Int} (h : 0 ≤ value) : 0 ≤ nearestScaled value := by
  lift value to Nat using h
  rw [nearestScaled_natCast]
  exact Int.natCast_nonneg _

/-- The nearest doubles are in the order of the values. -/
theorem nearestScaled_mono {a b : Int} (h : a ≤ b) : nearestScaled a ≤ nearestScaled b := by
  have hnat {a b : Int} (ha : 0 ≤ a) (h : a ≤ b) : nearestScaled a ≤ nearestScaled b := by
    lift a to Nat using ha
    lift b to Nat using (Int.natCast_nonneg a).trans h
    rw [nearestScaled_natCast, nearestScaled_natCast]
    exact_mod_cast roundToBits_mono (by exact_mod_cast h)
  rcases Int.le_total 0 a with ha | ha
  · exact hnat ha h
  · rcases Int.le_total 0 b with hb | hb
    · have hneg := nearestScaled_nonneg (Int.neg_nonneg_of_nonpos ha)
      rw [nearestScaled_neg] at hneg
      exact (Int.nonpos_of_neg_nonneg hneg).trans (nearestScaled_nonneg hb)
    · have hneg := hnat (Int.neg_nonneg_of_nonpos hb) (Int.neg_le_neg h)
      rw [nearestScaled_neg, nearestScaled_neg] at hneg
      exact Int.le_of_neg_le_neg hneg

/-- A value with 53 significant bits is that of a double. -/
theorem nearestScaled_eq_self {value : Int} (h : FitsMantissa value.natAbs) :
    nearestScaled value = value := by
  rw [nearestScaled, roundToBits_eq_self h, Int.sign_mul_natAbs]

namespace Number

/-- The value of a number in units of `2 ^ (-1074)`; nothing is rounded. -/
def scaled : Number → Int
  | int i => i * (2 ^ 1074 : Nat)
  | double x => x.scaled

/-- A number is *exact* when it is a double or an integer with 53 significant bits. -/
def IsExact : Number → Prop
  | int i => FitsMantissa i.natAbs
  | double _ => True

theorem fitsMantissa_natAbs_scaled {n : Number} (h : n.IsExact) : FitsMantissa n.scaled.natAbs := by
  cases n with
  | int i =>
    obtain ⟨mantissa, exponent, heq, hm⟩ := h
    refine ⟨mantissa, exponent + 1074, ?_, hm⟩
    rw [scaled, Int.natAbs_mul, heq, Int.natAbs_natCast, Nat.mul_assoc, ← Nat.pow_add]
  | double x =>
    refine ⟨x.mantissa, x.exponent, ?_, x.canonical.1⟩
    rw [scaled, Double.scaled]
    split
    · rw [Int.natAbs_neg, Int.natAbs_natCast]
      rfl
    · rw [Int.natAbs_natCast]
      rfl

/-- Numbers are compared by the nearest doubles. -/
theorem approx_eq_nearestScaled (n : Number) : n.approx = nearestScaled n.scaled := by
  cases n with
  | int i =>
    have hsign : (i * (2 ^ 1074 : Nat)).sign = i.sign := by
      rw [Int.sign_mul, Int.sign_natCast_of_ne_zero (Nat.two_pow_pos 1074).ne', Int.mul_one]
    rw [scaled, nearestScaled, hsign, Int.natAbs_mul, Int.natAbs_natCast, roundToBits_mul_two_pow,
      approx]
    -- The power is not to be computed.
    generalize 1074 = k
    rfl
  | double x =>
    exact (nearestScaled_eq_self (fitsMantissa_natAbs_scaled (n := .double x) trivial)).symm

/-- The nearest doubles of two numbers are in the order of the numbers. -/
theorem approx_mono {a b : Number} (h : a.scaled ≤ b.scaled) : a.approx ≤ b.approx := by
  rw [approx_eq_nearestScaled, approx_eq_nearestScaled]
  exact nearestScaled_mono h

/-- An exact number is its own nearest double. -/
theorem approx_eq_scaled {n : Number} (h : n.IsExact) : n.approx = n.scaled := by
  rw [approx_eq_nearestScaled]
  exact nearestScaled_eq_self (fitsMantissa_natAbs_scaled h)

/-- Integers up to `2 ^ 53` are exact. -/
theorem isExact_int_of_natAbs_le {i : Int} (h : i.natAbs ≤ 2 ^ 53) : (int i).IsExact := by
  rcases h.lt_or_eq with hlt | heq
  · exact ⟨i.natAbs, 0, (Nat.mul_one _).symm, hlt⟩
  · exact ⟨1, 53, by rw [heq, Nat.one_mul], by decide⟩

end Number

end ApiReplay
