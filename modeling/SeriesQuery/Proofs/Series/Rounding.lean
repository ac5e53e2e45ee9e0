import Mathlib.Algebra.Order.Field.Rat
import Mathlib.Data.Rat.Cast.Order
import Mathlib.Tactic.FieldSimp
import Mathlib.Tactic.Linarith
import Mathlib.Tactic.NormNum
import Mathlib.Tactic.Positivity
import Mathlib.Tactic.Ring
import SeriesQuery.Binary

set_option autoImplicit false

/-!
# How far rounding goes

Rounding to a whole number goes by at most one half. Rounding to a double changes a number by at most
one part in 2^53, because a double keeps 53 significant bits.
-/

namespace SeriesQuery

/-! ## Whole numbers -/

/-- A whole number is nearest to a number; of two, it is the one further from zero. -/
structure NearestAway (exact : ℚ) (whole : ℤ) : Prop where
  near : |(whole : ℚ) - exact| ≤ 1 / 2
  away : |(whole : ℚ) - exact| = 1 / 2 → |exact| ≤ |(whole : ℚ)|

theorem NearestAway.neg {exact : ℚ} {whole : ℤ} (nearest : NearestAway exact whole) :
    NearestAway (-exact) (-whole) := by
  have same : |((-whole : ℤ) : ℚ) - -exact| = |(whole : ℚ) - exact| := by
    rw [Int.cast_neg, neg_sub_neg, abs_sub_comm]
  refine ⟨same ▸ nearest.near, fun tie => ?_⟩
  rw [Int.cast_neg, abs_neg, abs_neg]
  exact nearest.away (same ▸ tie)

theorem roundHalfEven_bounds (num : ℕ) {den : ℕ} (positive : 0 < den) :
    2 * num ≤ 2 * (roundHalfEven num den * den) + den ∧
      2 * (roundHalfEven num den * den) ≤ 2 * num + den := by
  have parts := Nat.div_add_mod' num den
  have small := Nat.mod_lt num positive
  have up : (num / den + 1) * den = num / den * den + den := Nat.succ_mul _ _
  simp only [roundHalfEven]
  split_ifs <;> (try rw [up]) <;> omega

theorem abs_roundHalfEven_sub_le (num : ℕ) {den : ℕ} (positive : 0 < den) :
    |(roundHalfEven num den : ℚ) - num / den| ≤ 1 / 2 := by
  have isPositive : (0 : ℚ) < den := by exact_mod_cast positive
  obtain ⟨low, high⟩ := roundHalfEven_bounds num positive
  have lowRat : 2 * (num : ℚ) ≤ 2 * (roundHalfEven num den * den) + den := by exact_mod_cast low
  have highRat : 2 * ((roundHalfEven num den : ℚ) * den) ≤ 2 * num + den := by exact_mod_cast high
  rw [abs_le]
  constructor
  · rw [neg_le_sub_iff_le_add, div_le_iff₀ isPositive]
    linarith
  · rw [sub_le_iff_le_add, ← sub_le_iff_le_add', le_div_iff₀ isPositive]
    linarith

theorem nearestAway_roundHalfUp (num : ℕ) {den : ℕ} (positive : 0 < den) :
    NearestAway (num / den) (roundHalfUp num den) := by
  have isPositive : (0 : ℚ) < den := by exact_mod_cast positive
  have low : roundHalfUp num den * (2 * den) ≤ 2 * num + den := Nat.div_mul_le_self _ _
  have high : 2 * num + den < (roundHalfUp num den + 1) * (2 * den) :=
    Nat.lt_mul_of_div_lt (Nat.lt_succ_self _) (by omega)
  have lowRat : (roundHalfUp num den : ℚ) * (2 * den) ≤ 2 * num + den := by exact_mod_cast low
  have highRat : 2 * (num : ℚ) + den < (roundHalfUp num den + 1) * (2 * den) := by exact_mod_cast high
  have least : (num : ℚ) / den - 1 / 2 < roundHalfUp num den := by
    rw [sub_lt_iff_lt_add, div_lt_iff₀ isPositive]
    linarith
  have most : (roundHalfUp num den : ℚ) ≤ num / den + 1 / 2 := by
    rw [← sub_le_iff_le_add, le_div_iff₀ isPositive]
    linarith
  have nonneg : (0 : ℚ) ≤ num / den := by positivity
  refine ⟨?_, fun tie => ?_⟩
  · rw [Int.cast_natCast, abs_le]
    constructor <;> linarith
  · rw [Int.cast_natCast] at tie ⊢
    rw [abs_of_nonneg nonneg, Nat.abs_cast]
    -- A tie went up, since one that goes down would be left out by `least`.
    rcases (abs_eq (by norm_num)).mp tie with up | down <;> linarith

/-! ## Doubles -/

namespace Binary

def value (number : Binary) : ℚ :=
  number.mantissa * 2 ^ number.up / 2 ^ number.down

theorem num_div_den (number : Binary) : (number.num : ℚ) / number.den = number.value := by
  simp [num, den, value, Nat.shiftLeft_eq]

theorem den_pos (number : Binary) : 0 < number.den := by
  simp [den, Nat.shiftLeft_eq]

theorem round_nearestAway (number : Binary) : NearestAway number.value number.round := by
  rw [← num_div_den]
  exact nearestAway_roundHalfUp number.num number.den_pos

/-- A double keeps 53 significant bits. -/
theorem unitOf_bound {num : ℕ} (positive : 0 < num) (den : ℕ) :
    2 ^ 52 * (den * 2 ^ (unitOf num den).1) ≤ num * 2 ^ (unitOf num den).2 := by
  have numLow : 2 ^ num.log2 ≤ num := Nat.log2_self_le positive.ne'
  have denHigh : den < 2 ^ (den.log2 + 1) := Nat.lt_log2_self
  simp only [unitOf, Nat.shiftLeft_eq]
  generalize isGuess : (num.log2 : ℤ) - den.log2 - 52 = guess
  split
  · -- The guess was one too high, so the bit lengths alone give the bound.
    have balance : 52 + (den.log2 + 1 + (guess - 1).toNat) = num.log2 + (-(guess - 1)).toNat := by omega
    calc 2 ^ 52 * (den * 2 ^ (guess - 1).toNat)
        ≤ 2 ^ 52 * (2 ^ (den.log2 + 1) * 2 ^ (guess - 1).toNat) :=
          Nat.mul_le_mul_left _ (Nat.mul_le_mul_right _ denHigh.le)
      _ = 2 ^ num.log2 * 2 ^ (-(guess - 1)).toNat := by
          rw [← Nat.pow_add, ← Nat.pow_add, ← Nat.pow_add, balance]
      _ ≤ num * 2 ^ (-(guess - 1)).toNat := Nat.mul_le_mul_right _ numLow
  · next large =>
      rw [Nat.not_lt, Nat.pow_add] at large
      calc 2 ^ 52 * (den * 2 ^ guess.toNat) = den * (2 ^ guess.toNat * 2 ^ 52) := by ring
        _ ≤ num * 2 ^ (-guess).toNat := large

/-- Rounding to a double changes a number by at most one part in 2^53. -/
theorem value_nearest (num : ℕ) {den : ℕ} (nonzero : 0 < den) :
    ∃ error : ℚ, |error| ≤ 1 / 2 ^ 53 ∧ (nearest num den).value = num / den * (1 + error) := by
  by_cases zero : num = 0
  · refine ⟨0, by norm_num, ?_⟩
    simp [nearest, zero, value]
  · have bound := unitOf_bound (Nat.pos_of_ne_zero zero) den
    simp only [nearest, if_neg zero]
    generalize unitOf num den = unit at bound
    obtain ⟨up, down⟩ := unit
    have scaledPos : 0 < den * 2 ^ up := Nat.mul_pos nonzero (Nat.two_pow_pos up)
    have rounded := abs_roundHalfEven_sub_le (num * 2 ^ down) scaledPos
    simp only [Nat.shiftLeft_eq, value]
    generalize roundHalfEven (num * 2 ^ down) (den * 2 ^ up) = mantissa at rounded
    have denPos : (0 : ℚ) < den := by exact_mod_cast nonzero
    have numPos : (0 : ℚ) < num := by exact_mod_cast Nat.pos_of_ne_zero zero
    have scaled : ((num * 2 ^ down : ℕ) : ℚ) / ((den * 2 ^ up : ℕ) : ℚ) =
        num / den * 2 ^ down / 2 ^ up := by
      push_cast
      field_simp
    rw [scaled] at rounded
    have large : (2 : ℚ) ^ 52 ≤ num / den * 2 ^ down / 2 ^ up := by
      rw [← scaled, le_div_iff₀ (by positivity)]
      exact_mod_cast bound
    generalize isQuotient : (num : ℚ) / den * 2 ^ down / 2 ^ up = quotient at rounded large
    have quotientPos : 0 < quotient := lt_of_lt_of_le (by norm_num) large
    refine ⟨(mantissa - quotient) / quotient, ?_, ?_⟩
    · rw [abs_div, abs_of_pos quotientPos, div_le_iff₀ quotientPos]
      linarith
    · have factor : 1 + (mantissa - quotient) / quotient = mantissa / quotient := by
        field_simp
        ring
      rw [factor, ← isQuotient]
      field_simp

theorem value_nearest_pos {num den : ℕ} (positive : 0 < num) (nonzero : 0 < den) :
    0 < (nearest num den).value := by
  obtain ⟨error, small, isValue⟩ := value_nearest num nonzero
  have low := (abs_le.mp small).1
  have factor : 0 < 1 + error := by linarith
  have numPos : (0 : ℚ) < num := by exact_mod_cast positive
  have denPos : (0 : ℚ) < den := by exact_mod_cast nonzero
  rw [isValue]
  positivity

theorem num_pos_iff {number : Binary} : 0 < number.num ↔ 0 < number.value := by
  have denPos : (0 : ℚ) < number.den := by exact_mod_cast number.den_pos
  rw [← num_div_den, div_pos_iff_of_pos_right denPos]
  exact_mod_cast Iff.rfl

theorem value_ofNat (number : ℕ) :
    ∃ error : ℚ, |error| ≤ 1 / 2 ^ 53 ∧ (ofNat number).value = number * (1 + error) := by
  obtain ⟨error, small, isValue⟩ := value_nearest number (show 0 < 1 by decide)
  refine ⟨error, small, ?_⟩
  rw [ofNat, isValue, Nat.cast_one, div_one]

theorem value_div (left : Binary) {right : Binary} (positive : 0 < right.value) :
    ∃ error : ℚ, |error| ≤ 1 / 2 ^ 53 ∧
      (left.div right).value = left.value / right.value * (1 + error) := by
  obtain ⟨error, small, isValue⟩ := value_nearest (left.num * right.den)
    (Nat.mul_pos left.den_pos (num_pos_iff.mpr positive))
  refine ⟨error, small, ?_⟩
  rw [div, isValue, ← num_div_den left, ← num_div_den right, div_div_div_eq]
  push_cast
  rfl

theorem value_mul (left right : Binary) :
    ∃ error : ℚ, |error| ≤ 1 / 2 ^ 53 ∧
      (left.mul right).value = left.value * right.value * (1 + error) := by
  obtain ⟨error, small, isValue⟩ := value_nearest (left.num * right.num)
    (Nat.mul_pos left.den_pos right.den_pos)
  refine ⟨error, small, ?_⟩
  rw [mul, isValue, ← num_div_den left, ← num_div_den right, div_mul_div_comm]
  push_cast
  rfl

end Binary

end SeriesQuery
