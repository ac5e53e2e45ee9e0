import SeriesQuery.Proofs.Series.Rounding
import SeriesQuery.Proofs.Text.Numeral
import SeriesQuery.Series.Ratio

set_option autoImplicit false

/-!
# How close percentages are

A percentage goes through four roundings to doubles before it is rounded to a whole number. Together
they change it by at most one part in 2^50, so the whole number is the nearest one unless that brings
a number past a half. Up to 2^42 the nearest one is missed only where two are equally near.
-/

namespace SeriesQuery.Series

/-- The exact percentage. -/
def percent (numerator denominator : Int64) : ℚ :=
  100 * numerator.toInt / denominator.toInt

/-! ## Errors one after another -/

theorem exists_error_mul {first second firstMost secondMost most : ℚ} (isFirst : |first| ≤ firstMost)
    (isSecond : |second| ≤ secondMost)
    (together : firstMost + secondMost + firstMost * secondMost ≤ most) :
    ∃ error : ℚ, |error| ≤ most ∧ (1 + first) * (1 + second) = 1 + error := by
  refine ⟨first + second + first * second, ?_, by ring⟩
  have product : |first * second| ≤ firstMost * secondMost := by
    rw [abs_mul]
    exact mul_le_mul isFirst isSecond (abs_nonneg _) ((abs_nonneg _).trans isFirst)
  calc |first + second + first * second| ≤ |first + second| + |first * second| := abs_add_le _ _
    _ ≤ |first| + |second| + |first * second| := by gcongr; exact abs_add_le _ _
    _ ≤ most := by linarith

theorem exists_error_inv {error : ℚ} (small : |error| ≤ 1 / 2 ^ 53) :
    ∃ other : ℚ, |other| ≤ 2 / 2 ^ 53 ∧ (1 + error)⁻¹ = 1 + other := by
  have low := (abs_le.mp small).1
  have half : 1 / 2 < 1 + error := by linarith
  have positive : 0 < 1 + error := by linarith
  refine ⟨-error / (1 + error), ?_, by field_simp; ring⟩
  rw [abs_div, abs_neg, abs_of_pos positive, div_le_iff₀ positive]
  linarith

theorem value_ofNat_hundred : (Binary.ofNat 100).value = 100 := by
  have written : Binary.ofNat 100 = ⟨100 * 2 ^ 46, 0, 46⟩ := by decide
  rw [written, Binary.value]
  norm_num

theorem percentOfAbs_nearestAway (numerator : ℕ) {denominator : ℕ} (nonzero : 0 < denominator) :
    ∃ error : ℚ, |error| ≤ 1 / 2 ^ 50 ∧
      NearestAway (100 * numerator / denominator * (1 + error))
        (percentOfAbs numerator denominator) := by
  obtain ⟨top, topSmall, isTop⟩ := Binary.value_ofNat numerator
  obtain ⟨bottom, bottomSmall, isBottom⟩ := Binary.value_ofNat denominator
  have positive : 0 < (Binary.ofNat denominator).value :=
    Binary.value_nearest_pos nonzero (by decide)
  obtain ⟨divided, dividedSmall, isQuotient⟩ := Binary.value_div (Binary.ofNat numerator) positive
  obtain ⟨scaled, scaledSmall, isProduct⟩ :=
    Binary.value_mul ((Binary.ofNat numerator).div (Binary.ofNat denominator)) (Binary.ofNat 100)
  obtain ⟨inverse, inverseSmall, isInverse⟩ := exists_error_inv bottomSmall
  obtain ⟨two, twoSmall, isTwo⟩ := exists_error_mul topSmall dividedSmall
    (show _ ≤ 3 / 2 ^ 53 by norm_num)
  obtain ⟨three, threeSmall, isThree⟩ := exists_error_mul twoSmall scaledSmall
    (show _ ≤ 5 / 2 ^ 53 by norm_num)
  obtain ⟨error, errorSmall, isError⟩ := exists_error_mul threeSmall inverseSmall
    (show _ ≤ 1 / 2 ^ 50 by norm_num)
  refine ⟨error, errorSmall, ?_⟩
  have isValue : (((Binary.ofNat numerator).div (Binary.ofNat denominator)).mul
      (Binary.ofNat 100)).value = 100 * numerator / denominator * (1 + error) := by
    rw [isProduct, isQuotient, isTop, isBottom, value_ofNat_hundred, ← isError, ← isThree, ← isTwo,
      ← isInverse, div_eq_mul_inv, div_eq_mul_inv, mul_inv]
    ring
  rw [← isValue]
  exact Binary.round_nearestAway _

/-! ## Signs -/

theorem percent_of_abs (numerator denominator : Int64) :
    |percent numerator denominator| =
      100 * (numerator.toInt.natAbs : ℚ) / denominator.toInt.natAbs := by
  rw [percent, abs_div, abs_mul, Nat.cast_natAbs, Nat.cast_natAbs, Int.cast_abs, Int.cast_abs]
  norm_num

theorem percent_nonneg {numerator denominator : Int64}
    (same : (numerator < 0) = (denominator < 0)) : 0 ≤ percent numerator denominator := by
  rw [Int64.lt_iff_toInt_lt, Int64.lt_iff_toInt_lt, Int64.toInt_zero] at same
  by_cases negative : denominator.toInt < 0
  · have top : (numerator.toInt : ℚ) ≤ 0 := by exact_mod_cast (same ▸ negative : numerator.toInt < 0).le
    have bottom : (denominator.toInt : ℚ) ≤ 0 := by exact_mod_cast negative.le
    exact div_nonneg_of_nonpos (by linarith) bottom
  · have top : (0 : ℚ) ≤ numerator.toInt := by
      exact_mod_cast Int.not_lt.mp (same ▸ negative : ¬ numerator.toInt < 0)
    have bottom : (0 : ℚ) ≤ denominator.toInt := by exact_mod_cast Int.not_lt.mp negative
    exact div_nonneg (by linarith) bottom

theorem percent_nonpos {numerator denominator : Int64}
    (different : (numerator < 0) ≠ (denominator < 0)) : percent numerator denominator ≤ 0 := by
  rw [Int64.lt_iff_toInt_lt, Int64.lt_iff_toInt_lt, Int64.toInt_zero] at different
  by_cases negative : denominator.toInt < 0
  · have positive : ¬ numerator.toInt < 0 := fun both => different (by simp [both, negative])
    have top : (0 : ℚ) ≤ numerator.toInt := by exact_mod_cast Int.not_lt.mp positive
    have bottom : (denominator.toInt : ℚ) ≤ 0 := by exact_mod_cast negative.le
    exact div_nonpos_of_nonneg_of_nonpos (by linarith) bottom
  · have below : numerator.toInt < 0 := by
      by_contra positive
      exact different (by simp [positive, negative])
    have top : (numerator.toInt : ℚ) ≤ 0 := by exact_mod_cast below.le
    have bottom : (0 : ℚ) ≤ denominator.toInt := by exact_mod_cast Int.not_lt.mp negative
    exact div_nonpos_of_nonpos_of_nonneg (by linarith) bottom

/-- The roundings to doubles change the percentage by at most one part in 2^50. -/
theorem exists_nearestAway {numerator denominator : Int64} (nonzero : denominator ≠ 0) :
    ∃ (near : ℚ) (whole : ℤ),
      |near - percent numerator denominator| ≤ |percent numerator denominator| / 2 ^ 50 ∧
      NearestAway near whole ∧ ratioPercent numerator denominator = clamp whole := by
  have positive : 0 < denominator.toInt.natAbs := by
    rw [Int.natAbs_pos]
    exact fun zero => nonzero (Int64.toInt_inj.mp zero)
  obtain ⟨error, small, nearest⟩ := percentOfAbs_nearestAway numerator.toInt.natAbs positive
  rw [← percent_of_abs] at nearest
  have within : |(|percent numerator denominator|) * error| ≤
      |percent numerator denominator| / 2 ^ 50 := by
    rw [abs_mul, abs_abs, div_eq_mul_one_div]
    exact mul_le_mul_of_nonneg_left small (abs_nonneg _)
  rw [ratioPercent, if_neg nonzero]
  dsimp only
  split
  · next same =>
      refine ⟨_, _, ?_, nearest, rfl⟩
      rw [abs_of_nonneg (percent_nonneg same)] at within ⊢
      rwa [mul_add, mul_one, add_sub_cancel_left]
  · next different =>
      refine ⟨_, _, ?_, nearest.neg, rfl⟩
      rw [abs_of_nonpos (percent_nonpos different)] at within ⊢
      rwa [mul_add, mul_one, neg_add, neg_neg, add_sub_cancel_left, abs_neg]

/-! ## The nearest whole number -/

section

variable {exact near reach : ℚ} {whole : ℤ}

/-- A number that is a half or far from it has a whole number within one half that is nearest to any
number around it. -/
theorem abs_sub_le_half (close : |near - exact| ≤ reach)
    (clear : ∀ floor : ℤ, exact ≠ floor + 1 / 2 → reach < |exact - (floor + 1 / 2)|)
    (nearest : NearestAway near whole) : |(whole : ℚ) - exact| ≤ 1 / 2 := by
  obtain ⟨low, high⟩ := abs_le.mp nearest.near
  obtain ⟨closeLow, closeHigh⟩ := abs_le.mp close
  rw [abs_le]
  constructor
  · by_contra above
    have far := clear whole (by linarith)
    rw [abs_of_pos (by linarith)] at far
    linarith
  · by_contra below
    have far := clear (whole - 1) (by push_cast; linarith)
    rw [abs_of_neg (by push_cast; linarith)] at far
    push_cast at far
    linarith

theorem nearestAway_of_clear (close : |near - exact| ≤ reach)
    (clear : ∀ floor : ℤ, reach < |exact - (floor + 1 / 2)|) (nearest : NearestAway near whole) :
    NearestAway exact whole := by
  refine ⟨abs_sub_le_half close (fun floor _ => clear floor) nearest, fun tie => ?_⟩
  exfalso
  have nonneg : 0 ≤ reach := (abs_nonneg _).trans close
  rcases (abs_eq (by norm_num)).mp tie with below | above
  · have far := clear (whole - 1)
    rw [show exact - (((whole - 1 : ℤ) : ℚ) + 1 / 2) = 0 by push_cast; linarith, abs_zero] at far
    linarith
  · have far := clear whole
    rw [show exact - ((whole : ℚ) + 1 / 2) = 0 by linarith, abs_zero] at far
    linarith

end

/-- The percentages of small values are a half or far from one. -/
theorem percent_clear {numerator denominator : Int64} (nonzero : denominator ≠ 0)
    (small : numerator.toInt.natAbs ≤ 2 ^ 42) (floor : ℤ)
    (noTie : percent numerator denominator ≠ floor + 1 / 2) :
    |percent numerator denominator| / 2 ^ 50 <
      |percent numerator denominator - (floor + 1 / 2)| := by
  have bottom : (denominator.toInt : ℚ) ≠ 0 := by
    exact_mod_cast fun zero => nonzero (Int64.toInt_inj.mp zero)
  have scale : 0 < |2 * (denominator.toInt : ℚ)| := abs_pos.mpr (mul_ne_zero two_ne_zero bottom)
  have distance : percent numerator denominator - (floor + 1 / 2) =
      ((200 * numerator.toInt - (2 * floor + 1) * denominator.toInt : ℤ) : ℚ) /
        (2 * denominator.toInt) := by
    rw [percent]
    push_cast
    field_simp
    ring
  have size : |percent numerator denominator| =
      |((200 * numerator.toInt : ℤ) : ℚ)| / |2 * (denominator.toInt : ℚ)| := by
    have double : percent numerator denominator =
        ((200 * numerator.toInt : ℤ) : ℚ) / (2 * denominator.toInt) := by
      rw [percent]
      push_cast
      field_simp
      ring
    rw [double, abs_div]
  -- A whole number that is not zero is at least one, while the other one is less than 2^50.
  have apart : 200 * numerator.toInt - (2 * floor + 1) * denominator.toInt ≠ 0 := by
    intro zero
    rw [zero, Int.cast_zero, zero_div, sub_eq_zero] at distance
    exact noTie distance
  have whole : (1 : ℚ) ≤
      |((200 * numerator.toInt - (2 * floor + 1) * denominator.toInt : ℤ) : ℚ)| := by
    exact_mod_cast Int.one_le_abs apart
  have top : |((200 * numerator.toInt : ℤ) : ℚ)| ≤ 200 * 2 ^ 42 := by
    rw [← Int.cast_abs]
    exact_mod_cast abs_le.mpr (show -(200 * 2 ^ 42) ≤ 200 * numerator.toInt ∧ _ by omega)
  rw [distance, size, abs_div, div_right_comm]
  gcongr
  linarith

theorem toInt_clamp {value : ℤ} (inside : Text.Numeral.inInt64 value = true) :
    (clamp value).toInt = value := by
  have range := inside
  simp only [Text.Numeral.inInt64, Bool.and_eq_true, decide_eq_true_eq] at range
  rw [clamp, min_eq_right range.2, max_eq_right range.1, Text.Numeral.toInt_ofInt_of_inInt64 inside]

theorem abs_percent_le {numerator denominator : Int64} (nonzero : denominator ≠ 0) :
    |percent numerator denominator| ≤ 100 * numerator.toInt.natAbs := by
  have positive : 1 ≤ denominator.toInt.natAbs := by
    rw [Nat.one_le_iff_ne_zero, Int.natAbs_ne_zero]
    exact fun zero => nonzero (Int64.toInt_inj.mp zero)
  rw [percent_of_abs]
  exact div_le_self (by positivity) (by exact_mod_cast positive)

/-- Every percentage is rounded to a whole number from within one part in 2^50. The nearest whole number
comes out wherever no half lies that close; for a numerator up to 2^42 a whole number within one half
comes out always, so that at most a tie goes the wrong way. -/
theorem ratioPercent_near (numerator denominator : Int64) (nonzero : denominator ≠ 0) :
    (∃ (near : ℚ) (whole : ℤ),
      |near - percent numerator denominator| ≤ |percent numerator denominator| / 2 ^ 50 ∧
      NearestAway near whole ∧ ratioPercent numerator denominator = clamp whole) ∧
    ((∀ floor : ℤ, |percent numerator denominator| / 2 ^ 50 <
        |percent numerator denominator - (floor + 1 / 2)|) →
      ∃ whole : ℤ, NearestAway (percent numerator denominator) whole ∧
        ratioPercent numerator denominator = clamp whole) ∧
    (numerator.toInt.natAbs ≤ 2 ^ 42 →
      |((ratioPercent numerator denominator).toInt : ℚ) - percent numerator denominator| ≤
        1 / 2) := by
  obtain ⟨near, whole, close, nearest, isWhole⟩ := exists_nearestAway nonzero
  refine ⟨⟨near, whole, close, nearest, isWhole⟩, fun clear => ?_, fun small => ?_⟩
  · exact ⟨whole, nearestAway_of_clear close clear nearest, isWhole⟩
  · have within := abs_sub_le_half close (fun floor => percent_clear nonzero small floor) nearest
    have inside : Text.Numeral.inInt64 whole = true := by
      have range : |percent numerator denominator| ≤ 100 * 2 ^ 42 :=
        (abs_percent_le nonzero).trans (by exact_mod_cast Nat.mul_le_mul_left 100 small)
      obtain ⟨low, high⟩ := abs_le.mp within
      obtain ⟨percentLow, percentHigh⟩ := abs_le.mp range
      have least : -(100 * 2 ^ 42 + 1) ≤ whole := by
        exact_mod_cast (show (-(100 * 2 ^ 42 + 1) : ℚ) ≤ whole by linarith)
      have most : whole ≤ 100 * 2 ^ 42 + 1 := by
        exact_mod_cast (show (whole : ℚ) ≤ 100 * 2 ^ 42 + 1 by linarith)
      simp only [Text.Numeral.inInt64, Bool.and_eq_true, decide_eq_true_eq]
      omega
    rwa [isWhole, toInt_clamp inside]

theorem ratioPercent_near_tie : (200 : Int64) ≠ 0 ∧ (29 : Int64).toInt.natAbs ≤ 2 ^ 42 ∧
    |((ratioPercent 29 200).toInt : ℚ) - percent 29 200| ≤ 1 / 2 :=
  ⟨by decide, by decide, (ratioPercent_near 29 200 (by decide)).2.2 (by decide)⟩

/-- Twenty-nine two-hundredths are 14.5 percent. Their quotient in doubles is a little less than 0.145, and
so 14 comes out. -/
theorem ratioPercent_misses_tie : NearestAway (percent 29 200) 15 ∧
    ¬ NearestAway (percent 29 200) (ratioPercent 29 200).toInt := by
  have rounded : (ratioPercent 29 200).toInt = 14 := by decide +kernel
  have exact : percent 29 200 = 29 / 2 := by
    rw [percent, show (29 : Int64).toInt = 29 from rfl, show (200 : Int64).toInt = 200 from rfl]
    norm_num
  rw [rounded, exact]
  refine ⟨by constructor <;> norm_num, fun nearest => ?_⟩
  have away := nearest.away (by norm_num)
  norm_num at away

end SeriesQuery.Series
