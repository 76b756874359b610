import CoffeeGrading.Proofs.Number.Error
import CoffeeGrading.Proofs.Scale.Sound
import CoffeeGrading.Proofs.Template.Finite

/-!
How far the scores of a numeric scale drift from exact arithmetic.  Between ends of at most 10¹² a
score stands within 0.00112 of the exact end of its steps, and counting the steps back from it
gives their number again, far within the tolerance.
-/

namespace CoffeeGrading

open Binary64

namespace NumericScale

/-- Ends of at most 10¹², and steps that are not too small to be counted. -/
structure Moderate (range : NumericScale) : Prop where
  bottom : -1e12 ≤ range.min
  top : range.max ≤ 1e12
  step : 1e-200 ≤ range.increment

/-- What is known of the exact values of a usable range with moderate ends. -/
structure Measured (range : NumericScale) : Prop where
  finite : range.Finite
  positive : 0 < range.increment
  ordered : range.min.toRat < range.max.toRat
  bottom : -10 ^ 12 ≤ range.min.toRat
  top : range.max.toRat ≤ 10 ^ 12
  step : 1 / 10 ^ 201 ≤ range.increment.toRat

variable {range : NumericScale}

theorem Moderate.measured (moderate : range.Moderate) (finite : range.Finite)
    (sound : (Scale.numeric range).Sound) : range.Measured := by
  have large : (1e12 : Binary64).isFinite ∧ (1e12 : Binary64).toRat = 10 ^ 12 := by decide +kernel
  have small : (1e-200 : Binary64).isFinite ∧ 1 / 10 ^ 201 ≤ (1e-200 : Binary64).toRat := by
    decide +kernel
  have bottom := (le_iff_toRat ((isFinite_neg _).trans large.1) finite.min).1 moderate.bottom
  have top := (le_iff_toRat finite.max large.1).1 moderate.top
  have step := (le_iff_toRat small.1 finite.increment).1 moderate.step
  rw [toRat_neg, large.2] at bottom
  rw [large.2] at top
  exact ⟨finite, sound.2, (lt_iff_toRat finite.min finite.max).1 sound.1, bottom, top,
    small.2.trans step⟩

theorem Measured.increment_pos (measured : range.Measured) : 0 < range.increment.toRat := by
  have step := measured.step
  have : (0 : ℚ) < 1 / 10 ^ 201 := by positivity
  linarith

end NumericScale

namespace Scale

variable {range : NumericScale}

/-- Counting the steps from the lower end back from a number gives a whole number of them, up to
the tolerance. -/
def CountsBack (range : NumericScale) (score : Binary64) : Prop :=
  ∃ steps, (stepsTo range score).round = .ok steps ∧
    (stepsTo range score - ofInt steps).abs * range.increment < defaultTolerance

theorem tolerance_near : Near defaultTolerance (1 / 100) (1 / 10 ^ 10) :=
  ⟨by decide +kernel, by decide +kernel⟩

theorem allowance_near : Near 1e-9 (1 / 10 ^ 9) (1 / 10 ^ 15) :=
  ⟨by decide +kernel, by decide +kernel⟩

theorem abs_sub_le_of_half {value : ℚ} {whole : Int} (half : |value - whole| ≤ 1 / 2)
    (other : Int) : |value - whole| ≤ |value - other| := by
  by_cases same : whole = other
  · rw [same]
  · have one : (1 : ℚ) ≤ |(whole : ℚ) - other| := by
      exact_mod_cast Int.one_le_abs (sub_ne_zero.2 same)
    have between := abs_sub_le (whole : ℚ) value other
    rw [abs_sub_comm (whole : ℚ) value] at between
    linarith

variable (measured : range.Measured)

include measured

theorem div_increment_le {amount : ℚ} (size : |amount| ≤ 10 ^ 13) :
    |amount / range.increment.toRat| ≤ 10 ^ 214 := by
  have positive := measured.increment_pos
  rw [abs_div, abs_of_pos positive, div_le_iff₀ positive]
  calc |amount| ≤ 10 ^ 13 := size
    _ = 10 ^ 214 * (1 / 10 ^ 201) := by norm_num
    _ ≤ 10 ^ 214 * range.increment.toRat :=
        mul_le_mul_of_nonneg_left measured.step (by positivity)

theorem steps_le {steps : ℚ} (size : |steps * range.increment.toRat| ≤ 10 ^ 13) :
    |steps| ≤ 10 ^ 214 := by
  have quotient := div_increment_le measured size
  rwa [mul_div_cancel_right₀ _ measured.increment_pos.ne'] at quotient

theorem small_drift : range.increment.toRat * tiny ≤ 1 / 10 ^ 15 :=
  (toRat_mul_tiny_le measured.finite.increment).trans (by norm_num)

theorem error_in_scores {left right size : ℚ} (close : |left - right| ≤ roundingError |size|) :
    |left * range.increment.toRat - right * range.increment.toRat| ≤
      |size * range.increment.toRat| / 2 ^ 53 + 1 / 10 ^ 15 := by
  have positive := measured.increment_pos
  rw [← sub_mul, abs_mul, abs_mul, abs_of_pos positive]
  have scaled := mul_le_mul_of_nonneg_right close positive.le
  have small := small_drift measured
  rw [roundingError] at scaled
  linarith

/-! ### The number of steps -/

theorem width_near :
    Near (range.max - range.min) (range.max.toRat - range.min.toRat) (2221 / 10 ^ 7) ∧
      |(range.max - range.min).toRat| ≤ 20001 * 10 ^ 8 := by
  have size : |range.max.toRat - range.min.toRat| ≤ 2 * 10 ^ 12 := by
    have ordered := measured.ordered
    have bottom := measured.bottom
    have top := measured.top
    rw [abs_le]
    constructor <;> linarith
  have near := (near_sub measured.finite.max measured.finite.min size
    (lt_ceiling (by norm_num))).weaken (roundingError_le (by norm_num) :
      roundingError (2 * 10 ^ 12) ≤ 2221 / 10 ^ 7)
  exact ⟨near, (near.size size).trans (by norm_num)⟩

theorem div_increment_close {amount : Binary64} (finite : amount.isFinite)
    (size : |amount.toRat| ≤ 20012 * 10 ^ 8) :
    (amount / range.increment).isFinite ∧
      |(amount / range.increment).toRat * range.increment.toRat - amount.toRat| ≤
        2223 / 10 ^ 7 := by
  have quotient := div_increment_le measured (size.trans (by norm_num))
  obtain ⟨quotientFinite, close⟩ := div_mul_close finite measured.finite.increment
    measured.positive (lt_ceiling (quotient.trans (by norm_num)))
  have small := small_drift measured
  refine ⟨quotientFinite, close.trans ?_⟩
  linarith

theorem ratio_close :
    ((range.max - range.min) / range.increment).isFinite ∧
      |((range.max - range.min) / range.increment).toRat * range.increment.toRat| ≤
        20002 * 10 ^ 8 ∧
      |((range.max - range.min) / range.increment).toRat * range.increment.toRat -
        (range.max.toRat - range.min.toRat)| ≤ 4444 / 10 ^ 7 := by
  obtain ⟨width, widthSize⟩ := width_near measured
  obtain ⟨finite, close⟩ := div_increment_close measured width.finite
    (widthSize.trans (by norm_num))
  refine ⟨finite, ?_, (abs_sub_le _ (range.max - range.min).toRat _).trans ?_⟩
  · have apart := abs_sub_abs_le_abs_sub
      (((range.max - range.min) / range.increment).toRat * range.increment.toRat)
      (range.max - range.min).toRat
    linarith
  · have widthClose := width.close
    linarith

/-- The steps that are counted reach hardly further than the upper end: by the errors of three
operations, and by the allowance of a billionth of a step. -/
theorem steps_reach {steps : Int}
    (counted : ((range.max - range.min) / range.increment + 1e-9).floor = .ok steps)
    {step : Nat} (among : (step : Int) ≤ steps) :
    step * range.increment.toRat ≤
      range.max.toRat - range.min.toRat + 68 / 10 ^ 5 +
        100001 / 10 ^ 14 * range.increment.toRat := by
  have positive := measured.increment_pos
  obtain ⟨ratioFinite, ratioSize, ratioClose⟩ := ratio_close measured
  generalize (range.max - range.min) / range.increment = ratio at *
  have allowance := allowance_near
  have allowed := abs_le.1 allowance.close
  generalize (1e-9 : Binary64) = extra at *
  have size : |ratio.toRat + extra.toRat| ≤ 10 ^ 215 := by
    have ratioSteps := steps_le measured (ratioSize.trans (by norm_num))
    have extraSize := allowance.size (le_refl _)
    rw [abs_of_pos (by norm_num : (0 : ℚ) < 1 / 10 ^ 9)] at extraSize
    have sum := abs_add_le ratio.toRat extra.toRat
    linarith
  obtain ⟨finite, close⟩ := near_add ratioFinite allowance.finite (le_refl _)
    (lt_ceiling (size.trans (by norm_num)))
  have close := error_in_scores measured close
  rw [add_mul] at close
  generalize ratio + extra = count at *
  rw [floor_of_finite finite, Except.ok.injEq] at counted
  have below : (step : ℚ) ≤ count.toRat := by
    calc (step : ℚ) ≤ (steps : ℚ) := by exact_mod_cast among
      _ ≤ count.toRat := counted ▸ Int.floor_le _
  have reached := mul_le_mul_of_nonneg_right below positive.le
  have extraLow : 0 ≤ extra.toRat * range.increment.toRat :=
    mul_nonneg (by linarith) positive.le
  have extraHigh : extra.toRat * range.increment.toRat ≤
      1000001 / 10 ^ 15 * range.increment.toRat :=
    mul_le_mul_of_nonneg_right (by linarith) positive.le
  have sum := abs_add_le (ratio.toRat * range.increment.toRat)
    (extra.toRat * range.increment.toRat)
  rw [abs_of_nonneg extraLow] at sum
  have ratioUp := (abs_le.1 ratioClose).2
  have countUp := (abs_le.1 close).2
  linarith

theorem steps_size {steps : Int}
    (counted : ((range.max - range.min) / range.increment + 1e-9).floor = .ok steps)
    {step : Nat} (among : (step : Int) ≤ steps) :
    step * range.increment.toRat ≤ 2001 * 10 ^ 9 := by
  have positive := measured.increment_pos
  have reached := steps_reach measured counted among
  have bottom := measured.bottom
  have top := measured.top
  cases step with
  | zero =>
      rw [Nat.cast_zero, zero_mul]
      norm_num
  | succ before =>
      have least : (1 : ℚ) ≤ (before + 1 : Nat) := by exact_mod_cast Nat.succ_pos before
      have single := mul_le_mul_of_nonneg_right least positive.le
      linarith

/-! ### Scores, and the way back -/

section

variable {step : Nat} (size : step * range.increment.toRat ≤ 2001 * 10 ^ 9)

include size

theorem abs_steps_le : |(step : ℚ) * range.increment.toRat| ≤ 2001 * 10 ^ 9 := by
  rwa [abs_of_nonneg (mul_nonneg (Nat.cast_nonneg _) measured.increment_pos.le)]

theorem steps_near :
    Near (ofInt step * range.increment) (step * range.increment.toRat) (4445 / 10 ^ 7) := by
  have stepSize := abs_steps_le measured size
  have stepCount : |((step : Int) : ℚ)| ≤ 10 ^ 214 := by
    rw [Int.cast_natCast]
    exact steps_le measured (stepSize.trans (by norm_num))
  have whole := near_ofInt (step : Int) (le_refl _) (lt_ceiling (stepCount.trans (by norm_num)))
  have wholeClose := error_in_scores measured whole.close
  rw [Int.cast_natCast] at wholeClose
  have productSize : |(ofInt step).toRat * range.increment.toRat| ≤ 20011 * 10 ^ 8 := by
    have apart := abs_sub_abs_le_abs_sub ((ofInt step).toRat * range.increment.toRat)
      (step * range.increment.toRat)
    linarith
  have product := near_mul whole.finite measured.finite.increment productSize
    (lt_ceiling (by norm_num))
  refine (product.shift wholeClose).weaken ?_
  have error : roundingError (20011 * 10 ^ 8) ≤ 2222 / 10 ^ 7 := roundingError_le (by norm_num)
  linarith

theorem abs_end_le : |range.min.toRat + step * range.increment.toRat| ≤ 3001 * 10 ^ 9 := by
  have stepSize := abs_steps_le measured size
  have bottom := measured.bottom
  have top := measured.ordered.trans_le measured.top
  rw [abs_le] at stepSize ⊢
  constructor <;> linarith

theorem stepScore_near :
    Near (stepScore range step) (range.min.toRat + step * range.increment.toRat)
      (112 / 10 ^ 5) := by
  have way := steps_near measured size
  have moved : |range.min.toRat + (ofInt step * range.increment).toRat -
      (range.min.toRat + step * range.increment.toRat)| ≤ 4445 / 10 ^ 7 := by
    rw [add_sub_add_left_eq_sub]
    exact way.close
  have sumSize : |range.min.toRat + (ofInt step * range.increment).toRat| ≤ 30011 * 10 ^ 8 := by
    have apart := abs_sub_abs_le_abs_sub
      (range.min.toRat + (ofInt step * range.increment).toRat)
      (range.min.toRat + step * range.increment.toRat)
    have exactSize := abs_end_le measured size
    linarith
  have sum := (near_add measured.finite.min way.finite sumSize (lt_ceiling (by norm_num))).weaken
    (roundingError_le (by norm_num) : roundingError (30011 * 10 ^ 8) ≤ 3333 / 10 ^ 7)
  have total := (sum.shift moved).weaken (by norm_num : _ ≤ (7778 / 10 ^ 7 : ℚ))
  have totalSize := sum.size sumSize
  have rounded := near_roundPlaces 6 sum.finite
    (by linarith : _ + 1 ≤ (30012 * 10 ^ 8 : ℚ)) (lt_ceiling (by norm_num))
  refine (rounded.shift total.close).weaken ?_
  have error : roundingError (30012 * 10 ^ 8) ≤ 3333 / 10 ^ 7 := roundingError_le (by norm_num)
  linarith

variable {score : Binary64}
  (near : Near score (range.min.toRat + step * range.increment.toRat) (112 / 10 ^ 5))

include near

/-- The steps that are counted back from near the end of some steps are near their number. -/
theorem stepsTo_close :
    (stepsTo range score).isFinite ∧
      |(stepsTo range score).toRat - (step : Int)| * range.increment.toRat ≤ 16 / 10 ^ 4 := by
  have moved : |score.toRat - range.min.toRat - step * range.increment.toRat| ≤ 112 / 10 ^ 5 := by
    rw [sub_sub]
    exact near.close
  have waySize : |score.toRat - range.min.toRat| ≤ 20011 * 10 ^ 8 := by
    have apart := abs_sub_abs_le_abs_sub (score.toRat - range.min.toRat)
      (step * range.increment.toRat)
    have stepSize := abs_steps_le measured size
    linarith
  have way := (near_sub near.finite measured.finite.min waySize (lt_ceiling (by norm_num))).weaken
    (roundingError_le (by norm_num) : roundingError (20011 * 10 ^ 8) ≤ 2222 / 10 ^ 7)
  obtain ⟨finite, close⟩ := div_increment_close measured way.finite
    ((way.size waySize).trans (by norm_num))
  refine ⟨finite, ?_⟩
  calc |(stepsTo range score).toRat - (step : Int)| * range.increment.toRat
      = |(stepsTo range score).toRat * range.increment.toRat -
          step * range.increment.toRat| := by
        rw [← sub_mul, abs_mul, abs_of_pos measured.increment_pos, Int.cast_natCast]
    _ ≤ 2223 / 10 ^ 7 + (2222 / 10 ^ 7 + 112 / 10 ^ 5) :=
        (abs_sub_le _ (score - range.min).toRat _).trans
          (add_le_add close (way.shift moved).close)
    _ ≤ 16 / 10 ^ 4 := by norm_num

end

theorem remainder_lt {steps whole : Binary64} (stepsFinite : steps.isFinite)
    (wholeFinite : whole.isFinite) (half : |steps.toRat - whole.toRat| ≤ 1 / 2)
    (remainder : |steps.toRat - whole.toRat| * range.increment.toRat ≤ 16 / 10 ^ 4) :
    (steps - whole).abs * range.increment < defaultTolerance := by
  have positive := measured.increment_pos
  have rest := near_sub stepsFinite wholeFinite (le_refl _)
    (lt_ceiling (half.trans (by norm_num)))
  have restClose := error_in_scores measured rest.close
  rw [abs_mul, abs_of_pos positive] at restClose
  have restSize : |(steps - whole).abs.toRat * range.increment.toRat| ≤ 17 / 10 ^ 4 := by
    have apart := abs_sub_abs_le_abs_sub ((steps - whole).toRat * range.increment.toRat)
      ((steps.toRat - whole.toRat) * range.increment.toRat)
    rw [abs_mul (steps.toRat - whole.toRat), abs_of_pos positive] at apart
    rw [toRat_abs, abs_mul, abs_abs, ← abs_mul]
    linarith
  have product := (near_mul (isFinite_abs rest.finite) measured.finite.increment restSize
    (lt_ceiling (by norm_num))).weaken
      (roundingError_le (by norm_num) : roundingError (17 / 10 ^ 4) ≤ 1 / 10 ^ 4)
  have tolerance := tolerance_near
  rw [lt_iff_toRat product.finite tolerance.finite]
  have productUp := (abs_le.1 (product.size restSize)).2
  have toleranceDown := (abs_le.1 tolerance.close).1
  linarith

theorem countsBack_of_near {score : Binary64} {step : Nat}
    (size : step * range.increment.toRat ≤ 2001 * 10 ^ 9)
    (near : Near score (range.min.toRat + step * range.increment.toRat) (112 / 10 ^ 5)) :
    CountsBack range score := by
  obtain ⟨finite, close⟩ := stepsTo_close measured size near
  obtain ⟨steps, rounded, half, wholeFinite, whole⟩ := round_of_finite finite
  have nearest := mul_le_mul_of_nonneg_right (abs_sub_le_of_half half step)
    measured.increment_pos.le
  refine ⟨steps, rounded, remainder_lt measured finite wholeFinite ?_ ?_⟩
  · rw [whole]
    exact half
  · rw [whole]
    exact nearest.trans close

theorem not_beyond {score : Binary64} {step : Nat}
    (reached : step * range.increment.toRat ≤
      range.max.toRat - range.min.toRat + 68 / 10 ^ 5 +
        100001 / 10 ^ 14 * range.increment.toRat)
    (near : Near score (range.min.toRat + step * range.increment.toRat) (112 / 10 ^ 5))
    (short : range.increment ≤ 8e6) : ¬ range.max + defaultTolerance < score := by
  have bottom := measured.bottom.trans measured.ordered.le
  have top := measured.top
  have most : (8e6 : Binary64).isFinite ∧ (8e6 : Binary64).toRat = 8 * 10 ^ 6 := by
    decide +kernel
  rw [le_iff_toRat measured.finite.increment most.1, most.2] at short
  have tolerance := tolerance_near
  have tolerated := abs_le.1 tolerance.close
  have endSize : |range.max.toRat + defaultTolerance.toRat| ≤ 10001 * 10 ^ 8 := by
    rw [abs_le]
    constructor <;> linarith
  have upper := (near_add measured.finite.max tolerance.finite endSize
    (lt_ceiling (by norm_num))).weaken
      (roundingError_le (by norm_num) : roundingError (10001 * 10 ^ 8) ≤ 1111 / 10 ^ 7)
  rw [lt_iff_toRat upper.finite near.finite]
  have scoreUp := (abs_le.1 near.close).2
  have upperDown := (abs_le.1 upper.close).1
  linarith

end Scale
end CoffeeGrading
