import CoffeeGrading.Proofs.Number.Monotone
import Mathlib.Algebra.Order.Field.Rat
import Mathlib.Data.Nat.Cast.Order.Field
import Mathlib.Data.Rat.Floor
import Mathlib.Tactic.FieldSimp
import Mathlib.Tactic.Linarith
import Mathlib.Tactic.NormNum
import Mathlib.Tactic.Positivity
import Mathlib.Tactic.Ring

/-!
How far rounding leads away from exact arithmetic.  The exact value of a finite number is rational.
A result is off by at most its size over 2⁵³, and by half a unit where it is very small; as long as
it stays below 2¹⁰²³ it is finite.
-/

namespace CoffeeGrading

namespace Rounding

theorem halfEven_close (numerator : Nat) {denominator : Nat} (positive : 0 < denominator) :
    |(halfEven numerator denominator : ℚ) - numerator / denominator| ≤ 1 / 2 := by
  have bounds : 2 * (halfEven numerator denominator * denominator) ≤
        2 * numerator + denominator ∧
      2 * numerator ≤ 2 * (halfEven numerator denominator * denominator) + denominator := by
    have whole := Nat.div_add_mod numerator denominator
    have below := Nat.mod_lt numerator positive
    simp only [halfEven]
    generalize numerator / denominator = quotient at whole ⊢
    generalize numerator % denominator = remainder at whole below ⊢
    rw [Nat.mul_comm] at whole
    repeat' split
    all_goals try rw [Nat.add_mul]
    all_goals omega
  have above : (0 : ℚ) < denominator := by exact_mod_cast positive
  have lower : 2 * ((halfEven numerator denominator : ℚ) * denominator) ≤
      2 * numerator + denominator := by exact_mod_cast bounds.1
  have upper : 2 * (numerator : ℚ) ≤
      2 * ((halfEven numerator denominator : ℚ) * denominator) + denominator := by
    exact_mod_cast bounds.2
  have quotient : (numerator : ℚ) / denominator * denominator = numerator :=
    div_mul_cancel₀ _ above.ne'
  rw [abs_le]
  constructor
  · refine le_of_mul_le_mul_right ?_ above
    linarith
  · refine le_of_mul_le_mul_right ?_ above
    linarith

theorem spacing_le (value : Nat) : (spacing value : ℚ) ≤ 1 + value / 2 ^ 52 := by
  by_cases large : 52 ≤ value.log2
  · have nonzero : value ≠ 0 := by
      intro zero
      simp [zero] at large
    have reached : Nat.pow 2 52 * spacing value ≤ value := by
      rw [← two_pow_log2_div_spacing large]
      exact Nat.log2_self_le nonzero
    have reached : (2 : ℚ) ^ 52 * spacing value ≤ value := by exact_mod_cast reached
    rw [← le_div_iff₀' (by positivity)] at reached
    linarith
  · have one : spacing value = 1 := by
      rw [spacing, show value.log2 - 52 = 0 by omega]
    have nonnegative : (0 : ℚ) ≤ value / 2 ^ 52 := by positivity
    rw [one, Nat.cast_one]
    linarith

theorem nearest_close_spacing (numerator : Nat) {denominator : Nat} (positive : 0 < denominator) :
    |(nearest numerator denominator : ℚ) - numerator / denominator| ≤
      spacing (numerator / denominator) / 2 := by
  have above : (0 : ℚ) < denominator := by exact_mod_cast positive
  have step : (0 : ℚ) < spacing (numerator / denominator) := by
    exact_mod_cast spacing_pos _
  have close := halfEven_close numerator
    (Nat.mul_pos positive (spacing_pos (numerator / denominator)))
  have product : (nearest numerator denominator : ℚ) - numerator / denominator =
      (halfEven numerator (denominator * spacing (numerator / denominator)) -
        numerator / ((denominator * spacing (numerator / denominator) : Nat) : ℚ)) *
          spacing (numerator / denominator) := by
    rw [nearest]
    push_cast
    field_simp
  rw [product, abs_mul, abs_of_pos step]
  calc _ ≤ 1 / 2 * (spacing (numerator / denominator) : ℚ) :=
        mul_le_mul_of_nonneg_right close step.le
    _ = _ := by ring

theorem nearest_close (numerator : Nat) {denominator : Nat} (positive : 0 < denominator) :
    |(nearest numerator denominator : ℚ) - numerator / denominator| ≤
      (numerator / denominator / 2 ^ 52 + 1) / 2 := by
  have close := nearest_close_spacing numerator positive
  have floor : ((numerator / denominator : Nat) : ℚ) ≤ numerator / denominator := Nat.cast_div_le
  have grid := spacing_le (numerator / denominator)
  have scaled := div_le_div_of_nonneg_right floor (by positivity : (0 : ℚ) ≤ 2 ^ 52)
  linarith

theorem halfEven_two_pow {units step shift : Nat} (power : step = Nat.pow 2 shift)
    (onGrid : units % spacing units = 0) :
    halfEven units step ≤ Nat.pow 2 53 ∨ halfEven units step * step = units := by
  subst power
  have positive : 0 < Nat.pow 2 shift := Nat.pow_pos (by decide)
  by_cases large : shift + 53 ≤ units.log2
  · right
    obtain ⟨rest, exponent⟩ := Nat.exists_eq_add_of_le (show shift ≤ units.log2 - 52 by omega)
    obtain ⟨steps, whole⟩ := Nat.dvd_of_mod_eq_zero onGrid
    have multiple : units = Nat.pow 2 rest * steps * Nat.pow 2 shift := by
      conv_lhs => rw [whole, spacing, exponent, two_pow_add]
      ring
    rw [multiple, halfEven_exact _ _ positive]
  · left
    have below : units < Nat.pow 2 53 * Nat.pow 2 shift := by
      rw [← two_pow_add]
      exact Nat.lt_log2_self.trans_le (Nat.pow_le_pow_right (by decide) (by omega))
    have quotient := (Nat.div_lt_iff_lt_mul positive).2 below
    exact (halfEven_le _ _).trans quotient

theorem halfEven_mod_spacing {units step shift : Nat} (power : step = Nat.pow 2 shift)
    (onGrid : units % spacing units = 0) :
    halfEven units step * step % spacing (halfEven units step * step) = 0 := by
  rcases halfEven_two_pow power onGrid with small | same
  · rw [power] at small ⊢
    exact mul_two_pow_mod_spacing _ shift small
  · rw [same]
    exact onGrid

end Rounding

namespace Binary64

open Rounding

/-- The exact value of a finite number.  What is not finite has none and counts as zero. -/
def toRat : Binary64 → ℚ
  | finite negative units _ => (signed negative units : ℚ) / unitsPerOne
  | _ => 0

def ceiling : ℚ := overflow / (2 * unitsPerOne)

def tiny : ℚ := 1 / (2 * unitsPerOne)

/-- The most by which rounding moves a result whose size is at most `bound`. -/
def roundingError (bound : ℚ) : ℚ := bound / 2 ^ 53 + tiny

/-- A finite number within a distance of an exact value. -/
structure Near (value : Binary64) (target distance : ℚ) : Prop where
  finite : value.isFinite
  close : |value.toRat - target| ≤ distance

section Near

variable {value : Binary64} {target other distance more bound : ℚ}

theorem Near.weaken (near : Near value target distance) (wider : distance ≤ more) :
    Near value target more :=
  ⟨near.finite, near.close.trans wider⟩

theorem Near.shift (near : Near value target distance) (moved : |target - other| ≤ more) :
    Near value other (distance + more) :=
  ⟨near.finite, (abs_sub_le _ target _).trans (add_le_add near.close moved)⟩

theorem Near.size (near : Near value target distance) (size : |target| ≤ bound) :
    |value.toRat| ≤ bound + distance := by
  have apart := abs_sub_abs_le_abs_sub value.toRat target
  have close := near.close
  linarith

end Near

theorem units_pos : (0 : ℚ) < unitsPerOne := by
  exact_mod_cast unitsPerOne_pos

theorem four_le_overflow : 4 ≤ overflow := by
  decide +kernel

theorem toRat_of_place {value : Binary64} {place : Int} (finite : value.isFinite)
    (here : value.place? = some place) : value.toRat = place / unitsPerOne := by
  obtain ⟨negative, units, representable, rfl⟩ := exists_eq_finite finite
  obtain rfl := Option.some.inj here
  rfl

theorem place_of_finite {value : Binary64} (finite : value.isFinite) :
    ∃ place, value.place? = some place ∧ value.toRat = place / unitsPerOne := by
  obtain ⟨negative, units, representable, rfl⟩ := exists_eq_finite finite
  exact ⟨_, rfl, rfl⟩

theorem lt_iff_toRat {left right : Binary64} (leftFinite : left.isFinite)
    (rightFinite : right.isFinite) : left < right ↔ left.toRat < right.toRat := by
  obtain ⟨first, leftPlace, leftValue⟩ := place_of_finite leftFinite
  obtain ⟨second, rightPlace, rightValue⟩ := place_of_finite rightFinite
  rw [lt_iff_place, leftValue, rightValue, div_lt_div_iff_of_pos_right units_pos, Int.cast_lt]
  simp [leftPlace, rightPlace]

theorem le_iff_toRat {left right : Binary64} (leftFinite : left.isFinite)
    (rightFinite : right.isFinite) : left ≤ right ↔ left.toRat ≤ right.toRat := by
  obtain ⟨first, leftPlace, leftValue⟩ := place_of_finite leftFinite
  obtain ⟨second, rightPlace, rightValue⟩ := place_of_finite rightFinite
  rw [le_iff_place, leftValue, rightValue, div_le_div_iff_of_pos_right units_pos, Int.cast_le]
  simp [leftPlace, rightPlace]

theorem toRat_zero : (0 : Binary64).toRat = 0 := by
  rw [toRat_of_place rfl place?_zero, Int.cast_zero, zero_div]

theorem natAbs_signed (negative : Bool) (magnitude : Nat) :
    (signed negative magnitude).natAbs = magnitude := by
  cases negative <;> simp

theorem isFinite_of_place {value : Binary64} {place : Int} (here : value.place? = some place)
    (inside : place.natAbs < overflow) : value.isFinite := by
  cases value with
  | nan => simp [place?] at here
  | infinity negative =>
      obtain rfl := Option.some.inj here
      rw [natAbs_signed] at inside
      omega
  | finite negative units representable => rfl

theorem abs_signed_sub (numerator : Int) (magnitude denominator : Nat) :
    |(signed (numerator < 0) magnitude : ℚ) - (numerator : ℚ) / denominator| =
      |(magnitude : ℚ) - numerator.natAbs / denominator| := by
  by_cases below : numerator < 0
  · have opposite : (numerator : ℚ) = -numerator.natAbs := by
      rw [Nat.cast_natAbs, abs_of_neg below]
      push_cast
      ring
    rw [decide_eq_true below, signed_true, opposite, ← abs_neg]
    congr 1
    push_cast
    ring
  · have same : (numerator : ℚ) = numerator.natAbs := by
      rw [Nat.cast_natAbs, abs_of_nonneg (Int.not_lt.1 below)]
    rw [decide_eq_false below, signed_false, same, Int.cast_natCast]

theorem nearestWhole_close (numerator : Int) {denominator : Nat} (positive : 0 < denominator) :
    |(nearestWhole numerator denominator : ℚ) - numerator / denominator| ≤ 1 / 2 := by
  rw [nearestWhole, abs_signed_sub]
  exact halfEven_close _ positive

theorem nearest_lt_overflow {numerator denominator : Nat} (positive : 0 < denominator)
    (moderate : (numerator : ℚ) / denominator / unitsPerOne < ceiling) :
    nearest numerator denominator < overflow := by
  have close := (abs_le.1 (nearest_close numerator positive)).2
  have large : (4 : ℚ) ≤ overflow := by exact_mod_cast four_le_overflow
  have units := units_pos
  have half : (numerator : ℚ) / denominator < overflow / 2 := by
    rw [div_lt_iff₀ units, ceiling] at moderate
    refine moderate.trans_eq ?_
    field_simp
  have below : (nearest numerator denominator : ℚ) < overflow := by
    have scaled := div_lt_div_of_pos_right half (by positivity : (0 : ℚ) < 2 ^ 52)
    linarith
  exact_mod_cast below

theorem near_of_place {value : Binary64} {numerator : Int} {denominator : Nat}
    {target bound : ℚ} (here : value.place? = some (roundedQuotient numerator denominator))
    (positive : 0 < denominator) (exactly : (numerator : ℚ) / denominator / unitsPerOne = target)
    (within : |target| ≤ bound) (moderate : bound < ceiling) :
    Near value target (roundingError bound) := by
  have above : (0 : ℚ) < denominator := by exact_mod_cast positive
  have units := units_pos
  have size : |target| = (numerator.natAbs : ℚ) / denominator / unitsPerOne := by
    rw [← exactly, abs_div, abs_div, abs_of_pos above, abs_of_pos units, Nat.cast_natAbs,
      Int.cast_abs]
  rw [size] at within
  have small := nearest_lt_overflow positive (within.trans_lt moderate)
  rw [roundedQuotient, Nat.min_eq_left small.le] at here
  have finite : value.isFinite := isFinite_of_place here ((natAbs_signed _ _).trans_lt small)
  have moved : value.toRat - target =
      (signed (numerator < 0) (nearest numerator.natAbs denominator) -
        (numerator : ℚ) / denominator) / unitsPerOne := by
    rw [toRat_of_place finite here, ← exactly, sub_div]
  refine ⟨finite, ?_⟩
  rw [moved, abs_div, abs_of_pos units, abs_signed_sub]
  calc _ ≤ ((numerator.natAbs : ℚ) / denominator / 2 ^ 52 + 1) / 2 / unitsPerOne :=
        div_le_div_of_nonneg_right (nearest_close _ positive) units.le
    _ = (numerator.natAbs : ℚ) / denominator / unitsPerOne / 2 ^ 53 + tiny := by
        rw [tiny]
        field_simp
    _ ≤ roundingError bound := by
        have scaled := div_le_div_of_nonneg_right within (by positivity : (0 : ℚ) ≤ 2 ^ 53)
        rw [roundingError]
        linarith

/-! ### Single operations -/

variable {left right value : Binary64} {bound : ℚ}

theorem isFinite_neg (value : Binary64) : (-value).isFinite = value.isFinite := by
  cases value <;> rfl

theorem toRat_neg (value : Binary64) : (-value).toRat = -value.toRat := by
  change (neg value).toRat = _
  cases value with
  | nan => exact neg_zero.symm
  | infinity negative => exact neg_zero.symm
  | finite negative units representable =>
      cases negative <;> simp only [neg, toRat, Bool.not_true, Bool.not_false, signed_true,
        signed_false] <;> push_cast <;> ring

theorem isFinite_abs (finite : value.isFinite) : value.abs.isFinite := by
  obtain ⟨negative, units, representable, rfl⟩ := exists_eq_finite finite
  rfl

theorem toRat_abs (value : Binary64) : value.abs.toRat = |value.toRat| := by
  cases value with
  | nan => simp [abs, toRat]
  | infinity negative => simp [abs, toRat]
  | finite negative units representable =>
      change (units : ℚ) / unitsPerOne = |(signed negative units : ℚ) / unitsPerOne|
      rw [abs_div, abs_of_pos units_pos, ← Int.cast_abs, Int.abs_eq_natAbs, natAbs_signed,
        Int.cast_natCast]

theorem near_add (leftFinite : left.isFinite) (rightFinite : right.isFinite)
    (within : |left.toRat + right.toRat| ≤ bound) (moderate : bound < ceiling) :
    Near (left + right) (left.toRat + right.toRat) (roundingError bound) := by
  obtain ⟨leftSign, leftUnits, leftRepresentable, rfl⟩ := exists_eq_finite leftFinite
  obtain ⟨rightSign, rightUnits, rightRepresentable, rfl⟩ := exists_eq_finite rightFinite
  refine near_of_place (place?_add_finite _ _ _ _ _ _) Nat.one_pos ?_ within moderate
  simp only [toRat]
  push_cast
  ring

theorem near_sub (leftFinite : left.isFinite) (rightFinite : right.isFinite)
    (within : |left.toRat - right.toRat| ≤ bound) (moderate : bound < ceiling) :
    Near (left - right) (left.toRat - right.toRat) (roundingError bound) := by
  rw [sub_eq_add_neg, ← toRat_neg] at within ⊢
  exact near_add leftFinite ((isFinite_neg right).trans rightFinite) within moderate

theorem near_mul (leftFinite : left.isFinite) (rightFinite : right.isFinite)
    (within : |left.toRat * right.toRat| ≤ bound) (moderate : bound < ceiling) :
    Near (left * right) (left.toRat * right.toRat) (roundingError bound) := by
  obtain ⟨leftSign, leftUnits, leftRepresentable, rfl⟩ := exists_eq_finite leftFinite
  obtain ⟨rightSign, rightUnits, rightRepresentable, rfl⟩ := exists_eq_finite rightFinite
  refine near_of_place (place?_mul_finite _ _ _ _ _ _) unitsPerOne_pos ?_ within moderate
  simp only [toRat]
  push_cast
  ring

theorem place?_div_finite (negative : Bool) (first second : Nat) (positive : 0 < second)
    (firstRepresentable : Representable first) (secondRepresentable : Representable second) :
    (finite negative first firstRepresentable / finite false second secondRepresentable).place? =
      some (roundedQuotient (signed negative first * unitsPerOne) second) := by
  have unlike : ¬ second = 0 := by omega
  change (div _ _).place? = _
  rw [div, if_neg unlike, place?_ofQuotient_signed, Bool.bne_false, signed_mul_natCast]

theorem near_div (leftFinite : left.isFinite) (rightFinite : right.isFinite)
    (positive : 0 < right) (within : |left.toRat / right.toRat| ≤ bound)
    (moderate : bound < ceiling) :
    Near (left / right) (left.toRat / right.toRat) (roundingError bound) := by
  obtain ⟨units, representable, rfl, above⟩ := eq_finite_of_pos rightFinite positive
  obtain ⟨leftSign, leftUnits, leftRepresentable, rfl⟩ := exists_eq_finite leftFinite
  refine near_of_place (place?_div_finite _ _ _ above _ _) above ?_ within moderate
  have unit := units_pos
  have divisor : (0 : ℚ) < units := by exact_mod_cast above
  simp only [toRat, signed_false]
  push_cast
  field_simp

theorem near_ofInt (whole : Int) (within : |(whole : ℚ)| ≤ bound) (moderate : bound < ceiling) :
    Near (ofInt whole) whole (roundingError bound) := by
  refine near_of_place (place?_ofInt whole) Nat.one_pos ?_ within moderate
  have unit := units_pos
  push_cast
  field_simp

theorem near_roundPlaces (places : Nat) (finite : value.isFinite)
    (within : |value.toRat| + 1 ≤ bound) (moderate : bound < ceiling) :
    Near (value.roundPlaces places) value.toRat (1 / 2 / 10 ^ places + roundingError bound) := by
  obtain ⟨negative, units, representable, rfl⟩ := exists_eq_finite finite
  have positive : 0 < Nat.pow 10 places := Nat.pow_pos (by decide)
  have power : (1 : ℚ) ≤ 10 ^ places := one_le_pow₀ (by norm_num)
  have unit := units_pos
  have whole := nearestWhole_close (signed negative units * Nat.pow 10 places) unitsPerOne_pos
  have here := place?_roundPlaces_finite places negative units representable
  generalize nearestWhole (signed negative units * Nat.pow 10 places) unitsPerOne = steps
    at whole here
  have apart : |(steps : ℚ) / 10 ^ places -
      (Binary64.finite negative units representable).toRat| ≤ 1 / 2 / 10 ^ places := by
    have quotient : (steps : ℚ) / 10 ^ places -
        (Binary64.finite negative units representable).toRat =
          (steps - ((signed negative units * (Nat.pow 10 places : Int) : Int) : ℚ) /
            unitsPerOne) / 10 ^ places := by
      rw [toRat, sub_div, Int.cast_mul, div_right_comm, Nat.pow_eq, Int.cast_natCast,
        Nat.cast_pow, Nat.cast_ofNat, mul_div_cancel_right₀ _ (by positivity)]
    rw [quotient, abs_div, abs_of_pos (by positivity : (0 : ℚ) < 10 ^ places)]
    exact div_le_div_of_nonneg_right whole (by positivity)
  have half : (1 : ℚ) / 2 / 10 ^ places ≤ 1 / 2 := div_le_self (by norm_num) power
  have size : |(steps : ℚ) / 10 ^ places| ≤ bound := by
    have between := abs_sub_abs_le_abs_sub ((steps : ℚ) / 10 ^ places)
      (Binary64.finite negative units representable).toRat
    linarith
  have near := near_of_place here positive
    (by simp only [Nat.pow_eq]; push_cast; field_simp) size moderate
  exact (near.shift apart).weaken (add_comm _ _).le

theorem round_finite (negative : Bool) (units : Nat) (representable : Representable units) :
    (finite negative units representable).round =
      .ok (nearestWhole (signed negative units) unitsPerOne) := by
  rw [nearestWhole_signed]
  rfl

theorem representable_halfEven {units : Nat} (representable : Representable units) :
    Representable (halfEven units unitsPerOne * unitsPerOne) := by
  have power : unitsPerOne = Nat.pow 2 1074 := by decide +kernel
  have room : Nat.pow 2 53 * unitsPerOne < overflow := by decide +kernel
  refine ⟨halfEven_mod_spacing power representable.1, ?_⟩
  rcases halfEven_two_pow power representable.1 with small | same
  · exact (Nat.mul_le_mul_right _ small).trans_lt room
  · exact same.trans_lt representable.2

theorem round_of_finite (finite : value.isFinite) :
    ∃ steps, value.round = .ok steps ∧ |value.toRat - steps| ≤ 1 / 2 ∧
      (ofInt steps).isFinite ∧ (ofInt steps).toRat = steps := by
  obtain ⟨negative, units, representable, rfl⟩ := exists_eq_finite finite
  have close := nearestWhole_close (signed negative units) unitsPerOne_pos
  have whole := representable_halfEven representable
  have there := place?_ofInt (nearestWhole (signed negative units) unitsPerOne)
  have product : nearestWhole (signed negative units) unitsPerOne * unitsPerOne =
      signed negative (halfEven units unitsPerOne * unitsPerOne) := by
    rw [nearestWhole_signed, signed_mul_natCast]
  rw [product, ← rounded_eq_roundedQuotient, rounded_signed _ _ whole, ← product] at there
  have stays : (ofInt (nearestWhole (signed negative units) unitsPerOne)).isFinite := by
    refine isFinite_of_place there ?_
    rw [product, natAbs_signed]
    exact whole.2
  refine ⟨nearestWhole (signed negative units) unitsPerOne, round_finite _ _ _,
    (abs_sub_comm _ _).trans_le close, stays, ?_⟩
  rw [toRat_of_place stays there, Int.cast_mul, Int.cast_natCast,
    mul_div_cancel_right₀ _ units_pos.ne']

theorem floor_of_finite (finite : value.isFinite) : value.floor = .ok ⌊value.toRat⌋ := by
  obtain ⟨negative, units, representable, rfl⟩ := exists_eq_finite finite
  rw [floor, toRat, Rat.floor_intCast_div_natCast,
    Int.fdiv_eq_ediv_of_nonneg _ (Int.natCast_nonneg _)]

/-! ### Consequences -/

theorem tiny_le : tiny ≤ 1 / 10 ^ 100 := by
  have power : (0 : ℚ) < 10 ^ 100 := by positivity
  have units : 10 ^ 100 ≤ 2 * unitsPerOne := by decide +kernel
  have units : (10 : ℚ) ^ 100 ≤ 2 * unitsPerOne := by exact_mod_cast units
  exact one_div_le_one_div_of_le power units

theorem roundingError_le {error : ℚ} (enough : bound / 2 ^ 53 + 1 / 10 ^ 100 ≤ error) :
    roundingError bound ≤ error :=
  (add_le_add_right tiny_le _).trans enough

theorem ten_pow_lt_ceiling : (10 : ℚ) ^ 220 < ceiling := by
  have units := units_pos
  have double : (0 : ℚ) < 2 * unitsPerOne := by positivity
  have room : 10 ^ 220 * (2 * unitsPerOne) < overflow := by decide +kernel
  have room : (10 : ℚ) ^ 220 * (2 * unitsPerOne) < overflow := by exact_mod_cast room
  exact (lt_div_iff₀ double).2 room

theorem lt_ceiling (moderate : bound ≤ 10 ^ 220) : bound < ceiling :=
  moderate.trans_lt ten_pow_lt_ceiling

theorem toRat_mul_tiny_le (finite : value.isFinite) : value.toRat * tiny ≤ 1 / 2 ^ 50 := by
  obtain ⟨place, here, exactly⟩ := place_of_finite finite
  have units := units_pos
  have square : (0 : ℚ) < unitsPerOne * (2 * unitsPerOne) := by positivity
  have bound : (place : ℚ) ≤ overflow := by exact_mod_cast (place_bounds here).2
  have room : overflow * 2 ^ 50 ≤ 1 * (unitsPerOne * (2 * unitsPerOne)) := by decide +kernel
  have room : (overflow : ℚ) * 2 ^ 50 ≤ 1 * (unitsPerOne * (2 * unitsPerOne)) := by
    exact_mod_cast room
  rw [exactly, tiny, div_mul_div_comm, mul_one]
  calc (place : ℚ) / (unitsPerOne * (2 * unitsPerOne))
      ≤ overflow / (unitsPerOne * (2 * unitsPerOne)) := div_le_div_of_nonneg_right bound square.le
    _ ≤ 1 / 2 ^ 50 := (div_le_div_iff₀ square (by norm_num)).2 room

theorem div_mul_close (leftFinite : left.isFinite) (rightFinite : right.isFinite)
    (positive : 0 < right) (moderate : |left.toRat / right.toRat| < ceiling) :
    (left / right).isFinite ∧
      |(left / right).toRat * right.toRat - left.toRat| ≤
        |left.toRat| / 2 ^ 53 + right.toRat * tiny := by
  have above : 0 < right.toRat := by
    rw [lt_iff_toRat rfl rightFinite, toRat_zero] at positive
    exact positive
  obtain ⟨finite, close⟩ := near_div leftFinite rightFinite positive (le_refl _) moderate
  refine ⟨finite, ?_⟩
  have product : (left / right).toRat * right.toRat - left.toRat =
      ((left / right).toRat - left.toRat / right.toRat) * right.toRat := by
    field_simp
  rw [product, abs_mul, abs_of_pos above]
  refine (mul_le_mul_of_nonneg_right close above.le).trans_eq ?_
  rw [roundingError, abs_div, abs_of_pos above]
  field_simp

theorem sub_le_roundPlaces (places : Nat) {step : Binary64} (finite : value.isFinite)
    (stepFinite : step.isFinite) (half : 1 / 2 / 10 ^ places ≤ step.toRat) :
    value - step ≤ value.roundPlaces places := by
  obtain ⟨negative, units, representable, rfl⟩ := exists_eq_finite finite
  obtain ⟨sign, stepUnits, stepRepresentable, rfl⟩ := exists_eq_finite stepFinite
  have positive : 0 < Nat.pow 10 places := Nat.pow_pos (by decide)
  have power : (0 : ℚ) < 10 ^ places := by positivity
  have unit := units_pos
  have whole := (abs_le.1 (nearestWhole_close
    (signed negative units * Nat.pow 10 places) unitsPerOne_pos)).1
  have opposite : signed (!sign) stepUnits = -signed sign stepUnits := by
    cases sign <;> simp
  refine (le_iff_place _ _).2 ⟨_, _, place?_add_finite _ _ _ _ _ _,
    place?_roundPlaces_finite _ _ _ _, ?_⟩
  rw [rounded_eq_roundedQuotient]
  refine roundedQuotient_mono Nat.one_pos positive ?_
  generalize nearestWhole (signed negative units * Nat.pow 10 places) unitsPerOne = steps
    at whole ⊢
  rw [opposite]
  simp only [toRat] at half
  simp only [Nat.pow_eq] at whole ⊢
  push_cast at whole
  have steps_ge : (signed negative units * 10 ^ places : ℚ) - unitsPerOne / 2 ≤
      steps * unitsPerOne := by
    have scaled := mul_le_mul_of_nonneg_right whole unit.le
    rw [sub_mul, div_mul_cancel₀ _ unit.ne'] at scaled
    linarith
  have half : (unitsPerOne : ℚ) / 2 ≤ signed sign stepUnits * 10 ^ places := by
    rw [div_le_div_iff₀ power unit] at half
    linarith
  have exactly : ((signed negative units + -signed sign stepUnits : Int) : ℚ) *
      10 ^ places ≤ steps * unitsPerOne := by
    push_cast
    linarith
  rw [Int.natCast_one, Int.mul_one]
  exact_mod_cast exactly

end Binary64

end CoffeeGrading
