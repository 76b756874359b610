import CoffeeGrading.Number.Places
import CoffeeGrading.Proofs.Number.Order
import CoffeeGrading.Proofs.Number.Rounding

/-!
Rounded sums and differences on the number line.  A sum is the exact sum of two places moved to the
grid, and that keeps order and leaves numbers where they are, so adding something above zero never
leads below.  The laws of zero that need no rounding stand at the end.
-/

namespace CoffeeGrading.Binary64

open Rounding

/-! ### Places of rounded results -/

@[simp] theorem signed_false (magnitude : Nat) : signed false magnitude = magnitude := by
  rfl

@[simp] theorem signed_true (magnitude : Nat) : signed true magnitude = -magnitude := by
  rfl

/-- The place of the number nearest to an exact place; what is too large stands at infinity. -/
def rounded (place : Int) : Int :=
  signed (place < 0) (min (nearest place.natAbs 1) overflow)

theorem place?_ofQuotient (negative : Bool) (numerator denominator : Nat) :
    (ofQuotient negative numerator denominator).place? =
      some (signed negative (min (nearest numerator denominator) overflow)) := by
  simp only [ofQuotient]
  split
  · rename_i small
    rw [Nat.min_eq_left (Nat.le_of_lt small)]
    rfl
  · rename_i large
    rw [Nat.min_eq_right (Nat.le_of_not_lt large)]
    rfl

theorem rounded_mono {smaller larger : Int} (ordered : smaller ≤ larger) :
    rounded smaller ≤ rounded larger := by
  simp only [rounded]
  by_cases below : smaller < 0
  · by_cases under : larger < 0
    · have magnitudes := nearest_mono 1 (show larger.natAbs ≤ smaller.natAbs by omega)
      simp only [below, under, decide_true, signed_true]
      omega
    · simp only [below, under, decide_true, decide_false, signed_true, signed_false]
      omega
  · have above : ¬ larger < 0 := by omega
    have magnitudes := nearest_mono 1 (show smaller.natAbs ≤ larger.natAbs by omega)
    simp only [below, above, decide_false, signed_false]
    omega

theorem rounded_signed (negative : Bool) (units : Nat) (representable : Representable units) :
    rounded (signed negative units) = signed negative units := by
  have exact := nearest_of_mod_spacing units representable.1
  have below := representable.2
  cases negative with
  | false =>
      have sign : ¬ (units : Int) < 0 := by omega
      simp only [rounded, signed_false, sign, decide_false, Int.natAbs_natCast, exact,
        Nat.min_eq_left (Nat.le_of_lt below)]
  | true =>
      by_cases zero : units = 0
      · subst zero
        simp [rounded, signed, nearest_zero]
      · have sign : -(units : Int) < 0 := by omega
        simp only [rounded, signed_true, sign, decide_true, Int.natAbs_neg, Int.natAbs_natCast,
          exact, Nat.min_eq_left (Nat.le_of_lt below)]

theorem place?_finite (negative : Bool) (units : Nat) (representable : Representable units) :
    (finite negative units representable).place? = some (signed negative units) := by
  rfl

theorem place?_add_finite (leftNegative rightNegative : Bool) (left right : Nat)
    (leftRepresentable : Representable left) (rightRepresentable : Representable right) :
    (finite leftNegative left leftRepresentable +
      finite rightNegative right rightRepresentable).place? =
        some (rounded (signed leftNegative left + signed rightNegative right)) := by
  change (add _ _).place? = _
  simp only [add]
  generalize signed leftNegative left + signed rightNegative right = sum
  by_cases zero : sum = 0
  · subst zero
    simp only [if_true, signedZero, place?_finite, rounded, Int.natAbs_zero, nearest_zero]
    cases leftNegative && rightNegative <;> simp [signed]
  · simp only [zero, if_false, place?_ofQuotient, rounded]

theorem place?_neg (value : Binary64) : (-value).place? = value.place?.map (- ·) := by
  change (neg value).place? = _
  cases value with
  | nan => rfl
  | infinity negative =>
      cases negative <;> simp only [neg, place?, signed_true, signed_false, Bool.not_true,
        Bool.not_false, Option.map_some, Int.neg_neg]
  | finite negative units representable =>
      cases negative <;> simp only [neg, place?, signed_true, signed_false, Bool.not_true,
        Bool.not_false, Option.map_some, Int.neg_neg]

theorem neg_le_neg {left right : Binary64} (ordered : left ≤ right) : -right ≤ -left := by
  obtain ⟨first, second, leftPlace, rightPlace, ordered⟩ := (le_iff_place _ _).1 ordered
  exact (le_iff_place _ _).2
    ⟨-second, -first, by simp [place?_neg, rightPlace], by simp [place?_neg, leftPlace], by omega⟩

/-! ### Adding and taking away something above zero -/

theorem zero_eq : (0 : Binary64) = signedZero false := by
  rfl

theorem place?_zero : (0 : Binary64).place? = some 0 := by
  rfl

theorem zero_lt_iff_place (value : Binary64) :
    0 < value ↔ ∃ place, value.place? = some place ∧ 0 < place := by
  rw [lt_iff_place, place?_zero]
  simp

theorem place_finite_lt (negative : Bool) {units : Nat} (representable : Representable units) :
    -overflow < signed negative units ∧ signed negative units < overflow := by
  have below := representable.2
  cases negative <;> simp only [signed_true, signed_false] <;> omega

theorem place_bounds {value : Binary64} {place : Int} (here : value.place? = some place) :
    -overflow ≤ place ∧ place ≤ overflow := by
  cases value with
  | nan => simp [place?] at here
  | infinity negative =>
      obtain rfl := Option.some.inj here
      cases negative <;> simp only [signed_true, signed_false] <;> omega
  | finite negative units representable =>
      obtain rfl := Option.some.inj here
      have inside := place_finite_lt negative representable
      omega

theorem place?_infinity_add (negative : Bool) {value : Binary64} {place : Int}
    (here : (infinity negative + value).place? = some place) :
    place = signed negative overflow := by
  cases value with
  | nan => simp [show infinity negative + nan = nan from rfl, place?] at here
  | infinity sign =>
      by_cases same : negative = sign
      · rw [show infinity negative + infinity sign = infinity negative from if_pos same] at here
        exact (Option.some.inj here).symm
      · rw [show infinity negative + infinity sign = nan from if_neg same] at here
        simp [place?] at here
  | finite sign units representable => exact (Option.some.inj here).symm

theorem place?_finite_add_infinity (negative sign : Bool) (units : Nat)
    (representable : Representable units) :
    (finite negative units representable + infinity sign).place? =
      some (signed sign overflow) := by
  rfl

theorem add_mono (value : Binary64) {left right : Binary64} (ordered : left ≤ right)
    {lower upper : Int} (lowerPlace : (value + left).place? = some lower)
    (upperPlace : (value + right).place? = some upper) : lower ≤ upper := by
  obtain ⟨first, second, leftPlace, rightPlace, ordered⟩ := (le_iff_place _ _).1 ordered
  have lowerBounds := place_bounds lowerPlace
  have upperBounds := place_bounds upperPlace
  cases value with
  | nan => simp [show nan + left = nan from rfl, place?] at lowerPlace
  | infinity negative =>
      have same := place?_infinity_add negative lowerPlace
      have also := place?_infinity_add negative upperPlace
      omega
  | finite negative units representable =>
      cases left with
      | nan => simp [place?] at leftPlace
      | infinity leftSign =>
          rw [place?_finite_add_infinity] at lowerPlace
          obtain rfl := Option.some.inj lowerPlace
          obtain rfl := Option.some.inj leftPlace
          cases right with
          | nan => simp [place?] at rightPlace
          | infinity rightSign =>
              rw [place?_finite_add_infinity] at upperPlace
              obtain rfl := Option.some.inj upperPlace
              obtain rfl := Option.some.inj rightPlace
              exact ordered
          | finite rightSign added addedRepresentable =>
              obtain rfl := Option.some.inj rightPlace
              have inside := place_finite_lt rightSign addedRepresentable
              cases leftSign with
              | false => exact absurd ordered (by rw [signed_false]; omega)
              | true => exact upperBounds.1
      | finite leftSign removed removedRepresentable =>
          obtain rfl := Option.some.inj leftPlace
          cases right with
          | nan => simp [place?] at rightPlace
          | infinity rightSign =>
              obtain rfl := Option.some.inj rightPlace
              rw [place?_finite_add_infinity] at upperPlace
              obtain rfl := Option.some.inj upperPlace
              have inside := place_finite_lt leftSign removedRepresentable
              cases rightSign with
              | false => exact lowerBounds.2
              | true => exact absurd ordered (by rw [signed_true]; omega)
          | finite rightSign added addedRepresentable =>
              obtain rfl := Option.some.inj rightPlace
              rw [place?_add_finite] at lowerPlace upperPlace
              obtain rfl := Option.some.inj lowerPlace
              obtain rfl := Option.some.inj upperPlace
              exact rounded_mono (by omega)

theorem nan_add (value : Binary64) : nan + value = nan := by
  rfl

theorem add_nan (value : Binary64) : value + nan = nan := by
  cases value <;> rfl

theorem place?_add_eq_none_iff (value added : Binary64) :
    (value + added).place? = none ↔
      value = nan ∨ added = nan ∨ ∃ sign, value = infinity sign ∧ added = infinity !sign := by
  cases value with
  | nan => simp [nan_add, place?]
  | infinity sign =>
      cases added with
      | nan => simp [add_nan, place?]
      | infinity other =>
          by_cases same : sign = other
          · rw [show infinity sign + infinity other = infinity sign from if_pos same]
            simp [place?, same]
          · rw [show infinity sign + infinity other = nan from if_neg same]
            simpa [place?] using Bool.eq_not_of_ne (Ne.symm same)
      | finite negative units representable =>
          rw [show infinity sign + finite negative units representable = infinity sign from rfl]
          simp [place?]
  | finite negative units representable =>
      cases added with
      | nan => simp [add_nan, place?]
      | infinity other => simp [place?_finite_add_infinity]
      | finite sign addend addendRepresentable => simp [place?_add_finite]

theorem eq_infinity_of_place {value : Binary64} {sign : Bool}
    (here : value.place? = some (signed sign overflow)) : value = infinity sign := by
  cases value with
  | nan => simp [place?] at here
  | infinity other =>
      have positive := overflow_pos
      have here := Option.some.inj here
      cases sign <;> cases other <;> simp only [signed_true, signed_false] at here
      · rfl
      · omega
      · omega
      · rfl
  | finite negative units representable =>
      have inside := place_finite_lt negative representable
      have here := Option.some.inj here
      cases sign <;> simp only [signed_true, signed_false] at here <;> omega

theorem eq_of_le_infinity {value : Binary64} (least : value ≤ infinity true) :
    value = infinity true := by
  obtain ⟨place, lowest, here, there, ordered⟩ := (le_iff_place _ _).1 least
  have bounds := place_bounds here
  obtain rfl := Option.some.inj there
  rw [signed_true] at ordered
  exact eq_infinity_of_place (here.trans (congrArg some (by rw [signed_true]; omega)))

theorem eq_of_infinity_le {value : Binary64} (most : infinity false ≤ value) :
    value = infinity false := by
  obtain ⟨highest, place, there, here, ordered⟩ := (le_iff_place _ _).1 most
  have bounds := place_bounds here
  obtain rfl := Option.some.inj there
  rw [signed_false] at ordered
  exact eq_infinity_of_place (here.trans (congrArg some (by rw [signed_false]; omega)))

theorem ne_nan_of_place {value : Binary64} {place : Int} (here : value.place? = some place) :
    value ≠ nan := by
  rintro rfl
  simp [place?] at here

theorem lt_add_of_lt_add {value left right number : Binary64} (ordered : left ≤ right)
    (below : number < value + left) : number < value + right := by
  obtain ⟨place, lower, numberPlace, lowerPlace, under⟩ := (lt_iff_place _ _).1 below
  cases upperPlace : (value + right).place? with
  | some upper =>
      have above := add_mono value ordered lowerPlace upperPlace
      exact (lt_iff_place _ _).2 ⟨place, upper, numberPlace, upperPlace, by omega⟩
  | none =>
      exfalso
      rcases (place?_add_eq_none_iff value right).1 upperPlace with rfl | rfl | ⟨sign, rfl, rfl⟩
      · exact ne_nan_of_place lowerPlace (nan_add left)
      · have placed := place_of_le_right ordered
        simp [place?] at placed
      · have here := place?_infinity_add sign lowerPlace
        have bounds := place_bounds numberPlace
        cases sign with
        | true =>
            rw [signed_true] at here
            omega
        | false =>
            obtain rfl := eq_of_le_infinity ordered
            exact ne_nan_of_place lowerPlace rfl

theorem add_lt_of_add_lt {value left right number : Binary64} (ordered : left ≤ right)
    (above : value + right < number) : value + left < number := by
  obtain ⟨upper, place, upperPlace, numberPlace, beyond⟩ := (lt_iff_place _ _).1 above
  cases lowerPlace : (value + left).place? with
  | some lower =>
      have below := add_mono value ordered lowerPlace upperPlace
      exact (lt_iff_place _ _).2 ⟨lower, place, lowerPlace, numberPlace, by omega⟩
  | none =>
      exfalso
      rcases (place?_add_eq_none_iff value left).1 lowerPlace with rfl | rfl | ⟨sign, rfl, rfl⟩
      · exact ne_nan_of_place upperPlace (nan_add right)
      · have placed := place_of_le_left ordered
        simp [place?] at placed
      · have here := place?_infinity_add sign upperPlace
        have bounds := place_bounds numberPlace
        cases sign with
        | false =>
            rw [signed_false] at here
            omega
        | true =>
            obtain rfl := eq_of_infinity_le ordered
            exact ne_nan_of_place upperPlace rfl

theorem place?_add_zero (value : Binary64) : (value + 0).place? = value.place? := by
  cases value with
  | nan => rfl
  | infinity negative => rfl
  | finite negative units representable =>
      rw [zero_eq, signedZero, place?_add_finite, place?_finite, signed_false, Int.natCast_zero,
        Int.add_zero, rounded_signed negative units representable]

theorem not_add_lt {step : Binary64} (positive : 0 < step) (value : Binary64) :
    ¬ value + step < value := by
  obtain ⟨place, stepPlace, positive⟩ := (zero_lt_iff_place step).1 positive
  rw [lt_iff_place]
  rintro ⟨sum, start, sumPlace, startPlace, below⟩
  have ordered : (0 : Binary64) ≤ step :=
    (le_iff_place _ _).2 ⟨0, place, place?_zero, stepPlace, Int.le_of_lt positive⟩
  have above := add_mono value ordered (place?_add_zero value ▸ startPlace) sumPlace
  omega

theorem not_lt_sub {step : Binary64} (positive : 0 < step) (value : Binary64) :
    ¬ value < value - step := by
  obtain ⟨place, stepPlace, positive⟩ := (zero_lt_iff_place step).1 positive
  rw [lt_iff_place]
  rintro ⟨start, difference, startPlace, differencePlace, above⟩
  have ordered : -step ≤ 0 :=
    (le_iff_place _ _).2 ⟨-place, 0, by simp [place?_neg, stepPlace], place?_zero, by omega⟩
  have below := add_mono value ordered differencePlace (place?_add_zero value ▸ startPlace)
  omega

/-! ### Laws of zero -/

theorem ofQuotient_zero (negative : Bool) (denominator : Nat) :
    ofQuotient negative 0 denominator = signedZero negative := by
  have small : nearest 0 denominator < overflow := by
    rw [nearest_zero]
    exact overflow_pos
  rw [ofQuotient, dif_pos small, signedZero]
  congr 1
  exact nearest_zero denominator

theorem exists_eq_finite {value : Binary64} (finite : value.isFinite) :
    ∃ negative units representable, value = .finite negative units representable := by
  cases value with
  | nan => simp [isFinite] at finite
  | infinity negative => simp [isFinite] at finite
  | finite negative units representable => exact ⟨negative, units, representable, rfl⟩

theorem eq_finite_of_pos {value : Binary64} (finite : value.isFinite) (positive : 0 < value) :
    ∃ units representable, value = .finite false units representable ∧ 0 < units := by
  obtain ⟨place, here, above⟩ := (zero_lt_iff_place value).1 positive
  obtain ⟨negative, units, representable, rfl⟩ := exists_eq_finite finite
  obtain rfl := Option.some.inj here
  cases negative with
  | true =>
      rw [signed_true] at above
      omega
  | false =>
      rw [signed_false] at above
      exact ⟨units, representable, rfl, by omega⟩

theorem sub_self_of_finite {value : Binary64} (finite : value.isFinite) : value - value = 0 := by
  obtain ⟨negative, units, representable, rfl⟩ := exists_eq_finite finite
  have cancelled : signed negative units + signed (!negative) units = 0 := by
    cases negative <;> simp only [signed_true, signed_false, Bool.not_true, Bool.not_false] <;>
      omega
  change add (.finite negative units representable)
    (.finite (!negative) units representable) = 0
  simp [add, cancelled, zero_eq]

theorem zero_div_of_pos {value : Binary64} (finite : value.isFinite) (positive : 0 < value) :
    0 / value = 0 := by
  obtain ⟨units, representable, rfl, above⟩ := eq_finite_of_pos finite positive
  change div (signedZero false) (.finite false units representable) = 0
  have nonzero : units ≠ 0 := by omega
  simp [div, signedZero, nonzero, ofQuotient_zero, zero_eq]

theorem zero_mul_of_pos {value : Binary64} (finite : value.isFinite) (positive : 0 < value) :
    0 * value = 0 := by
  obtain ⟨units, representable, rfl, above⟩ := eq_finite_of_pos finite positive
  change mul (signedZero false) (.finite false units representable) = 0
  simp [mul, signedZero, ofQuotient_zero, zero_eq]

theorem zero_add_zero : (0 : Binary64) + 0 = 0 := by
  rfl

theorem sum_eq_zero {terms : List Binary64} (zero : ∀ term ∈ terms, term = 0) :
    sum terms = 0 := by
  rw [sum]
  induction terms with
  | nil => rfl
  | cons term rest ih =>
      rw [List.forall_mem_cons] at zero
      rw [List.foldl_cons, zero.1, zero_add_zero]
      exact ih zero.2

theorem abs_zero : (0 : Binary64).abs = 0 := by
  rfl

theorem ofInt_zero : ofInt 0 = 0 := by
  simp [ofInt, ofQuotient_zero, zero_eq]

theorem round_zero : (0 : Binary64).round = .ok 0 := by
  simp [zero_eq, signedZero, round, halfEven, unitsPerOne_pos]

theorem roundPlaces_zero (places : Nat) : (0 : Binary64).roundPlaces places = 0 := by
  simp [zero_eq, signedZero, roundPlaces, halfEven, unitsPerOne_pos, ofQuotient_zero]

theorem sub_nan (value : Binary64) : value - nan = nan :=
  add_nan value

theorem nan_mul (value : Binary64) : nan * value = nan := by
  rfl

theorem abs_nan : nan.abs = nan := by
  rfl

theorem roundPlaces_nan (places : Nat) : nan.roundPlaces places = nan := by
  rfl

theorem foldl_add_nan (terms : List Binary64) : terms.foldl (· + ·) nan = nan := by
  induction terms with
  | nil => rfl
  | cons term rest ih => rw [List.foldl_cons, nan_add, ih]

theorem sum_eq_nan {terms : List Binary64} (listed : nan ∈ terms) : sum terms = nan := by
  obtain ⟨before, after, rfl⟩ := List.append_of_mem listed
  rw [sum, List.foldl_append, List.foldl_cons, add_nan, foldl_add_nan]

end CoffeeGrading.Binary64
