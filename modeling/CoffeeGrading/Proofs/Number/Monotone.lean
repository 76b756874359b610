import CoffeeGrading.Proofs.Number.Arithmetic

/-!
Operations that keep order.  Where a quotient is rounded to depends on the quotient only, not on
how it is written, so that a larger one never stands below a smaller one; products with a number
above zero, whole numbers and rounding to decimal places follow.
-/

namespace CoffeeGrading

namespace Rounding

variable {numerator denominator other otherDenominator factor : Nat}

theorem halfEven_scaled (numerator denominator : Nat) (positive : 0 < factor) :
    halfEven (numerator * factor) (denominator * factor) = halfEven numerator denominator := by
  have below : 2 * (numerator % denominator * factor) < denominator * factor ↔
      2 * (numerator % denominator) < denominator := by
    rw [← Nat.mul_assoc, Nat.mul_lt_mul_right positive]
  have above : denominator * factor < 2 * (numerator % denominator * factor) ↔
      denominator < 2 * (numerator % denominator) := by
    rw [← Nat.mul_assoc, Nat.mul_lt_mul_right positive]
  simp only [halfEven, Nat.mul_div_mul_right _ _ positive, Nat.mul_mod_mul_right, below, above]

theorem nearest_scaled (numerator denominator : Nat) (positive : 0 < factor) :
    nearest (numerator * factor) (denominator * factor) = nearest numerator denominator := by
  simp only [nearest, Nat.mul_div_mul_right _ _ positive]
  rw [Nat.mul_right_comm, halfEven_scaled _ _ positive]

theorem nearest_le_nearest (positive : 0 < denominator) (otherPositive : 0 < otherDenominator)
    (ordered : numerator * otherDenominator ≤ other * denominator) :
    nearest numerator denominator ≤ nearest other otherDenominator := by
  calc nearest numerator denominator
      = nearest (numerator * otherDenominator) (denominator * otherDenominator) :=
        (nearest_scaled _ _ otherPositive).symm
    _ ≤ nearest (other * denominator) (denominator * otherDenominator) := nearest_mono _ ordered
    _ = nearest other otherDenominator := by
        rw [Nat.mul_comm denominator, nearest_scaled _ _ positive]

end Rounding

namespace Binary64

open Rounding

/-- The place of the number nearest to an exact quotient. -/
def roundedQuotient (numerator : Int) (denominator : Nat) : Int :=
  signed (numerator < 0) (min (nearest numerator.natAbs denominator) overflow)

theorem rounded_eq_roundedQuotient (place : Int) : rounded place = roundedQuotient place 1 := by
  rfl

theorem place?_ofQuotient_signed (negative : Bool) (numerator denominator : Nat) :
    (ofQuotient negative numerator denominator).place? =
      some (roundedQuotient (signed negative numerator) denominator) := by
  rw [place?_ofQuotient, roundedQuotient]
  cases negative with
  | false =>
      have sign : ¬ (numerator : Int) < 0 := by omega
      simp only [signed_false, sign, decide_false, Int.natAbs_natCast]
  | true =>
      by_cases zero : numerator = 0
      · simp [zero, nearest_zero, signed]
      · have sign : -(numerator : Int) < 0 := by omega
        simp only [signed_true, sign, decide_true, Int.natAbs_neg, Int.natAbs_natCast]

theorem roundedQuotient_mono {smaller larger : Int} {denominator otherDenominator : Nat}
    (positive : 0 < denominator) (otherPositive : 0 < otherDenominator)
    (ordered : smaller * otherDenominator ≤ larger * denominator) :
    roundedQuotient smaller denominator ≤ roundedQuotient larger otherDenominator := by
  have side (place : Int) {other : Nat} (above : 0 < other) : place * other < 0 ↔ place < 0 := by
    rcases Int.lt_or_le place 0 with below | nonnegative
    · have product := Int.mul_neg_of_neg_of_pos below (Int.natCast_pos.2 above)
      omega
    · have product := Int.mul_nonneg nonnegative (Int.natCast_nonneg other)
      omega
  have smallerSide := side smaller otherPositive
  have largerSide := side larger positive
  have magnitude (place : Int) (other : Nat) :
      place.natAbs * other = (place * (other : Int)).natAbs := by
    rw [Int.natAbs_mul, Int.natAbs_natCast]
  simp only [roundedQuotient]
  by_cases below : smaller < 0
  · by_cases under : larger < 0
    · have magnitudes : nearest larger.natAbs otherDenominator ≤
          nearest smaller.natAbs denominator := by
        refine nearest_le_nearest otherPositive positive ?_
        rw [magnitude, magnitude]
        omega
      simp only [below, under, decide_true, signed_true]
      omega
    · simp only [below, under, decide_true, decide_false, signed_true, signed_false]
      omega
  · have above : ¬ larger < 0 := by omega
    have magnitudes : nearest smaller.natAbs denominator ≤
        nearest larger.natAbs otherDenominator := by
      refine nearest_le_nearest positive otherPositive ?_
      rw [magnitude, magnitude]
      omega
    simp only [below, above, decide_false, signed_false]
    omega

theorem signed_mul (left right : Bool) (first second : Nat) :
    signed (left != right) (first * second) = signed left first * signed right second := by
  cases left <;> cases right <;>
    simp only [bne_self_eq_false, Bool.bne_false, Bool.bne_true, Bool.not_false, signed_true,
      signed_false, Int.natCast_mul, Int.neg_mul, Int.mul_neg, Int.neg_neg]

theorem signed_mul_natCast (negative : Bool) (magnitude factor : Nat) :
    signed negative (magnitude * factor) = signed negative magnitude * factor := by
  cases negative <;>
    simp only [signed_true, signed_false, Int.natCast_mul, Int.neg_mul]

theorem place?_mul_finite (left right : Bool) (first second : Nat)
    (firstRepresentable : Representable first) (secondRepresentable : Representable second) :
    (finite left first firstRepresentable * finite right second secondRepresentable).place? =
      some (roundedQuotient (signed left first * signed right second) unitsPerOne) := by
  change (mul _ _).place? = _
  rw [mul, place?_ofQuotient_signed, signed_mul]

theorem le_of_moved (change : Binary64 → Binary64) (moved : Int → Int)
    (infinite : ∀ sign, change (infinity sign) = infinity sign)
    (finite : ∀ negative units representable,
      (change (finite negative units representable)).place? =
        some (moved (signed negative units)))
    (mono : ∀ smaller larger, smaller ≤ larger → moved smaller ≤ moved larger)
    {left right : Binary64} (ordered : left ≤ right) : change left ≤ change right := by
  obtain ⟨first, second, leftPlace, rightPlace, below⟩ := (le_iff_place _ _).1 ordered
  cases left with
  | nan => simp [place?] at leftPlace
  | infinity leftSign =>
      cases leftSign with
      | false =>
          obtain rfl := eq_of_infinity_le ordered
          rw [infinite]
          exact ordered
      | true =>
          rw [infinite]
          cases right with
          | nan => simp [place?] at rightPlace
          | infinity rightSign =>
              rw [infinite]
              exact ordered
          | finite rightSign units representable =>
              have there := finite rightSign units representable
              exact (le_iff_place _ _).2 ⟨_, _, rfl, there, (place_bounds there).1⟩
  | finite leftSign units representable =>
      have here := finite leftSign units representable
      cases right with
      | nan => simp [place?] at rightPlace
      | infinity rightSign =>
          rw [infinite]
          cases rightSign with
          | false => exact (le_iff_place _ _).2 ⟨_, _, here, rfl, (place_bounds here).2⟩
          | true => cases eq_of_le_infinity ordered
      | finite rightSign otherUnits otherRepresentable =>
          obtain rfl := Option.some.inj leftPlace
          obtain rfl := Option.some.inj rightPlace
          exact (le_iff_place _ _).2
            ⟨_, _, here, finite rightSign otherUnits otherRepresentable, mono _ _ below⟩

theorem mul_le_mul_of_pos {left right factor : Binary64} (finite : factor.isFinite)
    (positive : 0 < factor) (ordered : left ≤ right) : left * factor ≤ right * factor := by
  obtain ⟨units, representable, rfl, above⟩ := eq_finite_of_pos finite positive
  have unlike : ¬ units = 0 := by omega
  refine le_of_moved (· * Binary64.finite false units representable)
    (fun place => roundedQuotient (place * signed false units) unitsPerOne)
    ?infinite (fun _ _ _ => place?_mul_finite _ _ _ _ _ _) ?mono ordered
  case infinite =>
    intro sign
    change mul _ _ = _
    rw [mul, if_neg unlike]
    cases sign <;> rfl
  case mono =>
    intro smaller larger below
    refine roundedQuotient_mono unitsPerOne_pos unitsPerOne_pos ?_
    refine Int.mul_le_mul_of_nonneg_right ?_ (Int.natCast_nonneg _)
    exact Int.mul_le_mul_of_nonneg_right below (Int.natCast_nonneg _)

theorem add_le_add_of_finite {left right value : Binary64} (finite : value.isFinite)
    (ordered : left ≤ right) : value + left ≤ value + right := by
  obtain ⟨negative, units, representable, rfl⟩ := exists_eq_finite finite
  refine le_of_moved (Binary64.finite negative units representable + ·)
    (fun place => rounded (signed negative units + place)) (fun _ => rfl)
    (fun _ _ _ => place?_add_finite _ _ _ _ _ _) ?mono ordered
  intro smaller larger below
  exact rounded_mono (Int.add_le_add_left below _)

theorem place?_ofInt (whole : Int) :
    (ofInt whole).place? = some (roundedQuotient (whole * unitsPerOne) 1) := by
  have magnitude : signed (whole < 0) (whole.natAbs * unitsPerOne) = whole * unitsPerOne := by
    by_cases below : whole < 0
    · have opposite : (whole.natAbs : Int) = -whole := by omega
      simp only [below, decide_true, signed_true, Int.natCast_mul, opposite, Int.neg_mul,
        Int.neg_neg]
    · have same : (whole.natAbs : Int) = whole := by omega
      simp only [below, decide_false, signed_false, Int.natCast_mul, same]
  rw [ofInt, place?_ofQuotient_signed, magnitude]

theorem ofInt_le_ofInt {smaller larger : Int} (ordered : smaller ≤ larger) :
    ofInt smaller ≤ ofInt larger := by
  refine (le_iff_place _ _).2 ⟨_, _, place?_ofInt _, place?_ofInt _, ?_⟩
  refine roundedQuotient_mono Nat.one_pos Nat.one_pos ?_
  refine Int.mul_le_mul_of_nonneg_right ?_ (by omega)
  exact Int.mul_le_mul_of_nonneg_right ordered (by omega)

def nearestWhole (numerator : Int) (denominator : Nat) : Int :=
  signed (numerator < 0) (halfEven numerator.natAbs denominator)

theorem nearestWhole_signed (negative : Bool) (numerator denominator : Nat) :
    nearestWhole (signed negative numerator) denominator =
      signed negative (halfEven numerator denominator) := by
  cases negative with
  | false =>
      have sign : ¬ (numerator : Int) < 0 := by omega
      simp only [nearestWhole, signed_false, sign, decide_false, Int.natAbs_natCast]
  | true =>
      by_cases zero : numerator = 0
      · simp [nearestWhole, zero, halfEven, signed]
      · have sign : -(numerator : Int) < 0 := by omega
        simp only [nearestWhole, signed_true, sign, decide_true, Int.natAbs_neg,
          Int.natAbs_natCast]

theorem nearestWhole_mono (denominator : Nat) {smaller larger : Int} (ordered : smaller ≤ larger) :
    nearestWhole smaller denominator ≤ nearestWhole larger denominator := by
  simp only [nearestWhole]
  by_cases below : smaller < 0
  · by_cases under : larger < 0
    · have magnitudes := halfEven_mono denominator (show larger.natAbs ≤ smaller.natAbs by omega)
      simp only [below, under, decide_true, signed_true]
      omega
    · simp only [below, under, decide_true, decide_false, signed_true, signed_false]
      omega
  · have above : ¬ larger < 0 := by omega
    have magnitudes := halfEven_mono denominator (show smaller.natAbs ≤ larger.natAbs by omega)
    simp only [below, above, decide_false, signed_false]
    omega

theorem place?_roundPlaces_finite (places : Nat) (negative : Bool) (units : Nat)
    (representable : Representable units) :
    ((finite negative units representable).roundPlaces places).place? =
      some (roundedQuotient
        (nearestWhole (signed negative units * Nat.pow 10 places) unitsPerOne * unitsPerOne)
        (Nat.pow 10 places)) := by
  rw [← signed_mul_natCast, nearestWhole_signed, ← signed_mul_natCast]
  exact place?_ofQuotient_signed _ _ _

theorem roundPlaces_le_roundPlaces (places : Nat) {left right : Binary64}
    (ordered : left ≤ right) : left.roundPlaces places ≤ right.roundPlaces places := by
  have positive : 0 < Nat.pow 10 places := Nat.pow_pos (by decide)
  refine le_of_moved (roundPlaces places)
    (fun place => roundedQuotient
      (nearestWhole (place * Nat.pow 10 places) unitsPerOne * unitsPerOne) (Nat.pow 10 places))
    (fun _ => rfl) (place?_roundPlaces_finite places) ?mono ordered
  intro smaller larger below
  refine roundedQuotient_mono positive positive ?_
  refine Int.mul_le_mul_of_nonneg_right ?_ (Int.natCast_nonneg _)
  refine Int.mul_le_mul_of_nonneg_right (nearestWhole_mono _ ?_) (Int.natCast_nonneg _)
  exact Int.mul_le_mul_of_nonneg_right below (Int.natCast_nonneg _)

end Binary64
end CoffeeGrading
