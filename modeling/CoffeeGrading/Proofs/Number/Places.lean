import CoffeeGrading.Proofs.Number.Error

/-!
Rounding to decimal places twice.  A number that has been rounded to at most fifteen places is not
moved again: either decimals are further apart than neighbouring numbers, and the number nearest to
a decimal is rounded to the same decimal, or they are closer together, and the first rounding has
already changed nothing.
-/

namespace CoffeeGrading

namespace Rounding

variable {numerator denominator whole units step shift steps : Nat}

theorem halfEven_eq_of_close (positive : 0 < denominator)
    (close : |(numerator : ℚ) / denominator - whole| < 1 / 2) :
    halfEven numerator denominator = whole := by
  have rounded := halfEven_close numerator positive
  have apart : |(halfEven numerator denominator : ℚ) - whole| < 1 := by
    have between := abs_sub_le (halfEven numerator denominator : ℚ) (numerator / denominator) whole
    linarith
  have apart : |(halfEven numerator denominator : ℤ) - whole| < 1 := by exact_mod_cast apart
  have same := Int.abs_lt_one_iff.1 apart
  omega

theorem spacing_dvd_spacing {value other : Nat} (ordered : value.log2 - 52 ≤ other.log2 - 52) :
    spacing value ∣ spacing other :=
  Nat.pow_dvd_pow 2 ordered

theorem nearest_two_pow (exponent : Nat) : nearest (Nat.pow 2 exponent) 1 = Nat.pow 2 exponent := by
  have onGrid := mul_two_pow_mod_spacing 1 exponent (by decide)
  rw [Nat.one_mul] at onGrid
  exact nearest_of_mod_spacing _ onGrid

/-- Where decimals are further apart than neighbouring numbers, the number nearest to a decimal is
rounded to that decimal. -/
theorem halfEven_nearest_of_fine (positive : 0 < denominator) (stepPositive : 0 < step)
    (fine : spacing (steps * step / denominator) * denominator ≤ step) :
    halfEven (nearest (steps * step) denominator * denominator) step = steps := by
  rcases Nat.lt_or_eq_of_le fine with finer | same
  · have above : (0 : ℚ) < denominator := by exact_mod_cast positive
    have wide : (0 : ℚ) < step := by exact_mod_cast stepPositive
    have finer : (spacing (steps * step / denominator) : ℚ) * denominator < step := by
      exact_mod_cast finer
    have close := nearest_close_spacing (steps * step) positive
    have quotient : ((nearest (steps * step) denominator * denominator : Nat) : ℚ) / step - steps =
        (nearest (steps * step) denominator - ((steps * step : Nat) : ℚ) / denominator) *
          (denominator / step) := by
      push_cast
      field_simp
    refine halfEven_eq_of_close stepPositive ?_
    rw [quotient, abs_mul, abs_of_pos (div_pos above wide)]
    calc _ ≤ (spacing (steps * step / denominator) : ℚ) / 2 * (denominator / step) :=
          mul_le_mul_of_nonneg_right close (div_pos above wide).le
      _ = spacing (steps * step / denominator) * denominator / step / 2 := by ring
      _ < 1 / 2 := by
          have below := (div_lt_one wide).2 finer
          linarith
  · have onGrid : nearest (steps * step) denominator * denominator = steps * step := by
      rw [nearest, Nat.mul_comm denominator, same, halfEven_exact _ _ stepPositive, Nat.mul_assoc,
        same]
    rw [onGrid, halfEven_exact _ _ stepPositive]

/-- Where neighbouring numbers are further apart than decimals, the decimal nearest to a number
leads back to the number. -/
theorem nearest_halfEven_of_coarse (positive : 0 < denominator) (stepPositive : 0 < step)
    (rounded : steps = halfEven (units * denominator) step)
    (coarse : step < spacing (steps * step / denominator) * denominator)
    (onGrid : spacing (steps * step / denominator) ∣ units) :
    nearest (steps * step) denominator = units := by
  obtain ⟨count, whole⟩ := onGrid
  have close := halfEven_close (units * denominator) stepPositive
  rw [← rounded] at close
  have grid := spacing_pos (steps * step / denominator)
  rw [nearest]
  generalize spacing (steps * step / denominator) = spaced at coarse whole grid ⊢
  have above : (0 : ℚ) < denominator := by exact_mod_cast positive
  have wide : (0 : ℚ) < step := by exact_mod_cast stepPositive
  have apart : (0 : ℚ) < spaced := by exact_mod_cast grid
  have coarse : (step : ℚ) < spaced * denominator := by exact_mod_cast coarse
  have counted : halfEven (steps * step) (denominator * spaced) = count := by
    have quotient : ((steps * step : Nat) : ℚ) / ((denominator * spaced : Nat) : ℚ) - count =
        (steps - ((units * denominator : Nat) : ℚ) / step) * (step / (spaced * denominator)) := by
      rw [whole]
      push_cast
      field_simp
    have ratio : (0 : ℚ) < step / (spaced * denominator) := by positivity
    refine halfEven_eq_of_close (Nat.mul_pos positive grid) ?_
    rw [quotient, abs_mul, abs_of_pos ratio]
    calc _ ≤ 1 / 2 * (step / (spaced * denominator) : ℚ) :=
          mul_le_mul_of_nonneg_right close ratio.le
      _ < 1 / 2 := by
          have below := (div_lt_one (mul_pos apart above)).2 coarse
          linarith
  rw [counted, whole, Nat.mul_comm]

theorem carried_eq {exponent : Nat} (positive : 0 < denominator) (ordered : shift ≤ exponent)
    (rounded : steps = halfEven (units * denominator) (Nat.pow 2 shift))
    (below : units ≤ Nat.pow 2 exponent)
    (carried : Nat.pow 2 exponent ≤ steps * Nat.pow 2 shift / denominator) :
    steps * Nat.pow 2 shift = Nat.pow 2 exponent * denominator := by
  obtain ⟨rest, rfl⟩ := Nat.exists_eq_add_of_le ordered
  have stepPositive : 0 < Nat.pow 2 shift := Nat.pow_pos (by decide)
  refine Nat.le_antisymm ?_ ((Nat.le_div_iff_mul_le positive).1 carried)
  have whole : Nat.pow 2 (shift + rest) * denominator =
      Nat.pow 2 rest * denominator * Nat.pow 2 shift := by
    rw [two_pow_add]
    ring
  have most := halfEven_mono (Nat.pow 2 shift) (Nat.mul_le_mul_right denominator below)
  rw [whole, halfEven_exact _ _ stepPositive, ← rounded] at most
  rw [whole]
  exact Nat.mul_le_mul_right _ most

/-- The nearest decimal of the number nearest to a decimal is that decimal, as long as one step of
the decimals has fewer than 53 bits. -/
theorem halfEven_nearest_halfEven (positive : 0 < denominator) (few : denominator < Nat.pow 2 53)
    (power : step = Nat.pow 2 shift) (onGrid : units % spacing units = 0)
    (rounded : steps = halfEven (units * denominator) step) :
    halfEven (nearest (steps * step) denominator * denominator) step = steps := by
  subst power
  have stepPositive : 0 < Nat.pow 2 shift := Nat.pow_pos (by decide)
  rcases Nat.lt_or_ge (Nat.pow 2 shift)
    (spacing (steps * Nat.pow 2 shift / denominator) * denominator) with coarse | fine
  · by_cases low : (steps * Nat.pow 2 shift / denominator).log2 - 52 ≤ units.log2 - 52
    · have divides := (spacing_dvd_spacing low).trans (Nat.dvd_of_mod_eq_zero onGrid)
      rw [nearest_halfEven_of_coarse positive stepPositive rounded coarse divides, rounded]
    · generalize quotient : steps * Nat.pow 2 shift / denominator = floor at coarse low
      have nonzero : floor ≠ 0 := by
        rintro rfl
        simp at low
      have reached : Nat.pow 2 floor.log2 ≤ floor := Nat.log2_self_le nonzero
      have below : units ≤ Nat.pow 2 floor.log2 := by
        have under : units < Nat.pow 2 (units.log2 + 1) := Nat.lt_log2_self
        exact under.le.trans (Nat.pow_le_pow_right (by decide) (by omega))
      have ordered : shift ≤ floor.log2 := by
        have bound : Nat.pow 2 shift < Nat.pow 2 (floor.log2 - 52 + 53) := by
          rw [two_pow_add]
          exact coarse.trans_le (Nat.mul_le_mul_left _ few.le)
        have exponents := (Nat.pow_lt_pow_iff_right (by decide : 1 < 2)).1 bound
        omega
      have start := carried_eq positive ordered rounded below (reached.trans quotient.ge)
      have scaled := nearest_scaled (Nat.pow 2 floor.log2) 1 positive
      rw [Nat.one_mul] at scaled
      rw [start, scaled, nearest_two_pow, ← start, halfEven_exact _ _ stepPositive]
  · exact halfEven_nearest_of_fine positive stepPositive fine

end Rounding

namespace Binary64

open Rounding

theorem roundPlaces_finite (places : Nat) (negative : Bool) (units : Nat)
    (representable : Representable units) :
    (finite negative units representable).roundPlaces places =
      ofQuotient negative (halfEven (units * Nat.pow 10 places) unitsPerOne * unitsPerOne)
        (Nat.pow 10 places) := by
  rfl

theorem halfEven_nearest_places {places units : Nat} (few : Nat.pow 10 places < Nat.pow 2 53)
    (representable : Representable units) :
    halfEven (nearest (halfEven (units * Nat.pow 10 places) unitsPerOne * unitsPerOne)
      (Nat.pow 10 places) * Nat.pow 10 places) unitsPerOne =
        halfEven (units * Nat.pow 10 places) unitsPerOne := by
  have power : unitsPerOne = Nat.pow 2 1074 := by decide +kernel
  have positive : 0 < Nat.pow 10 places := Nat.pow_pos (by decide)
  exact halfEven_nearest_halfEven positive few power representable.1 rfl

theorem ofQuotient_cases (negative : Bool) (numerator denominator : Nat) :
    (∃ representable, ofQuotient negative numerator denominator =
      finite negative (nearest numerator denominator) representable) ∨
        ofQuotient negative numerator denominator = infinity negative := by
  by_cases small : nearest numerator denominator < overflow
  · exact .inl ⟨⟨nearest_mod_spacing _ _, small⟩, dif_pos small⟩
  · exact .inr (dif_neg small)

theorem roundPlaces_roundPlaces {places : Nat} (few : Nat.pow 10 places < Nat.pow 2 53)
    (value : Binary64) :
    (value.roundPlaces places).roundPlaces places = value.roundPlaces places := by
  cases value with
  | nan => rfl
  | infinity negative => rfl
  | finite negative units representable =>
      have kept := halfEven_nearest_places few representable
      rw [roundPlaces_finite]
      generalize halfEven (units * Nat.pow 10 places) unitsPerOne = steps at kept ⊢
      rcases ofQuotient_cases negative (steps * unitsPerOne) (Nat.pow 10 places) with
        ⟨fits, small⟩ | large
      · rw [small, roundPlaces_finite, kept, small]
      · rw [large]
        rfl

end Binary64
end CoffeeGrading
