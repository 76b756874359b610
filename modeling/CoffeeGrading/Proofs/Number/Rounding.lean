import CoffeeGrading.Number.Binary64

/-!
Rounding keeps order: a larger quotient never rounds to a smaller number, neither to whole numbers
nor to numbers of 53 significant bits.
-/

namespace CoffeeGrading.Rounding

theorem halfEven_mono (denominator : Nat) {smaller larger : Nat} (ordered : smaller ≤ larger) :
    halfEven smaller denominator ≤ halfEven larger denominator := by
  rcases Nat.lt_or_ge (smaller / denominator) (larger / denominator) with apart | together
  · have upper := halfEven_le smaller denominator
    have lower := halfEven_ge larger denominator
    omega
  · have quotients : smaller / denominator = larger / denominator :=
      Nat.le_antisymm (Nat.div_le_div_right ordered) together
    have smallerSplit := Nat.div_add_mod smaller denominator
    have largerSplit := Nat.div_add_mod larger denominator
    rw [quotients] at smallerSplit
    have remainders : smaller % denominator ≤ larger % denominator := by omega
    simp only [halfEven, quotients]
    repeat' split
    all_goals omega

theorem two_pow_log2_div_spacing {quotient : Nat} (large : 52 ≤ quotient.log2) :
    Nat.pow 2 quotient.log2 = Nat.pow 2 52 * spacing quotient := by
  rw [spacing, ← two_pow_add]
  congr 1
  omega

theorem two_pow_le_nearest {numerator denominator : Nat}
    (large : 52 ≤ (numerator / denominator).log2) :
    Nat.pow 2 (numerator / denominator).log2 ≤ nearest numerator denominator := by
  simp only [nearest]
  generalize quotientEq : numerator / denominator = quotient at large ⊢
  have lower := halfEven_ge numerator (denominator * spacing quotient)
  rw [← Nat.div_div_eq_div_mul, quotientEq] at lower
  rw [two_pow_log2_div_spacing large]
  refine Nat.mul_le_mul_right _ (Nat.le_trans ?_ lower)
  rw [Nat.le_div_iff_mul_le (spacing_pos quotient), ← two_pow_log2_div_spacing large]
  have nonzero : quotient ≠ 0 := by
    intro zero
    simp [zero] at large
  exact Nat.log2_self_le nonzero

theorem nearest_le_two_pow (numerator denominator : Nat) :
    nearest numerator denominator ≤ Nat.pow 2 ((numerator / denominator).log2 + 1) := by
  simp only [nearest]
  generalize quotientEq : numerator / denominator = quotient
  have upper := halfEven_le numerator (denominator * spacing quotient)
  rw [← Nat.div_div_eq_div_mul, quotientEq] at upper
  obtain ⟨steps, whole⟩ :
      ∃ steps, Nat.pow 2 (quotient.log2 + 1) = steps * spacing quotient := by
    refine ⟨Nat.pow 2 (quotient.log2 + 1 - (quotient.log2 - 52)), ?_⟩
    rw [spacing, ← two_pow_add]
    congr 1
    omega
  have below : quotient / spacing quotient < steps := by
    rw [Nat.div_lt_iff_lt_mul (spacing_pos quotient), ← whole]
    exact Nat.lt_log2_self
  rw [whole]
  exact Nat.mul_le_mul_right _ (by omega)

theorem log2_mono {smaller larger : Nat} (ordered : smaller ≤ larger) :
    smaller.log2 ≤ larger.log2 := by
  by_cases zero : smaller = 0
  · simp [zero]
  · rw [Nat.le_log2 (by omega)]
    exact Nat.le_trans (Nat.log2_self_le zero) ordered

theorem nearest_mono (denominator : Nat) {smaller larger : Nat} (ordered : smaller ≤ larger) :
    nearest smaller denominator ≤ nearest larger denominator := by
  have quotients := log2_mono (Nat.div_le_div_right (c := denominator) ordered)
  by_cases coarser : spacing (smaller / denominator) = spacing (larger / denominator)
  · simp only [nearest, coarser]
    exact Nat.mul_le_mul_right _ (halfEven_mono _ ordered)
  · -- Different grids belong to different binades, and the start of the upper one lies between.
    have apart : (smaller / denominator).log2 < (larger / denominator).log2 ∧
        52 ≤ (larger / denominator).log2 := by
      by_cases low : (larger / denominator).log2 ≤ 52
      · exact absurd (by simp only [spacing]; congr 1; omega) coarser
      · refine ⟨Nat.lt_of_le_of_ne quotients ?_, by omega⟩
        intro same
        exact coarser (by simp only [spacing, same])
    calc nearest smaller denominator
        ≤ Nat.pow 2 ((smaller / denominator).log2 + 1) := nearest_le_two_pow _ _
      _ ≤ Nat.pow 2 (larger / denominator).log2 := Nat.pow_le_pow_right (by decide) apart.1
      _ ≤ nearest larger denominator := two_pow_le_nearest apart.2

theorem nearest_zero (denominator : Nat) : nearest 0 denominator = 0 := by
  simp [nearest, halfEven, spacing]

end CoffeeGrading.Rounding
