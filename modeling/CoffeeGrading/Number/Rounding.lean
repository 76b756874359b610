/-!
Rounding to whole numbers and to numbers of 53 significant bits.  Every rounding of the
library goes through `halfEven`, so a value that lies exactly between two candidates always
goes to the even one.  `nearest` rounds a quotient once, from its exact value; what it
returns is on the grid of its own binade (`nearest_mod_spacing`), so rounding again changes
nothing (`nearest_of_mod_spacing`).
-/

namespace CoffeeGrading.Rounding

/-- The whole number nearest to `numerator / denominator`; a half goes to the even one. -/
def halfEven (numerator denominator : Nat) : Nat :=
  let quotient := numerator / denominator
  let remainder := numerator % denominator
  if 2 * remainder < denominator then quotient
  else if denominator < 2 * remainder then quotient + 1
  else if quotient % 2 = 0 then quotient else quotient + 1

/-- Step between neighbouring numbers of 53 significant bits, at the size of `value`. -/
def spacing (value : Nat) : Nat :=
  Nat.pow 2 (value.log2 - 52)

def nearest (numerator denominator : Nat) : Nat :=
  let step := spacing (numerator / denominator)
  halfEven numerator (denominator * step) * step

theorem spacing_pos (value : Nat) : 0 < spacing value :=
  Nat.pow_pos (by decide)

theorem halfEven_exact (whole denominator : Nat) (positive : 0 < denominator) :
    halfEven (whole * denominator) denominator = whole := by
  simp [halfEven, Nat.mul_div_cancel _ positive, positive]

theorem halfEven_ge (numerator denominator : Nat) :
    numerator / denominator ≤ halfEven numerator denominator := by
  simp only [halfEven]
  split <;> (try split) <;> (try split) <;> omega

theorem halfEven_le (numerator denominator : Nat) :
    halfEven numerator denominator ≤ numerator / denominator + 1 := by
  simp only [halfEven]
  split <;> (try split) <;> (try split) <;> omega

theorem nearest_of_mod_spacing (value : Nat) (onGrid : value % spacing value = 0) :
    nearest value 1 = value := by
  have divides := Nat.div_add_mod value (spacing value)
  rw [onGrid, Nat.add_zero, Nat.mul_comm] at divides
  have steps := halfEven_exact (value / spacing value) _ (spacing_pos value)
  rw [divides] at steps
  simp only [nearest, Nat.div_one, Nat.one_mul]
  rw [steps, divides]

theorem two_pow_add (first second : Nat) :
    Nat.pow 2 (first + second) = Nat.pow 2 first * Nat.pow 2 second :=
  Nat.pow_add 2 first second

theorem log2_mul_two_pow (value shift : Nat) (positive : 0 < value) :
    (value * Nat.pow 2 shift).log2 = value.log2 + shift := by
  have nonzero : value ≠ 0 := by omega
  have scaled : value * Nat.pow 2 shift ≠ 0 := Nat.mul_ne_zero nonzero (Nat.pos_iff_ne_zero.1
    (Nat.pow_pos (by decide)))
  rw [Nat.log2_eq_iff scaled, ← Nat.pow_eq, ← Nat.pow_eq]
  have floor := Nat.log2_self_le nonzero
  have ceiling : value < Nat.pow 2 (value.log2 + 1) := Nat.lt_log2_self
  constructor
  · rw [two_pow_add]
    exact Nat.mul_le_mul_right _ floor
  · rw [show value.log2 + shift + 1 = value.log2 + 1 + shift by omega, two_pow_add]
    exact Nat.mul_lt_mul_of_pos_right ceiling (Nat.pow_pos (by decide))

/-- Multiples of a binade's step stay on the grid, up to the first value of the next binade. -/
theorem mul_two_pow_mod_spacing (rounded shift : Nat) (small : rounded ≤ Nat.pow 2 53) :
    rounded * Nat.pow 2 shift % spacing (rounded * Nat.pow 2 shift) = 0 := by
  rcases Nat.eq_zero_or_pos rounded with zero | positive
  · simp [zero]
  · rw [spacing, log2_mul_two_pow _ _ positive]
    have nonzero : rounded ≠ 0 := by omega
    by_cases carried : rounded = Nat.pow 2 53
    · have exponent : rounded.log2 = 53 := carried ▸ Nat.log2_two_pow
      rw [exponent, carried, ← two_pow_add, show 53 + shift - 52 = shift + 1 by omega,
        show 53 + shift = shift + 1 + 52 by omega, two_pow_add (shift + 1) 52]
      exact Nat.mul_mod_right _ _
    · have bound : rounded.log2 < 53 :=
        (Nat.log2_lt nonzero).2 (Nat.lt_of_le_of_ne small carried)
      obtain ⟨rest, split⟩ :=
        Nat.exists_eq_add_of_le (show rounded.log2 + shift - 52 ≤ shift by omega)
      have power : Nat.pow 2 shift = Nat.pow 2 (rounded.log2 + shift - 52) * Nat.pow 2 rest := by
        rw [← two_pow_add, ← split]
      rw [power, Nat.mul_left_comm]
      exact Nat.mul_mod_right _ _

/-- Rounding lands on the grid of the result, also when it carries into the next binade. -/
theorem nearest_mod_spacing (numerator denominator : Nat) :
    nearest numerator denominator % spacing (nearest numerator denominator) = 0 := by
  simp only [nearest]
  generalize quotientEq : numerator / denominator = quotient
  have upper := halfEven_le numerator (denominator * spacing quotient)
  rw [← Nat.div_div_eq_div_mul, quotientEq] at upper
  generalize halfEven numerator (denominator * spacing quotient) = rounded at upper
  have fits : quotient / spacing quotient < Nat.pow 2 53 := by
    rw [Nat.div_lt_iff_lt_mul (spacing_pos _), spacing, ← two_pow_add]
    exact Nat.lt_of_lt_of_le Nat.lt_log2_self (Nat.pow_le_pow_right (by decide) (by omega))
  exact mul_two_pow_mod_spacing rounded _ (by omega)

end CoffeeGrading.Rounding
