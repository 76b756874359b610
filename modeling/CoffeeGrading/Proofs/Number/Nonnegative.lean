import CoffeeGrading.Proofs.Number.Error

/-!
Sums and products of numbers that are not below zero.  A finite result was computed from finite
numbers, so that a finite sum bounds every sum of smaller terms, and those sums are finite too.
Terms that are zero, of either sign, leave a sum where it is.
-/

namespace CoffeeGrading.Binary64

variable {left right other more value factor : Binary64}

theorem zero_le_iff_place (value : Binary64) :
    0 ≤ value ↔ ∃ place, value.place? = some place ∧ 0 ≤ place := by
  rw [le_iff_place, place?_zero]
  simp

/-! ### Finite results -/

theorem isFinite_of_add (finite : (left + right).isFinite) : left.isFinite ∧ right.isFinite := by
  change (add left right).isFinite at finite
  cases left with
  | nan => simp [add, isFinite] at finite
  | infinity sign =>
      cases right with
      | nan => simp [add, isFinite] at finite
      | infinity other => by_cases same : sign = other <;> simp [add, isFinite, same] at finite
      | finite negative units representable => simp [add, isFinite] at finite
  | finite negative units representable =>
      cases right with
      | nan => simp [add, isFinite] at finite
      | infinity sign => simp [add, isFinite] at finite
      | finite sign addend addendRepresentable => exact ⟨rfl, rfl⟩

theorem isFinite_of_mul (finite : (left * right).isFinite) : left.isFinite ∧ right.isFinite := by
  change (mul left right).isFinite at finite
  cases left with
  | nan => simp [mul, isFinite] at finite
  | infinity sign =>
      cases right with
      | nan => simp [mul, isFinite] at finite
      | infinity other => simp [mul, isFinite] at finite
      | finite negative units representable =>
          by_cases zero : units = 0 <;> simp [mul, isFinite, zero] at finite
  | finite negative units representable =>
      cases right with
      | nan => simp [mul, isFinite] at finite
      | infinity sign => by_cases zero : units = 0 <;> simp [mul, isFinite, zero] at finite
      | finite sign multiplier multiplierRepresentable => exact ⟨rfl, rfl⟩

theorem isFinite_of_roundPlaces {places : Nat} (finite : (value.roundPlaces places).isFinite) :
    value.isFinite := by
  cases value with
  | nan => exact finite
  | infinity sign => exact finite
  | finite negative units representable => rfl

theorem isFinite_of_foldl_add {start : Binary64} {terms : List Binary64}
    (finite : (terms.foldl (· + ·) start).isFinite) :
    start.isFinite ∧ ∀ term ∈ terms, term.isFinite := by
  induction terms generalizing start with
  | nil => exact ⟨finite, by simp⟩
  | cons term rest ih =>
      obtain ⟨partly, others⟩ := ih finite
      obtain ⟨before, first⟩ := isFinite_of_add partly
      exact ⟨before, List.forall_mem_cons.2 ⟨first, others⟩⟩

theorem isFinite_of_between (nonneg : 0 ≤ value) (ordered : value ≤ more)
    (finite : more.isFinite) : value.isFinite := by
  obtain ⟨least, here, above⟩ := (zero_le_iff_place _).1 nonneg
  obtain ⟨_, most, alsoHere, there, below⟩ := (le_iff_place _ _).1 ordered
  obtain rfl := Option.some.inj (here.symm.trans alsoHere)
  refine isFinite_of_place here ?_
  obtain ⟨negative, units, representable, rfl⟩ := exists_eq_finite finite
  obtain rfl := Option.some.inj there
  have inside := place_finite_lt negative representable
  omega

/-! ### Order -/

theorem place?_add {first second : Int} (leftFinite : left.isFinite) (rightFinite : right.isFinite)
    (leftPlace : left.place? = some first) (rightPlace : right.place? = some second) :
    (left + right).place? = some (rounded (first + second)) := by
  obtain ⟨negative, units, representable, rfl⟩ := exists_eq_finite leftFinite
  obtain ⟨sign, addend, addendRepresentable, rfl⟩ := exists_eq_finite rightFinite
  obtain rfl := Option.some.inj leftPlace
  obtain rfl := Option.some.inj rightPlace
  exact place?_add_finite _ _ _ _ _ _

theorem place?_mul {first second : Int} (leftFinite : left.isFinite) (rightFinite : right.isFinite)
    (leftPlace : left.place? = some first) (rightPlace : right.place? = some second) :
    (left * right).place? = some (roundedQuotient (first * second) unitsPerOne) := by
  obtain ⟨negative, units, representable, rfl⟩ := exists_eq_finite leftFinite
  obtain ⟨sign, multiplier, multiplierRepresentable, rfl⟩ := exists_eq_finite rightFinite
  obtain rfl := Option.some.inj leftPlace
  obtain rfl := Option.some.inj rightPlace
  exact place?_mul_finite _ _ _ _ _ _

theorem rounded_place {place : Int} (finite : value.isFinite)
    (here : value.place? = some place) : rounded place = place := by
  obtain ⟨negative, units, representable, rfl⟩ := exists_eq_finite finite
  obtain rfl := Option.some.inj here
  exact rounded_signed negative units representable

theorem add_le_add (leftFinite : left.isFinite) (rightFinite : right.isFinite)
    (otherFinite : other.isFinite) (moreFinite : more.isFinite)
    (ordered : left ≤ right) (also : other ≤ more) : left + other ≤ right + more := by
  obtain ⟨first, second, leftPlace, rightPlace, below⟩ := (le_iff_place _ _).1 ordered
  obtain ⟨third, fourth, otherPlace, morePlace, under⟩ := (le_iff_place _ _).1 also
  exact (le_iff_place _ _).2 ⟨_, _, place?_add leftFinite otherFinite leftPlace otherPlace,
    place?_add rightFinite moreFinite rightPlace morePlace,
    rounded_mono (Int.add_le_add below under)⟩

theorem add_nonneg (leftFinite : left.isFinite) (rightFinite : right.isFinite)
    (nonneg : 0 ≤ left) (also : 0 ≤ right) : 0 ≤ left + right :=
  add_le_add rfl leftFinite rfl rightFinite nonneg also

theorem le_add_of_nonneg_right (leftFinite : left.isFinite) (rightFinite : right.isFinite)
    (nonneg : 0 ≤ right) : left ≤ left + right := by
  obtain ⟨first, leftPlace, _⟩ := place_of_finite leftFinite
  obtain ⟨second, rightPlace, above⟩ := (zero_le_iff_place _).1 nonneg
  refine (le_iff_place _ _).2
    ⟨_, _, leftPlace, place?_add leftFinite rightFinite leftPlace rightPlace, ?_⟩
  calc first = rounded first := (rounded_place leftFinite leftPlace).symm
    _ ≤ rounded (first + second) := rounded_mono (by omega)

theorem le_add_of_nonneg_left (leftFinite : left.isFinite) (rightFinite : right.isFinite)
    (nonneg : 0 ≤ left) : right ≤ left + right := by
  obtain ⟨second, rightPlace, _⟩ := place_of_finite rightFinite
  obtain ⟨first, leftPlace, above⟩ := (zero_le_iff_place _).1 nonneg
  refine (le_iff_place _ _).2
    ⟨_, _, rightPlace, place?_add leftFinite rightFinite leftPlace rightPlace, ?_⟩
  calc second = rounded second := (rounded_place rightFinite rightPlace).symm
    _ ≤ rounded (first + second) := rounded_mono (by omega)

theorem mul_le_mul_of_nonneg (leftFinite : left.isFinite) (rightFinite : right.isFinite)
    (factorFinite : factor.isFinite) (nonneg : 0 ≤ factor) (ordered : left ≤ right) :
    left * factor ≤ right * factor := by
  obtain ⟨first, second, leftPlace, rightPlace, below⟩ := (le_iff_place _ _).1 ordered
  obtain ⟨third, factorPlace, above⟩ := (zero_le_iff_place _).1 nonneg
  refine (le_iff_place _ _).2 ⟨_, _, place?_mul leftFinite factorFinite leftPlace factorPlace,
    place?_mul rightFinite factorFinite rightPlace factorPlace, ?_⟩
  refine roundedQuotient_mono unitsPerOne_pos unitsPerOne_pos ?_
  refine Int.mul_le_mul_of_nonneg_right ?_ (Int.natCast_nonneg _)
  exact Int.mul_le_mul_of_nonneg_right below above

theorem roundedQuotient_nonneg {numerator : Int} (nonneg : 0 ≤ numerator) (denominator : Nat) :
    0 ≤ roundedQuotient numerator denominator := by
  have sign : ¬ numerator < 0 := by omega
  simp only [roundedQuotient, sign, decide_false, signed_false]
  omega

theorem mul_nonneg (leftFinite : left.isFinite) (rightFinite : right.isFinite)
    (nonneg : 0 ≤ left) (also : 0 ≤ right) : 0 ≤ left * right := by
  obtain ⟨first, leftPlace, above⟩ := (zero_le_iff_place _).1 nonneg
  obtain ⟨second, rightPlace, beyond⟩ := (zero_le_iff_place _).1 also
  exact (zero_le_iff_place _).2 ⟨_, place?_mul leftFinite rightFinite leftPlace rightPlace,
    roundedQuotient_nonneg (Int.mul_nonneg above beyond) _⟩

theorem div_nonneg_of_pos (positive : 0 < left) (also : 0 < right)
    (finite : (left / right).isFinite) : 0 ≤ left / right := by
  change (div left right).isFinite at finite
  cases left with
  | nan => simp [div, isFinite] at finite
  | infinity sign => cases right <;> simp [div, isFinite] at finite
  | finite negative units representable =>
      obtain ⟨_, _, same, _⟩ := eq_finite_of_pos rfl positive
      cases same
      cases right with
      | nan => simp [div, isFinite] at finite
      | infinity sign =>
          refine (zero_le_iff_place _).2 ⟨0, ?_, Int.le_refl _⟩
          cases sign <;> rfl
      | finite sign divisor divisorRepresentable =>
          obtain ⟨_, _, same, above⟩ := eq_finite_of_pos rfl also
          cases same
          refine (zero_le_iff_place _).2 ⟨_, place?_div_finite _ _ _ above _ _, ?_⟩
          exact roundedQuotient_nonneg
            (Int.mul_nonneg (Int.natCast_nonneg _) (Int.natCast_nonneg _)) _

theorem roundPlaces_nonneg (places : Nat) (nonneg : 0 ≤ value) : 0 ≤ value.roundPlaces places := by
  have ordered := roundPlaces_le_roundPlaces places nonneg
  rwa [roundPlaces_zero] at ordered

theorem foldl_add_le {Entry : Type} {entries : List Entry} {fewer most : Entry → Binary64}
    {start further : Binary64} (nonneg : 0 ≤ start) (ordered : start ≤ further)
    (each : ∀ entry ∈ entries, 0 ≤ fewer entry ∧ fewer entry ≤ most entry)
    (finite : ((entries.map most).foldl (· + ·) further).isFinite) :
    0 ≤ (entries.map fewer).foldl (· + ·) start ∧
      (entries.map fewer).foldl (· + ·) start ≤ (entries.map most).foldl (· + ·) further := by
  induction entries generalizing start further with
  | nil => exact ⟨nonneg, ordered⟩
  | cons entry rest ih =>
      obtain ⟨⟨least, below⟩, others⟩ := List.forall_mem_cons.1 each
      rw [List.map_cons, List.foldl_cons] at finite
      obtain ⟨furtherFinite, mostFinite⟩ := isFinite_of_add (isFinite_of_foldl_add finite).1
      have startFinite := isFinite_of_between nonneg ordered furtherFinite
      have fewerFinite := isFinite_of_between least below mostFinite
      exact ih (add_nonneg startFinite fewerFinite nonneg least)
        (add_le_add startFinite furtherFinite fewerFinite mostFinite ordered below) others finite

theorem sum_le_sum {Entry : Type} {entries : List Entry} {fewer most : Entry → Binary64}
    (each : ∀ entry ∈ entries, 0 ≤ fewer entry ∧ fewer entry ≤ most entry)
    (finite : (sum (entries.map most)).isFinite) :
    0 ≤ sum (entries.map fewer) ∧ sum (entries.map fewer) ≤ sum (entries.map most) := by
  have zero : (0 : Binary64) ≤ 0 := le_self rfl
  exact foldl_add_le zero zero each finite

/-! ### Zeros -/

theorem beq_zero_iff_place (value : Binary64) : (value == 0) = true ↔ value.place? = some 0 := by
  rw [beq_iff_place, place?_zero]
  simp

theorem isFinite_of_beq_zero (zero : (value == 0) = true) : value.isFinite :=
  isFinite_of_place ((beq_zero_iff_place _).1 zero) overflow_pos

theorem beq_self_of_finite (finite : value.isFinite) : (value == value) = true := by
  obtain ⟨place, here, _⟩ := place_of_finite finite
  exact (beq_iff_place _ _).2 ⟨place, here, here⟩

theorem add_beq_left (finite : left.isFinite) (zero : (right == 0) = true) :
    (left + right == left) = true := by
  obtain ⟨place, here, _⟩ := place_of_finite finite
  refine (beq_iff_place _ _).2 ⟨place, ?_, here⟩
  rw [place?_add finite (isFinite_of_beq_zero zero) here ((beq_zero_iff_place _).1 zero),
    Int.add_zero, rounded_place finite here]

theorem add_beq_right (finite : right.isFinite) (zero : (left == 0) = true) :
    (left + right == right) = true := by
  obtain ⟨place, here, _⟩ := place_of_finite finite
  refine (beq_iff_place _ _).2 ⟨place, ?_, here⟩
  rw [place?_add (isFinite_of_beq_zero zero) finite ((beq_zero_iff_place _).1 zero) here,
    Int.zero_add, rounded_place finite here]

theorem mul_beq_zero (zero : (left == 0) = true) (finite : right.isFinite) :
    (left * right == 0) = true := by
  obtain ⟨place, here, _⟩ := place_of_finite finite
  rw [beq_zero_iff_place,
    place?_mul (isFinite_of_beq_zero zero) finite ((beq_zero_iff_place _).1 zero) here,
    Int.zero_mul]
  simp [roundedQuotient, Rounding.nearest_zero]

theorem roundPlaces_beq (places : Nat) (same : (left == right) = true) :
    (left.roundPlaces places == right.roundPlaces places) = true := by
  have above := roundPlaces_le_roundPlaces places (le_of_beq same)
  rw [beq_comm] at same
  exact beq_of_le_of_le (roundPlaces_le_roundPlaces places (le_of_beq same)) above

theorem foldl_add_beq {start : Binary64} {terms : List Binary64}
    (finite : (terms.foldl (· + ·) start).isFinite) (zeros : ∀ term ∈ terms, (term == 0) = true) :
    (terms.foldl (· + ·) start == start) = true := by
  induction terms generalizing start with
  | nil => exact beq_self_of_finite finite
  | cons term rest ih =>
      obtain ⟨zero, others⟩ := List.forall_mem_cons.1 zeros
      have startFinite := (isFinite_of_foldl_add finite).1
      exact beq_trans (ih finite others) (add_beq_left startFinite zero)

theorem sum_beq_of_alone {before after : List Binary64} {term : Binary64}
    (finite : (sum (before ++ term :: after)).isFinite)
    (zeros : ∀ other ∈ before ++ after, (other == 0) = true) :
    (sum (before ++ term :: after) == term) = true := by
  obtain ⟨earlier, later⟩ := List.forall_mem_append.1 zeros
  rw [sum, List.foldl_append, List.foldl_cons] at finite ⊢
  obtain ⟨startFinite, termFinite⟩ := isFinite_of_add (isFinite_of_foldl_add finite).1
  exact beq_trans (foldl_add_beq finite later)
    (add_beq_right termFinite (foldl_add_beq startFinite earlier))

end CoffeeGrading.Binary64
