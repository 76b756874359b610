import CoffeeGrading.Number.Binary64

/-!
The order of binary64 numbers, through their places on the number line.  What is not a number
stands in no relation to anything, so the order is neither reflexive nor total.
-/

namespace CoffeeGrading.Binary64

theorem compare_iff (related : Int → Int → Bool) (left right : Binary64) :
    compare related left right = true ↔
      ∃ first second, left.place? = some first ∧ right.place? = some second ∧
        related first second = true := by
  simp only [compare]
  cases leftPlace : left.place? with
  | none => simp
  | some first =>
      cases rightPlace : right.place? with
      | none => simp
      | some second => simp

theorem lt_iff_place (left right : Binary64) :
    left < right ↔
      ∃ first second, left.place? = some first ∧ right.place? = some second ∧ first < second := by
  change compare _ left right = true ↔ _
  simp [compare_iff]

theorem le_iff_place (left right : Binary64) :
    left ≤ right ↔
      ∃ first second, left.place? = some first ∧ right.place? = some second ∧ first ≤ second := by
  change compare _ left right = true ↔ _
  simp [compare_iff]

theorem not_lt_nan (value : Binary64) : ¬ value < nan := by
  rw [lt_iff_place]
  rintro ⟨_, _, _, placed, _⟩
  cases placed

theorem not_nan_lt (value : Binary64) : ¬ nan < value := by
  rw [lt_iff_place]
  rintro ⟨_, _, placed, _, _⟩
  cases placed

theorem not_le_nan (value : Binary64) : ¬ value ≤ nan := by
  rw [le_iff_place]
  rintro ⟨_, _, _, placed, _⟩
  cases placed

theorem beq_iff_place (left right : Binary64) :
    (left == right) = true ↔ ∃ place, left.place? = some place ∧ right.place? = some place := by
  change compare _ left right = true ↔ _
  rw [compare_iff]
  constructor
  · rintro ⟨first, second, leftPlace, rightPlace, same⟩
    exact ⟨first, leftPlace, by rw [rightPlace, beq_iff_eq.1 same]⟩
  · rintro ⟨place, leftPlace, rightPlace⟩
    exact ⟨place, place, leftPlace, rightPlace, by simp⟩

theorem beq_comm (left right : Binary64) : (left == right) = (right == left) := by
  rw [Bool.eq_iff_iff, beq_iff_place, beq_iff_place]
  exact exists_congr fun place => And.comm

theorem beq_self_of_number {value : Binary64} (number : value.isNan = false) :
    (value == value) = true := by
  rw [beq_iff_place]
  cases value with
  | nan => cases number
  | infinity negative => exact ⟨_, rfl, rfl⟩
  | finite negative units representable => exact ⟨_, rfl, rfl⟩

theorem beq_trans {left middle right : Binary64} (first : (left == middle) = true)
    (second : (middle == right) = true) : (left == right) = true := by
  obtain ⟨place, leftPlace, middlePlace⟩ := (beq_iff_place left middle).1 first
  obtain ⟨other, samePlace, rightPlace⟩ := (beq_iff_place middle right).1 second
  obtain rfl := Option.some.inj (middlePlace.symm.trans samePlace)
  exact (beq_iff_place left right).2 ⟨place, leftPlace, rightPlace⟩

theorem le_of_beq {left right : Binary64} (same : (left == right) = true) : right ≤ left := by
  obtain ⟨place, leftPlace, rightPlace⟩ := (beq_iff_place left right).1 same
  exact (le_iff_place right left).2 ⟨place, place, rightPlace, leftPlace, Int.le_refl _⟩

theorem beq_of_le_of_le {left right : Binary64} (below : left ≤ right) (above : right ≤ left) :
    (left == right) = true := by
  obtain ⟨first, second, leftPlace, rightPlace, ordered⟩ := (le_iff_place left right).1 below
  obtain ⟨third, fourth, againRight, againLeft, also⟩ := (le_iff_place right left).1 above
  obtain rfl := Option.some.inj (leftPlace.symm.trans againLeft)
  obtain rfl := Option.some.inj (rightPlace.symm.trans againRight)
  obtain rfl := Int.le_antisymm ordered also
  exact (beq_iff_place left right).2 ⟨_, leftPlace, rightPlace⟩

theorem placed_of_finite {value : Binary64} (finite : value.isFinite) :
    value.place?.isSome := by
  cases value with
  | nan => cases finite
  | infinity negative => cases finite
  | finite negative units representable => rfl

theorem le_self {value : Binary64} (placed : value.place?.isSome) : value ≤ value := by
  obtain ⟨place, here⟩ := Option.isSome_iff_exists.1 placed
  exact (le_iff_place value value).2 ⟨place, place, here, here, Int.le_refl _⟩

theorem le_of_lt {left right : Binary64} (below : left < right) : left ≤ right := by
  obtain ⟨first, second, leftPlace, rightPlace, ordered⟩ := (lt_iff_place left right).1 below
  exact (le_iff_place left right).2 ⟨first, second, leftPlace, rightPlace, Int.le_of_lt ordered⟩

theorem not_lt_self (value : Binary64) : ¬ value < value := by
  rw [lt_iff_place]
  rintro ⟨first, second, here, there, below⟩
  rw [here] at there
  obtain rfl := Option.some.inj there
  omega

theorem not_lt_of_le {left right : Binary64} (ordered : left ≤ right) : ¬ right < left := by
  rw [le_iff_place] at ordered
  rw [lt_iff_place]
  obtain ⟨first, second, leftPlace, rightPlace, ordered⟩ := ordered
  rintro ⟨upper, lower, upperPlace, lowerPlace, below⟩
  rw [leftPlace] at lowerPlace
  rw [rightPlace] at upperPlace
  obtain rfl := Option.some.inj lowerPlace
  obtain rfl := Option.some.inj upperPlace
  omega

theorem lt_or_le_of_place {left right : Binary64} (leftPlace : left.place?.isSome)
    (rightPlace : right.place?.isSome) : left < right ∨ right ≤ left := by
  obtain ⟨first, leftPlace⟩ := Option.isSome_iff_exists.1 leftPlace
  obtain ⟨second, rightPlace⟩ := Option.isSome_iff_exists.1 rightPlace
  rcases Int.lt_or_le first second with below | above
  · exact .inl ((lt_iff_place _ _).2 ⟨first, second, leftPlace, rightPlace, below⟩)
  · exact .inr ((le_iff_place _ _).2 ⟨second, first, rightPlace, leftPlace, above⟩)

theorem place_of_le_left {left right : Binary64} (ordered : left ≤ right) :
    left.place?.isSome := by
  obtain ⟨first, _, leftPlace, _, _⟩ := (le_iff_place _ _).1 ordered
  simp [leftPlace]

theorem place_of_le_right {left right : Binary64} (ordered : left ≤ right) :
    right.place?.isSome := by
  obtain ⟨_, second, _, rightPlace, _⟩ := (le_iff_place _ _).1 ordered
  simp [rightPlace]

theorem not_le_iff_lt {left right : Binary64} (leftPlace : left.place?.isSome)
    (rightPlace : right.place?.isSome) : ¬ right ≤ left ↔ left < right := by
  constructor
  · intro above
    exact (lt_or_le_of_place leftPlace rightPlace).resolve_right above
  · intro below ordered
    exact not_lt_of_le ordered below

theorem le_trans {left middle right : Binary64} (first : left ≤ middle) (second : middle ≤ right) :
    left ≤ right := by
  rw [le_iff_place] at first second ⊢
  obtain ⟨low, between, lowPlace, betweenPlace, below⟩ := first
  obtain ⟨between', high, samePlace, highPlace, above⟩ := second
  rw [betweenPlace] at samePlace
  obtain rfl := Option.some.inj samePlace
  exact ⟨low, high, lowPlace, highPlace, Int.le_trans below above⟩

theorem lt_of_le_of_not_le {left right : Binary64} (ordered : left ≤ right)
    (apart : ¬ right ≤ left) : left < right :=
  (not_le_iff_lt (place_of_le_left ordered) (place_of_le_right ordered)).1 apart

theorem lt_of_lt_of_le {left middle right : Binary64} (below : left < middle)
    (ordered : middle ≤ right) : left < right :=
  lt_of_le_of_not_le (le_trans (le_of_lt below) ordered) fun back =>
    not_lt_of_le (le_trans ordered back) below

theorem lt_of_le_of_lt {left middle right : Binary64} (ordered : left ≤ middle)
    (below : middle < right) : left < right :=
  lt_of_le_of_not_le (le_trans ordered (le_of_lt below)) fun back =>
    not_lt_of_le (le_trans back ordered) below

theorem lt_trans {left middle right : Binary64} (first : left < middle) (second : middle < right) :
    left < right :=
  lt_of_lt_of_le first (le_of_lt second)

end CoffeeGrading.Binary64
