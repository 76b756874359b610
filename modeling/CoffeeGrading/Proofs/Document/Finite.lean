import CoffeeGrading.Document.Finite

/-!
Computed records pass exactly when all their numbers are finite.
-/

namespace CoffeeGrading

theorem nonFiniteFaults_eq_nil_iff (fields : List (String × Option Binary64)) :
    nonFiniteFaults fields = [] ↔
      ∀ field ∈ fields, field.2.all Binary64.isFinite = true := by
  rw [nonFiniteFaults, List.filterMap_eq_nil_iff]
  constructor
  · intro faultless field member
    have silent := faultless field member
    by_cases finite : field.2.all Binary64.isFinite = true
    · exact finite
    · simp [finite] at silent
  · intro finite field member
    simp [finite field member]

theorem requireFinite_eq_ok_iff {Value : Type} (fields : List (String × Option Binary64))
    (value result : Value) :
    requireFinite fields value = .ok result ↔
      (∀ field ∈ fields, field.2.all Binary64.isFinite = true) ∧ value = result := by
  rw [← nonFiniteFaults_eq_nil_iff]
  cases faults : nonFiniteFaults fields with
  | nil => simp [requireFinite, faults]
  | cons fault others => simp [requireFinite, faults]

end CoffeeGrading
