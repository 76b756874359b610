import CoffeeGrading.ScreenSize

/-!
Values and limits that need not be set.  The checks look for a value that does not fit; they find
none exactly when whatever is set fits.
-/

namespace CoffeeGrading

theorem none_unfit_iff {Value : Type} (Fits : Value → Prop) [DecidablePred Fits]
    (value : Option Value) :
    (value.any fun given => ¬ Fits given) = false ↔ ∀ given, value = some given → Fits given := by
  cases value with
  | none => simp
  | some given => simp

def Limits.Allows (limits : Limits) (share : Binary64) : Prop :=
  limits.percentageMin ≤ share ∧ share ≤ limits.percentageMax

theorem Limits.allowsPercentage_iff (limits : Limits) (share : Binary64) :
    limits.allowsPercentage share = true ↔ limits.Allows share := by
  simp [allowsPercentage, Allows]

end CoffeeGrading
