import CoffeeGrading.Cupping
import CoffeeGrading.Proofs.Collected
import CoffeeGrading.ScreenSize.Distribution

/-!
When a measured sample passes.  An evaluation returns without a complaint exactly when no
constraint and no attribute on its own has one.
-/

namespace CoffeeGrading

namespace ScreenConstraint

/-- A share breaks none of the bounds that the constraint reads. -/
def Met (constraint : ScreenConstraint) (share : Binary64) : Prop :=
  match constraint.rule with
  | .minimum => ∀ low, constraint.minValue = some low → ¬ share < low
  | .maximum => ∀ high, constraint.maxValue = some high → ¬ high < share
  | .range => ∀ low high, constraint.minValue = some low → constraint.maxValue = some high →
      low ≤ share ∧ share ≤ high
  | .any => True

theorem complaint?_eq_none_iff (constraint : ScreenConstraint) (share : Binary64) :
    constraint.complaint? share = none ↔ constraint.Met share := by
  obtain ⟨screenSize, rule, minValue, maxValue, displayOrder⟩ := constraint
  cases rule with
  | minimum => cases minValue <;> simp [complaint?, Met]
  | maximum => cases minValue <;> cases maxValue <;> simp [complaint?, Met]
  | range => cases minValue <;> cases maxValue <;> simp [complaint?, Met]
  | any => simp [complaint?, Met]

theorem violation?_eq_none_iff (distribution : List (String × Binary64))
    (constraint : ScreenConstraint) :
    constraint.violation? distribution = .ok none ↔
      constraint.Met (shareOf distribution constraint.screenSize) := by
  rw [← complaint?_eq_none_iff, violation?]
  cases complaint : constraint.complaint? (shareOf distribution constraint.screenSize) with
  | none => simp
  | some message =>
      simp only [reduceCtorEq, iff_false]
      cases requireFinite [("actual", some (shareOf distribution constraint.screenSize))]
        (ScreenViolation.mk constraint (shareOf distribution constraint.screenSize) message) with
      | error faults => simp [Except.map]
      | ok violation => simp [Except.map]

end ScreenConstraint

namespace ScreenRequirements

theorem violationsOf_eq_collect (distribution : List (String × Binary64))
    (constraints : List ScreenConstraint) :
    violationsOf distribution constraints =
      collect (ScreenConstraint.violation? distribution) constraints := by
  induction constraints with
  | nil => rfl
  | cons constraint rest ih => rw [violationsOf, collect, ih]

theorem violationsOf_eq_nil_iff (distribution : List (String × Binary64))
    (constraints : List ScreenConstraint) :
    violationsOf distribution constraints = .ok [] ↔
      ∀ constraint ∈ constraints,
        constraint.Met (shareOf distribution constraint.screenSize) := by
  rw [violationsOf_eq_collect, collect_eq_nil_iff]
  simp only [ScreenConstraint.violation?_eq_none_iff]

end ScreenRequirements

namespace Cupping

theorem evaluate_eq_collect (scores : List (String × Option Binary64)) (tolerance : Binary64)
    (attributes : List CuppingAttribute) :
    evaluate attributes scores tolerance = collect (complaint? scores tolerance) attributes := by
  induction attributes with
  | nil => rfl
  | cons item rest ih => rw [evaluate, collect, ih]

theorem evaluate_eq_nil_iff (scores : List (String × Option Binary64)) (tolerance : Binary64)
    (attributes : List CuppingAttribute) :
    evaluate attributes scores tolerance = .ok [] ↔
      ∀ item ∈ attributes, complaint? scores tolerance item = .ok none := by
  rw [evaluate_eq_collect, collect_eq_nil_iff]

end Cupping
end CoffeeGrading
