import CoffeeGrading.Proofs.DisplayOrder
import CoffeeGrading.Proofs.Template.Finite

/-!
Edits of screen-size requirements, which take in constraints that were read.
-/

namespace CoffeeGrading

inductive ScreenEdit where
  | add (constraint : Parsed ScreenConstraint.read)
  | remove (screenSize : String)
  | move (index direction : Int)

namespace ScreenRequirements

def perform (requirements : ScreenRequirements) : ScreenEdit → Option ScreenRequirements
  | .add constraint => (requirements.add constraint.value).toOption
  | .remove screenSize => some (requirements.remove screenSize)
  | .move index direction => (requirements.move index direction).toOption

def Finite (requirements : ScreenRequirements) : Prop :=
  ∀ constraint ∈ requirements.constraints, constraint.Finite

instance (requirements : ScreenRequirements) : Decidable requirements.Finite :=
  inferInstanceAs (Decidable (∀ constraint ∈ _, _))

theorem placeless_finite : DisplayOrder.Placeless ScreenConstraint.Finite :=
  fun _ _ finite => ⟨finite.min, finite.max⟩

theorem add_eq_ok {requirements next : ScreenRequirements} {constraint : ScreenConstraint}
    (added : requirements.add constraint = .ok next) :
    (∀ other ∈ requirements.constraints, other.key ≠ constraint.key) ∧
      next = { requirements with
        constraints := DisplayOrder.append requirements.constraints constraint } := by
  rw [add] at added
  split at added
  · cases added
  · next free => exact ⟨by simpa using free, (Except.ok.inj added).symm⟩

theorem Finite.perform {requirements next : ScreenRequirements} {edit : ScreenEdit}
    (finite : requirements.Finite) (performed : requirements.perform edit = some next) :
    next.Finite := by
  cases edit with
  | add constraint =>
      obtain ⟨_, rfl⟩ := add_eq_ok (toOption_eq_some_iff.1 performed)
      exact placeless_finite.append finite (constraint.fits ScreenConstraint.read_yields)
  | remove screenSize =>
      obtain rfl := Option.some.inj performed
      exact placeless_finite.renumber fun constraint listed =>
        finite constraint (List.mem_filter.1 listed).1
  | move index direction =>
      obtain ⟨constraints, reordered, done⟩ :=
        exists_of_bind_eq_ok (toOption_eq_some_iff.1 performed)
      obtain rfl := Except.ok.inj done
      exact placeless_finite.move finite reordered

end ScreenRequirements
end CoffeeGrading
