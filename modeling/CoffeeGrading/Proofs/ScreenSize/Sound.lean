import CoffeeGrading.Proofs.Limits
import CoffeeGrading.Proofs.Names

/-!
What usable screen-size requirements are: screens that are told apart, each with the bounds that
its rule reads and no others where it reads none.
-/

namespace CoffeeGrading

namespace ScreenConstraint

def Bounded (limits : Limits) (constraint : ScreenConstraint) : Prop :=
  match constraint.rule with
  | .minimum => ∃ low, constraint.minValue = some low ∧ limits.Allows low
  | .maximum => ∃ high, constraint.maxValue = some high ∧ limits.Allows high
  | .range => ∃ low high, constraint.minValue = some low ∧ constraint.maxValue = some high ∧
      limits.Allows low ∧ limits.Allows high ∧ low < high
  | .any => constraint.minValue = none ∧ constraint.maxValue = none

theorem boundFlaw?_eq_none_iff (limits : Limits) (constraint : ScreenConstraint) :
    constraint.boundFlaw? limits = none ↔ constraint.Bounded limits := by
  obtain ⟨screenSize, rule, minValue, maxValue, displayOrder⟩ := constraint
  cases rule with
  | minimum =>
      cases minValue with
      | none => simp [boundFlaw?, Bounded]
      | some low => simp [boundFlaw?, Bounded, Limits.allowsPercentage_iff]
  | maximum =>
      cases maxValue with
      | none => cases minValue <;> simp [boundFlaw?, Bounded]
      | some high => cases minValue <;> simp [boundFlaw?, Bounded, Limits.allowsPercentage_iff]
  | range =>
      cases minValue with
      | none => simp [boundFlaw?, Bounded]
      | some low =>
          cases maxValue with
          | none => simp [boundFlaw?, Bounded]
          | some high =>
              by_cases lowAllowed : limits.Allows low
              · by_cases highAllowed : limits.Allows high
                · have first := (limits.allowsPercentage_iff low).2 lowAllowed
                  have second := (limits.allowsPercentage_iff high).2 highAllowed
                  simp [boundFlaw?, Bounded, first, second, lowAllowed, highAllowed]
                · have second := mt (limits.allowsPercentage_iff high).1 highAllowed
                  simp [boundFlaw?, Bounded, second, highAllowed]
              · have first := mt (limits.allowsPercentage_iff low).1 lowAllowed
                simp [boundFlaw?, Bounded, first, lowAllowed]
  | any => cases minValue <;> cases maxValue <;> simp [boundFlaw?, Bounded]

theorem flaw?_eq_none_iff (limits : Limits) (constraint : ScreenConstraint) :
    constraint.flaw? limits = none ↔
      Text.nameKey constraint.screenSize ≠ "" ∧ constraint.Bounded limits := by
  rw [Ne, Text.nameKey_eq_empty_iff, ← boundFlaw?_eq_none_iff]
  by_cases blank : Text.blank constraint.screenSize
  · simp [flaw?, blank]
  · simp [flaw?, blank]

end ScreenConstraint

namespace ScreenRequirements

/-- Screens that are told apart, each with the bounds its rule asks for. -/
structure Sound (limits : Limits) (requirements : ScreenRequirements) : Prop where
  names : NamesApart (requirements.constraints.map (·.screenSize))
  bounded : ∀ constraint ∈ requirements.constraints, constraint.Bounded limits

theorem firstRepeat?_key_eq_none_iff (constraints : List ScreenConstraint) :
    firstRepeat? ScreenConstraint.key [] constraints = none ↔
      ((constraints.map (·.screenSize)).map Text.nameKey).Nodup := by
  rw [firstRepeat?_eq_none_iff, List.map_map]
  constructor
  · exact And.left
  · intro apart
    exact ⟨apart, fun _ _ => List.not_mem_nil⟩

theorem flaw?_eq_none_iff (limits : Limits) (requirements : ScreenRequirements) :
    requirements.flaw? limits = none ↔ requirements.Sound limits := by
  have apart_iff := firstRepeat?_key_eq_none_iff requirements.constraints
  cases repeats : firstRepeat? ScreenConstraint.key [] requirements.constraints with
  | some constraint =>
      constructor
      · intro flawless
        simp [flaw?, repeats] at flawless
      · intro sound
        simp [apart_iff.2 sound.names.apart] at repeats
  | none =>
      simp only [flaw?, repeats, List.findSome?_eq_none_iff, ScreenConstraint.flaw?_eq_none_iff]
      constructor
      · intro flawless
        refine ⟨⟨?_, apart_iff.1 repeats⟩, fun constraint listed => (flawless _ listed).2⟩
        intro name member
        obtain ⟨constraint, listed, rfl⟩ := List.mem_map.1 member
        exact (flawless constraint listed).1
      · intro sound constraint listed
        exact ⟨sound.names.present _ (List.mem_map_of_mem listed), sound.bounded _ listed⟩

end ScreenRequirements
end CoffeeGrading
