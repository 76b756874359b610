import CoffeeGrading.Defect
import CoffeeGrading.Proofs.Limits
import CoffeeGrading.Proofs.Names

/-!
What a usable defect configuration is: there are defects, those of one category are told apart,
and neither weights nor limits are out of bounds.
-/

namespace CoffeeGrading.DefectConfiguration

structure Nonnegative (thresholds : DefectThresholds) : Prop where
  primary : ∀ most, thresholds.maxPrimary = some most → 0 ≤ most
  secondary : ∀ most, thresholds.maxSecondary = some most → 0 ≤ most
  total : ∀ most, thresholds.maxTotal = some most → 0 ≤ most

/-- Some defects; names that differ within a category; weights above zero that are not above the
limit; limits not below zero. -/
structure Sound (limits : Limits) (configuration : DefectConfiguration) : Prop where
  listed : configuration.defects ≠ []
  names : ∀ category, NamesApart ((ofCategory category configuration.defects).map (·.name))
  weights : ∀ definition ∈ configuration.defects,
    0 < definition.weight ∧ ¬ limits.maxDefectWeight < definition.weight
  thresholds : Nonnegative configuration.thresholds

theorem nameFlaw?_eq_none_iff (defects : List DefectDefinition) (category : DefectCategory) :
    nameFlaw? defects category = none ↔
      NamesApart ((ofCategory category defects).map (·.name)) := by
  rw [namesApart_map_iff]
  by_cases blank : (ofCategory category defects).any fun definition => Text.blank definition.name
  · simp [nameFlaw?, blank]
  · simp [nameFlaw?, blank]

theorem weightFlaw?_eq_none_iff (limits : Limits) (definition : DefectDefinition) :
    weightFlaw? limits definition = none ↔
      0 < definition.weight ∧ ¬ limits.maxDefectWeight < definition.weight := by
  by_cases positive : 0 < definition.weight
  · simp [weightFlaw?, positive]
  · simp [weightFlaw?, positive]

theorem thresholdFlaw?_eq_none_iff (thresholds : DefectThresholds) :
    thresholdFlaw? thresholds = none ↔ Nonnegative thresholds := by
  simp only [thresholdFlaw?, ite_eq_iff, reduceCtorEq, and_false, false_or, and_true,
    Bool.not_eq_true, none_unfit_iff]
  constructor
  · rintro ⟨primary, secondary, total⟩
    exact ⟨primary, secondary, total⟩
  · rintro ⟨primary, secondary, total⟩
    exact ⟨primary, secondary, total⟩

theorem flaw?_eq_none_iff (limits : Limits) (configuration : DefectConfiguration) :
    configuration.flaw? limits = none ↔ configuration.Sound limits := by
  by_cases unlisted : configuration.defects = []
  · constructor
    · intro flawless
      simp [flaw?, unlisted] at flawless
    · intro sound
      exact absurd unlisted sound.listed
  · simp only [flaw?, List.isEmpty_iff, unlisted, if_false, Option.or_eq_none_iff,
      nameFlaw?_eq_none_iff, List.findSome?_eq_none_iff, weightFlaw?_eq_none_iff,
      thresholdFlaw?_eq_none_iff]
    constructor
    · rintro ⟨primary, secondary, weights, thresholds⟩
      refine ⟨unlisted, ?_, weights, thresholds⟩
      intro category
      cases category with
      | primary => exact primary
      | secondary => exact secondary
    · intro sound
      exact ⟨sound.names .primary, sound.names .secondary, sound.weights, sound.thresholds⟩

end CoffeeGrading.DefectConfiguration
