import CoffeeGrading.OffFlavour
import CoffeeGrading.Proofs.Limits
import CoffeeGrading.Proofs.Scale.Sound

/-!
What a usable configuration of off-flavours is: two lists of definitions, each of its own category,
and rules that can be applied together.
-/

namespace CoffeeGrading

/-- Zero tolerance stands alone; limits on counts are not below zero, those on intensities above
it. -/
structure OffFlavourRules.Sound (rules : OffFlavourRules) : Prop where
  alone : rules.isZeroTolerance = true → rules.hasLimits = false
  taints : ∀ most, rules.maxTaints = some most → 0 ≤ most
  faults : ∀ most, rules.maxFaults = some most → 0 ≤ most
  combined : ∀ most, rules.maxCombined = some most → 0 ≤ most
  taintIntensity : ∀ most, rules.maxTaintIntensity = some most → 0 < most
  faultIntensity : ∀ most, rules.maxFaultIntensity = some most → 0 < most

theorem OffFlavourRules.flaw?_eq_none_iff (rules : OffFlavourRules) :
    rules.flaw? = none ↔ rules.Sound := by
  by_cases crossed : rules.isZeroTolerance && rules.hasLimits
  · simp only [flaw?, crossed, if_true, reduceCtorEq, false_iff]
    intro sound
    rw [Bool.and_eq_true] at crossed
    exact absurd crossed.2 (by simp [sound.alone crossed.1])
  · have alone : rules.isZeroTolerance = true → rules.hasLimits = false := by
      simpa using crossed
    simp only [flaw?, crossed, ite_eq_iff, reduceCtorEq, and_false, false_or, and_true,
      Bool.false_eq_true, if_false, Bool.not_eq_true, none_unfit_iff]
    constructor
    · rintro ⟨taints, faults, combined, taintIntensity, faultIntensity⟩
      exact ⟨alone, taints, faults, combined, taintIntensity, faultIntensity⟩
    · rintro ⟨_, taints, faults, combined, taintIntensity, faultIntensity⟩
      exact ⟨taints, faults, combined, taintIntensity, faultIntensity⟩

namespace OffFlavourConfiguration

structure ListSound (list : OffFlavourCategory) (definitions : List OffFlavourDefinition) :
    Prop where
  placed : ∀ definition ∈ definitions, definition.category = list
  names : NamesApart (definitions.map (·.name))
  scales : ∀ definition ∈ definitions, definition.scale.Sound

structure Sound (configuration : OffFlavourConfiguration) : Prop where
  taints : ListSound .taint configuration.taints
  faults : ListSound .fault configuration.faults
  rules : configuration.rules.Sound

theorem listFlaw?_eq_none_iff (list : OffFlavourCategory)
    (definitions : List OffFlavourDefinition) :
    listFlaw? list definitions = none ↔ ListSound list definitions := by
  have names_iff := namesApart_map_iff OffFlavourDefinition.name definitions
  cases misplaced : definitions.find? fun definition => definition.category ≠ list with
  | some definition =>
      simp only [listFlaw?, misplaced, reduceCtorEq, false_iff]
      intro sound
      have elsewhere := List.find?_some misplaced
      simp [sound.placed _ (List.mem_of_find?_eq_some misplaced)] at elsewhere
  | none =>
      have placed : ∀ definition ∈ definitions, definition.category = list := by
        simpa using misplaced
      by_cases blank : definitions.any fun definition => Text.blank definition.name
      · simp only [listFlaw?, misplaced, blank, if_true, reduceCtorEq, false_iff]
        intro sound
        exact absurd blank (by simpa using (names_iff.1 sound.names).1)
      · by_cases apart : distinct (definitions.map fun definition => Text.nameKey definition.name)
        · simp only [listFlaw?, misplaced, blank, apart, Bool.not_true, Bool.false_eq_true,
            if_false, List.findSome?_eq_none_iff, Option.map_eq_none_iff, Scale.flaw?_eq_none_iff]
          constructor
          · intro scales
            exact ⟨placed, names_iff.2 ⟨by simpa using blank, apart⟩, scales⟩
          · intro sound
            exact sound.scales
        · simp only [listFlaw?, misplaced, blank, apart, Bool.not_false, Bool.false_eq_true,
            if_false, if_true, reduceCtorEq, false_iff]
          intro sound
          exact apart (names_iff.1 sound.names).2

theorem flaw?_eq_none_iff (configuration : OffFlavourConfiguration) :
    configuration.flaw? = none ↔ configuration.Sound := by
  rw [flaw?, Option.or_eq_none_iff, Option.or_eq_none_iff, listFlaw?_eq_none_iff,
    listFlaw?_eq_none_iff, OffFlavourRules.flaw?_eq_none_iff]
  constructor
  · rintro ⟨taints, faults, rules⟩
    exact ⟨taints, faults, rules⟩
  · rintro ⟨taints, faults, rules⟩
    exact ⟨taints, faults, rules⟩

theorem Sound.list {configuration : OffFlavourConfiguration} (sound : configuration.Sound)
    (category : OffFlavourCategory) : ListSound category (configuration.list category) := by
  cases category with
  | taint => exact sound.taints
  | fault => exact sound.faults

end OffFlavourConfiguration
end CoffeeGrading
