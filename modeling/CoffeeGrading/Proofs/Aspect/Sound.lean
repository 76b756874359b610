import CoffeeGrading.Aspect
import CoffeeGrading.Proofs.Names

/-!
What a usable aspect configuration is.
-/

namespace CoffeeGrading.AspectConfiguration

/-- Wordings that differ in label and in value, all values within the limits, and a threshold that
is one of the values. -/
structure Sound (limits : Limits) (configuration : AspectConfiguration) : Prop where
  labels : NamesApart (configuration.wordings.map (·.label))
  values : (configuration.wordings.map (·.value)).Pairwise fun left right => (left == right) = false
  within : ∀ wording ∈ configuration.wordings,
    limits.aspectValueMin ≤ wording.value ∧ wording.value ≤ limits.aspectValueMax
  threshold : ∀ threshold, configuration.threshold = some threshold →
    ∃ wording ∈ configuration.wordings, (wording.value == threshold.minAcceptableValue) = true

theorem flaw?_eq_none_iff (limits : Limits) (configuration : AspectConfiguration) :
    configuration.flaw? limits = none ↔ configuration.Sound limits := by
  obtain ⟨wordings, threshold, notes⟩ := configuration
  have labels_iff := namesApart_map_iff AspectWording.label wordings
  have values_iff := distinct_iff_pairwise (wordings.map (·.value))
  by_cases blank : wordings.any fun wording => Text.blank wording.label
  · simp only [flaw?, blank, if_true, reduceCtorEq, false_iff]
    intro sound
    exact absurd blank (by simpa using (labels_iff.1 sound.labels).1)
  · by_cases labels : distinct (wordings.map fun wording => Text.nameKey wording.label)
    · by_cases values : distinct (wordings.map (·.value))
      · have apart : NamesApart (wordings.map (·.label)) :=
          labels_iff.2 ⟨by simpa using blank, labels⟩
        cases outside : wordings.find? fun wording =>
            ¬ (limits.aspectValueMin ≤ wording.value ∧ wording.value ≤ limits.aspectValueMax) with
        | some wording =>
            simp only [flaw?, blank, labels, values, outside, Bool.not_true, Bool.false_eq_true,
              if_false, reduceCtorEq, false_iff]
            intro sound
            have listed := List.mem_of_find?_eq_some outside
            have beyond := List.find?_some outside
            simp [sound.within wording listed] at beyond
        | none =>
            have within : ∀ wording ∈ wordings, limits.aspectValueMin ≤ wording.value ∧
                wording.value ≤ limits.aspectValueMax := by
              simpa using outside
            simp only [flaw?, blank, labels, values, outside, Bool.not_true, Bool.false_eq_true,
              if_false]
            cases threshold with
            | none => simpa using ⟨apart, values_iff.1 values, within, by simp⟩
            | some threshold =>
                by_cases matched : hasValue wordings threshold.minAcceptableValue
                · simp only [matched, if_true, true_iff]
                  refine ⟨apart, values_iff.1 values, within, ?_⟩
                  intro chosen same
                  obtain rfl := Option.some.inj same
                  simpa [hasValue] using matched
                · simp only [matched, Bool.false_eq_true, if_false, reduceCtorEq, false_iff]
                  intro sound
                  exact matched (by simpa [hasValue] using sound.threshold threshold rfl)
      · simp only [flaw?, blank, labels, values, Bool.not_true, Bool.not_false, Bool.false_eq_true,
          if_false, if_true, reduceCtorEq, false_iff]
        intro sound
        exact values (values_iff.2 sound.values)
    · simp only [flaw?, blank, labels, Bool.not_false, Bool.false_eq_true, if_false, if_true,
        reduceCtorEq, false_iff]
      intro sound
      exact labels (labels_iff.1 sound.labels).2

end CoffeeGrading.AspectConfiguration
