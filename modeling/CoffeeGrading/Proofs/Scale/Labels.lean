import CoffeeGrading.Proofs.Scale.Sound
import CoffeeGrading.Proofs.Scale.Wordings

/-!
The values behind the labels of a wording scale.  On a scale in order a label stands for one value,
however it is spelled, and the label that a score is given leads back to a value near the score.
-/

namespace CoffeeGrading.Scale

variable {options : List WordingOption}

theorem valueOf?_of_named (apart : NamesApart (options.map (·.label))) {option : WordingOption}
    (listed : option ∈ options) {text : String}
    (named : Text.nameKey text = Text.nameKey option.label) :
    valueOf? text options = some option.value := by
  have keys : (options.map fun option => Text.nameKey option.label).Nodup := by
    simpa [Function.comp_def] using apart.apart
  rw [valueOf?, named, find?_of_nodup keys listed, Option.map_some]

theorem valueOf?_eq_none (options : List WordingOption) {text : String}
    (unnamed : ∀ option ∈ options, Text.nameKey text ≠ Text.nameKey option.label) :
    valueOf? text options = none := by
  rw [valueOf?, Option.map_eq_none_iff, List.find?_eq_none]
  intro option listed same
  exact unnamed option listed (of_decide_eq_true same).symm

/-- A text with the key of a label has the value of its option; any other text has none.  The label
of a score has a value within the tolerance of the score. -/
theorem labels_lead_to_values (options : List WordingOption)
    (unflawed : (wording options).flaw? = none) :
    (∀ option ∈ options, ∀ text, Text.nameKey text = Text.nameKey option.label →
      valueOf? text options = some option.value) ∧
    (∀ text, (∀ option ∈ options, Text.nameKey text ≠ Text.nameKey option.label) →
      valueOf? text options = none) ∧
    ∀ score tolerance label, (wording options).label? score tolerance = some label →
      ∃ value, valueOf? label options = some value ∧ (value - score).abs < tolerance := by
  obtain ⟨_, apart⟩ : (wording options).Sound := (flaw?_eq_none_iff _).1 unflawed
  refine ⟨fun option listed text => valueOf?_of_named apart listed,
    fun text => valueOf?_eq_none options, ?_⟩
  intro score tolerance label labelled
  obtain ⟨before, option, after, rfl, foremost, rfl⟩ := (label?_eq_some_iff label).1 labelled
  have listed : option ∈ before ++ option :: after := by simp
  exact ⟨option.value, valueOf?_of_named apart listed rfl, foremost.chosen⟩

def sameLevels : List WordingOption := [
  { label := "Poor", value := 1, displayOrder := 2 },
  { label := " Good", value := 7, displayOrder := 1 },
  { label := "Schön", value := 7, displayOrder := 0 }]

theorem sameLevels_lead_to_values :
    (wording sameLevels).flaw? = none ∧
      (Text.nameKey "GOOD\t" = Text.nameKey " Good" ∧ valueOf? "GOOD\t" sameLevels = some 7) ∧
      ((∀ option ∈ sameLevels, Text.nameKey "Goo d" ≠ Text.nameKey option.label) ∧
        valueOf? "Goo d" sameLevels = none) ∧
      (wording sameLevels).label? 7 = some "Schön" ∧
      ∃ value, valueOf? "Schön" sameLevels = some value ∧ (value - 7).abs < defaultTolerance := by
  have unflawed : (wording sameLevels).flaw? = none := by decide +kernel
  obtain ⟨named, unnamed, near⟩ := labels_lead_to_values sameLevels unflawed
  have same : Text.nameKey "GOOD\t" = Text.nameKey " Good" := by decide +kernel
  have apart : ∀ option ∈ sameLevels, Text.nameKey "Goo d" ≠ Text.nameKey option.label := by
    decide +kernel
  have labelled : (wording sameLevels).label? 7 = some "Schön" :=
    (label?_eq_some_iff "Schön").2 ⟨[sameLevels[0], sameLevels[1]], sameLevels[2], [], rfl,
      ⟨by decide +kernel, by decide +kernel, by decide +kernel⟩, rfl⟩
  exact ⟨unflawed, ⟨same, named sameLevels[1] (by simp [sameLevels]) _ same⟩,
    ⟨apart, unnamed _ apart⟩, labelled, near 7 defaultTolerance _ labelled⟩

end CoffeeGrading.Scale
