import CoffeeGrading.Proofs.Defect.Totals
import CoffeeGrading.Proofs.Number.Places

/-!
What a counted defect is charged to.  Names differ within a category, but not between the two, and
a count goes by the name alone.  Where one name stands in both categories, each of them charges the
whole count to its own total.
-/

namespace CoffeeGrading

open Binary64

/-- Nothing that is listed under another name has been found. -/
def CountedAlone (defects : List DefectDefinition) (counts : List (String × Binary64))
    (name : String) : Prop :=
  ∀ definition ∈ defects, definition.name ≠ name →
    (countOf counts definition.name == 0) = true

instance (defects : List DefectDefinition) (counts : List (String × Binary64)) (name : String) :
    Decidable (CountedAlone defects counts name) :=
  inferInstanceAs (Decidable (∀ _ ∈ defects, _))

theorem defectEquivalents_beq_zero {count weight : Binary64} (zero : (count == 0) = true)
    (finite : (defectEquivalents count weight).isFinite) :
    (defectEquivalents count weight == 0) = true := by
  have weightFinite := (isFinite_of_mul (isFinite_of_roundPlaces finite)).2
  have nothing := roundPlaces_beq 2 (mul_beq_zero zero weightFinite)
  rwa [roundPlaces_zero] at nothing

def DefectDefinition.equivalents (definition : DefectDefinition)
    (counts : List (String × Binary64)) : Binary64 :=
  defectEquivalents (countOf counts definition.name) definition.weight

section

variable {defects : List DefectDefinition} {counts : List (String × Binary64)} {name : String}
  {category : DefectCategory}

theorem categoryTotal_eq_sum (defects : List DefectDefinition)
    (counts : List (String × Binary64)) (category : DefectCategory) :
    categoryTotal defects counts category =
      (sum ((ofCategory category defects).map (·.equivalents counts))).roundPlaces 2 := by
  rfl

theorem DefectDefinition.equivalents_roundPlaces (definition : DefectDefinition)
    (counts : List (String × Binary64)) :
    (definition.equivalents counts).roundPlaces 2 = definition.equivalents counts :=
  roundPlaces_roundPlaces (by decide) _

variable (alone : CountedAlone defects counts name)
  (finite : (categoryTotal defects counts category).isFinite)

include alone finite

theorem equivalents_beq_zero {definition : DefectDefinition}
    (member : definition ∈ ofCategory category defects) (other : definition.name ≠ name) :
    (definition.equivalents counts == 0) = true := by
  have uncounted := alone definition (List.mem_of_mem_filter member) other
  have terms := (isFinite_of_foldl_add (isFinite_of_roundPlaces finite)).2
  exact defectEquivalents_beq_zero uncounted (terms _ (List.mem_map_of_mem member))

theorem categoryTotal_beq_zero
    (nothing : ∀ definition ∈ ofCategory category defects, definition.name = name →
      (definition.equivalents counts == 0) = true) :
    (categoryTotal defects counts category == 0) = true := by
  have zeros : ∀ term ∈ (ofCategory category defects).map (·.equivalents counts),
      (term == 0) = true := by
    refine List.forall_mem_map.2 fun definition member => ?_
    by_cases named : definition.name = name
    · exact nothing definition member named
    · exact equivalents_beq_zero alone finite member named
  have zero := roundPlaces_beq 2 (foldl_add_beq (isFinite_of_roundPlaces finite) zeros)
  rwa [roundPlaces_zero] at zero

theorem categoryTotal_beq_equivalents
    (apart : ((ofCategory category defects).map (·.name)).Nodup) {definition : DefectDefinition}
    (member : definition ∈ ofCategory category defects) (named : definition.name = name) :
    (categoryTotal defects counts category == definition.equivalents counts) = true := by
  subst named
  have summed := isFinite_of_roundPlaces finite
  obtain ⟨before, after, split⟩ := List.append_of_mem member
  have unlike := key_ne_of_nodup (split ▸ apart)
  have zeros : ∀ term ∈ (before ++ after).map (·.equivalents counts), (term == 0) = true := by
    refine List.forall_mem_map.2 fun other listed => ?_
    have also : other ∈ ofCategory category defects := by
      rw [split]
      exact ((List.sublist_cons_self definition after).append_left before).subset listed
    exact equivalents_beq_zero alone finite also (unlike other listed)
  rw [categoryTotal_eq_sum, ← definition.equivalents_roundPlaces counts]
  rw [split, List.map_append, List.map_cons] at summed ⊢
  rw [List.map_append] at zeros
  exact roundPlaces_beq 2 (sum_beq_of_alone summed zeros)

end

namespace DefectConfiguration

/-- A defect of the category has the name, and comes to something. -/
def Charges (configuration : DefectConfiguration) (counts : List (String × Binary64))
    (name : String) (category : DefectCategory) : Prop :=
  ∃ definition ∈ ofCategory category configuration.defects, definition.name = name ∧
    (definition.equivalents counts == 0) = false

instance (configuration : DefectConfiguration) (counts : List (String × Binary64))
    (name : String) (category : DefectCategory) :
    Decidable (configuration.Charges counts name category) :=
  inferInstanceAs (Decidable (∃ _ ∈ _, _))

section

variable {limits : Limits} {configuration : DefectConfiguration}
  {counts : List (String × Binary64)} {thresholds : Option DefectThresholds}
  {evaluation : DefectEvaluation} {name : String} {category : DefectCategory}
  (unflawed : configuration.flaw? limits = none)
  (alone : CountedAlone configuration.defects counts name)
  (returned : configuration.evaluate counts thresholds = .ok evaluation)

include unflawed alone returned

theorem totalOf_beq_equivalents {definition : DefectDefinition}
    (member : definition ∈ ofCategory category configuration.defects)
    (named : definition.name = name) :
    (evaluation.totalOf (.category category) == definition.equivalents counts) = true := by
  have sound := (flaw?_eq_none_iff limits configuration).1 unflawed
  have evaluated := evaluated_of_returned returned
  rw [evaluated.totals]
  exact categoryTotal_beq_equivalents alone (evaluated.finite (.category category))
    (sound.names category).nodup member named

theorem totalOf_beq_zero_iff (category : DefectCategory) :
    (evaluation.totalOf (.category category) == 0) = true ↔
      ¬ configuration.Charges counts name category := by
  have evaluated := evaluated_of_returned returned
  constructor
  · rintro zero ⟨definition, member, named, something⟩
    have same := totalOf_beq_equivalents unflawed alone returned member named
    rw [beq_comm] at same
    simp [beq_trans same zero] at something
  · intro uncharged
    rw [evaluated.totals]
    refine categoryTotal_beq_zero alone (evaluated.finite (.category category)) ?_
    intro definition member named
    by_contra something
    exact uncharged ⟨definition, member, named, Bool.eq_false_iff.2 something⟩

end

/-- Where nothing but one name has been counted, a category total is what its own defect of the
name comes to, and zero without one.  So one of the totals is zero unless both categories list a
defect of the name that comes to something. -/
theorem charged_once_iff {limits : Limits} {configuration : DefectConfiguration}
    {counts : List (String × Binary64)} {thresholds : Option DefectThresholds}
    {evaluation : DefectEvaluation} {name : String}
    (unflawed : configuration.flaw? limits = none)
    (alone : CountedAlone configuration.defects counts name)
    (returned : configuration.evaluate counts thresholds = .ok evaluation) :
    (∀ category, ∀ definition ∈ ofCategory category configuration.defects,
      definition.name = name →
        (evaluation.totalOf (.category category) == definition.equivalents counts) = true) ∧
    (∀ category, (evaluation.totalOf (.category category) == 0) = true ↔
      ¬ configuration.Charges counts name category) ∧
    ((evaluation.primaryTotal == 0) = true ∨ (evaluation.secondaryTotal == 0) = true ↔
      ¬ (configuration.Charges counts name .primary ∧
        configuration.Charges counts name .secondary)) := by
  have zero := totalOf_beq_zero_iff unflawed alone returned
  refine ⟨?_, zero, ?_⟩
  · intro category definition member named
    exact totalOf_beq_equivalents unflawed alone returned member named
  · rw [not_and_or, ← zero, ← zero]
    rfl

theorem blackAndBroken_charged_once :
    blackAndBroken.flaw? {} = none ∧
      CountedAlone blackAndBroken.defects [("Full Black", 2)] "Full Black" ∧
      ∃ evaluation, blackAndBroken.evaluate [("Full Black", 2)] = .ok evaluation ∧
        ((evaluation.primaryTotal == 0) = true ∨ (evaluation.secondaryTotal == 0) = true) := by
  have unflawed : blackAndBroken.flaw? {} = none := by decide +kernel
  have alone : CountedAlone blackAndBroken.defects [("Full Black", 2)] "Full Black" := by
    decide +kernel
  have finite : ∀ group,
      (groupTotal blackAndBroken.defects [("Full Black", 2)] group).isFinite := by decide +kernel
  obtain ⟨evaluation, returned⟩ := exists_evaluation none finite
  have uncharged : ¬ blackAndBroken.Charges [("Full Black", 2)] "Full Black" .secondary := by
    decide +kernel
  exact ⟨unflawed, alone, evaluation, returned,
    (charged_once_iff unflawed alone returned).2.2.2 fun both => uncharged both.2⟩

def blackInBoth : DefectConfiguration where
  defects := [
    { name := "Full Black", category := .primary, weight := 1 },
    { name := "Full Black", category := .secondary, weight := 0.5 }]

theorem blackInBoth_charged_twice :
    blackInBoth.flaw? {} = none ∧
      (0 : Binary64) ≤ countOf [("Full Black", 2)] "Full Black" ∧
      CountedAlone blackInBoth.defects [("Full Black", 2)] "Full Black" ∧
      ∃ evaluation, blackInBoth.evaluate [("Full Black", 2)] = .ok evaluation ∧
        (evaluation.primaryTotal == 2) = true ∧ (evaluation.primaryTotal == 0) = false ∧
        (evaluation.secondaryTotal == 1) = true ∧ (evaluation.secondaryTotal == 0) = false := by
  have finite : ∀ group,
      (groupTotal blackInBoth.defects [("Full Black", 2)] group).isFinite := by decide +kernel
  obtain ⟨evaluation, returned⟩ := exists_evaluation none finite
  have totals := (evaluated_of_returned returned).totals
  have primary : evaluation.primaryTotal =
      categoryTotal blackInBoth.defects [("Full Black", 2)] .primary :=
    congrFun totals (.category .primary)
  have secondary : evaluation.secondaryTotal =
      categoryTotal blackInBoth.defects [("Full Black", 2)] .secondary :=
    congrFun totals (.category .secondary)
  refine ⟨by decide +kernel, by decide +kernel, by decide +kernel, evaluation, returned, ?_⟩
  rw [primary, secondary]
  decide +kernel

end DefectConfiguration
end CoffeeGrading
