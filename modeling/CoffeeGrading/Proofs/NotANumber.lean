import CoffeeGrading.Aspect
import CoffeeGrading.Proofs.Defect.Totals
import CoffeeGrading.Proofs.Passing
import CoffeeGrading.Proofs.ScreenSize.Sound
import CoffeeGrading.Proofs.Template.Written

/-!
Measurements that are not numbers.  A limit that is passed by what is within it refuses them, and so
does everything that is computed from them; a limit that is broken by what is beyond it does not
notice them.
-/

namespace CoffeeGrading

open Binary64

/-! ### Screens -/

theorem ScreenConstraint.met_nan_iff {limits : Limits} {constraint : ScreenConstraint}
    (bounded : constraint.Bounded limits) : constraint.Met nan ↔ constraint.rule ≠ .range := by
  obtain ⟨screenSize, rule, minValue, maxValue, displayOrder⟩ := constraint
  cases rule with
  | minimum => simp [Met, not_nan_lt]
  | maximum => simp [Met, not_lt_nan]
  | range =>
      obtain ⟨low, high, rfl, rfl, _⟩ := bounded
      simp [Met, not_le_nan]
  | any => simp [Met]

/-! ### Scores -/

theorem Scale.accepts_nan (scale : Scale) (tolerance : Binary64) :
    scale.accepts nan tolerance ≠ .ok true := by
  cases scale with
  | numeric range =>
      have uncounted : ((nan - range.min) / range.increment).round = .error .notANumber := rfl
      simp only [accepts, uncounted, bind, Except.bind]
      split
      · simp
      · split <;> simp
  | wording options => simp [accepts, within, sub_nan, abs_nan, not_nan_lt]

theorem Cupping.complaint?_nan {scores : List (String × Option Binary64)} (tolerance : Binary64)
    {item : CuppingAttribute} (scored : scoreOf scores item.name = some nan) :
    complaint? scores tolerance item ≠ .ok none := by
  have refused := item.scale.accepts_nan tolerance
  cases answer : item.scale.accepts nan tolerance with
  | error reason => simp [complaint?, scored, answer, bind, Except.bind]
  | ok accepted =>
      cases accepted with
      | false => simp [complaint?, scored, answer, bind, Except.bind]
      | true => exact absurd answer refused

/-! ### Defects -/

theorem categoryTotal_nan {defects : List DefectDefinition} {counts : List (String × Binary64)}
    {definition : DefectDefinition} (listed : definition ∈ defects)
    (counted : countOf counts definition.name = nan) :
    categoryTotal defects counts definition.category = nan := by
  have equivalents :
      defectEquivalents (countOf counts definition.name) definition.weight = nan := by
    rw [counted, defectEquivalents, nan_mul, roundPlaces_nan]
  have own : definition ∈ ofCategory definition.category defects :=
    List.mem_filter.2 ⟨listed, by simp⟩
  have term : nan ∈ (ofCategory definition.category defects).map fun definition =>
      defectEquivalents (countOf counts definition.name) definition.weight :=
    List.mem_map.2 ⟨definition, own, equivalents⟩
  rw [categoryTotal, sum_eq_nan term, roundPlaces_nan]

theorem DefectConfiguration.evaluate_nan {configuration : DefectConfiguration}
    {counts : List (String × Binary64)} {definition : DefectDefinition}
    (thresholds : Option DefectThresholds) (listed : definition ∈ configuration.defects)
    (counted : countOf counts definition.name = nan) :
    ∃ faults, configuration.evaluate counts thresholds = .error faults := by
  have total := categoryTotal_nan listed counted
  cases outcome : configuration.evaluate counts thresholds with
  | error faults => exact ⟨faults, rfl⟩
  | ok evaluation =>
      have finite := (evaluated_of_returned outcome).finite (.category definition.category)
      rw [groupTotal, total] at finite
      cases finite

/-! ### Everywhere -/

/-- Shares are checked constraint by constraint, and one that is not a number meets every constraint
but a range; no score, no count and no graded value that is not a number passes. -/
theorem nan_passes_only_one_sided_bounds (limits : Limits) (requirements : ScreenRequirements)
    (distribution : List (String × Binary64)) (attributes : List CuppingAttribute)
    (scores : List (String × Option Binary64)) (tolerance : Binary64)
    (defects : DefectConfiguration) (counts : List (String × Binary64))
    (thresholds : Option DefectThresholds) (aspect : AspectConfiguration) :
    (requirements.evaluate distribution = .ok [] ↔ ∀ constraint ∈ requirements.constraints,
      constraint.Met (shareOf distribution constraint.screenSize)) ∧
    (∀ constraint ∈ requirements.constraints, constraint.Bounded limits →
      (constraint.Met nan ↔ constraint.rule ≠ .range)) ∧
    (∀ item ∈ attributes, Cupping.scoreOf scores item.name = some nan →
      Cupping.evaluate attributes scores tolerance ≠ .ok []) ∧
    (∀ definition ∈ defects.defects, countOf counts definition.name = nan →
      ∃ faults, defects.evaluate counts thresholds = .error faults) ∧
    ∀ threshold, aspect.threshold = some threshold → aspect.accepts nan = false := by
  refine ⟨?screens, fun _ _ => ScreenConstraint.met_nan_iff, ?cupping,
    fun _ => DefectConfiguration.evaluate_nan thresholds, ?aspects⟩
  case screens =>
    exact ScreenRequirements.violationsOf_eq_nil_iff distribution requirements.constraints
  case cupping =>
    intro item listed scored passed
    have silent := (Cupping.evaluate_eq_nil_iff scores tolerance attributes).1 passed
    exact Cupping.complaint?_nan tolerance scored (silent item listed)
  case aspects =>
    intro threshold given
    simp [AspectConfiguration.accepts, given, not_le_nan]

def ranged : ScreenConstraint where
  screenSize := "16"
  rule := .range
  minValue := some 20
  maxValue := some 80

def sweetness : CuppingAttribute := { name := "Sweetness", scale := .numeric ⟨0, 10, 0.5⟩ }

def brokenBeans : DefectConfiguration where
  defects := [{ name := "Broken bean", category := .secondary, weight := 0.2 }]

def graded : AspectConfiguration := { threshold := some { minAcceptableValue := 2 } }

theorem nan_refused_within :
    ranged.Bounded {} ∧ (ranged.Met nan ↔ ranged.rule ≠ .range) ∧
    Cupping.scoreOf [("Sweetness", some nan)] sweetness.name = some nan ∧
      Cupping.evaluate [sweetness] [("Sweetness", some nan)] defaultTolerance ≠ .ok [] ∧
    countOf [("Broken bean", nan)] "Broken bean" = nan ∧
      (∃ faults, brokenBeans.evaluate [("Broken bean", nan)] none = .error faults) ∧
    graded.threshold = some { minAcceptableValue := 2 } ∧ graded.accepts nan = false := by
  have bounded : ranged.Bounded {} := (ranged.boundFlaw?_eq_none_iff {}).1 (by decide +kernel)
  obtain ⟨_, screens, cupping, defects, aspects⟩ := nan_passes_only_one_sided_bounds {}
    { constraints := [ranged] } [("16", nan)] [sweetness] [("Sweetness", some nan)] defaultTolerance
    brokenBeans [("Broken bean", nan)] none graded
  exact ⟨bounded, screens ranged List.mem_cons_self bounded, rfl,
    cupping sweetness List.mem_cons_self rfl, rfl, defects _ List.mem_cons_self rfl, rfl,
    aspects _ rfl⟩

def oneSided : ScreenRequirements where
  constraints := [
    { screenSize := "16", rule := .minimum, minValue := some 50 },
    { screenSize := "12", rule := .maximum, maxValue := some 5, displayOrder := 1 }]

theorem nan_passes_minimum_and_maximum :
    ScreenRequirements.read oneSided.document = pure oneSided ∧ oneSided.flaw? {} = none ∧
      shareOf [("16", nan), ("12", nan)] "16" = nan ∧
      shareOf [("16", nan), ("12", nan)] "12" = nan ∧
      oneSided.evaluate [("16", nan), ("12", nan)] = .ok [] := by
  have finite : ∀ constraint ∈ oneSided.constraints, constraint.Finite := by
    simp only [oneSided, List.forall_mem_cons]
    exact ⟨⟨finiteIfSet_some (by decide +kernel), finiteIfSet_none⟩,
      ⟨finiteIfSet_none, finiteIfSet_some (by decide +kernel)⟩, by simp⟩
  have passed : oneSided.evaluate [("16", nan), ("12", nan)] = .ok [] := by
    rw [ScreenRequirements.evaluate, ScreenRequirements.violationsOf_eq_nil_iff]
    simp only [oneSided, List.forall_mem_cons]
    exact ⟨fun _ _ => not_nan_lt _, fun _ _ => not_lt_nan _, by simp⟩
  exact ⟨ScreenRequirements.read_document finite, by decide +kernel, rfl, rfl, passed⟩

end CoffeeGrading
