import CoffeeGrading.Proofs.Document.Finite
import CoffeeGrading.Proofs.Number.Order
import CoffeeGrading.Proofs.Passing
import CoffeeGrading.Proofs.ScreenSize.Editing
import CoffeeGrading.Proofs.Template.Written
import Mathlib.Logic.Relation

/-!
Distributions against requirements that are loosened.  One violation is reported for each broken
constraint, whether or not the constraints have the bounds that they need; a looser constraint in the
place of another one changes what is reported of this one only.
-/

namespace CoffeeGrading

open Binary64

theorem shareOf_finite {distribution : List (String × Binary64)}
    (measured : ∀ entry ∈ distribution, entry.2.isFinite = true) (screenSize : String) :
    (shareOf distribution screenSize).isFinite = true := by
  refine FiniteIfSet.getD ?_
  intro share found
  obtain ⟨before, after, rfl, _⟩ := List.lookup_eq_some_iff.1 found
  exact measured (screenSize, share) (by simp)

namespace ScreenConstraint

variable {constraint : ScreenConstraint} {share : Binary64}
  {distribution : List (String × Binary64)}

/-- The bounds that the rule reads are set, and the share is beyond one of them. -/
def Broken (constraint : ScreenConstraint) (share : Binary64) : Prop :=
  match constraint.rule with
  | .minimum => ∃ low ∈ constraint.minValue, share < low
  | .maximum => ∃ high ∈ constraint.maxValue, high < share
  | .range => ∃ low ∈ constraint.minValue, ∃ high ∈ constraint.maxValue,
      share < low ∨ high < share
  | .any => False

instance (share : Binary64) : DecidablePred fun constraint => Broken constraint share
  | ⟨_, .minimum, least, _, _⟩ => inferInstanceAs (Decidable (∃ low ∈ least, share < low))
  | ⟨_, .maximum, _, most, _⟩ => inferInstanceAs (Decidable (∃ high ∈ most, high < share))
  | ⟨_, .range, least, most, _⟩ =>
    inferInstanceAs (Decidable (∃ low ∈ least, ∃ high ∈ most, share < low ∨ high < share))
  | ⟨_, .any, _, _, _⟩ => inferInstanceAs (Decidable False)

theorem met_iff_not_broken (finite : constraint.Finite) (measured : share.isFinite = true) :
    constraint.Met share ↔ ¬ constraint.Broken share := by
  obtain ⟨screenSize, rule, minValue, maxValue, displayOrder⟩ := constraint
  cases rule with
  | minimum => simp [Met, Broken]
  | maximum => simp [Met, Broken]
  | range =>
      simp only [Met, Broken, Option.mem_def, not_exists, not_and, not_or]
      refine forall_congr' fun low => ?_
      rw [forall_comm]
      refine forall_congr' fun isLow => forall_congr' fun high => forall_congr' fun isHigh => ?_
      have place := placed_of_finite measured
      rw [← not_le_iff_lt place (placed_of_finite (finite.min low isLow)), not_not,
        ← not_le_iff_lt (placed_of_finite (finite.max high isHigh)) place, not_not]
  | any => simp [Met, Broken]

/-- The violation is one of the constraint, has the share that was measured and says what there is
to say about it, and is written with the display text of the constraint. -/
structure Reported (distribution : List (String × Binary64)) (broken : ScreenConstraint)
    (violation : ScreenViolation) : Prop where
  constraint : violation.constraint = broken
  actual : violation.actual = shareOf distribution broken.screenSize
  message : broken.complaint? violation.actual = some violation.message
  written : violation.document = .ofFields [
    ("screen_size", some (.text broken.screenSize)),
    ("constraint_type", some (.text broken.rule.name)),
    ("expected", some (.text broken.displayText)),
    ("actual", some (.number (shareOf distribution broken.screenSize))),
    ("message", some (.text violation.message))]

theorem violation?_of_measured (measured : ∀ entry ∈ distribution, entry.2.isFinite = true)
    (constraint : ScreenConstraint) :
    constraint.violation? distribution =
      .ok ((constraint.complaint? (shareOf distribution constraint.screenSize)).map
        (ScreenViolation.mk constraint (shareOf distribution constraint.screenSize))) := by
  rw [violation?]
  cases constraint.complaint? (shareOf distribution constraint.screenSize) with
  | none => rfl
  | some message =>
      have passed := (requireFinite_eq_ok_iff
        [("actual", some (shareOf distribution constraint.screenSize))]
        (ScreenViolation.mk constraint (shareOf distribution constraint.screenSize) message) _).2
        ⟨by simpa using shareOf_finite measured constraint.screenSize, rfl⟩
      simp only [passed, Except.map, Option.map_some]

theorem reported_of_violation? {violation : ScreenViolation}
    (measured : ∀ entry ∈ distribution, entry.2.isFinite = true)
    (answer : constraint.violation? distribution = .ok (some violation)) :
    Reported distribution constraint violation := by
  rw [violation?_of_measured measured] at answer
  obtain ⟨message, complaint, rfl⟩ := Option.map_eq_some_iff.1 (Except.ok.inj answer)
  exact ⟨rfl, rfl, complaint, rfl⟩

theorem isSome_iff_broken {violation : Option ScreenViolation} (finite : constraint.Finite)
    (measured : ∀ entry ∈ distribution, entry.2.isFinite = true)
    (answer : constraint.violation? distribution = .ok violation) :
    violation.isSome = true ↔ constraint.Broken (shareOf distribution constraint.screenSize) := by
  have met := met_iff_not_broken finite (shareOf_finite measured constraint.screenSize)
  rw [← not_iff_not, ← met, ← violation?_eq_none_iff, answer]
  simp

/-! ### Looser constraints -/

/-- One way to ask for less than a constraint does.  There is no replacement where it is removed. -/
inductive LoosenedTo (constraint : ScreenConstraint) : Option ScreenConstraint → Prop
  | lowerMinimum {least low : Binary64} : constraint.minValue = some least → low ≤ least →
      LoosenedTo constraint (some { constraint with minValue := some low })
  | higherMaximum {most high : Binary64} : constraint.maxValue = some most → most ≤ high →
      LoosenedTo constraint (some { constraint with maxValue := some high })
  | anyAmount (minValue maxValue : Option Binary64) :
      LoosenedTo constraint (some { constraint with rule := .any, minValue, maxValue })
  | removed : LoosenedTo constraint none

theorem LoosenedTo.screenSize {loose : ScreenConstraint}
    (loosened : constraint.LoosenedTo (some loose)) :
    loose.screenSize = constraint.screenSize := by
  cases loosened with
  | lowerMinimum => rfl
  | higherMaximum => rfl
  | anyAmount => rfl

theorem LoosenedTo.met {loose : ScreenConstraint} (loosened : constraint.LoosenedTo (some loose))
    (met : constraint.Met share) : loose.Met share := by
  obtain ⟨screenSize, rule, minValue, maxValue, displayOrder⟩ := constraint
  cases loosened with
  | anyAmount => trivial
  | @lowerMinimum least low isLeast below =>
      obtain rfl : minValue = some least := isLeast
      cases rule with
      | minimum =>
          rintro _ ⟨⟩ beyond
          exact met least rfl (lt_of_lt_of_le beyond below)
      | maximum => exact met
      | range =>
          rintro _ high ⟨⟩ isHigh
          obtain ⟨aboveLeast, belowHigh⟩ := met least high rfl isHigh
          exact ⟨le_trans below aboveLeast, belowHigh⟩
      | any => trivial
  | @higherMaximum most high isMost above =>
      obtain rfl : maxValue = some most := isMost
      cases rule with
      | minimum => exact met
      | maximum =>
          rintro _ ⟨⟩ beyond
          exact met most rfl (lt_of_le_of_lt above beyond)
      | range =>
          rintro low _ isLow ⟨⟩
          obtain ⟨aboveLow, belowMost⟩ := met low most isLow rfl
          exact ⟨aboveLow, le_trans belowMost above⟩
      | any => trivial

end ScreenConstraint

namespace ScreenRequirements

variable {requirements : ScreenRequirements} {distribution : List (String × Binary64)}

theorem exists_violations (measured : ∀ entry ∈ distribution, entry.2.isFinite = true)
    (constraints : List ScreenConstraint) :
    ∃ violations, violationsOf distribution constraints = .ok violations := by
  rw [violationsOf_eq_collect]
  exact exists_collect_iff.2 fun constraint _ => ⟨_, constraint.violation?_of_measured measured⟩

theorem violationsOf_append {front back : List ScreenConstraint}
    {first last : List ScreenViolation} (evaluatedFront : violationsOf distribution front = .ok first)
    (evaluatedBack : violationsOf distribution back = .ok last) :
    violationsOf distribution (front ++ back) = .ok (first ++ last) := by
  rw [violationsOf_eq_collect] at evaluatedFront evaluatedBack ⊢
  exact collect_append evaluatedFront evaluatedBack

theorem reported_of_evaluate {violations : List ScreenViolation} (finite : requirements.Finite)
    (measured : ∀ entry ∈ distribution, entry.2.isFinite = true)
    (evaluated : requirements.evaluate distribution = .ok violations) :
    List.Forall₂ (ScreenConstraint.Reported distribution)
      (requirements.constraints.filter fun constraint =>
        constraint.Broken (shareOf distribution constraint.screenSize)) violations := by
  rw [evaluate, violationsOf_eq_collect] at evaluated
  refine (forall₂_of_collect ?_ evaluated).imp fun constraint violation answer =>
    ScreenConstraint.reported_of_violation? measured answer
  intro constraint listed violation answer
  exact ScreenConstraint.isSome_iff_broken (finite constraint listed) measured answer

inductive Loosened : List ScreenConstraint → List ScreenConstraint → Prop
  | at (before : List ScreenConstraint) {constraint : ScreenConstraint}
      {replacement : Option ScreenConstraint} (after : List ScreenConstraint) :
      constraint.LoosenedTo replacement →
      Loosened (before ++ constraint :: after) (before ++ replacement.toList ++ after)

theorem Loosened.accepted {strict loose : List ScreenConstraint} (loosened : Loosened strict loose)
    (accepted : violationsOf distribution strict = .ok []) :
    violationsOf distribution loose = .ok [] := by
  obtain ⟨before, after, way⟩ := loosened
  rw [violationsOf_eq_nil_iff] at accepted ⊢
  simp only [List.forall_mem_append, List.forall_mem_cons] at accepted ⊢
  obtain ⟨metBefore, met, metAfter⟩ := accepted
  refine ⟨⟨metBefore, ?_⟩, metAfter⟩
  intro constraint listed
  obtain rfl := Option.mem_toList.1 listed
  rw [way.screenSize]
  exact way.met met

theorem accepted_of_loosened {strict loose : List ScreenConstraint}
    (loosened : Relation.ReflTransGen Loosened strict loose)
    (accepted : violationsOf distribution strict = .ok []) :
    violationsOf distribution loose = .ok [] := by
  induction loosened with
  | refl => exact accepted
  | tail _ last ih => exact last.accepted ih

/-- Finite shares give one violation for each broken constraint, in the order of the constraints, and
are valid exactly when there is none.  To loosen one constraint changes nothing in what is reported
of the others; shares that are accepted still are after any number of loosenings. -/
theorem violations_name_broken_constraints (requirements : Parsed ScreenRequirements.read)
    (distribution : List (String × Binary64))
    (measured : ∀ entry ∈ distribution, entry.2.isFinite = true) :
    (∃ violations, requirements.value.evaluate distribution = .ok violations ∧
      List.Forall₂ (ScreenConstraint.Reported distribution)
        (requirements.value.constraints.filter fun constraint =>
          constraint.Broken (shareOf distribution constraint.screenSize))
        violations ∧
      ∃ valid, ScreenViolation.report violations = .ofFields [
          ("is_valid", some (.flag valid)),
          ("violations", some (.list (violations.map ScreenViolation.document)))] ∧
        (valid = true ↔ ∀ constraint ∈ requirements.value.constraints,
          ¬ constraint.Broken (shareOf distribution constraint.screenSize))) ∧
    (∀ before constraint after replacement, ∀ loosened : ScreenRequirements,
      requirements.value.constraints = before ++ constraint :: after →
      constraint.LoosenedTo replacement →
      loosened.constraints = before ++ replacement.toList ++ after →
      ∃ front own left back,
        violationsOf distribution before = .ok front ∧
        violationsOf distribution [constraint] = .ok own ∧
        violationsOf distribution replacement.toList = .ok left ∧
        violationsOf distribution after = .ok back ∧
        requirements.value.evaluate distribution = .ok (front ++ own ++ back) ∧
        loosened.evaluate distribution = .ok (front ++ left ++ back) ∧
        (own = [] → left = [])) ∧
    ∀ loosened : ScreenRequirements,
      Relation.ReflTransGen Loosened requirements.value.constraints loosened.constraints →
      requirements.value.evaluate distribution = .ok [] →
      loosened.evaluate distribution = .ok [] := by
  have finite : requirements.value.Finite := requirements.fits ScreenRequirements.read_yields
  refine ⟨?reported, ?one, fun _ steps accepted => accepted_of_loosened steps accepted⟩
  case reported =>
    obtain ⟨violations, evaluated⟩ := exists_violations measured requirements.value.constraints
    have reported := reported_of_evaluate finite measured evaluated
    refine ⟨violations, evaluated, reported, violations.isEmpty, rfl, ?_⟩
    rw [List.isEmpty_iff_length_eq_zero, ← reported.length_eq, List.length_eq_zero_iff,
      List.filter_eq_nil_iff]
    simp
  case one =>
    intro before constraint after replacement loosened split way replaced
    obtain ⟨front, evaluatedFront⟩ := exists_violations measured before
    obtain ⟨own, evaluatedOwn⟩ := exists_violations measured [constraint]
    obtain ⟨left, evaluatedLeft⟩ := exists_violations measured replacement.toList
    obtain ⟨back, evaluatedBack⟩ := exists_violations measured after
    refine ⟨front, own, left, back, evaluatedFront, evaluatedOwn, evaluatedLeft, evaluatedBack,
      ?_, ?_, ?_⟩
    · rw [evaluate, split, List.append_cons]
      exact violationsOf_append (violationsOf_append evaluatedFront evaluatedOwn) evaluatedBack
    · rw [evaluate, replaced]
      exact violationsOf_append (violationsOf_append evaluatedFront evaluatedLeft) evaluatedBack
    · rintro rfl
      have accepted := (Loosened.at [] [] way).accepted evaluatedOwn
      rw [List.nil_append, List.append_nil] at accepted
      exact Except.ok.inj (evaluatedLeft.symm.trans accepted)

def unevenScreens : ScreenRequirements where
  constraints := [
    { screenSize := "18", rule := .minimum, minValue := some 25 },
    { screenSize := "16", rule := .range, minValue := some 80 },
    { screenSize := "18", rule := .maximum, maxValue := some 28 },
    { screenSize := "Pan", rule := .range, minValue := some 2, maxValue := some 6 },
    { screenSize := "14", rule := .any, maxValue := some 1 }]

def unevenScreensRead : Parsed ScreenRequirements.read where
  value := unevenScreens
  document := unevenScreens.document
  supply := ⟨fun count => ⟨count⟩, 0, ⟨⟨2024, 1, 1, 0, 0, 0, 0, none⟩, by decide⟩⟩
  good := congrArg Prod.fst (congrFun (read_document (by decide +kernel)) _)

def widerScreens : ScreenRequirements where
  constraints := [
    { screenSize := "18", rule := .minimum, minValue := some 25 },
    { screenSize := "16", rule := .range, minValue := some 80 },
    { screenSize := "18", rule := .maximum, maxValue := some 30 },
    { screenSize := "Pan", rule := .range, minValue := some 2, maxValue := some 6 },
    { screenSize := "14", rule := .any, maxValue := some 1 }]

def coarseShares : List (String × Binary64) := [("18", 30), ("16", 70)]

def gradedShares : List (String × Binary64) := [("Pan", 4), ("18", 26), ("16", 70)]

theorem widerScreens_loosened :
    (unevenScreens.constraints[2]).LoosenedTo (some widerScreens.constraints[2]) :=
  .higherMaximum rfl (by decide +kernel)

theorem unevenScreens_violations :
    ((∀ entry ∈ coarseShares, entry.2.isFinite = true) ∧
      ∃ violations, unevenScreens.evaluate coarseShares = .ok violations ∧
        violations.length = 2) ∧
    (∃ front own left back,
      unevenScreens.evaluate coarseShares = .ok (front ++ own ++ back) ∧
      widerScreens.evaluate coarseShares = .ok (front ++ left ++ back)) ∧
    (∀ entry ∈ gradedShares, entry.2.isFinite = true) ∧
      unevenScreens.evaluate gradedShares = .ok [] ∧
      widerScreens.evaluate gradedShares = .ok [] := by
  have coarse : ∀ entry ∈ coarseShares, entry.2.isFinite = true := by decide +kernel
  have graded : ∀ entry ∈ gradedShares, entry.2.isFinite = true := by decide +kernel
  obtain ⟨⟨violations, evaluated, reported, _⟩, one, _⟩ :=
    violations_name_broken_constraints unevenScreensRead coarseShares coarse
  obtain ⟨⟨silent, accepted, unbroken, _⟩, _, loosened⟩ :=
    violations_name_broken_constraints unevenScreensRead gradedShares graded
  have two : violations.length = 2 := by
    rw [← reported.length_eq]
    decide +kernel
  obtain rfl : silent = [] := by
    rw [← List.length_eq_zero_iff, ← unbroken.length_eq]
    decide +kernel
  obtain ⟨front, own, left, back, _, _, _, _, strict, loose, _⟩ :=
    one (unevenScreens.constraints.take 2) _ (unevenScreens.constraints.drop 3) _ widerScreens
      rfl widerScreens_loosened rfl
  have step : Loosened unevenScreens.constraints widerScreens.constraints :=
    .at (unevenScreens.constraints.take 2) (unevenScreens.constraints.drop 3)
      widerScreens_loosened
  exact ⟨⟨coarse, violations, evaluated, two⟩, ⟨front, own, left, back, strict, loose⟩, graded,
    accepted, loosened widerScreens (.single step) accepted⟩

end ScreenRequirements
end CoffeeGrading
