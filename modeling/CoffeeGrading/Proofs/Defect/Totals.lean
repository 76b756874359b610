import CoffeeGrading.Defect.Count
import CoffeeGrading.Proofs.Defect.Sound
import CoffeeGrading.Proofs.Document.Finite
import CoffeeGrading.Proofs.Number.Nonnegative

/-!
The totals of a counted sample.  An evaluation returns when all totals are finite, and has no
complaint when no total exceeds the limit on it.  With fewer defects no total is higher, so that a
sample that was accepted stays accepted.
-/

namespace CoffeeGrading

open Binary64

inductive DefectGroup where
  | category (category : DefectCategory)
  | all

theorem DefectGroup.forall_iff {Holds : DefectGroup → Prop} :
    (∀ group, Holds group) ↔
      Holds (.category .primary) ∧ Holds (.category .secondary) ∧ Holds .all := by
  constructor
  · intro every
    exact ⟨every _, every _, every _⟩
  · rintro ⟨primary, secondary, all⟩ group
    match group with
    | .category .primary => exact primary
    | .category .secondary => exact secondary
    | .all => exact all

instance {Holds : DefectGroup → Prop} [DecidablePred Holds] : Decidable (∀ group, Holds group) :=
  decidable_of_iff _ DefectGroup.forall_iff.symm

def DefectThresholds.limitOn (thresholds : DefectThresholds) : DefectGroup → Option Binary64
  | .category .primary => thresholds.maxPrimary
  | .category .secondary => thresholds.maxSecondary
  | .all => thresholds.maxTotal

theorem DefectConfiguration.Nonnegative.limitOn {thresholds : DefectThresholds}
    (nonneg : DefectConfiguration.Nonnegative thresholds) {group : DefectGroup} {most : Binary64}
    (limited : thresholds.limitOn group = some most) : 0 ≤ most := by
  match group with
  | .category .primary => exact nonneg.primary most limited
  | .category .secondary => exact nonneg.secondary most limited
  | .all => exact nonneg.total most limited

/-- No total exceeds the limit that is set on it. -/
def DefectThresholds.Permit (thresholds : DefectThresholds) (total : DefectGroup → Binary64) :
    Prop :=
  ∀ group most, thresholds.limitOn group = some most → ¬ most < total group

instance (thresholds : DefectThresholds) (total : DefectGroup → Binary64) :
    Decidable (thresholds.Permit total) :=
  decidable_of_iff (∀ group, (thresholds.limitOn group).all fun most => ¬ most < total group) (by
    simp [DefectThresholds.Permit, Option.all_eq_true])

def DefectEvaluation.totalOf (evaluation : DefectEvaluation) : DefectGroup → Binary64
  | .category .primary => evaluation.primaryTotal
  | .category .secondary => evaluation.secondaryTotal
  | .all => evaluation.total

def groupTotal (defects : List DefectDefinition) (counts : List (String × Binary64)) :
    DefectGroup → Binary64
  | .category category => categoryTotal defects counts category
  | .all => totalDefects defects counts

theorem excess?_eq_none_iff (label : String) (total : Binary64) (limit : Option Binary64) :
    excess? label total limit = none ↔ ∀ most, limit = some most → ¬ most < total := by
  cases limit with
  | none => simp [excess?]
  | some most => simp [excess?]

/-! ### What an evaluation returns -/

/-- An evaluation that returns has finite totals, and complains of those that exceed a limit. -/
structure DefectConfiguration.Evaluated (configuration : DefectConfiguration)
    (counts : List (String × Binary64)) (thresholds : Option DefectThresholds)
    (evaluation : DefectEvaluation) : Prop where
  finite : ∀ group, (groupTotal configuration.defects counts group).isFinite
  totals : evaluation.totalOf = groupTotal configuration.defects counts
  silent_iff : evaluation.complaints = [] ↔
    (thresholds.getD configuration.thresholds).Permit (groupTotal configuration.defects counts)

namespace DefectConfiguration

variable {configuration : DefectConfiguration} {counts : List (String × Binary64)}
  {thresholds : Option DefectThresholds} {evaluation : DefectEvaluation}

theorem evaluated_of_returned
    (returned : configuration.evaluate counts thresholds = .ok evaluation) :
    configuration.Evaluated counts thresholds evaluation := by
  obtain ⟨finite, rfl⟩ := (requireFinite_eq_ok_iff _ _ _).1 returned
  refine ⟨?finite, ?totals, ?silent⟩
  case finite =>
    simpa [DefectGroup.forall_iff, groupTotal] using finite
  case totals =>
    funext group
    match group with
    | .category .primary => rfl
    | .category .secondary => rfl
    | .all => rfl
  case silent =>
    simp only [List.append_eq_nil_iff, Option.toList_eq_nil_iff, excess?_eq_none_iff,
      DefectThresholds.Permit, DefectGroup.forall_iff, DefectThresholds.limitOn, groupTotal,
      and_assoc]

theorem exists_evaluation (thresholds : Option DefectThresholds)
    (finite : ∀ group, (groupTotal configuration.defects counts group).isFinite) :
    ∃ evaluation, configuration.evaluate counts thresholds = .ok evaluation := by
  refine ⟨_, (requireFinite_eq_ok_iff _ _ _).2 ⟨?_, rfl⟩⟩
  simpa [DefectGroup.forall_iff, groupTotal] using finite

end DefectConfiguration

/-! ### Fewer defects -/

/-- Nothing is counted below zero, and nothing more often than in the other sample; what has no
count counts as zero. -/
def CountedNoMore (defects : List DefectDefinition) (counts most : List (String × Binary64)) :
    Prop :=
  ∀ definition ∈ defects, 0 ≤ countOf counts definition.name ∧
    countOf counts definition.name ≤ countOf most definition.name

instance (defects : List DefectDefinition) (counts most : List (String × Binary64)) :
    Decidable (CountedNoMore defects counts most) :=
  inferInstanceAs (Decidable (∀ _ ∈ defects, _))

theorem defectEquivalents_le {count most weight : Binary64} (positive : 0 < weight)
    (nonneg : 0 ≤ count) (ordered : count ≤ most)
    (finite : (defectEquivalents most weight).isFinite) :
    0 ≤ defectEquivalents count weight ∧
      defectEquivalents count weight ≤ defectEquivalents most weight := by
  obtain ⟨mostFinite, weightFinite⟩ := isFinite_of_mul (isFinite_of_roundPlaces finite)
  have countFinite := isFinite_of_between nonneg ordered mostFinite
  have weightNonneg := le_of_lt positive
  constructor
  · exact roundPlaces_nonneg 2 (mul_nonneg countFinite weightFinite nonneg weightNonneg)
  · exact roundPlaces_le_roundPlaces 2
      (mul_le_mul_of_nonneg countFinite mostFinite weightFinite weightNonneg ordered)

section

variable {defects : List DefectDefinition} {counts most : List (String × Binary64)}
  (weighted : ∀ definition ∈ defects, 0 < definition.weight)
  (fewer : CountedNoMore defects counts most)

include weighted fewer

theorem categoryTotal_le {category : DefectCategory}
    (finite : (categoryTotal defects most category).isFinite) :
    0 ≤ categoryTotal defects counts category ∧
      categoryTotal defects counts category ≤ categoryTotal defects most category := by
  have summed := isFinite_of_roundPlaces finite
  have terms := (isFinite_of_foldl_add summed).2
  have each : ∀ definition ∈ ofCategory category defects,
      0 ≤ defectEquivalents (countOf counts definition.name) definition.weight ∧
        defectEquivalents (countOf counts definition.name) definition.weight ≤
          defectEquivalents (countOf most definition.name) definition.weight := by
    intro definition member
    have listed := (List.mem_filter.1 member).1
    obtain ⟨nonneg, ordered⟩ := fewer definition listed
    exact defectEquivalents_le (weighted definition listed) nonneg ordered
      (terms _ (List.mem_map_of_mem member))
  obtain ⟨nonneg, ordered⟩ := sum_le_sum each summed
  exact ⟨roundPlaces_nonneg 2 nonneg, roundPlaces_le_roundPlaces 2 ordered⟩

theorem groupTotal_le (finite : ∀ group, (groupTotal defects most group).isFinite)
    (group : DefectGroup) :
    0 ≤ groupTotal defects counts group ∧
      groupTotal defects counts group ≤ groupTotal defects most group := by
  have ofCategory (category : DefectCategory) :=
    categoryTotal_le weighted fewer (finite (.category category))
  cases group with
  | category category => exact ofCategory category
  | all =>
      obtain ⟨primaryNonneg, primaryOrdered⟩ := ofCategory .primary
      obtain ⟨secondaryNonneg, secondaryOrdered⟩ := ofCategory .secondary
      have primaryMost := finite (.category .primary)
      have secondaryMost := finite (.category .secondary)
      have primaryFinite := isFinite_of_between primaryNonneg primaryOrdered primaryMost
      have secondaryFinite := isFinite_of_between secondaryNonneg secondaryOrdered secondaryMost
      constructor
      · exact roundPlaces_nonneg 2
          (add_nonneg primaryFinite secondaryFinite primaryNonneg secondaryNonneg)
      · exact roundPlaces_le_roundPlaces 2 (add_le_add primaryFinite primaryMost secondaryFinite
          secondaryMost primaryOrdered secondaryOrdered)

end

theorem DefectThresholds.Permit.mono {thresholds : DefectThresholds}
    {total most : DefectGroup → Binary64} (permitted : thresholds.Permit most)
    (ordered : ∀ group, total group ≤ most group) : thresholds.Permit total := by
  intro group limit limited above
  exact permitted group limit limited (lt_of_lt_of_le above (ordered group))

namespace DefectConfiguration

/-- Fewer defects never hurt: where the larger sample has a result, so has the smaller one, with no
total above, and without a complaint where the larger sample has none. -/
theorem fewer_defects_accepted {limits : Limits} {configuration : DefectConfiguration}
    {counts most : List (String × Binary64)} {thresholds : Option DefectThresholds}
    {larger : DefectEvaluation} (unflawed : configuration.flaw? limits = none)
    (fewer : CountedNoMore configuration.defects counts most)
    (returned : configuration.evaluate most thresholds = .ok larger) :
    ∃ evaluation, configuration.evaluate counts thresholds = .ok evaluation ∧
      (∀ group, evaluation.totalOf group ≤ larger.totalOf group) ∧
      (larger.complaints = [] → evaluation.complaints = []) := by
  have sound := (flaw?_eq_none_iff limits configuration).1 unflawed
  have weighted := fun definition listed => (sound.weights definition listed).1
  have evaluated := evaluated_of_returned returned
  have ordered := groupTotal_le weighted fewer evaluated.finite
  have finite : ∀ group, (groupTotal configuration.defects counts group).isFinite :=
    fun group => isFinite_of_between (ordered group).1 (ordered group).2 (evaluated.finite group)
  obtain ⟨evaluation, done⟩ := exists_evaluation thresholds finite
  have smaller := evaluated_of_returned done
  refine ⟨evaluation, done, ?totals, ?accepted⟩
  case totals =>
    intro group
    rw [smaller.totals, evaluated.totals]
    exact (ordered group).2
  case accepted =>
    intro silent
    exact smaller.silent_iff.2 ((evaluated.silent_iff.1 silent).mono fun group => (ordered group).2)

def blackAndBroken : DefectConfiguration where
  defects := [
    { name := "Full Black", category := .primary, weight := 1 },
    { name := "Broken", category := .secondary, weight := 0.2 }]
  thresholds := { maxPrimary := some 5, maxTotal := some 91 }

theorem blackAndBroken_fewer_accepted :
    blackAndBroken.flaw? {} = none ∧
      CountedNoMore blackAndBroken.defects [("Broken", 3)] [("Full Black", 2), ("Broken", 5)] ∧
      ∃ larger evaluation,
        blackAndBroken.evaluate [("Full Black", 2), ("Broken", 5)] = .ok larger ∧
        larger.complaints = [] ∧ blackAndBroken.evaluate [("Broken", 3)] = .ok evaluation ∧
        evaluation.complaints = [] ∧ ∀ group, evaluation.totalOf group ≤ larger.totalOf group := by
  have unflawed : blackAndBroken.flaw? {} = none := by decide +kernel
  have fewer : CountedNoMore blackAndBroken.defects [("Broken", 3)]
      [("Full Black", 2), ("Broken", 5)] := by decide +kernel
  have finite : ∀ group, (groupTotal blackAndBroken.defects
      [("Full Black", 2), ("Broken", 5)] group).isFinite := by decide +kernel
  obtain ⟨larger, returned⟩ := exists_evaluation none finite
  have silent : larger.complaints = [] :=
    (evaluated_of_returned returned).silent_iff.2 (by decide +kernel)
  obtain ⟨evaluation, done, ordered, accepted⟩ := fewer_defects_accepted unflawed fewer returned
  exact ⟨unflawed, fewer, larger, evaluation, returned, silent, done, accepted silent, ordered⟩

end DefectConfiguration
end CoffeeGrading
