import CoffeeGrading.Proofs.Defect.Totals
import CoffeeGrading.Proofs.Number.Places

/-!
Limits that contradict each other.  The check of the limits reports a category whose limit is above
the one on all defects.  Such a limit decides nothing: no category total is above the total of all
defects, so that a sample beyond the limit on the category is beyond the lower one as well.
-/

namespace CoffeeGrading

open Binary64

def DefectCategory.limitName : DefectCategory → String
  | primary => "max_primary"
  | secondary => "max_secondary"

namespace DefectThresholds

variable {thresholds : DefectThresholds} {total limit more : Binary64}
  {category other : DefectCategory}

/-! ### Reports -/

def tighterText (total : Binary64) (category : DefectCategory) (limit : Binary64) : String :=
  s!"max_total ({total.briefText}) is lower than {category.limitName} ({limit.briefText})"

/-- The check reports that the limit on all defects is lower than the limit on a category. -/
def Warns (thresholds : DefectThresholds) (category : DefectCategory) : Prop :=
  ∃ total limit, thresholds.maxTotal = some total ∧
    thresholds.limitOn (.category category) = some limit ∧
      tighterText total category limit ∈ thresholds.warnings

theorem category_of_tighterText
    (same : tighterText total category limit = tighterText total other more) :
    category = other := by
  have letters := congrArg String.toList same
  unfold tighterText at letters
  simp only [String.toList_append, List.append_assoc, List.append_cancel_left_eq] at letters
  have fifth := congrArg (fun letters : List Char => letters[4]?) letters
  cases category <;> cases other <;> simp [DefectCategory.limitName, toString] at fifth ⊢

theorem tighterTotal?_limitName (total : Binary64) (category : DefectCategory)
    (limit : Option Binary64) (text : String) :
    tighterTotal? total category.limitName limit = some text ↔
      ∃ value, limit = some value ∧ total < value ∧ tighterText total category value = text := by
  cases limit with
  | none => simp [tighterTotal?]
  | some value =>
      simp only [tighterTotal?, Option.ite_none_right_eq_some, Option.some.injEq,
        exists_eq_left']
      exact Iff.rfl

theorem mem_warnings_iff (text : String) :
    text ∈ thresholds.warnings ↔
      ∃ total category limit, thresholds.maxTotal = some total ∧
        thresholds.limitOn (.category category) = some limit ∧ total < limit ∧
          tighterText total category limit = text := by
  cases given : thresholds.maxTotal with
  | none => simp [warnings, given]
  | some total =>
      have primary := tighterTotal?_limitName total .primary thresholds.maxPrimary text
      have secondary := tighterTotal?_limitName total .secondary thresholds.maxSecondary text
      simp only [DefectCategory.limitName] at primary secondary
      simp only [warnings, given, List.mem_append, Option.mem_toList, primary, secondary]
      constructor
      · rintro (⟨limit, known⟩ | ⟨limit, known⟩)
        · exact ⟨total, .primary, limit, rfl, known⟩
        · exact ⟨total, .secondary, limit, rfl, known⟩
      · rintro ⟨_, category, limit, same, known⟩
        obtain rfl := Option.some.inj same
        cases category with
        | primary => exact .inl ⟨limit, known⟩
        | secondary => exact .inr ⟨limit, known⟩

theorem warns_iff :
    thresholds.Warns category ↔
      ∃ total limit, thresholds.maxTotal = some total ∧
        thresholds.limitOn (.category category) = some limit ∧ total < limit := by
  constructor
  · rintro ⟨total, limit, given, limited, listed⟩
    obtain ⟨_, other, more, alsoGiven, alsoLimited, lower, same⟩ := (mem_warnings_iff _).1 listed
    obtain rfl := Option.some.inj (given.symm.trans alsoGiven)
    obtain rfl := category_of_tighterText same
    obtain rfl := Option.some.inj (limited.symm.trans alsoLimited)
    exact ⟨total, limit, given, limited, lower⟩
  · rintro ⟨total, limit, given, limited, lower⟩
    exact ⟨total, limit, given, limited,
      (mem_warnings_iff _).2 ⟨total, category, limit, given, limited, lower, rfl⟩⟩

/-! ### Evaluations without a limit -/

def without (thresholds : DefectThresholds) : DefectCategory → DefectThresholds
  | .primary => { thresholds with maxPrimary := none }
  | .secondary => { thresholds with maxSecondary := none }

theorem permit_without_iff {total : DefectGroup → Binary64} :
    (thresholds.without category).Permit total ↔
      ∀ group ≠ .category category, ∀ most,
        thresholds.limitOn group = some most → ¬ most < total group := by
  cases category with
  | primary => simp [Permit, DefectGroup.forall_iff, without, limitOn]
  | secondary => simp [Permit, DefectGroup.forall_iff, without, limitOn]

theorem permit_without_iff_of_breaks (group : DefectGroup) {total : DefectGroup → Binary64}
    (other : group ≠ .category category)
    (breaks : ∀ limit, thresholds.limitOn (.category category) = some limit →
      limit < total (.category category) →
        ∃ most, thresholds.limitOn group = some most ∧ most < total group) :
    (thresholds.without category).Permit total ↔ thresholds.Permit total := by
  rw [permit_without_iff]
  constructor
  · intro permitted here limit limited above
    by_cases own : here = .category category
    · subst own
      obtain ⟨most, alsoLimited, beyond⟩ := breaks limit limited above
      exact permitted group other most alsoLimited beyond
    · exact permitted here own limit limited above
  · intro permitted here _
    exact permitted here

end DefectThresholds

section

variable {defects : List DefectDefinition} {counts : List (String × Binary64)}

theorem categoryTotal_le_totalDefects
    (finite : ∀ group, (groupTotal defects counts group).isFinite)
    (nonneg : ∀ group, 0 ≤ groupTotal defects counts group) (category : DefectCategory) :
    categoryTotal defects counts category ≤ totalDefects defects counts := by
  have kept : (categoryTotal defects counts category).roundPlaces 2 =
      categoryTotal defects counts category := roundPlaces_roundPlaces (by decide) _
  have primaryFinite := finite (.category .primary)
  have secondaryFinite := finite (.category .secondary)
  rw [← kept, totalDefects]
  refine roundPlaces_le_roundPlaces 2 ?_
  cases category with
  | primary =>
      exact le_add_of_nonneg_right primaryFinite secondaryFinite (nonneg (.category .secondary))
  | secondary =>
      exact le_add_of_nonneg_left primaryFinite secondaryFinite (nonneg (.category .primary))

end

namespace DefectConfiguration

/-- A limit on a category that the check reports never decides: a sample that exceeds it exceeds the
limit on all defects, and without it the sample is judged the same. -/
theorem warned_limit_never_decides {limits : Limits} {configuration : DefectConfiguration}
    {counts : List (String × Binary64)} {thresholds : Option DefectThresholds}
    {evaluation : DefectEvaluation} {category : DefectCategory}
    (unflawed : configuration.flaw? limits = none)
    (nonneg : ∀ definition ∈ configuration.defects, 0 ≤ countOf counts definition.name)
    (returned : configuration.evaluate counts thresholds = .ok evaluation)
    (warned : (thresholds.getD configuration.thresholds).Warns category) :
    (∀ limit total,
      (thresholds.getD configuration.thresholds).limitOn (.category category) = some limit →
      (thresholds.getD configuration.thresholds).maxTotal = some total →
      limit < evaluation.totalOf (.category category) → total < evaluation.total) ∧
    ∃ other,
      configuration.evaluate counts
        (some ((thresholds.getD configuration.thresholds).without category)) = .ok other ∧
      other.totalOf = evaluation.totalOf ∧
      (other.complaints = [] ↔ evaluation.complaints = []) := by
  have sound := (flaw?_eq_none_iff limits configuration).1 unflawed
  have weighted := fun definition listed => (sound.weights definition listed).1
  have evaluated := evaluated_of_returned returned
  have counted : CountedNoMore configuration.defects counts counts := by
    intro definition listed
    have least := nonneg definition listed
    exact ⟨least, le_self (place_of_le_right least)⟩
  have part := categoryTotal_le_totalDefects evaluated.finite
    (fun group => (groupTotal_le weighted counted evaluated.finite group).1) category
  obtain ⟨least, most, given, limited, lower⟩ := DefectThresholds.warns_iff.1 warned
  have beyond : most < groupTotal configuration.defects counts (.category category) →
      least < groupTotal configuration.defects counts .all := fun above =>
    lt_trans lower (lt_of_lt_of_le above part)
  constructor
  · intro limit total alsoLimited alsoGiven above
    obtain rfl := Option.some.inj (limited.symm.trans alsoLimited)
    obtain rfl := Option.some.inj (given.symm.trans alsoGiven)
    rw [evaluated.totals] at above
    change least < evaluation.totalOf .all
    rw [evaluated.totals]
    exact beyond above
  · obtain ⟨other, done⟩ := exists_evaluation
      (some ((thresholds.getD configuration.thresholds).without category)) evaluated.finite
    have without := evaluated_of_returned done
    refine ⟨other, done, without.totals.trans evaluated.totals.symm, ?_⟩
    rw [without.silent_iff, evaluated.silent_iff, Option.getD_some]
    refine DefectThresholds.permit_without_iff_of_breaks .all (by simp) ?_
    intro limit alsoLimited above
    obtain rfl := Option.some.inj (limited.symm.trans alsoLimited)
    exact ⟨least, given, beyond above⟩

def looseOnPrimary : DefectConfiguration where
  defects := blackAndBroken.defects
  thresholds := { maxPrimary := some 8, maxTotal := some 5 }

theorem looseOnPrimary_never_decides :
    looseOnPrimary.flaw? {} = none ∧
      (∀ definition ∈ looseOnPrimary.defects,
        0 ≤ countOf [("Full Black", 9)] definition.name) ∧
      looseOnPrimary.thresholds.Warns .primary ∧
      ∃ evaluation other,
        looseOnPrimary.evaluate [("Full Black", 9)] = .ok evaluation ∧
        looseOnPrimary.evaluate [("Full Black", 9)]
          (some (looseOnPrimary.thresholds.without .primary)) = .ok other ∧
        evaluation.complaints ≠ [] ∧ other.complaints ≠ [] := by
  have unflawed : looseOnPrimary.flaw? {} = none := by decide +kernel
  have nonneg : ∀ definition ∈ looseOnPrimary.defects,
      0 ≤ countOf [("Full Black", 9)] definition.name := by decide +kernel
  have warned : looseOnPrimary.thresholds.Warns .primary :=
    DefectThresholds.warns_iff.2 ⟨5, 8, rfl, rfl, by decide +kernel⟩
  have finite : ∀ group,
      (groupTotal looseOnPrimary.defects [("Full Black", 9)] group).isFinite := by decide +kernel
  obtain ⟨evaluation, returned⟩ := exists_evaluation none finite
  have complained : evaluation.complaints ≠ [] :=
    mt (evaluated_of_returned returned).silent_iff.1 (by decide +kernel)
  obtain ⟨other, done, _, same⟩ := (warned_limit_never_decides unflawed nonneg returned warned).2
  exact ⟨unflawed, nonneg, warned, evaluation, other, returned, done, complained,
    mt same.1 complained⟩

end DefectConfiguration
end CoffeeGrading
