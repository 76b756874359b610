import CoffeeGrading.Proofs.Defect.Consistency

/-!
Limits scaled to a sample of another size.  All of them are multiplied by one ratio and rounded in
the same way, which keeps their order, so that scaled limits contradict each other only where the
limits of the template did.
-/

namespace CoffeeGrading

open Binary64

def scaledLimit (fromSize toSize limit : Binary64) : Binary64 :=
  (limit * (toSize / fromSize)).roundPlaces 2

section

variable {fromSize toSize limit more : Binary64}

theorem finite_of_scaledLimit (finite : (scaledLimit fromSize toSize limit).isFinite) :
    limit.isFinite ∧ (toSize / fromSize).isFinite :=
  isFinite_of_mul (isFinite_of_roundPlaces finite)

variable (fromPositive : 0 < fromSize) (toPositive : 0 < toSize)

include fromPositive toPositive

theorem scaledLimit_nonneg (finite : (scaledLimit fromSize toSize limit).isFinite)
    (nonneg : 0 ≤ limit) : 0 ≤ scaledLimit fromSize toSize limit := by
  obtain ⟨limitFinite, ratioFinite⟩ := finite_of_scaledLimit finite
  exact roundPlaces_nonneg 2 (mul_nonneg limitFinite ratioFinite nonneg
    (div_nonneg_of_pos toPositive fromPositive ratioFinite))

theorem scaledLimit_le_scaledLimit (finite : (scaledLimit fromSize toSize limit).isFinite)
    (moreFinite : (scaledLimit fromSize toSize more).isFinite) (ordered : limit ≤ more) :
    scaledLimit fromSize toSize limit ≤ scaledLimit fromSize toSize more := by
  obtain ⟨limitFinite, ratioFinite⟩ := finite_of_scaledLimit finite
  exact roundPlaces_le_roundPlaces 2 (mul_le_mul_of_nonneg limitFinite
    (finite_of_scaledLimit moreFinite).1 ratioFinite
    (div_nonneg_of_pos toPositive fromPositive ratioFinite) ordered)

theorem lt_of_scaledLimit_lt (finite : (scaledLimit fromSize toSize limit).isFinite)
    (moreFinite : (scaledLimit fromSize toSize more).isFinite)
    (below : scaledLimit fromSize toSize limit < scaledLimit fromSize toSize more) :
    limit < more := by
  rw [← not_le_iff_lt (placed_of_finite (finite_of_scaledLimit finite).1)
    (placed_of_finite (finite_of_scaledLimit moreFinite).1)]
  intro above
  exact not_lt_of_le
    (scaledLimit_le_scaledLimit fromPositive toPositive moreFinite finite above) below

end

/-! ### What scaling returns -/

namespace DefectThresholds

def mapLimits (thresholds : DefectThresholds) (change : Binary64 → Binary64) :
    DefectThresholds where
  maxPrimary := thresholds.maxPrimary.map change
  maxSecondary := thresholds.maxSecondary.map change
  maxTotal := thresholds.maxTotal.map change

@[simp] theorem limitOn_mapLimits (thresholds : DefectThresholds)
    (change : Binary64 → Binary64) (group : DefectGroup) :
    (thresholds.mapLimits change).limitOn group = (thresholds.limitOn group).map change := by
  match group with
  | .category .primary => rfl
  | .category .secondary => rfl
  | .all => rfl

def AllFinite (thresholds : DefectThresholds) : Prop :=
  ∀ group, (thresholds.limitOn group).all Binary64.isFinite

instance (thresholds : DefectThresholds) : Decidable thresholds.AllFinite :=
  inferInstanceAs (Decidable (∀ _, _))

theorem not_allFinite_mapLimits_iff {thresholds : DefectThresholds}
    {change : Binary64 → Binary64} :
    ¬ (thresholds.mapLimits change).AllFinite ↔
      ∃ group limit, thresholds.limitOn group = some limit ∧ ¬ (change limit).isFinite := by
  simp only [AllFinite, limitOn_mapLimits, Option.all_map, Option.all_eq_true, not_forall,
    exists_prop]

def checked (thresholds : DefectThresholds) : Except (List Fault) DefectThresholds :=
  make thresholds.maxPrimary thresholds.maxSecondary thresholds.maxTotal

theorem checked_eq_ok_iff {thresholds made : DefectThresholds} :
    thresholds.checked = .ok made ↔ thresholds.AllFinite ∧ thresholds = made := by
  rw [checked, make, requireFinite_eq_ok_iff]
  simp [AllFinite, DefectGroup.forall_iff, limitOn]

theorem scale_of_sizes (thresholds : DefectThresholds) {fromSize toSize : Binary64}
    (sizes : ¬ (¬ 0 < fromSize ∨ ¬ 0 < toSize)) :
    thresholds.scale fromSize toSize =
      match (thresholds.mapLimits (scaledLimit fromSize toSize)).checked with
      | .ok scaled => .ok scaled
      | .error faults => .error (.invalid faults) :=
  if_neg sizes

theorem scale_cases (thresholds : DefectThresholds) (fromSize toSize : Binary64) :
    (¬ 0 < fromSize ∨ ¬ 0 < toSize) ∧
        thresholds.scale fromSize toSize = .error .sampleSize ∨
      (0 < fromSize ∧ 0 < toSize) ∧
        ¬ (thresholds.mapLimits (scaledLimit fromSize toSize)).AllFinite ∧
        (∃ faults, thresholds.scale fromSize toSize = .error (.invalid faults)) ∨
      (0 < fromSize ∧ 0 < toSize) ∧
        (thresholds.mapLimits (scaledLimit fromSize toSize)).AllFinite ∧
        thresholds.scale fromSize toSize =
          .ok (thresholds.mapLimits (scaledLimit fromSize toSize)) := by
  by_cases unfit : ¬ 0 < fromSize ∨ ¬ 0 < toSize
  · exact .inl ⟨unfit, if_pos unfit⟩
  · have sizes : 0 < fromSize ∧ 0 < toSize := by simpa using unfit
    rw [scale_of_sizes thresholds unfit]
    cases made : (thresholds.mapLimits (scaledLimit fromSize toSize)).checked with
    | ok scaled =>
        obtain ⟨finite, rfl⟩ := checked_eq_ok_iff.1 made
        exact .inr (.inr ⟨sizes, finite, rfl⟩)
    | error faults =>
        refine .inr (.inl ⟨sizes, ?_, faults, rfl⟩)
        intro finite
        cases made.symm.trans (checked_eq_ok_iff.2 ⟨finite, rfl⟩)

section

variable {thresholds scaled : DefectThresholds} {fromSize toSize : Binary64}

theorem scale_eq_sampleSize_iff :
    thresholds.scale fromSize toSize = .error .sampleSize ↔ ¬ 0 < fromSize ∨ ¬ 0 < toSize := by
  rcases scale_cases thresholds fromSize toSize with
    ⟨unfit, failed⟩ | ⟨sizes, _, _, failed⟩ | ⟨sizes, _, done⟩
  · simp only [failed, unfit]
  · simp [failed, sizes]
  · simp [done, sizes]

theorem exists_invalid_iff :
    (∃ faults, thresholds.scale fromSize toSize = .error (.invalid faults)) ↔
      (0 < fromSize ∧ 0 < toSize) ∧
        ¬ (thresholds.mapLimits (scaledLimit fromSize toSize)).AllFinite := by
  rcases scale_cases thresholds fromSize toSize with
    ⟨unfit, failed⟩ | ⟨sizes, infinite, _, failed⟩ | ⟨_, finite, done⟩
  · simp [failed, not_and_or.2 unfit]
  · simp [failed, sizes, infinite]
  · simp [done, finite]

theorem scale_eq_ok_iff :
    thresholds.scale fromSize toSize = .ok scaled ↔
      (0 < fromSize ∧ 0 < toSize) ∧
        (thresholds.mapLimits (scaledLimit fromSize toSize)).AllFinite ∧
        thresholds.mapLimits (scaledLimit fromSize toSize) = scaled := by
  rcases scale_cases thresholds fromSize toSize with
    ⟨unfit, failed⟩ | ⟨_, infinite, _, failed⟩ | ⟨sizes, finite, done⟩
  · simp [failed, not_and_or.2 unfit]
  · simp [failed, infinite]
  · simp [done, sizes, finite]

end

/-! ### What the limits have in common -/

/-- Limits that stand to each other as others do: the same ones are set, they are not below zero
where the others are not, and they are in the same order. -/
structure Resembles (scaled thresholds : DefectThresholds) : Prop where
  unset : ∀ group, scaled.limitOn group = none ↔ thresholds.limitOn group = none
  nonneg : ∀ group limit result, thresholds.limitOn group = some limit →
    scaled.limitOn group = some result → 0 ≤ limit → 0 ≤ result
  ordered : ∀ group other limit more result further,
    thresholds.limitOn group = some limit → thresholds.limitOn other = some more →
      scaled.limitOn group = some result → scaled.limitOn other = some further →
        limit ≤ more → result ≤ further

section

variable {thresholds : DefectThresholds} {fromSize toSize : Binary64}
  (sizes : 0 < fromSize ∧ 0 < toSize)
  (finite : (thresholds.mapLimits (scaledLimit fromSize toSize)).AllFinite)

include finite

theorem scaledLimit_finite {group : DefectGroup} {limit : Binary64}
    (limited : thresholds.limitOn group = some limit) :
    (scaledLimit fromSize toSize limit).isFinite := by
  simpa [limited] using finite group

include sizes

theorem mapLimits_resembles :
    (thresholds.mapLimits (scaledLimit fromSize toSize)).Resembles thresholds where
  unset group := by simp
  nonneg group limit result limited changed nonneg := by
    rw [limitOn_mapLimits, limited] at changed
    obtain rfl := Option.some.inj changed
    exact scaledLimit_nonneg sizes.1 sizes.2 (scaledLimit_finite finite limited) nonneg
  ordered group other limit more result further limited also changed alsoChanged ordered := by
    rw [limitOn_mapLimits, limited] at changed
    rw [limitOn_mapLimits, also] at alsoChanged
    obtain rfl := Option.some.inj changed
    obtain rfl := Option.some.inj alsoChanged
    exact scaledLimit_le_scaledLimit sizes.1 sizes.2 (scaledLimit_finite finite limited)
      (scaledLimit_finite finite also) ordered

theorem warns_of_mapLimits {category : DefectCategory}
    (warned : (thresholds.mapLimits (scaledLimit fromSize toSize)).Warns category) :
    thresholds.Warns category := by
  obtain ⟨_, _, given, limited, lower⟩ := warns_iff.1 warned
  obtain ⟨total, known, rfl⟩ := Option.map_eq_some_iff.1 given
  rw [limitOn_mapLimits] at limited
  obtain ⟨limit, alsoKnown, rfl⟩ := Option.map_eq_some_iff.1 limited
  have totalKnown : thresholds.limitOn .all = some total := known
  have before := lt_of_scaledLimit_lt sizes.1 sizes.2 (scaledLimit_finite finite totalKnown)
    (scaledLimit_finite finite alsoKnown) lower
  exact warns_iff.2 ⟨total, limit, known, alsoKnown, before⟩

end

/-- Limits are scaled unless a sample size is not above zero or a result is not finite, and what
they are scaled to resembles them, so that no category is reported that was not before. -/
theorem scale_resembles (thresholds : DefectThresholds) (fromSize toSize : Binary64) :
    ScalingFault.sampleSize.message = "Sample sizes must be greater than 0." ∧
    (thresholds.scale fromSize toSize = .error .sampleSize ↔ ¬ 0 < fromSize ∨ ¬ 0 < toSize) ∧
    ((∃ faults, thresholds.scale fromSize toSize = .error (.invalid faults)) ↔
      (0 < fromSize ∧ 0 < toSize) ∧ ∃ group limit, thresholds.limitOn group = some limit ∧
        ¬ (scaledLimit fromSize toSize limit).isFinite) ∧
    ∀ scaled, thresholds.scale fromSize toSize = .ok scaled →
      (∀ group, scaled.limitOn group =
        (thresholds.limitOn group).map (scaledLimit fromSize toSize)) ∧
      scaled.Resembles thresholds ∧
      ∀ category, scaled.Warns category → thresholds.Warns category := by
  refine ⟨rfl, scale_eq_sampleSize_iff, ?_, ?_⟩
  · rw [exists_invalid_iff, not_allFinite_mapLimits_iff]
  · intro scaled returned
    obtain ⟨sizes, finite, rfl⟩ := scale_eq_ok_iff.1 returned
    exact ⟨fun group => limitOn_mapLimits _ _ group, mapLimits_resembles sizes finite,
      fun _ => warns_of_mapLimits sizes finite⟩

theorem looseOnPrimary_scale_resembles :
    ∃ scaled, DefectConfiguration.looseOnPrimary.thresholds.scale 350 700 = .ok scaled ∧
      scaled.Resembles DefectConfiguration.looseOnPrimary.thresholds ∧
      scaled.Warns .primary ∧ DefectConfiguration.looseOnPrimary.thresholds.Warns .primary := by
  have sizes : (0 : Binary64) < 350 ∧ (0 : Binary64) < 700 := by decide +kernel
  have finite : (DefectConfiguration.looseOnPrimary.thresholds.mapLimits
      (scaledLimit 350 700)).AllFinite := by
    decide +kernel
  have returned := scale_eq_ok_iff.2 ⟨sizes, finite, rfl⟩
  have warned : (DefectConfiguration.looseOnPrimary.thresholds.mapLimits
      (scaledLimit 350 700)).Warns .primary :=
    warns_iff.2 ⟨scaledLimit 350 700 5, scaledLimit 350 700 8, rfl, rfl, by decide +kernel⟩
  obtain ⟨_, _, _, resembles⟩ :=
    scale_resembles DefectConfiguration.looseOnPrimary.thresholds 350 700
  obtain ⟨_, similar, kept⟩ := resembles _ returned
  exact ⟨_, returned, similar, warned, kept .primary warned⟩

end DefectThresholds
end CoffeeGrading
