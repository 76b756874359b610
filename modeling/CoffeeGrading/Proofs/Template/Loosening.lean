import CoffeeGrading.Proofs.Template.Attainable
import CoffeeGrading.Proofs.Template.Judgeable

/-!
Looser limits.  What is asked of a part asks no more under limits of which none is stricter, and a
lowest score that was placed within a tolerance is placed within a larger one, so that a template
which was accepted is judged again and accepted again.
-/

namespace CoffeeGrading

open Binary64

/-- No limit is stricter: the intervals hold whatever they held, and neither the largest weight nor
the tolerance is smaller. -/
structure Limits.Loosened (strict loose : Limits) : Prop where
  aspect : ∀ value, strict.aspectValueMin ≤ value ∧ value ≤ strict.aspectValueMax →
    loose.aspectValueMin ≤ value ∧ value ≤ loose.aspectValueMax
  percentage : ∀ share, strict.Allows share → loose.Allows share
  moisture : ∀ value, strict.moistureMinBound ≤ value ∧ value ≤ strict.moistureMaxBound →
    loose.moistureMinBound ≤ value ∧ value ≤ loose.moistureMaxBound
  defectWeight : strict.maxDefectWeight ≤ loose.maxDefectWeight
  scoreTolerance : strict.scoreTolerance ≤ loose.scoreTolerance

theorem Binary64.between_of_outside {low high lower higher : Binary64} (below : lower ≤ low)
    (above : high ≤ higher) (value : Binary64) (between : low ≤ value ∧ value ≤ high) :
    lower ≤ value ∧ value ≤ higher :=
  ⟨le_trans below between.1, le_trans between.2 above⟩

variable {strict loose : Limits}

/-! ### Screens, aspects, defects, regions -/

theorem ScreenConstraint.Bounded.loosened (looser : strict.Loosened loose)
    {constraint : ScreenConstraint} (bounded : constraint.Bounded strict) :
    constraint.Bounded loose := by
  obtain ⟨screenSize, rule, minValue, maxValue, displayOrder⟩ := constraint
  cases rule with
  | minimum =>
      obtain ⟨low, set, allowed⟩ := bounded
      exact ⟨low, set, looser.percentage low allowed⟩
  | maximum =>
      obtain ⟨high, set, allowed⟩ := bounded
      exact ⟨high, set, looser.percentage high allowed⟩
  | range =>
      obtain ⟨low, high, lowSet, highSet, lowAllowed, highAllowed, ordered⟩ := bounded
      exact ⟨low, high, lowSet, highSet, looser.percentage low lowAllowed,
        looser.percentage high highAllowed, ordered⟩
  | any => exact bounded

theorem ScreenRequirements.Sound.loosened (looser : strict.Loosened loose)
    {requirements : ScreenRequirements} (sound : requirements.Sound strict) :
    requirements.Sound loose :=
  ⟨sound.names, fun constraint listed => (sound.bounded constraint listed).loosened looser⟩

theorem AspectConfiguration.Sound.loosened (looser : strict.Loosened loose)
    {configuration : AspectConfiguration} (sound : configuration.Sound strict) :
    configuration.Sound loose :=
  ⟨sound.labels, sound.values,
    fun wording listed => looser.aspect wording.value (sound.within wording listed),
    sound.threshold⟩

theorem DefectConfiguration.Sound.loosened (looser : strict.Loosened loose)
    {configuration : DefectConfiguration} (sound : configuration.Sound strict) :
    configuration.Sound loose := by
  refine ⟨sound.listed, sound.names, ?_, sound.thresholds⟩
  intro definition listed
  obtain ⟨positive, light⟩ := sound.weights definition listed
  exact ⟨positive, fun heavy => light (lt_of_le_of_lt looser.defectWeight heavy)⟩

theorem MicroRegionConfiguration.Sound.loosened (looser : strict.Loosened loose)
    {configuration : MicroRegionConfiguration} (sound : configuration.Sound strict) :
    configuration.Sound loose := by
  refine ⟨sound.origins, ?_⟩
  intro requirement listed entry shared
  obtain ⟨min, max, ordered⟩ := sound.shares requirement listed entry shared
  exact ⟨fun low set => looser.percentage low (min low set),
    fun high set => looser.percentage high (max high set), ordered⟩

theorem TemplateParameters.MoistureSound.loosened (looser : strict.Loosened loose)
    {parameters : TemplateParameters} (sound : parameters.MoistureSound strict) :
    parameters.MoistureSound loose :=
  ⟨fun low set => looser.moisture low (sound.min low set),
    fun high set => looser.moisture high (sound.max high set), sound.ordered⟩

/-! ### Scores -/

theorem Scale.Reaches.loosened {smaller larger score : Binary64} (wider : smaller ≤ larger)
    {scale : Scale} (reached : scale.Reaches smaller score) : scale.Reaches larger score := by
  cases scale with
  | numeric range =>
      obtain ⟨above, below, steps, counted, near⟩ := reached
      refine ⟨?_, ?_, steps, counted, lt_of_lt_of_le near wider⟩
      · intro under
        exact above (lt_add_of_lt_add (neg_le_neg wider) under)
      · intro beyond
        exact below (add_lt_of_add_lt wider beyond)
  | wording options =>
      obtain ⟨option, listed, near⟩ := reached
      exact ⟨option, listed, lt_of_lt_of_le near wider⟩

theorem Cupping.Sound.loosened {smaller larger : Binary64} (wider : smaller ≤ larger)
    {attributes : List CuppingAttribute} (sound : Sound smaller attributes) :
    Sound larger attributes := by
  refine ⟨sound.names, ?_⟩
  intro item listed
  obtain ⟨scale, reached⟩ := sound.scored item listed
  exact ⟨scale, fun rule ruled => (reached rule ruled).loosened wider⟩

/-! ### Templates -/

theorem UsableIfFilled.imp {Part : Type} {isEmpty : Part → Bool} {Usable Acceptable : Part → Prop}
    (weaker : ∀ given, Usable given → Acceptable given) {part : Option Part}
    (usable : UsableIfFilled isEmpty Usable part) : UsableIfFilled isEmpty Acceptable part :=
  fun given present filled => weaker given (usable given present filled)

namespace QualityTemplate

variable {template : QualityTemplate}

theorem Holds.loosened (looser : strict.Loosened loose) {part : TemplatePart}
    (holds : template.Holds strict part) : template.Holds loose part := by
  cases part with
  | name | origin | sampleSize | roastSampleSize | quakers | offFlavours => exact holds
  | moisture => exact TemplateParameters.MoistureSound.loosened looser holds
  | screenSizes => exact ⟨holds.1, holds.2.loosened looser⟩
  | cupping => exact ⟨holds.1, holds.2.loosened looser.scoreTolerance⟩
  | greenAspect | roastAspect | defects | microRegions =>
      exact UsableIfFilled.imp (fun _ sound => sound.loosened looser) holds

theorem Judgeable.of_holds {limits other : Limits} (judgeable : template.Judgeable limits)
    (cupping : template.Holds other .cupping) : template.Judgeable other := by
  refine ⟨?_, judgeable.summable⟩
  intro apart stalls
  obtain ⟨reason, failed⟩ :=
    (TemplateParameters.cuppingFlaw?_eq_error_iff other template.parameters).2 ⟨apart, stalls⟩
  have found := (TemplateParameters.cuppingFlaw?_eq_none_iff other template.parameters).2 cupping
  rw [failed] at found
  cases found

/-- A template that is accepted under some limits is accepted under limits of which none is
stricter; in particular it is judged under them. -/
theorem accepted_under_looser_limits (strict loose : Limits) (looser : strict.Loosened loose)
    (template : QualityTemplate) (report : TemplateReport)
    (returned : template.validate strict = .ok report) (valid : report.isValid = true) :
    ∃ other, template.validate loose = .ok other ∧ other.isValid = true := by
  have holds : ∀ part, template.Holds loose part := fun part =>
    ((isValid_iff_holds returned).1 valid part).loosened looser
  have judgeable : template.Judgeable strict :=
    (template.validate_eq_ok_iff strict).1 ⟨report, returned⟩
  obtain ⟨other, judged⟩ :=
    (template.validate_eq_ok_iff loose).2 (judgeable.of_holds (holds .cupping))
  exact ⟨other, judged, (isValid_iff_holds judged).2 holds⟩

def looseLimits : Limits where
  scoreTolerance := 0.05
  aspectValueMin := 0
  aspectValueMax := 12
  percentageMin := -5
  maxDefectWeight := 20
  moistureMaxBound := 100.5

theorem loosened_looseLimits : Limits.Loosened {} looseLimits where
  aspect := between_of_outside (by decide +kernel) (by decide +kernel)
  percentage := between_of_outside (by decide +kernel) (by decide +kernel)
  moisture := between_of_outside (by decide +kernel) (by decide +kernel)
  defectWeight := by decide +kernel
  scoreTolerance := by decide +kernel

theorem washedLot_accepted_under_looseLimits :
    Limits.Loosened {} looseLimits ∧ washedLot.validate {} = .ok ⟨[], []⟩ ∧
      TemplateReport.isValid ⟨[], []⟩ = true ∧
      ∃ other, washedLot.validate looseLimits = .ok other ∧ other.isValid = true :=
  ⟨loosened_looseLimits, washedLot_accepted, rfl,
    accepted_under_looser_limits {} looseLimits loosened_looseLimits washedLot ⟨[], []⟩
      washedLot_accepted rfl⟩

end QualityTemplate
end CoffeeGrading
