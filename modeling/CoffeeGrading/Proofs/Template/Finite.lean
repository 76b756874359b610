import CoffeeGrading.Proofs.Document.Yields
import CoffeeGrading.Template

/-!
Templates without infinities and without what is not a number.  Every template that is read from a
document is one of them.
-/

namespace CoffeeGrading

def FiniteIfSet (value : Option Binary64) : Prop :=
  ∀ number, value = some number → number.isFinite = true

theorem finiteIfSet_none : FiniteIfSet none := by
  intro number unset
  simp at unset

theorem finiteIfSet_some {number : Binary64} (finite : number.isFinite = true) :
    FiniteIfSet (some number) := by
  intro other same
  obtain rfl := Option.some.inj same
  exact finite

theorem FiniteIfSet.getD {value : Option Binary64} (finite : FiniteIfSet value) :
    (value.getD 0).isFinite = true := by
  cases value with
  | none => rfl
  | some number => exact finite number rfl

structure NumericScale.Finite (range : NumericScale) : Prop where
  min : range.min.isFinite = true
  max : range.max.isFinite = true
  increment : range.increment.isFinite = true

def Scale.Finite : Scale → Prop
  | numeric range => range.Finite
  | wording options => ∀ option ∈ options, option.value.isFinite = true

structure CuppingAttribute.Finite (item : CuppingAttribute) : Prop where
  scale : item.scale.Finite
  rule : ∀ rule, item.rule = some rule → rule.minValue.isFinite = true

structure ScreenConstraint.Finite (constraint : ScreenConstraint) : Prop where
  min : FiniteIfSet constraint.minValue
  max : FiniteIfSet constraint.maxValue

structure AspectConfiguration.Finite (configuration : AspectConfiguration) : Prop where
  values : ∀ wording ∈ configuration.wordings, wording.value.isFinite = true
  threshold : ∀ threshold, configuration.threshold = some threshold →
    threshold.minAcceptableValue.isFinite = true

structure DefectThresholds.Finite (thresholds : DefectThresholds) : Prop where
  primary : FiniteIfSet thresholds.maxPrimary
  secondary : FiniteIfSet thresholds.maxSecondary
  total : FiniteIfSet thresholds.maxTotal

structure DefectConfiguration.Finite (configuration : DefectConfiguration) : Prop where
  weights : ∀ definition ∈ configuration.defects, definition.weight.isFinite = true
  thresholds : configuration.thresholds.Finite

structure OffFlavourRules.Finite (rules : OffFlavourRules) : Prop where
  taints : FiniteIfSet rules.maxTaintIntensity
  faults : FiniteIfSet rules.maxFaultIntensity

structure OffFlavourConfiguration.Finite (configuration : OffFlavourConfiguration) : Prop where
  taints : ∀ definition ∈ configuration.taints, definition.scale.Finite
  faults : ∀ definition ∈ configuration.faults, definition.scale.Finite
  rules : configuration.rules.Finite

structure RegionShare.Finite (share : RegionShare) : Prop where
  min : FiniteIfSet share.min
  max : FiniteIfSet share.max

def MicroRegionRequirement.Finite (requirement : MicroRegionRequirement) : Prop :=
  ∀ entry ∈ requirement.shares, entry.2.Finite

structure TemplateParameters.Finite (parameters : TemplateParameters) : Prop where
  sampleSize : FiniteIfSet parameters.sampleSizeGrams
  screens : ∀ constraint ∈ parameters.screenSizeRequirements.constraints, constraint.Finite
  greenAspect : ∀ configuration, parameters.greenAspectConfiguration = some configuration →
    configuration.Finite
  defects : ∀ configuration, parameters.defectConfiguration = some configuration →
    configuration.Finite
  moistureMin : FiniteIfSet parameters.moistureMin
  moistureMax : FiniteIfSet parameters.moistureMax
  roastAspect : ∀ configuration, parameters.roastAspectConfiguration = some configuration →
    configuration.Finite
  roastSampleSize : FiniteIfSet parameters.roastSampleSizeGrams
  cupping : ∀ item ∈ parameters.cuppingAttributes, item.Finite
  offFlavours : ∀ configuration, parameters.taintFaultConfiguration = some configuration →
    configuration.Finite
  microRegions : ∀ configuration, parameters.microRegionConfiguration = some configuration →
    ∀ requirement ∈ configuration.requirements, requirement.Finite

def QualityTemplate.Finite (template : QualityTemplate) : Prop :=
  template.parameters.Finite

/-! ### Deciding it -/

theorem finiteIfSet_iff_all (value : Option Binary64) :
    FiniteIfSet value ↔ value.all Binary64.isFinite = true := by
  cases value with
  | none => simp [FiniteIfSet]
  | some number => simp [FiniteIfSet]

instance (value : Option Binary64) : Decidable (FiniteIfSet value) :=
  decidable_of_iff _ (finiteIfSet_iff_all value).symm

instance (range : NumericScale) : Decidable range.Finite :=
  decidable_of_iff (range.min.isFinite = true ∧ range.max.isFinite = true ∧
      range.increment.isFinite = true)
    ⟨fun ⟨min, max, increment⟩ => ⟨min, max, increment⟩, fun finite => ⟨finite.1, finite.2, finite.3⟩⟩

instance : (scale : Scale) → Decidable scale.Finite
  | .numeric range => inferInstanceAs (Decidable range.Finite)
  | .wording options => inferInstanceAs (Decidable (∀ option ∈ options, option.value.isFinite = true))

instance (constraint : ScreenConstraint) : Decidable constraint.Finite :=
  decidable_of_iff (FiniteIfSet constraint.minValue ∧ FiniteIfSet constraint.maxValue)
    ⟨fun ⟨min, max⟩ => ⟨min, max⟩, fun finite => ⟨finite.1, finite.2⟩⟩

instance (configuration : AspectConfiguration) : Decidable configuration.Finite :=
  decidable_of_iff ((∀ wording ∈ configuration.wordings, wording.value.isFinite = true) ∧
      FiniteIfSet (configuration.threshold.map AspectThreshold.minAcceptableValue)) <| by
    constructor
    · rintro ⟨values, threshold⟩
      exact ⟨values, fun stood given => threshold _ (by rw [given]; rfl)⟩
    · rintro ⟨values, threshold⟩
      refine ⟨values, ?_⟩
      intro number given
      obtain ⟨stood, set, rfl⟩ := Option.map_eq_some_iff.1 given
      exact threshold stood set

instance (thresholds : DefectThresholds) : Decidable thresholds.Finite :=
  decidable_of_iff (FiniteIfSet thresholds.maxPrimary ∧ FiniteIfSet thresholds.maxSecondary ∧
      FiniteIfSet thresholds.maxTotal)
    ⟨fun ⟨primary, secondary, total⟩ => ⟨primary, secondary, total⟩,
      fun finite => ⟨finite.1, finite.2, finite.3⟩⟩

instance (configuration : DefectConfiguration) : Decidable configuration.Finite :=
  decidable_of_iff ((∀ definition ∈ configuration.defects, definition.weight.isFinite = true) ∧
      configuration.thresholds.Finite)
    ⟨fun ⟨weights, thresholds⟩ => ⟨weights, thresholds⟩, fun finite => ⟨finite.1, finite.2⟩⟩

instance (rules : OffFlavourRules) : Decidable rules.Finite :=
  decidable_of_iff (FiniteIfSet rules.maxTaintIntensity ∧ FiniteIfSet rules.maxFaultIntensity)
    ⟨fun ⟨taints, faults⟩ => ⟨taints, faults⟩, fun finite => ⟨finite.1, finite.2⟩⟩

instance (configuration : OffFlavourConfiguration) : Decidable configuration.Finite :=
  decidable_of_iff ((∀ definition ∈ configuration.taints, definition.scale.Finite) ∧
      (∀ definition ∈ configuration.faults, definition.scale.Finite) ∧ configuration.rules.Finite)
    ⟨fun ⟨taints, faults, rules⟩ => ⟨taints, faults, rules⟩,
      fun finite => ⟨finite.1, finite.2, finite.3⟩⟩

/-! ### Reading -/

open Reading (Yields)

theorem NumericScale.fields_yields : fields.Yields Finite := by
  refine .seq (.seq (.seq (.map ?_ .anything) (.required _ .number)) (.required _ .number))
    (.required _ .number)
  intro _ _ min minFinite max maxFinite increment incrementFinite
  exact ⟨minFinite, maxFinite, incrementFinite⟩

theorem WordingOption.read_yields (document : Document) :
    (read document).Yields fun option => option.value.isFinite = true := by
  refine .record _ (.seq (.seq (.map ?_ .anything) (.required _ .number)) .anything) document
  intro label _ value finite displayOrder _
  exact finite

theorem Scale.read_yields (document : Document) : (read document).Yields Finite := by
  refine .tagged _ ?_ document
  intro variant member
  simp only [variants, List.mem_cons, List.not_mem_nil, or_false] at member
  rcases member with rfl | rfl
  · refine .map ?_ NumericScale.fields_yields
    intro range finite
    exact finite
  · refine .seq (.map ?_ .anything) (.withDefault _ (.pure ?_) (.list WordingOption.read_yields))
    · intro _ _ options finite
      exact finite
    · exact fun option member => absurd member List.not_mem_nil

theorem ScoreRule.read_yields (document : Document) :
    (read document).Yields fun rule => rule.minValue.isFinite = true := by
  refine .record _ (.seq (.map ?_ (.required _ .number)) .anything) document
  intro minValue finite message _
  exact finite

theorem CuppingAttribute.read_yields (document : Document) : (read document).Yields Finite := by
  refine .record _ (.seq (.seq (.seq (.map ?_ .anything) (.required _ Scale.read_yields))
    .anything) (.optional _ ScoreRule.read_yields)) document
  intro name _ scale scaleFinite isRequired _ rule ruleFinite
  exact ⟨scaleFinite, ruleFinite⟩

theorem ScreenConstraint.read_yields (document : Document) : (read document).Yields Finite := by
  refine .record _ (.seq (.seq (.seq (.seq (.map ?_ .anything) .anything)
    (.optional _ .number)) (.optional _ .number)) .anything) document
  intro screenSize _ rule _ minValue minFinite maxValue maxFinite displayOrder _
  exact ⟨minFinite, maxFinite⟩

theorem ScreenRequirements.read_yields (document : Document) :
    (read document).Yields fun requirements =>
      ∀ constraint ∈ requirements.constraints, constraint.Finite := by
  refine .record _ (.seq (.map ?_ (.withDefault _ (.pure ?_)
    (.list ScreenConstraint.read_yields))) .anything) document
  · intro constraints finite notes _
    exact finite
  · exact fun constraint member => absurd member List.not_mem_nil

theorem AspectWording.read_yields (document : Document) :
    (read document).Yields fun wording => wording.value.isFinite = true := by
  refine .record _ (.seq (.seq (.seq (.seq (.map ?_ .anything) .anything)
    (.required _ .number)) .anything) .anything) document
  intro id _ label _ value finite displayOrder _ description _
  exact finite

theorem AspectThreshold.read_yields (document : Document) :
    (read document).Yields fun threshold => threshold.minAcceptableValue.isFinite = true := by
  refine .record _ (.seq (.map ?_ (.required _ .number)) .anything) document
  intro minAcceptableValue finite message _
  exact finite

theorem AspectConfiguration.read_yields (document : Document) :
    (read document).Yields Finite := by
  refine .record _ (.seq (.seq (.map ?_ (.withDefault _ (.pure ?_)
    (.list AspectWording.read_yields))) (.optional _ AspectThreshold.read_yields)) .anything)
    document
  · intro wordings values threshold thresholdFinite notes _
    exact ⟨values, thresholdFinite⟩
  · exact fun wording member => absurd member List.not_mem_nil

theorem DefectDefinition.read_yields (document : Document) :
    (read document).Yields fun definition => definition.weight.isFinite = true := by
  refine .record _ (.seq (.seq (.seq (.seq (.map ?_ .anything) .anything)
    (.required _ .number)) .anything) .anything) document
  intro name _ category _ weight finite displayOrder _ description _
  exact finite

theorem DefectThresholds.read_yields (document : Document) : (read document).Yields Finite := by
  refine .record _ (.seq (.seq (.map ?_ (.optional _ .number)) (.optional _ .number))
    (.optional _ .number)) document
  intro maxPrimary primary maxSecondary secondary maxTotal total
  exact ⟨primary, secondary, total⟩

theorem DefectConfiguration.read_yields (document : Document) :
    (read document).Yields Finite := by
  refine .record _ (.seq (.seq (.map ?_ (.withDefault _ (.pure ?_)
    (.list DefectDefinition.read_yields))) (.withDefault _ (.pure ?_)
    DefectThresholds.read_yields)) .anything) document
  · intro defects weights thresholds finite notes _
    exact ⟨weights, finite⟩
  · exact fun definition member => absurd member List.not_mem_nil
  · exact ⟨finiteIfSet_none, finiteIfSet_none, finiteIfSet_none⟩

theorem OffFlavourDefinition.read_yields (document : Document) :
    (read document).Yields fun definition => definition.scale.Finite := by
  refine .record _ (.seq (.seq (.seq (.seq (.seq (.map ?_ .anything) .anything) .anything)
    (.required _ Scale.read_yields)) .anything) .anything) document
  intro id _ name _ category _ scale finite description _ displayOrder _
  exact finite

theorem OffFlavourRules.read_yields (document : Document) : (read document).Yields Finite := by
  cases document with
  | object entries =>
      refine Fields.Yields.readEntries (.seq (.seq (.seq (.seq (.seq (.seq (.map ?_ .anything)
        .anything) .anything) .anything) (.optional _ .number)) (.optional _ .number)) .anything) _
      intro zeroTolerance _ maxTaints _ maxFaults _ maxCombined _ taintIntensity taints
        faultIntensity faults message _
      exact ⟨taints, faults⟩
  | _ => exact .fault _

theorem OffFlavourConfiguration.read_yields (document : Document) :
    (read document).Yields Finite := by
  refine .record _ (.seq (.seq (.seq (.map ?_ (.withDefault _ (.pure ?_)
    (.list OffFlavourDefinition.read_yields))) (.withDefault _ (.pure ?_)
    (.list OffFlavourDefinition.read_yields))) (.withDefault _ (.pure ?_)
    OffFlavourRules.read_yields)) .anything) document
  · intro taints taintsFinite faults faultsFinite rules rulesFinite notes _
    exact ⟨taintsFinite, faultsFinite, rulesFinite⟩
  · exact fun definition member => absurd member List.not_mem_nil
  · exact fun definition member => absurd member List.not_mem_nil
  · exact ⟨finiteIfSet_none, finiteIfSet_none⟩

theorem RegionShare.read_yields (document : Document) : (read document).Yields Finite := by
  refine .record _ (.seq (.map ?_ (.optional _ .number)) (.optional _ .number)) document
  intro min minFinite max maxFinite
  exact ⟨minFinite, maxFinite⟩

theorem RegionShares.read_yields (document : Document) :
    (read document).Yields fun shares => ∀ entry ∈ shares.entries, entry.2.Finite := by
  refine .map ?_ (.dictionary RegionShare.read_yields document)
  intro entries finite
  exact finite

theorem MicroRegionRequirement.read_yields (document : Document) :
    (read document).Yields Finite := by
  refine .record _ (.seq (.seq (.seq (.seq (.map ?_ .anything) .anything)
    (.optional _ RegionShares.read_yields)) .anything) .anything) document
  intro origin _ regions _ percentages finite allowMix _ notes _ entry member
  cases percentages with
  | none => exact absurd member List.not_mem_nil
  | some shares => exact finite shares rfl entry member

theorem MicroRegionConfiguration.read_yields (document : Document) :
    (read document).Yields fun configuration =>
      ∀ requirement ∈ configuration.requirements, requirement.Finite := by
  refine .record _ (.map ?_ (.withDefault _ (.pure ?_)
    (.list MicroRegionRequirement.read_yields))) document
  · intro requirements finite
    exact finite
  · exact fun requirement member => absurd member List.not_mem_nil

theorem TemplateParameters.read_yields (document : Document) :
    (read document).Yields Finite := by
  refine .record _ (.seq (.seq (.seq (.seq (.seq (.seq (.seq (.seq (.seq (.seq (.seq (.seq
    (.map ?_ (.optional _ .number))
    (.withDefault _ (.pure ?_) ScreenRequirements.read_yields))
    (.optional _ AspectConfiguration.read_yields))
    (.optional _ DefectConfiguration.read_yields))
    (.optional _ .number))
    (.optional _ .number))
    .anything)
    (.optional _ AspectConfiguration.read_yields))
    (.optional _ .number))
    .anything)
    (.withDefault _ (.pure ?_) (.list CuppingAttribute.read_yields)))
    (.optional _ OffFlavourConfiguration.read_yields))
    (.optional _ MicroRegionConfiguration.read_yields)) document
  · intro _ sampleSize _ screens _ greenAspect _ defects _ moistureMin _ moistureMax _ _ _
      roastAspect _ roastSampleSize _ _ _ cupping _ offFlavours _ microRegions
    exact ⟨sampleSize, screens, greenAspect, defects, moistureMin, moistureMax, roastAspect,
      roastSampleSize, cupping, offFlavours, microRegions⟩
  · exact fun constraint member => absurd member List.not_mem_nil
  · exact fun item member => absurd member List.not_mem_nil

theorem TemplateParameters.finite_default : ({} : TemplateParameters).Finite := by
  refine ⟨finiteIfSet_none, ?_, ?_, ?_, finiteIfSet_none, finiteIfSet_none, ?_, finiteIfSet_none,
    ?_, ?_, ?_⟩
  all_goals
    intro part given
    simp at given

end CoffeeGrading
