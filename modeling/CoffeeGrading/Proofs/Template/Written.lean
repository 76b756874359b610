import CoffeeGrading.Proofs.Document.Written
import CoffeeGrading.Proofs.OffFlavour.Governed
import CoffeeGrading.Proofs.Template.Finite
import CoffeeGrading.Proofs.Variant

/-!
Every part of a template reads back from what it is written as.
-/

namespace CoffeeGrading

open Document (entriesOf lookup? ofFields_ne_null)
open Reading (record_ofFields tagged_ofFields list_map eachEntry_map text_text flag_flag
  nonemptyList_map whole_whole number_number choice_text positiveWhole_whole identifier_text
  timestamp_text)

theorem Fields.Restores.optionalNumber {written : List (String × Option Document)} {key : String}
    {value : Option Binary64} (finite : FiniteIfSet value)
    (told : lookup? key (entriesOf written) = value.map .number) :
    (Fields.optional key Reading.number).Restores written value :=
  .optional (fun set given => Reading.number_number (finite set given)) (by simp) told

/-! ### Scales and cupping -/

theorem WordingOption.read_document {option : WordingOption}
    (finite : option.value.isFinite = true) : read option.document = pure option := by
  obtain ⟨label, value, displayOrder⟩ := option
  refine record_ofFields (.seq (.seq (.map
    (.required (text_text _) ?_))
    (.required (number_number finite) ?_))
    (.withDefault (whole_whole _) ?_)) rfl
  all_goals simp

theorem Scale.read_document {scale : Scale} (finite : scale.Finite) :
    read scale.document = pure scale := by
  cases scale with
  | numeric range =>
      obtain ⟨min, max, increment⟩ := range
      refine tagged_ofFields "numeric" ?_ rfl (.map (.seq (.seq (.seq (.map (.known _))
        (.required (number_number finite.min) ?_))
        (.required (number_number finite.max) ?_))
        (.required (number_number finite.increment) ?_))) rfl
      all_goals simp
  | wording options =>
      have restored : ∀ option ∈ options,
          WordingOption.read option.document = pure option :=
        fun option listed => WordingOption.read_document (finite option listed)
      refine tagged_ofFields "wording" ?_ rfl (.seq (.map (.known _))
        (.withDefault (list_map restored) ?_)) rfl
      all_goals simp

theorem ScoreRule.read_document {rule : ScoreRule} (finite : rule.minValue.isFinite = true) :
    read rule.document = pure rule := by
  obtain ⟨minValue, validationMessage⟩ := rule
  refine record_ofFields (.seq (.map
    (.required (number_number finite) ?_))
    (.optionalText ?_)) rfl
  all_goals simp

theorem CuppingAttribute.read_document {item : CuppingAttribute} (finite : item.Finite) :
    read item.document = pure item := by
  obtain ⟨name, scale, isRequired, rule⟩ := item
  refine record_ofFields (.seq (.seq (.seq (.map
    (.required (text_text _) ?_))
    (.required (Scale.read_document finite.scale) ?_))
    (.withDefault (flag_flag _) ?_))
    (.optional (fun set given => ScoreRule.read_document (finite.rule set given))
      (fun _ => ofFields_ne_null _) ?_)) rfl
  all_goals simp

/-! ### Screens -/

theorem ScreenConstraint.read_document {constraint : ScreenConstraint}
    (finite : constraint.Finite) : read constraint.document = pure constraint := by
  obtain ⟨screenSize, rule, minValue, maxValue, displayOrder⟩ := constraint
  refine record_ofFields (.seq (.seq (.seq (.seq (.map
    (.required (text_text _) ?_))
    (.required (choice_text rule.lookup_name) ?_))
    (.optionalNumber finite.min ?_))
    (.optionalNumber finite.max ?_))
    (.withDefault (whole_whole _) ?_)) rfl
  all_goals simp

theorem ScreenRequirements.read_document {requirements : ScreenRequirements}
    (finite : ∀ constraint ∈ requirements.constraints, constraint.Finite) :
    read requirements.document = pure requirements := by
  obtain ⟨constraints, notes⟩ := requirements
  have restored : ∀ constraint ∈ constraints,
      ScreenConstraint.read constraint.document = pure constraint :=
    fun constraint listed => ScreenConstraint.read_document (finite constraint listed)
  refine record_ofFields (.seq (.map
    (.withDefault (list_map restored) ?_))
    (.optionalText ?_)) rfl
  all_goals simp

/-! ### Aspects -/

theorem AspectWording.read_document {wording : AspectWording}
    (finite : wording.value.isFinite = true) : read wording.document = pure wording := by
  obtain ⟨id, label, value, displayOrder, description⟩ := wording
  refine record_ofFields (.seq (.seq (.seq (.seq (.map
    (.withDefault (text_text _) ?_))
    (.required (text_text _) ?_))
    (.required (number_number finite) ?_))
    (.withDefault (whole_whole _) ?_))
    (.optionalText ?_)) rfl
  all_goals simp

theorem AspectThreshold.read_document {threshold : AspectThreshold}
    (finite : threshold.minAcceptableValue.isFinite = true) :
    read threshold.document = pure threshold := by
  obtain ⟨minAcceptableValue, validationMessage⟩ := threshold
  refine record_ofFields (.seq (.map
    (.required (number_number finite) ?_))
    (.optionalText ?_)) rfl
  all_goals simp

theorem AspectConfiguration.read_document {configuration : AspectConfiguration}
    (finite : configuration.Finite) : read configuration.document = pure configuration := by
  obtain ⟨wordings, threshold, notes⟩ := configuration
  have restored : ∀ wording ∈ wordings, AspectWording.read wording.document = pure wording :=
    fun wording listed => AspectWording.read_document (finite.values wording listed)
  refine record_ofFields (.seq (.seq (.map
    (.withDefault (list_map restored) ?_))
    (.optional (fun set given => AspectThreshold.read_document (finite.threshold set given))
      (fun _ => ofFields_ne_null _) ?_))
    (.optionalText ?_)) rfl
  all_goals simp

/-! ### Defects -/

theorem DefectCategory.lookup_name (category : DefectCategory) :
    choices.lookup category.name = some category := by
  cases category <;> rfl

theorem DefectDefinition.read_document {definition : DefectDefinition}
    (finite : definition.weight.isFinite = true) :
    read definition.document = pure definition := by
  obtain ⟨name, category, weight, displayOrder, description⟩ := definition
  refine record_ofFields (.seq (.seq (.seq (.seq (.map
    (.required (text_text _) ?_))
    (.required (choice_text category.lookup_name) ?_))
    (.required (number_number finite) ?_))
    (.withDefault (whole_whole _) ?_))
    (.optionalText ?_)) rfl
  all_goals simp

theorem DefectThresholds.read_document {thresholds : DefectThresholds}
    (finite : thresholds.Finite) : read thresholds.document = pure thresholds := by
  obtain ⟨maxPrimary, maxSecondary, maxTotal⟩ := thresholds
  refine record_ofFields (.seq (.seq (.map
    (.optionalNumber finite.primary ?_))
    (.optionalNumber finite.secondary ?_))
    (.optionalNumber finite.total ?_)) rfl
  all_goals simp

theorem DefectConfiguration.read_document {configuration : DefectConfiguration}
    (finite : configuration.Finite) : read configuration.document = pure configuration := by
  obtain ⟨defects, thresholds, notes⟩ := configuration
  have restored : ∀ definition ∈ defects,
      DefectDefinition.read definition.document = pure definition :=
    fun definition listed => DefectDefinition.read_document (finite.weights definition listed)
  refine record_ofFields (.seq (.seq (.map
    (.withDefault (list_map restored) ?_))
    (.withDefault (DefectThresholds.read_document finite.thresholds) ?_))
    (.optionalText ?_)) rfl
  all_goals simp

/-! ### Off-flavours -/

theorem OffFlavourCategory.lookup_name (category : OffFlavourCategory) :
    choices.lookup category.name = some category := by
  cases category <;> rfl

theorem OffFlavourDefinition.read_document {definition : OffFlavourDefinition}
    (finite : definition.scale.Finite) : read definition.document = pure definition := by
  obtain ⟨id, name, category, scale, description, displayOrder⟩ := definition
  refine record_ofFields (.seq (.seq (.seq (.seq (.seq (.map
    (.required (text_text _) ?_))
    (.required (text_text _) ?_))
    (.required (choice_text category.lookup_name) ?_))
    (.required (Scale.read_document finite) ?_))
    (.optionalText ?_))
    (.withDefault (whole_whole _) ?_)) rfl
  all_goals simp

namespace OffFlavourRules

/-- Rules that leave nothing to be overruled: with zero tolerance no limit is set. -/
def Settled (rules : OffFlavourRules) : Prop :=
  rules.isZeroTolerance = true → rules.hasLimits = false

def written (rules : OffFlavourRules) : List (String × Option Document) := [
  ("zero_tolerance", rules.zeroTolerance.map .flag),
  ("max_taints", rules.maxTaints.map .whole),
  ("max_faults", rules.maxFaults.map .whole),
  ("max_combined", rules.maxCombined.map .whole),
  ("max_taint_intensity", rules.maxTaintIntensity.map .number),
  ("max_fault_intensity", rules.maxFaultIntensity.map .number),
  ("validation_message", rules.validationMessage.map .text)]

theorem switchesOn_written (rules : OffFlavourRules) :
    switchesOn (entriesOf rules.written) = rules.isZeroTolerance := by
  cases given : rules.zeroTolerance with
  | none => simp [switchesOn, written, isZeroTolerance, given]
  | some enabled => simp [switchesOn, written, isZeroTolerance, given, Reading.flagOf]

theorem withoutOverruled_written {rules : OffFlavourRules} (settled : rules.Settled) :
    withoutOverruled (entriesOf rules.written) = entriesOf rules.written := by
  rw [withoutOverruled, switchesOn_written]
  by_cases zero : rules.isZeroTolerance = true
  · have unlimited := settled zero
    simp only [hasLimits, Bool.or_eq_false_iff, Option.isSome_eq_false_iff,
      Option.isNone_iff_eq_none] at unlimited
    obtain ⟨⟨⟨⟨taints, faults⟩, combined⟩, taintIntensity⟩, faultIntensity⟩ := unlimited
    rw [if_pos zero, List.filter_eq_self]
    intro entry listed
    have field := Document.mem_entriesOf_iff.1 listed
    simp only [written, taints, faults, combined, taintIntensity, faultIntensity, Option.map_none,
      List.mem_cons, Prod.mk.injEq, reduceCtorEq, and_false, false_or, List.not_mem_nil,
      or_false] at field
    rcases field with ⟨key, _⟩ | ⟨key, _⟩
    · simp [key, limitKeys]
    · simp [key, limitKeys]
  · rw [if_neg zero]

theorem read_document {rules : OffFlavourRules} (finite : rules.Finite)
    (settled : rules.Settled) : read rules.document = pure rules := by
  have whole : read rules.document = fields.readEntries (entriesOf rules.written) :=
    congrArg fields.readEntries (withoutOverruled_written settled)
  obtain ⟨zeroTolerance, maxTaints, maxFaults, maxCombined, maxTaintIntensity, maxFaultIntensity,
    validationMessage⟩ := rules
  rw [whole]
  refine Fields.Restores.readEntries (.seq (.seq (.seq (.seq (.seq (.seq (.map
    (.optional (fun _ _ => flag_flag _) (by simp) ?_))
    (.optionalWhole ?_))
    (.optionalWhole ?_))
    (.optionalWhole ?_))
    (.optionalNumber finite.taints ?_))
    (.optionalNumber finite.faults ?_))
    (.optionalText ?_)) rfl
  all_goals simp [written]

theorem ReadFrom.settled {entry : Option Document} {rules : OffFlavourRules}
    (source : ReadFrom entry rules) : rules.Settled := by
  cases source with
  | absent =>
      intro zero
      cases zero
  | object governed =>
      intro zero
      exact governed.overruled (by simpa [isZeroTolerance, Option.getD_eq_iff] using zero)

theorem read_settles (document : Document) : (read document).Yields Settled :=
  .imp (fun _ => ReadFrom.settled) (read_yields_from document)

end OffFlavourRules

theorem OffFlavourRules.settled_default : ({} : OffFlavourRules).Settled :=
  ReadFrom.absent.settled

namespace OffFlavourConfiguration

structure Writable (configuration : OffFlavourConfiguration) : Prop where
  finite : configuration.Finite
  settled : configuration.rules.Settled

theorem read_settles (document : Document) :
    (read document).Yields fun configuration => configuration.rules.Settled :=
  .imp (fun _ => OffFlavourRules.ReadFrom.settled) (rules_read_from document)

theorem read_writable (document : Document) : (read document).Yields Writable := by
  intro supply configuration good
  exact ⟨read_yields document supply configuration good,
    read_settles document supply configuration good⟩

theorem read_document {configuration : OffFlavourConfiguration}
    (writable : configuration.Writable) : read configuration.document = pure configuration := by
  obtain ⟨finite, settled⟩ := writable
  obtain ⟨taints, faults, rules, notes⟩ := configuration
  have taints_restored : ∀ definition ∈ taints,
      OffFlavourDefinition.read definition.document = pure definition :=
    fun definition listed => OffFlavourDefinition.read_document (finite.taints definition listed)
  have faults_restored : ∀ definition ∈ faults,
      OffFlavourDefinition.read definition.document = pure definition :=
    fun definition listed => OffFlavourDefinition.read_document (finite.faults definition listed)
  refine record_ofFields (.seq (.seq (.seq (.map
    (.withDefault (list_map taints_restored) ?_))
    (.withDefault (list_map faults_restored) ?_))
    (.withDefault (OffFlavourRules.read_document finite.rules settled) ?_))
    (.optionalText ?_)) rfl
  all_goals simp

end OffFlavourConfiguration

/-! ### Micro-regions -/

theorem RegionShare.read_document {share : RegionShare} (finite : share.Finite) :
    read share.document = pure share := by
  obtain ⟨min, max⟩ := share
  refine record_ofFields (.seq (.map
    (.optionalNumber finite.min ?_))
    (.optionalNumber finite.max ?_)) rfl
  all_goals simp

theorem RegionShares.read_document {shares : RegionShares}
    (finite : ∀ entry ∈ shares.entries, entry.2.Finite) :
    read shares.document = pure shares := by
  have restored : ∀ entry ∈ shares.entries, RegionShare.read entry.2.document = pure entry.2 :=
    fun entry listed => RegionShare.read_document (finite entry listed)
  rw [read, document, Reading.dictionary, eachEntry_map restored]
  rfl

theorem MicroRegionRequirement.read_document {requirement : MicroRegionRequirement}
    (finite : requirement.Finite) : read requirement.document = pure requirement := by
  obtain ⟨origin, requiredMicroRegions, percentagePerRegion, allowMix, notes⟩ := requirement
  have shares_restored : ∀ shares, percentagePerRegion = some shares →
      RegionShares.read shares.document = pure shares := by
    rintro shares rfl
    exact RegionShares.read_document finite
  refine record_ofFields (.seq (.seq (.seq (.seq (.map
    (.required (text_text _) ?_))
    (.withDefault (list_map fun _ _ => text_text _) ?_))
    (.optional shares_restored (by simp [RegionShares.document]) ?_))
    (.withDefault (flag_flag _) ?_))
    (.optionalText ?_)) rfl
  all_goals simp

theorem MicroRegionConfiguration.read_document {configuration : MicroRegionConfiguration}
    (finite : ∀ requirement ∈ configuration.requirements, requirement.Finite) :
    read configuration.document = pure configuration := by
  obtain ⟨requirements⟩ := configuration
  have restored : ∀ requirement ∈ requirements,
      MicroRegionRequirement.read requirement.document = pure requirement :=
    fun requirement listed => MicroRegionRequirement.read_document (finite requirement listed)
  refine record_ofFields (.map (.withDefault (list_map restored) ?_)) rfl
  simp

/-! ### Parameters -/

theorem MoistureStandard.lookup_name (standard : MoistureStandard) :
    choices.lookup standard.name = some standard := by
  cases standard <;> rfl

namespace TemplateParameters

/-- Parameters that are written without loss: their numbers are finite and no limit of theirs is
overruled. -/
structure Writable (parameters : TemplateParameters) : Prop where
  finite : parameters.Finite
  settled : ∀ configuration, parameters.taintFaultConfiguration = some configuration →
    configuration.rules.Settled

theorem writable_default : ({} : TemplateParameters).Writable := by
  refine ⟨finite_default, ?_⟩
  intro configuration given
  cases given

theorem read_writable (document : Document) : (read document).Yields Writable := by
  intro supply parameters good
  refine ⟨read_yields document supply parameters good, ?_⟩
  intro configuration given
  exact (rules_read_from document supply parameters good configuration given).settled

theorem read_document {parameters : TemplateParameters} (writable : parameters.Writable) :
    read parameters.document = pure parameters := by
  obtain ⟨finite, settled⟩ := writable
  obtain ⟨sampleSize, screens, greenAspect, defects, moistureMin, moistureMax, standard,
    roastAspect, roastSampleSize, quakers, cupping, offFlavours, microRegions⟩ := parameters
  have cupping_restored : ∀ item ∈ cupping, CuppingAttribute.read item.document = pure item :=
    fun item listed => CuppingAttribute.read_document (finite.cupping item listed)
  refine record_ofFields (.seq (.seq (.seq (.seq (.seq (.seq (.seq (.seq (.seq (.seq (.seq (.seq
    (.map (.optionalNumber finite.sampleSize ?_))
    (.withDefault (ScreenRequirements.read_document finite.screens) ?_))
    (.optional (fun set given => AspectConfiguration.read_document (finite.greenAspect set given))
      (fun _ => ofFields_ne_null _) ?_))
    (.optional (fun set given => DefectConfiguration.read_document (finite.defects set given))
      (fun _ => ofFields_ne_null _) ?_))
    (.optionalNumber finite.moistureMin ?_))
    (.optionalNumber finite.moistureMax ?_))
    (.withDefault (choice_text standard.lookup_name) ?_))
    (.optional (fun set given => AspectConfiguration.read_document (finite.roastAspect set given))
      (fun _ => ofFields_ne_null _) ?_))
    (.optionalNumber finite.roastSampleSize ?_))
    (.optionalWhole ?_))
    (.withDefault (list_map cupping_restored) ?_))
    (.optional (fun set given => OffFlavourConfiguration.read_document
      ⟨finite.offFlavours set given, settled set given⟩) (fun _ => ofFields_ne_null _) ?_))
    (.optional (fun set given => MicroRegionConfiguration.read_document
      (finite.microRegions set given)) (fun _ => ofFields_ne_null _) ?_)) rfl
  all_goals simp

end TemplateParameters

/-! ### Templates -/

theorem LocalizedText.read_document (localized : LocalizedText) :
    read localized.document = pure localized := by
  obtain ⟨en, pt, es⟩ := localized
  refine record_ofFields (.seq (.seq (.map
    (.required (text_text _) ?_))
    (.optionalText ?_))
    (.optionalText ?_)) rfl
  all_goals simp

theorem SharingScope.read_document (scope : SharingScope) :
    read scope.document = pure scope := by
  cases scope with
  | everyone =>
      refine tagged_ofFields "global" ?_ rfl (.map (.known _)) rfl
      simp
  | laboratories first others =>
      refine tagged_ofFields "laboratories" ?_ rfl (.seq (.map (.known _))
        (.required (nonemptyList_map fun id _ => identifier_text id) ?_)) rfl
      all_goals simp
  | authorOnly =>
      refine tagged_ofFields "private" ?_ rfl (.map (.known _)) rfl
      simp

namespace QualityTemplate

structure Writable (template : QualityTemplate) : Prop where
  version : 1 ≤ template.version
  parameters : template.parameters.Writable

theorem read_writable (document : Document) : (read document).Yields Writable := by
  refine .record _ (.seq (.seq (.seq (.seq (.seq (.seq (.seq (.seq (.seq (.seq
    (.seq (.map ?_ .anything) .anything) .anything) .anything)
    (.withDefault _ (.pure (by decide)) .positiveWhole))
    (.withDefault _ (.pure TemplateParameters.writable_default) TemplateParameters.read_writable))
    .anything) .anything) .anything) .anything) .anything) .anything) document
  intro _ _ _ _ _ _ _ _ version positive parameters writable _ _ _ _ _ _ _ _ _ _ _ _
  exact ⟨positive, writable⟩

theorem read_document {template : QualityTemplate} (writable : template.Writable) :
    read template.document = pure template := by
  obtain ⟨positive, parametersWritable⟩ := writable
  obtain ⟨templateId, name, description, origin, version, parameters, isActive, sharing,
    createdBy, parentId, createdAt, updatedAt⟩ := template
  refine record_ofFields (.seq (.seq (.seq (.seq (.seq (.seq (.seq (.seq (.seq (.seq (.seq
    (.map (.withDefault (identifier_text _) ?_))
    (.required name.read_document ?_))
    (.optional (fun set _ => set.read_document) (fun _ => ofFields_ne_null _) ?_))
    (.required (text_text _) ?_))
    (.withDefault (positiveWhole_whole positive) ?_))
    (.withDefault (TemplateParameters.read_document parametersWritable) ?_))
    (.withDefault (flag_flag _) ?_))
    (.withDefault sharing.read_document ?_))
    (.required (identifier_text _) ?_))
    (.optional (fun set _ => identifier_text set) (by simp) ?_))
    (.withDefault (timestamp_text _) ?_))
    (.withDefault (timestamp_text _) ?_)) rfl
  all_goals simp

end QualityTemplate
end CoffeeGrading
