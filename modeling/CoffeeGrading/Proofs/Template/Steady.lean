import CoffeeGrading.Proofs.Document.Steady
import CoffeeGrading.Template.Validation

/-!
Templates that are read twice from one document.  A document that leaves identifiers and times out
is read into a new template each time, but the templates differ only in what was left out, and
validation looks at none of it.
-/

namespace CoffeeGrading

open Reading (Steady)

/-! ### Wordings without their identifiers -/

namespace AspectWording

def anonymous (wording : AspectWording) : AspectWording :=
  { wording with id := "" }

@[simp] theorem anonymous_label (wording : AspectWording) :
    wording.anonymous.label = wording.label := by
  rfl

@[simp] theorem anonymous_value (wording : AspectWording) :
    wording.anonymous.value = wording.value := by
  rfl

theorem read_steady (document : Document) :
    (read document).Steady fun left right => left.anonymous = right.anonymous := by
  have id_steady : (Fields.withDefault "id" (Identifier.text <$> Reading.freshIdentifier)
      Reading.text).Steady fun _ _ => True :=
    .withDefault _ (.map (fun _ _ _ => trivial) .freshIdentifier)
      fun document => (Steady.text document).imp fun _ _ _ => trivial
  refine .record _ (.seq (.seq (.seq (.seq (.map ?_ id_steady) (.required _ .text))
    (.required _ .number)) (.withDefault _ (.pure rfl) .whole)) (.optional_eq _ .text)) document
  rintro _ _ _ label _ rfl value _ rfl displayOrder _ rfl description _ rfl
  rfl

end AspectWording

theorem AspectThreshold.read_steady (document : Document) : (read document).Steady Eq :=
  .record _ (.seq_eq (.map_eq (.required _ .number)) (.optional_eq _ .text)) document

namespace AspectConfiguration

def anonymous (configuration : AspectConfiguration) : AspectConfiguration :=
  { configuration with wordings := configuration.wordings.map AspectWording.anonymous }

theorem read_steady (document : Document) :
    (read document).Steady fun left right => left.anonymous = right.anonymous := by
  have wordings_steady : (Fields.withDefault "wordings" (pure [])
      (Reading.list AspectWording.read)).Steady fun left right =>
        left.map AspectWording.anonymous = right.map AspectWording.anonymous := by
    refine .withDefault _ (.pure rfl) (.list rfl ?_ AspectWording.read_steady)
    intro left right same lefts rights sameRest
    rw [List.map_cons, List.map_cons, same, sameRest]
  refine .record _ (.seq (.seq (.map ?_ wordings_steady)
    (.optional_eq _ AspectThreshold.read_steady)) (.optional_eq _ .text)) document
  rintro left right same threshold _ rfl notes _ rfl
  simp only [anonymous, same]

theorem isEmpty_anonymous (configuration : AspectConfiguration) :
    configuration.anonymous.isEmpty = configuration.isEmpty := by
  simp [anonymous, isEmpty]

theorem flaw?_anonymous (limits : Limits) (configuration : AspectConfiguration) :
    configuration.anonymous.flaw? limits = configuration.flaw? limits := by
  simp only [anonymous, flaw?, hasValue, List.any_map, List.map_map, List.find?_map,
    Function.comp_def, AspectWording.anonymous_label, AspectWording.anonymous_value]
  cases configuration.wordings.find? fun wording =>
    ¬ (limits.aspectValueMin ≤ wording.value ∧ wording.value ≤ limits.aspectValueMax) with
  | none => rfl
  | some wording => rfl

end AspectConfiguration

/-! ### The other parts -/

theorem NumericScale.fields_steady : fields.Steady Eq :=
  .seq_eq (.seq_eq (.seq_eq (.map_eq (.known _)) (.required _ .number)) (.required _ .number))
    (.required _ .number)

theorem WordingOption.read_steady (document : Document) : (read document).Steady Eq :=
  .record _ (.seq_eq (.seq_eq (.map_eq (.required _ .text)) (.required _ .number))
    (.withDefault _ (.pure rfl) .whole)) document

theorem Scale.read_steady (document : Document) : (read document).Steady Eq := by
  refine .tagged _ ?_ document
  intro variant member
  simp only [variants, List.mem_cons, List.not_mem_nil, or_false] at member
  rcases member with rfl | rfl
  · exact .map_eq NumericScale.fields_steady
  · exact .seq_eq (.map_eq (.known _))
      (.withDefault _ (.pure rfl) (.list_eq WordingOption.read_steady))

theorem ScoreRule.read_steady (document : Document) : (read document).Steady Eq :=
  .record _ (.seq_eq (.map_eq (.required _ .number)) (.optional_eq _ .text)) document

theorem CuppingAttribute.read_steady (document : Document) : (read document).Steady Eq :=
  .record _ (.seq_eq (.seq_eq (.seq_eq (.map_eq (.required _ .text))
    (.required _ Scale.read_steady)) (.withDefault _ (.pure rfl) .flag))
    (.optional_eq _ ScoreRule.read_steady)) document

theorem ScreenConstraint.read_steady (document : Document) : (read document).Steady Eq :=
  .record _ (.seq_eq (.seq_eq (.seq_eq (.seq_eq (.map_eq (.required _ .text))
    (.required _ (.choice _))) (.optional_eq _ .number)) (.optional_eq _ .number))
    (.withDefault _ (.pure rfl) .whole)) document

theorem ScreenRequirements.read_steady (document : Document) : (read document).Steady Eq :=
  .record _ (.seq_eq (.map_eq (.withDefault _ (.pure rfl) (.list_eq ScreenConstraint.read_steady)))
    (.optional_eq _ .text)) document

theorem DefectDefinition.read_steady (document : Document) : (read document).Steady Eq :=
  .record _ (.seq_eq (.seq_eq (.seq_eq (.seq_eq (.map_eq (.required _ .text))
    (.required _ (.choice _))) (.required _ .number)) (.withDefault _ (.pure rfl) .whole))
    (.optional_eq _ .text)) document

theorem DefectThresholds.read_steady (document : Document) : (read document).Steady Eq :=
  .record _ (.seq_eq (.seq_eq (.map_eq (.optional_eq _ .number)) (.optional_eq _ .number))
    (.optional_eq _ .number)) document

theorem DefectConfiguration.read_steady (document : Document) : (read document).Steady Eq :=
  .record _ (.seq_eq (.seq_eq
    (.map_eq (.withDefault _ (.pure rfl) (.list_eq DefectDefinition.read_steady)))
    (.withDefault _ (.pure rfl) DefectThresholds.read_steady)) (.optional_eq _ .text)) document

theorem OffFlavourDefinition.read_steady (document : Document) : (read document).Steady Eq :=
  .record _ (.seq_eq (.seq_eq (.seq_eq (.seq_eq (.seq_eq (.map_eq (.required _ .text))
    (.required _ .text)) (.required _ (.choice _))) (.required _ Scale.read_steady))
    (.optional_eq _ .text)) (.withDefault _ (.pure rfl) .whole)) document

theorem OffFlavourRules.fields_steady : fields.Steady Eq :=
  .seq_eq (.seq_eq (.seq_eq (.seq_eq (.seq_eq (.seq_eq (.map_eq (.optional_eq _ .flag))
    (.optional_eq _ .whole)) (.optional_eq _ .whole)) (.optional_eq _ .whole))
    (.optional_eq _ .number)) (.optional_eq _ .number)) (.optional_eq _ .text)

theorem OffFlavourRules.read_steady (document : Document) : (read document).Steady Eq := by
  cases document with
  | object entries => exact fields_steady.readEntries _
  | _ => exact .fault _

theorem OffFlavourConfiguration.read_steady (document : Document) : (read document).Steady Eq :=
  .record _ (.seq_eq (.seq_eq (.seq_eq
    (.map_eq (.withDefault _ (.pure rfl) (.list_eq OffFlavourDefinition.read_steady)))
    (.withDefault _ (.pure rfl) (.list_eq OffFlavourDefinition.read_steady)))
    (.withDefault _ (.pure rfl) OffFlavourRules.read_steady)) (.optional_eq _ .text)) document

theorem RegionShare.read_steady (document : Document) : (read document).Steady Eq :=
  .record _ (.seq_eq (.map_eq (.optional_eq _ .number)) (.optional_eq _ .number)) document

theorem RegionShares.read_steady (document : Document) : (read document).Steady Eq :=
  .map_eq (.dictionary RegionShare.read_steady document)

theorem MicroRegionRequirement.read_steady (document : Document) : (read document).Steady Eq :=
  .record _ (.seq_eq (.seq_eq (.seq_eq (.seq_eq (.map_eq (.required _ .text))
    (.withDefault _ (.pure rfl) (.list_eq .text))) (.optional_eq _ RegionShares.read_steady))
    (.withDefault _ (.pure rfl) .flag)) (.optional_eq _ .text)) document

theorem MicroRegionConfiguration.read_steady (document : Document) : (read document).Steady Eq :=
  .record _ (.map_eq (.withDefault _ (.pure rfl) (.list_eq MicroRegionRequirement.read_steady)))
    document

theorem SharingScope.read_steady (document : Document) : (read document).Steady Eq := by
  refine .tagged _ ?_ document
  intro variant member
  simp only [variants, List.mem_cons, List.not_mem_nil, or_false] at member
  rcases member with rfl | rfl | rfl
  · exact .map_eq (.known _)
  · exact .seq_eq (.map_eq (.known _)) (.required _ (.nonemptyList .identifier))
  · exact .map_eq (.known _)

theorem LocalizedText.read_steady (document : Document) : (read document).Steady Eq :=
  .record _ (.seq_eq (.seq_eq (.map_eq (.required _ .text)) (.optional_eq _ .text))
    (.optional_eq _ .text)) document

/-! ### Parameters and templates -/

namespace TemplateParameters

def anonymous (parameters : TemplateParameters) : TemplateParameters :=
  { parameters with
    greenAspectConfiguration :=
      parameters.greenAspectConfiguration.map AspectConfiguration.anonymous
    roastAspectConfiguration :=
      parameters.roastAspectConfiguration.map AspectConfiguration.anonymous }

theorem read_steady (document : Document) :
    (read document).Steady fun left right => left.anonymous = right.anonymous := by
  have aspect_steady (key : String) : (Fields.optional key AspectConfiguration.read).Steady
      fun left right => left.map AspectConfiguration.anonymous =
        right.map AspectConfiguration.anonymous :=
    .optional _ rfl (fun _ _ same => congrArg some same) AspectConfiguration.read_steady
  refine .record _ (.seq (.seq (.seq (.seq (.seq (.seq (.seq (.seq (.seq (.seq (.seq (.seq
    (.map ?_ (.optional_eq _ .number))
    (.withDefault _ (.pure rfl) ScreenRequirements.read_steady))
    (aspect_steady _))
    (.optional_eq _ DefectConfiguration.read_steady))
    (.optional_eq _ .number))
    (.optional_eq _ .number))
    (.withDefault _ (.pure rfl) (.choice _)))
    (aspect_steady _))
    (.optional_eq _ .number))
    (.optional_eq _ .whole))
    (.withDefault _ (.pure rfl) (.list_eq CuppingAttribute.read_steady)))
    (.optional_eq _ OffFlavourConfiguration.read_steady))
    (.optional_eq _ MicroRegionConfiguration.read_steady)) document
  rintro sampleSize _ rfl screens _ rfl green otherGreen sameGreen defects _ rfl low _ rfl high _
    rfl standard _ rfl roast otherRoast sameRoast roastSampleSize _ rfl quakers _ rfl cupping _ rfl
    offFlavours _ rfl microRegions _ rfl
  simp only [anonymous, sameGreen, sameRoast]

theorem aspectFlaw?_anonymous (limits : Limits) (aspect : Option AspectConfiguration) :
    aspectFlaw? limits (aspect.map AspectConfiguration.anonymous) = aspectFlaw? limits aspect := by
  cases aspect with
  | none => rfl
  | some configuration =>
      by_cases empty : configuration.isEmpty
      · simp [aspectFlaw?, optionalFlaw?, Option.filter, AspectConfiguration.isEmpty_anonymous,
          empty]
      · simp [aspectFlaw?, optionalFlaw?, Option.filter, AspectConfiguration.isEmpty_anonymous,
          AspectConfiguration.flaw?_anonymous, empty]

theorem flaws_anonymous (limits : Limits) (parameters : TemplateParameters) :
    parameters.anonymous.flaws limits = parameters.flaws limits := by
  have green : parameters.anonymous.greenAspectFlaw? limits = parameters.greenAspectFlaw? limits :=
    congrArg (Option.map TemplateFlaw.greenAspect) (aspectFlaw?_anonymous limits _)
  have roast : parameters.anonymous.roastAspectFlaw? limits = parameters.roastAspectFlaw? limits :=
    congrArg (Option.map TemplateFlaw.roastAspect) (aspectFlaw?_anonymous limits _)
  rw [flaws, flaws, green, roast]
  rfl

theorem warnings_anonymous (limits : Limits) (parameters : TemplateParameters) :
    parameters.anonymous.warnings limits = parameters.warnings limits := by
  rfl

end TemplateParameters

namespace QualityTemplate

/-- Two templates with the same name and origin, and with the same parameters up to the identifiers
of wordings. -/
structure SameRules (left right : QualityTemplate) : Prop where
  name : left.name = right.name
  origin : left.origin = right.origin
  parameters : left.parameters.anonymous = right.parameters.anonymous

theorem fields_steady : fields.Steady SameRules := by
  have id_steady (key : String) : (Fields.withDefault key Reading.freshIdentifier
      Reading.identifier).Steady fun _ _ => True :=
    .withDefault _ .freshIdentifier fun document =>
      (Steady.identifier document).imp fun _ _ _ => trivial
  have parameters_steady : (Fields.withDefault "parameters" (pure {})
      TemplateParameters.read).Steady fun left right => left.anonymous = right.anonymous :=
    .withDefault _ (.pure rfl) TemplateParameters.read_steady
  have time_steady (key : String) : (Fields.withDefault key Reading.currentTime
      Reading.timestamp).Steady fun _ _ => True :=
    .withDefault _ .currentTime fun document =>
      (Steady.timestamp document).imp fun _ _ _ => trivial
  refine .seq (.seq (.seq (.seq (.seq (.seq (.seq (.seq (.seq (.seq
    (.seq (.map ?_ (id_steady _))
    (.required _ LocalizedText.read_steady))
    (.optional_eq _ LocalizedText.read_steady))
    (.required _ .text))
    (.withDefault _ (.pure rfl) .positiveWhole))
    parameters_steady)
    (.withDefault _ (.pure rfl) .flag))
    (.withDefault _ (.pure rfl) SharingScope.read_steady))
    (.required _ .identifier))
    (.optional_eq _ .identifier))
    (time_steady _))
    (time_steady _)
  intro _ _ _ name otherName sameName _ _ _ origin otherOrigin sameOrigin _ _ _
    parameters otherParameters sameParameters _ _ _ _ _ _ _ _ _ _ _ _ _ _ _ _ _ _
  exact ⟨sameName, sameOrigin, sameParameters⟩

theorem SameRules.validate {left right : QualityTemplate} (same : left.SameRules right)
    (limits : Limits) : left.validate limits = right.validate limits := by
  have flaws : left.parameters.flaws limits = right.parameters.flaws limits := by
    rw [← TemplateParameters.flaws_anonymous, same.parameters, TemplateParameters.flaws_anonymous]
  have warnings : left.parameters.warnings limits = right.parameters.warnings limits := by
    rw [← TemplateParameters.warnings_anonymous, same.parameters,
      TemplateParameters.warnings_anonymous]
  simp only [QualityTemplate.validate, QualityTemplate.flaws, nameFlaw?, originFlaw?, same.name,
    same.origin, flaws, warnings]

end QualityTemplate
end CoffeeGrading
