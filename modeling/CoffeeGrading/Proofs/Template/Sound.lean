import CoffeeGrading.Proofs.Aspect.Sound
import CoffeeGrading.Proofs.Cupping.Sound
import CoffeeGrading.Proofs.Defect.Sound
import CoffeeGrading.Proofs.MicroRegion.Sound
import CoffeeGrading.Proofs.Number.Order
import CoffeeGrading.Proofs.OffFlavour.Sound
import CoffeeGrading.Proofs.ScreenSize.Sound
import CoffeeGrading.Template.Validation

/-!
What is asked of each part of a template, and that the search of a part finds no flaw exactly where
this holds.
-/

namespace CoffeeGrading

/-- Nothing is asked of a part that is not there or was never filled in. -/
def UsableIfFilled {Part : Type} (isEmpty : Part → Bool) (Usable : Part → Prop)
    (part : Option Part) : Prop :=
  ∀ given, part = some given → isEmpty given = false → Usable given

theorem optionalFlaw?_eq_none_iff {Part Flaw : Type} {isEmpty : Part → Bool}
    {flaw? : Part → Option Flaw} {Usable : Part → Prop}
    (flawless_iff : ∀ given, flaw? given = none ↔ Usable given) (part : Option Part) :
    optionalFlaw? isEmpty flaw? part = none ↔ UsableIfFilled isEmpty Usable part := by
  cases part with
  | none => simp [optionalFlaw?, UsableIfFilled]
  | some given =>
      by_cases empty : isEmpty given
      · simp [optionalFlaw?, UsableIfFilled, Option.filter, empty]
      · simp [optionalFlaw?, UsableIfFilled, Option.filter, empty, flawless_iff]

namespace TemplateParameters

def Positive (size : Option Binary64) : Prop :=
  ∀ grams, size = some grams → 0 < grams

theorem isVanishing_eq_false_iff (size : Option Binary64) :
    isVanishing size = false ↔ Positive size :=
  none_unfit_iff (0 < ·) size

/-- The bounds on moisture that are set lie within the limits, in order. -/
structure MoistureSound (limits : Limits) (parameters : TemplateParameters) : Prop where
  min : ∀ low, parameters.moistureMin = some low →
    limits.moistureMinBound ≤ low ∧ low ≤ limits.moistureMaxBound
  max : ∀ high, parameters.moistureMax = some high →
    limits.moistureMinBound ≤ high ∧ high ≤ limits.moistureMaxBound
  ordered : ∀ low high, parameters.moistureMin = some low → parameters.moistureMax = some high →
    low < high

theorem moistureIsReversed_eq_false_iff {limits : Limits} {parameters : TemplateParameters}
    (min : ∀ low, parameters.moistureMin = some low →
      limits.moistureMinBound ≤ low ∧ low ≤ limits.moistureMaxBound)
    (max : ∀ high, parameters.moistureMax = some high →
      limits.moistureMinBound ≤ high ∧ high ≤ limits.moistureMaxBound) :
    parameters.moistureIsReversed = false ↔
      ∀ low high, parameters.moistureMin = some low → parameters.moistureMax = some high →
        low < high := by
  cases lowest : parameters.moistureMin with
  | none => simp [moistureIsReversed, lowest]
  | some low =>
      cases highest : parameters.moistureMax with
      | none => simp [moistureIsReversed, lowest, highest]
      | some high =>
          have comparable := Binary64.not_le_iff_lt
            (Binary64.place_of_le_right (min low lowest).1)
            (Binary64.place_of_le_right (max high highest).1)
          simp [moistureIsReversed, lowest, highest, ← comparable]

theorem moistureFlaw?_eq_none_iff (limits : Limits) (parameters : TemplateParameters) :
    parameters.moistureFlaw? limits = none ↔ parameters.MoistureSound limits := by
  simp only [moistureFlaw?, ite_eq_iff, reduceCtorEq, and_false, false_or, and_true,
    Bool.not_eq_true, none_unfit_iff]
  constructor
  · rintro ⟨min, max, reversed⟩
    exact ⟨min, max, (moistureIsReversed_eq_false_iff min max).1 reversed⟩
  · rintro ⟨min, max, ordered⟩
    exact ⟨min, max, (moistureIsReversed_eq_false_iff min max).2 ordered⟩

theorem screensFlaw?_eq_none_iff (limits : Limits) (parameters : TemplateParameters) :
    parameters.screensFlaw? limits = none ↔
      parameters.screenSizeRequirements.constraints ≠ [] ∧
        parameters.screenSizeRequirements.Sound limits := by
  by_cases unlisted : parameters.screenSizeRequirements.constraints = []
  · simp [screensFlaw?, unlisted]
  · simp [screensFlaw?, unlisted, ScreenRequirements.flaw?_eq_none_iff]

theorem cuppingFlaw?_eq_none_iff (limits : Limits) (parameters : TemplateParameters) :
    parameters.cuppingFlaw? limits = .ok none ↔
      parameters.cuppingAttributes ≠ [] ∧
        Cupping.Sound limits.scoreTolerance parameters.cuppingAttributes := by
  rw [← Cupping.flaw?_eq_none_iff]
  by_cases unlisted : parameters.cuppingAttributes = []
  · simp [cuppingFlaw?, unlisted]
  · cases answer : Cupping.flaw? parameters.cuppingAttributes limits.scoreTolerance with
    | error reason => simp [cuppingFlaw?, unlisted, answer, bind, Except.bind]
    | ok flaw => simp [cuppingFlaw?, unlisted, answer, bind, Except.bind]

end TemplateParameters

namespace QualityTemplate

/-- What is asked of each part of a template. -/
def Holds (limits : Limits) (template : QualityTemplate) : TemplatePart → Prop
  | .name => Text.trim template.name.en ≠ ""
  | .origin => Text.trim template.origin ≠ ""
  | .sampleSize => TemplateParameters.Positive template.parameters.sampleSizeGrams
  | .moisture => template.parameters.MoistureSound limits
  | .roastSampleSize => TemplateParameters.Positive template.parameters.roastSampleSizeGrams
  | .quakers => ∀ most, template.parameters.maxQuakers = some most → 0 ≤ most
  | .screenSizes => template.parameters.screenSizeRequirements.constraints ≠ [] ∧
      template.parameters.screenSizeRequirements.Sound limits
  | .cupping => template.parameters.cuppingAttributes ≠ [] ∧
      Cupping.Sound limits.scoreTolerance template.parameters.cuppingAttributes
  | .greenAspect => UsableIfFilled AspectConfiguration.isEmpty (AspectConfiguration.Sound limits)
      template.parameters.greenAspectConfiguration
  | .roastAspect => UsableIfFilled AspectConfiguration.isEmpty (AspectConfiguration.Sound limits)
      template.parameters.roastAspectConfiguration
  | .defects => UsableIfFilled DefectConfiguration.isEmpty (DefectConfiguration.Sound limits)
      template.parameters.defectConfiguration
  | .offFlavours => UsableIfFilled OffFlavourConfiguration.isEmpty OffFlavourConfiguration.Sound
      template.parameters.taintFaultConfiguration
  | .microRegions => UsableIfFilled MicroRegionConfiguration.isEmpty
      (MicroRegionConfiguration.Sound limits) template.parameters.microRegionConfiguration

def partFlaw? (limits : Limits) (template : QualityTemplate) :
    TemplatePart → Except NoWholeNumber (Option TemplateFlaw)
  | .name => .ok template.nameFlaw?
  | .origin => .ok template.originFlaw?
  | .sampleSize => .ok template.parameters.sampleSizeFlaw?
  | .moisture => .ok (template.parameters.moistureFlaw? limits)
  | .roastSampleSize => .ok template.parameters.roastSampleSizeFlaw?
  | .quakers => .ok template.parameters.quakersFlaw?
  | .screenSizes => .ok (template.parameters.screensFlaw? limits)
  | .cupping => template.parameters.cuppingFlaw? limits
  | .greenAspect => .ok (template.parameters.greenAspectFlaw? limits)
  | .roastAspect => .ok (template.parameters.roastAspectFlaw? limits)
  | .defects => .ok (template.parameters.defectsFlaw? limits)
  | .offFlavours => .ok template.parameters.offFlavoursFlaw?
  | .microRegions => .ok (template.parameters.microRegionsFlaw? limits)

theorem partFlaw?_eq_none_iff (limits : Limits) (template : QualityTemplate)
    (part : TemplatePart) :
    template.partFlaw? limits part = .ok none ↔ template.Holds limits part := by
  cases part with
  | name => simp [partFlaw?, Holds, nameFlaw?, Text.blank]
  | origin => simp [partFlaw?, Holds, originFlaw?, Text.blank]
  | sampleSize =>
      simp [partFlaw?, Holds, TemplateParameters.sampleSizeFlaw?,
        ← TemplateParameters.isVanishing_eq_false_iff]
  | moisture =>
      rw [partFlaw?, Except.ok.injEq, TemplateParameters.moistureFlaw?_eq_none_iff, Holds]
  | roastSampleSize =>
      simp [partFlaw?, Holds, TemplateParameters.roastSampleSizeFlaw?,
        ← TemplateParameters.isVanishing_eq_false_iff]
  | quakers => simp [partFlaw?, Holds, TemplateParameters.quakersFlaw?, ← none_unfit_iff]
  | screenSizes =>
      rw [partFlaw?, Except.ok.injEq, TemplateParameters.screensFlaw?_eq_none_iff, Holds]
  | cupping => rw [partFlaw?, TemplateParameters.cuppingFlaw?_eq_none_iff, Holds]
  | greenAspect =>
      rw [partFlaw?, Except.ok.injEq, TemplateParameters.greenAspectFlaw?, Option.map_eq_none_iff]
      exact optionalFlaw?_eq_none_iff (AspectConfiguration.flaw?_eq_none_iff limits) _
  | roastAspect =>
      rw [partFlaw?, Except.ok.injEq, TemplateParameters.roastAspectFlaw?, Option.map_eq_none_iff]
      exact optionalFlaw?_eq_none_iff (AspectConfiguration.flaw?_eq_none_iff limits) _
  | defects =>
      rw [partFlaw?, Except.ok.injEq, TemplateParameters.defectsFlaw?, Option.map_eq_none_iff]
      exact optionalFlaw?_eq_none_iff (DefectConfiguration.flaw?_eq_none_iff limits) _
  | offFlavours =>
      rw [partFlaw?, Except.ok.injEq, TemplateParameters.offFlavoursFlaw?, Option.map_eq_none_iff]
      exact optionalFlaw?_eq_none_iff OffFlavourConfiguration.flaw?_eq_none_iff _
  | microRegions =>
      rw [partFlaw?, Except.ok.injEq, TemplateParameters.microRegionsFlaw?, Option.map_eq_none_iff]
      exact optionalFlaw?_eq_none_iff (MicroRegionConfiguration.flaw?_eq_none_iff limits) _

end QualityTemplate
end CoffeeGrading
