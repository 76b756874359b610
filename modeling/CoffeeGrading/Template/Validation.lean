import CoffeeGrading.Defect.Count
import CoffeeGrading.Template

/-!
Validation of whole templates.  Every part is checked on its own and reports its first flaw, so one
pass names every part that is not in order.  A part that need not be there is passed over while it
was never filled in.  Warnings tell of rules that cannot take effect; they never make a template
invalid.
-/

namespace CoffeeGrading

inductive TemplateFlaw where
  | noName
  | noOrigin
  | sampleSize
  | moistureMinimum (low high : Binary64)
  | moistureMaximum (low high : Binary64)
  | moistureOrder
  | roastSampleSize
  | quakers
  | noScreens
  | screens (flaw : ScreenFlaw)
  | noCupping
  | cupping (flaw : CuppingFlaw)
  | greenAspect (flaw : AspectFlaw)
  | roastAspect (flaw : AspectFlaw)
  | defects (flaw : DefectFlaw)
  | offFlavours (flaw : OffFlavourFlaw)
  | microRegions (flaw : MicroRegionFlaw)

def TemplateFlaw.message : TemplateFlaw → String
  | noName => "Template name is required"
  | noOrigin => "Origin is required"
  | sampleSize => "Sample size must be greater than 0"
  | moistureMinimum low high =>
    s!"Moisture minimum must be between {low.briefText} and {high.briefText}"
  | moistureMaximum low high =>
    s!"Moisture maximum must be between {low.briefText} and {high.briefText}"
  | moistureOrder => "Moisture minimum must be less than maximum"
  | roastSampleSize => "Roast sample size must be greater than 0"
  | quakers => "Max quakers cannot be negative"
  | noScreens => "At least one screen size constraint is required"
  | screens flaw => "Screen sizes: " ++ flaw.message
  | noCupping => "At least one cupping attribute is required"
  | cupping flaw => "Cupping: " ++ flaw.message
  | greenAspect flaw => "Green aspect: " ++ flaw.message
  | roastAspect flaw => "Roast aspect: " ++ flaw.message
  | defects flaw => "Defects: " ++ flaw.message
  | offFlavours flaw => "Taints/faults: " ++ flaw.message
  | microRegions flaw => "Micro-regions: " ++ flaw.message

inductive TemplatePart where
  | name
  | origin
  | sampleSize
  | moisture
  | roastSampleSize
  | quakers
  | screenSizes
  | cupping
  | greenAspect
  | roastAspect
  | defects
  | offFlavours
  | microRegions
deriving DecidableEq

def TemplateFlaw.part : TemplateFlaw → TemplatePart
  | noName => .name
  | noOrigin => .origin
  | sampleSize => .sampleSize
  | moistureMinimum .. => .moisture
  | moistureMaximum .. => .moisture
  | moistureOrder => .moisture
  | roastSampleSize => .roastSampleSize
  | quakers => .quakers
  | noScreens => .screenSizes
  | screens _ => .screenSizes
  | noCupping => .cupping
  | cupping _ => .cupping
  | greenAspect _ => .greenAspect
  | roastAspect _ => .roastAspect
  | defects _ => .defects
  | offFlavours _ => .offFlavours
  | microRegions _ => .microRegions

inductive ValidationFault where
  | uncountable (reason : NoWholeNumber)
  | totals (faults : List Fault)
deriving DecidableEq

def ValidationFault.message : ValidationFault → String
  | uncountable reason => reason.message
  | totals faults => Fault.messages faults

structure TemplateReport where
  errors : List String
  warnings : List String
deriving DecidableEq

namespace TemplateReport

def isValid (report : TemplateReport) : Bool :=
  report.errors.isEmpty

def document (report : TemplateReport) : Document :=
  .ofFields [
    ("valid", some (.flag report.isValid)),
    ("errors", some (.list (report.errors.map .text))),
    ("warnings", some (.list (report.warnings.map .text)))]

end TemplateReport

def optionalFlaw? {Part Flaw : Type} (isEmpty : Part → Bool) (flaw? : Part → Option Flaw)
    (part : Option Part) : Option Flaw :=
  (part.filter fun part => !isEmpty part).bind flaw?

namespace TemplateParameters

def isVanishing (size : Option Binary64) : Bool :=
  size.any fun value => ¬ 0 < value

def sampleSizeFlaw? (parameters : TemplateParameters) : Option TemplateFlaw :=
  if isVanishing parameters.sampleSizeGrams then some .sampleSize else none

def roastSampleSizeFlaw? (parameters : TemplateParameters) : Option TemplateFlaw :=
  if isVanishing parameters.roastSampleSizeGrams then some .roastSampleSize else none

def quakersFlaw? (parameters : TemplateParameters) : Option TemplateFlaw :=
  if parameters.maxQuakers.any fun most => ¬ 0 ≤ most then some .quakers else none

def moistureIsReversed (parameters : TemplateParameters) : Bool :=
  match parameters.moistureMin, parameters.moistureMax with
  | some low, some high => high ≤ low
  | _, _ => false

def moistureFlaw? (limits : Limits) (parameters : TemplateParameters) : Option TemplateFlaw :=
  let low := limits.moistureMinBound
  let high := limits.moistureMaxBound
  let outside (bound : Option Binary64) : Bool :=
    bound.any fun value => ¬ (low ≤ value ∧ value ≤ high)
  if outside parameters.moistureMin then some (.moistureMinimum low high)
  else if outside parameters.moistureMax then some (.moistureMaximum low high)
  else if parameters.moistureIsReversed then some .moistureOrder
  else none

def screensFlaw? (limits : Limits) (parameters : TemplateParameters) : Option TemplateFlaw :=
  let requirements := parameters.screenSizeRequirements
  if requirements.constraints.isEmpty then some .noScreens
  else (requirements.flaw? limits).map .screens

def cuppingFlaw? (limits : Limits) (parameters : TemplateParameters) :
    Except NoWholeNumber (Option TemplateFlaw) := do
  if parameters.cuppingAttributes.isEmpty then .ok (some .noCupping)
  else
    let flaw ← Cupping.flaw? parameters.cuppingAttributes limits.scoreTolerance
    .ok (flaw.map .cupping)

def aspectFlaw? (limits : Limits) (configuration : Option AspectConfiguration) :
    Option AspectFlaw :=
  optionalFlaw? AspectConfiguration.isEmpty (AspectConfiguration.flaw? limits) configuration

def greenAspectFlaw? (limits : Limits) (parameters : TemplateParameters) : Option TemplateFlaw :=
  (aspectFlaw? limits parameters.greenAspectConfiguration).map .greenAspect

def roastAspectFlaw? (limits : Limits) (parameters : TemplateParameters) : Option TemplateFlaw :=
  (aspectFlaw? limits parameters.roastAspectConfiguration).map .roastAspect

def defectsFlaw? (limits : Limits) (parameters : TemplateParameters) : Option TemplateFlaw :=
  (optionalFlaw? DefectConfiguration.isEmpty (DefectConfiguration.flaw? limits)
    parameters.defectConfiguration).map .defects

def offFlavoursFlaw? (parameters : TemplateParameters) : Option TemplateFlaw :=
  (optionalFlaw? OffFlavourConfiguration.isEmpty OffFlavourConfiguration.flaw?
    parameters.taintFaultConfiguration).map .offFlavours

def microRegionsFlaw? (limits : Limits) (parameters : TemplateParameters) :
    Option TemplateFlaw :=
  (optionalFlaw? MicroRegionConfiguration.isEmpty (MicroRegionConfiguration.flaw? limits)
    parameters.microRegionConfiguration).map .microRegions

/-- At most one flaw for each part of the parameters, in the order of the parts.  Looking for them
fails only where the cupping form does. -/
def flaws (limits : Limits) (parameters : TemplateParameters) :
    Except NoWholeNumber (List TemplateFlaw) := do
  let cupping ← parameters.cuppingFlaw? limits
  .ok ([
    parameters.sampleSizeFlaw?,
    parameters.moistureFlaw? limits,
    parameters.roastSampleSizeFlaw?,
    parameters.quakersFlaw?,
    parameters.screensFlaw? limits,
    cupping,
    parameters.greenAspectFlaw? limits,
    parameters.roastAspectFlaw? limits,
    parameters.defectsFlaw? limits,
    parameters.offFlavoursFlaw?,
    parameters.microRegionsFlaw? limits].filterMap id)

/-! ### Warnings -/

def defectWarnings (parameters : TemplateParameters) : List String :=
  match parameters.defectConfiguration with
  | none => []
  | some configuration => configuration.thresholds.warnings.map fun note => "Defects: " ++ note

def sharesWarning? (limits : Limits) (requirement : MicroRegionRequirement) :
    Except (List Fault) (Option String) := do
  let totals ← requirement.totals
  .ok (if limits.percentageMax < totals.min then
      some (s!"Micro-regions: minimum percentages for \"{requirement.origin}\" add up to "
        ++ totals.min.briefText ++ "%")
    else none)

def sharesWarnings (limits : Limits) :
    List MicroRegionRequirement → Except (List Fault) (List String)
  | [] => .ok []
  | requirement :: rest => do
    let warning ← sharesWarning? limits requirement
    let others ← sharesWarnings limits rest
    .ok (warning.toList ++ others)

def warnings (limits : Limits) (parameters : TemplateParameters) :
    Except (List Fault) (List String) := do
  let shares ← match parameters.microRegionConfiguration with
    | none => .ok []
    | some configuration => sharesWarnings limits configuration.requirements
  .ok (parameters.defectWarnings ++ shares)

end TemplateParameters

namespace QualityTemplate

def nameFlaw? (template : QualityTemplate) : Option TemplateFlaw :=
  if Text.blank template.name.en then some .noName else none

def originFlaw? (template : QualityTemplate) : Option TemplateFlaw :=
  if Text.blank template.origin then some .noOrigin else none

def flaws (limits : Limits) (template : QualityTemplate) :
    Except NoWholeNumber (List TemplateFlaw) := do
  let parameterFlaws ← template.parameters.flaws limits
  .ok (template.nameFlaw?.toList ++ template.originFlaw?.toList ++ parameterFlaws)

def validate (limits : Limits) (template : QualityTemplate) :
    Except ValidationFault TemplateReport := do
  let flaws ← (template.flaws limits).mapError .uncountable
  let warnings ← (template.parameters.warnings limits).mapError .totals
  .ok { errors := flaws.map TemplateFlaw.message, warnings }

end QualityTemplate
end CoffeeGrading
