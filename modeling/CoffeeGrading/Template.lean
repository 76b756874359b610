import CoffeeGrading.Aspect.Record
import CoffeeGrading.Cupping.Record
import CoffeeGrading.Defect.Record
import CoffeeGrading.MicroRegion.Record
import CoffeeGrading.OffFlavour.Record
import CoffeeGrading.ScreenSize.Record
import CoffeeGrading.Sharing

/-!
Quality templates: everything that is asked of a lot of coffee of one origin.  A template owns its
parameters by value, and is written as a document without the fields that are not set.
-/

namespace CoffeeGrading

inductive MoistureStandard where
  | coffeeIndustry
  | iso6673
deriving DecidableEq

namespace MoistureStandard

def choices : List (String × MoistureStandard) :=
  [("coffee_industry", coffeeIndustry), ("iso_6673", iso6673)]

def name : MoistureStandard → String
  | coffeeIndustry => "coffee_industry"
  | iso6673 => "iso_6673"

end MoistureStandard

structure LocalizedText where
  en : String
  pt : Option String := none
  es : Option String := none
deriving DecidableEq

namespace LocalizedText

def fields : Fields LocalizedText :=
  LocalizedText.mk <$> .required "en" Reading.text
    <*> .optional "pt" Reading.text
    <*> .optional "es" Reading.text

def read : Document → Reading LocalizedText :=
  Reading.record "LocalizedText" fields

def document (text : LocalizedText) : Document :=
  .ofFields [
    ("en", some (.text text.en)),
    ("pt", text.pt.map .text),
    ("es", text.es.map .text)]

end LocalizedText

structure TemplateParameters where
  sampleSizeGrams : Option Binary64 := none
  screenSizeRequirements : ScreenRequirements := {}
  greenAspectConfiguration : Option AspectConfiguration := none
  defectConfiguration : Option DefectConfiguration := none
  moistureMin : Option Binary64 := none
  moistureMax : Option Binary64 := none
  moistureStandard : MoistureStandard := .coffeeIndustry
  roastAspectConfiguration : Option AspectConfiguration := none
  roastSampleSizeGrams : Option Binary64 := none
  maxQuakers : Option Int := none
  cuppingAttributes : List CuppingAttribute := []
  taintFaultConfiguration : Option OffFlavourConfiguration := none
  microRegionConfiguration : Option MicroRegionConfiguration := none
deriving BEq

namespace TemplateParameters

def fields : Fields TemplateParameters :=
  TemplateParameters.mk <$> .optional "sample_size_grams" Reading.number
    <*> .withDefault "screen_size_requirements" (pure {}) ScreenRequirements.read
    <*> .optional "green_aspect_configuration" AspectConfiguration.read
    <*> .optional "defect_configuration" DefectConfiguration.read
    <*> .optional "moisture_min" Reading.number
    <*> .optional "moisture_max" Reading.number
    <*> .withDefault "moisture_standard" (pure .coffeeIndustry)
      (Reading.choice MoistureStandard.choices)
    <*> .optional "roast_aspect_configuration" AspectConfiguration.read
    <*> .optional "roast_sample_size_grams" Reading.number
    <*> .optional "max_quakers" Reading.whole
    <*> .withDefault "cupping_attributes" (pure []) (Reading.list CuppingAttribute.read)
    <*> .optional "taint_fault_configuration" OffFlavourConfiguration.read
    <*> .optional "micro_region_configuration" MicroRegionConfiguration.read

def read : Document → Reading TemplateParameters :=
  Reading.record "TemplateParameters" fields

def document (parameters : TemplateParameters) : Document :=
  .ofFields [
    ("sample_size_grams", parameters.sampleSizeGrams.map .number),
    ("screen_size_requirements", some parameters.screenSizeRequirements.document),
    ("green_aspect_configuration",
      parameters.greenAspectConfiguration.map AspectConfiguration.document),
    ("defect_configuration", parameters.defectConfiguration.map DefectConfiguration.document),
    ("moisture_min", parameters.moistureMin.map .number),
    ("moisture_max", parameters.moistureMax.map .number),
    ("moisture_standard", some (.text parameters.moistureStandard.name)),
    ("roast_aspect_configuration",
      parameters.roastAspectConfiguration.map AspectConfiguration.document),
    ("roast_sample_size_grams", parameters.roastSampleSizeGrams.map .number),
    ("max_quakers", parameters.maxQuakers.map .whole),
    ("cupping_attributes",
      some (.list (parameters.cuppingAttributes.map CuppingAttribute.document))),
    ("taint_fault_configuration",
      parameters.taintFaultConfiguration.map OffFlavourConfiguration.document),
    ("micro_region_configuration",
      parameters.microRegionConfiguration.map MicroRegionConfiguration.document)]

end TemplateParameters

structure QualityTemplate where
  templateId : Identifier
  name : LocalizedText
  description : Option LocalizedText := none
  origin : String
  version : Int := 1
  parameters : TemplateParameters := {}
  isActive : Bool := true
  sharing : SharingScope := .authorOnly
  createdBy : Identifier
  templateParentId : Option Identifier := none
  createdAt : Timestamp
  updatedAt : Timestamp
deriving BEq

namespace QualityTemplate

def fields : Fields QualityTemplate :=
  QualityTemplate.mk
    <$> .withDefault "template_id" Reading.freshIdentifier Reading.identifier
    <*> .required "name" LocalizedText.read
    <*> .optional "description" LocalizedText.read
    <*> .required "origin" Reading.text
    <*> .withDefault "version" (pure 1) Reading.positiveWhole
    <*> .withDefault "parameters" (pure {}) TemplateParameters.read
    <*> .withDefault "is_active" (pure true) Reading.flag
    <*> .withDefault "sharing" (pure .authorOnly) SharingScope.read
    <*> .required "created_by" Reading.identifier
    <*> .optional "template_parent_id" Reading.identifier
    <*> .withDefault "created_at" Reading.currentTime Reading.timestamp
    <*> .withDefault "updated_at" Reading.currentTime Reading.timestamp

def read : Document → Reading QualityTemplate :=
  Reading.record "QualityTemplate" fields

def document (template : QualityTemplate) : Document :=
  .ofFields [
    ("template_id", some (.text template.templateId.text)),
    ("name", some template.name.document),
    ("description", template.description.map LocalizedText.document),
    ("origin", some (.text template.origin)),
    ("version", some (.whole template.version)),
    ("parameters", some template.parameters.document),
    ("is_active", some (.flag template.isActive)),
    ("sharing", some template.sharing.document),
    ("created_by", some (.text template.createdBy.text)),
    ("template_parent_id", template.templateParentId.map fun id => .text id.text),
    ("created_at", some (.text template.createdAt.text)),
    ("updated_at", some (.text template.updatedAt.text))]

end QualityTemplate
end CoffeeGrading
