import CoffeeGrading.Defect.Count

/-!
Defect configurations and evaluations as documents.
-/

namespace CoffeeGrading

namespace DefectDefinition

def fields : Fields DefectDefinition :=
  DefectDefinition.mk <$> .required "name" Reading.text
    <*> .required "category" (Reading.choice DefectCategory.choices)
    <*> .required "weight" Reading.number
    <*> .withDefault "display_order" (pure 0) Reading.whole
    <*> .optional "description" Reading.text

def read : Document → Reading DefectDefinition :=
  Reading.record "DefectDefinition" fields

def document (definition : DefectDefinition) : Document :=
  .ofFields [
    ("name", some (.text definition.name)),
    ("category", some (.text definition.category.name)),
    ("weight", some (.number definition.weight)),
    ("display_order", some (.whole definition.displayOrder)),
    ("description", definition.description.map .text)]

end DefectDefinition

namespace DefectThresholds

def fields : Fields DefectThresholds :=
  DefectThresholds.mk <$> .optional "max_primary" Reading.number
    <*> .optional "max_secondary" Reading.number
    <*> .optional "max_total" Reading.number

def read : Document → Reading DefectThresholds :=
  Reading.record "DefectThresholds" fields

def document (thresholds : DefectThresholds) : Document :=
  .ofFields [
    ("max_primary", thresholds.maxPrimary.map .number),
    ("max_secondary", thresholds.maxSecondary.map .number),
    ("max_total", thresholds.maxTotal.map .number)]

end DefectThresholds

namespace DefectConfiguration

def fields : Fields DefectConfiguration :=
  DefectConfiguration.mk
    <$> .withDefault "defects" (pure []) (Reading.list DefectDefinition.read)
    <*> .withDefault "thresholds" (pure {}) DefectThresholds.read
    <*> .optional "notes" Reading.text

def read : Document → Reading DefectConfiguration :=
  Reading.record "DefectConfiguration" fields

def document (configuration : DefectConfiguration) : Document :=
  .ofFields [
    ("defects", some (.list (configuration.defects.map DefectDefinition.document))),
    ("thresholds", some configuration.thresholds.document),
    ("notes", configuration.notes.map .text)]

end DefectConfiguration

def DefectEvaluation.document (evaluation : DefectEvaluation) : Document :=
  .ofFields [
    ("primary_total", some (.number evaluation.primaryTotal)),
    ("secondary_total", some (.number evaluation.secondaryTotal)),
    ("total", some (.number evaluation.total)),
    ("valid", some (.flag evaluation.complaints.isEmpty)),
    ("errors", some (.list (evaluation.complaints.map .text)))]

end CoffeeGrading
