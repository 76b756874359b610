import CoffeeGrading.Aspect

/-!
Aspect configurations as documents.  A wording that comes without an identifier gets a new one.
-/

namespace CoffeeGrading

namespace AspectWording

def fields : Fields AspectWording :=
  AspectWording.mk
    <$> .withDefault "id" (Identifier.text <$> Reading.freshIdentifier) Reading.text
    <*> .required "label" Reading.text
    <*> .required "value" Reading.number
    <*> .withDefault "display_order" (pure 0) Reading.whole
    <*> .optional "description" Reading.text

def read : Document → Reading AspectWording :=
  Reading.record "AspectWording" fields

def document (wording : AspectWording) : Document :=
  .ofFields [
    ("id", some (.text wording.id)),
    ("label", some (.text wording.label)),
    ("value", some (.number wording.value)),
    ("display_order", some (.whole wording.displayOrder)),
    ("description", wording.description.map .text)]

end AspectWording

namespace AspectThreshold

def fields : Fields AspectThreshold :=
  AspectThreshold.mk <$> .required "min_acceptable_value" Reading.number
    <*> .optional "validation_message" Reading.text

def read : Document → Reading AspectThreshold :=
  Reading.record "AspectValidation" fields

def document (threshold : AspectThreshold) : Document :=
  .ofFields [
    ("min_acceptable_value", some (.number threshold.minAcceptableValue)),
    ("validation_message", threshold.validationMessage.map .text)]

end AspectThreshold

namespace AspectConfiguration

def fields : Fields AspectConfiguration :=
  AspectConfiguration.mk
    <$> .withDefault "wordings" (pure []) (Reading.list AspectWording.read)
    <*> .optional "validation" AspectThreshold.read
    <*> .optional "notes" Reading.text

def read : Document → Reading AspectConfiguration :=
  Reading.record "AspectConfiguration" fields

def document (configuration : AspectConfiguration) : Document :=
  .ofFields [
    ("wordings", some (.list (configuration.wordings.map AspectWording.document))),
    ("validation", configuration.threshold.map AspectThreshold.document),
    ("notes", configuration.notes.map .text)]

end AspectConfiguration
end CoffeeGrading
