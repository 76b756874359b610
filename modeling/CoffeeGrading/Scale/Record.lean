import CoffeeGrading.Document.Finite
import CoffeeGrading.Document.Primitive
import CoffeeGrading.Scale.Score

/-!
Scales and score rules as documents.  A scale names its variant under `type`.
-/

namespace CoffeeGrading

def NumericScale.fields : Fields NumericScale :=
  (fun _ min max increment => ⟨min, max, increment⟩) <$> .known "type"
    <*> .required "min" Reading.number
    <*> .required "max" Reading.number
    <*> .required "increment" Reading.number

def NumericScale.make (min max increment : Binary64) : Except (List Fault) NumericScale :=
  requireFinite [("min", some min), ("max", some max), ("increment", some increment)]
    ⟨min, max, increment⟩

namespace WordingOption

def fields : Fields WordingOption :=
  WordingOption.mk <$> .required "label" Reading.text
    <*> .required "value" Reading.number
    <*> .withDefault "display_order" (pure 0) Reading.whole

def read : Document → Reading WordingOption :=
  Reading.record "WordingScaleOption" fields

def document (option : WordingOption) : Document :=
  .ofFields [
    ("label", some (.text option.label)),
    ("value", some (.number option.value)),
    ("display_order", some (.whole option.displayOrder))]

end WordingOption

namespace Scale

def variants : List (String × Fields Scale) := [
  ("numeric", numeric <$> NumericScale.fields),
  ("wording", (fun _ options => wording options) <$> .known "type"
    <*> .withDefault "options" (pure []) (Reading.list WordingOption.read))]

def read : Document → Reading Scale :=
  Reading.tagged "type" variants

def document : Scale → Document
  | numeric range => .ofFields [
      ("type", some (.text "numeric")),
      ("min", some (.number range.min)),
      ("max", some (.number range.max)),
      ("increment", some (.number range.increment))]
  | wording options => .ofFields [
      ("type", some (.text "wording")),
      ("options", some (.list (options.map WordingOption.document)))]

end Scale

namespace ScoreRule

def fields : Fields ScoreRule :=
  ScoreRule.mk <$> .required "min_value" Reading.number
    <*> .optional "validation_message" Reading.text

def read : Document → Reading ScoreRule :=
  Reading.record "ScoreValidationRule" fields

def document (rule : ScoreRule) : Document :=
  .ofFields [
    ("min_value", some (.number rule.minValue)),
    ("validation_message", rule.validationMessage.map .text)]

def make (minValue : Binary64) : Except (List Fault) ScoreRule :=
  requireFinite [("min_value", some minValue)] { minValue }

end ScoreRule
end CoffeeGrading
