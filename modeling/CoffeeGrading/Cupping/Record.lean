import CoffeeGrading.Cupping
import CoffeeGrading.Scale.Record

/-!
Cupping attributes as documents.
-/

namespace CoffeeGrading

namespace CuppingAttribute

def fields : Fields CuppingAttribute :=
  CuppingAttribute.mk <$> .required "attribute" Reading.text
    <*> .required "scale" Scale.read
    <*> .withDefault "is_required" (pure true) Reading.flag
    <*> .optional "validation_rule" ScoreRule.read

def read : Document → Reading CuppingAttribute :=
  Reading.record "CuppingAttribute" fields

def document (item : CuppingAttribute) : Document :=
  .ofFields [
    ("attribute", some (.text item.name)),
    ("scale", some item.scale.document),
    ("is_required", some (.flag item.isRequired)),
    ("validation_rule", item.rule.map ScoreRule.document)]

end CuppingAttribute

def Cupping.report (complaints : List String) : Document :=
  .ofFields [
    ("valid", some (.flag complaints.isEmpty)),
    ("errors", some (.list (complaints.map .text)))]

end CoffeeGrading
