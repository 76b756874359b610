import CoffeeGrading.ScreenSize.Distribution

/-!
Screen-size requirements and their violations as documents.
-/

namespace CoffeeGrading

namespace ScreenConstraint

def fields : Fields ScreenConstraint :=
  ScreenConstraint.mk <$> .required "screen_size" Reading.text
    <*> .required "constraint_type" (Reading.choice ScreenRule.choices)
    <*> .optional "min_value" Reading.number
    <*> .optional "max_value" Reading.number
    <*> .withDefault "display_order" (pure 0) Reading.whole

def read : Document → Reading ScreenConstraint :=
  Reading.record "ScreenSizeConstraint" fields

def document (constraint : ScreenConstraint) : Document :=
  .ofFields [
    ("screen_size", some (.text constraint.screenSize)),
    ("constraint_type", some (.text constraint.rule.name)),
    ("min_value", constraint.minValue.map .number),
    ("max_value", constraint.maxValue.map .number),
    ("display_order", some (.whole constraint.displayOrder))]

end ScreenConstraint

namespace ScreenRequirements

def fields : Fields ScreenRequirements :=
  ScreenRequirements.mk
    <$> .withDefault "constraints" (pure []) (Reading.list ScreenConstraint.read)
    <*> .optional "notes" Reading.text

def read : Document → Reading ScreenRequirements :=
  Reading.record "ScreenSizeRequirements" fields

def document (requirements : ScreenRequirements) : Document :=
  .ofFields [
    ("constraints", some (.list (requirements.constraints.map ScreenConstraint.document))),
    ("notes", requirements.notes.map .text)]

end ScreenRequirements

def ScreenViolation.document (violation : ScreenViolation) : Document :=
  .ofFields [
    ("screen_size", some (.text violation.constraint.screenSize)),
    ("constraint_type", some (.text violation.constraint.rule.name)),
    ("expected", some (.text violation.constraint.displayText)),
    ("actual", some (.number violation.actual)),
    ("message", some (.text violation.message))]

def ScreenViolation.report (violations : List ScreenViolation) : Document :=
  .ofFields [
    ("is_valid", some (.flag violations.isEmpty)),
    ("violations", some (.list (violations.map document)))]

end CoffeeGrading
