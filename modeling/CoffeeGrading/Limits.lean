import CoffeeGrading.Document.Primitive

/-!
The bounds that validation measures templates against.  Every bound has a default and can be
replaced on its own.
-/

namespace CoffeeGrading

structure Limits where
  scoreTolerance : Binary64 := 0.01
  aspectValueMin : Binary64 := 1
  aspectValueMax : Binary64 := 10
  percentageMin : Binary64 := 0
  percentageMax : Binary64 := 100
  maxDefectWeight : Binary64 := 10
  moistureMinBound : Binary64 := 0
  moistureMaxBound : Binary64 := 100
deriving BEq

namespace Limits

def fields : Fields Limits :=
  let standard : Limits := {}
  let bound (key : String) (fallback : Binary64) : Fields Binary64 :=
    .withDefault key (pure fallback) Reading.number
  Limits.mk
    <$> .withDefault "score_tolerance" (pure standard.scoreTolerance) Reading.positiveNumber
    <*> bound "aspect_value_min" standard.aspectValueMin
    <*> bound "aspect_value_max" standard.aspectValueMax
    <*> bound "percentage_min" standard.percentageMin
    <*> bound "percentage_max" standard.percentageMax
    <*> bound "max_defect_weight" standard.maxDefectWeight
    <*> bound "moisture_min_bound" standard.moistureMinBound
    <*> bound "moisture_max_bound" standard.moistureMaxBound

def read : Document → Reading Limits :=
  Reading.record "TemplateValidationConfig" fields

def document (limits : Limits) : Document :=
  .ofFields [
    ("score_tolerance", some (.number limits.scoreTolerance)),
    ("aspect_value_min", some (.number limits.aspectValueMin)),
    ("aspect_value_max", some (.number limits.aspectValueMax)),
    ("percentage_min", some (.number limits.percentageMin)),
    ("percentage_max", some (.number limits.percentageMax)),
    ("max_defect_weight", some (.number limits.maxDefectWeight)),
    ("moisture_min_bound", some (.number limits.moistureMinBound)),
    ("moisture_max_bound", some (.number limits.moistureMaxBound))]

def withTolerance (tolerance : Binary64) : Except (List Fault) Limits :=
  if !tolerance.isFinite then .error [⟨["score_tolerance"], .notFinite⟩]
  else if ¬ 0 < tolerance then .error [⟨["score_tolerance"], .notPositive⟩]
  else .ok { scoreTolerance := tolerance }

end Limits
end CoffeeGrading
