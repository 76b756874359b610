import CoffeeGrading.Defect.Editing
import CoffeeGrading.Number.Places

/-!
Counted samples against defect limits.  Every count is turned into full defects to two decimal
places, the categories are summed and rounded the same way, and the totals are compared with the
limits.  For a sample of another size the limits are scaled in proportion.
-/

namespace CoffeeGrading

def defectEquivalents (count weight : Binary64) : Binary64 :=
  (count * weight).roundPlaces 2

def countOf (counts : List (String × Binary64)) (name : String) : Binary64 :=
  (counts.lookup name).getD 0

def categoryTotal (defects : List DefectDefinition) (counts : List (String × Binary64))
    (category : DefectCategory) : Binary64 :=
  (Binary64.sum ((ofCategory category defects).map fun definition =>
    defectEquivalents (countOf counts definition.name) definition.weight)).roundPlaces 2

def totalDefects (defects : List DefectDefinition) (counts : List (String × Binary64)) :
    Binary64 :=
  (categoryTotal defects counts .primary + categoryTotal defects counts .secondary).roundPlaces 2

structure DefectEvaluation where
  primaryTotal : Binary64
  secondaryTotal : Binary64
  total : Binary64
  complaints : List String

def excess? (label : String) (total : Binary64) (limit : Option Binary64) : Option String :=
  match limit with
  | some most =>
    if most < total then
      some (s!"{label} defects ({total.briefText}) exceed maximum allowed ({most.briefText})")
    else none
  | none => none

namespace DefectConfiguration

/-- Compares a sample with the limits of the configuration, or with other ones.  The totals have
to be finite. -/
def evaluate (configuration : DefectConfiguration) (counts : List (String × Binary64))
    (thresholds : Option DefectThresholds := none) : Except (List Fault) DefectEvaluation :=
  let limits := thresholds.getD configuration.thresholds
  let primary := categoryTotal configuration.defects counts .primary
  let secondary := categoryTotal configuration.defects counts .secondary
  let total := totalDefects configuration.defects counts
  requireFinite
    [("primary_total", some primary), ("secondary_total", some secondary),
     ("total", some total)]
    { primaryTotal := primary
      secondaryTotal := secondary
      total
      complaints := (excess? "Primary" primary limits.maxPrimary).toList
        ++ (excess? "Secondary" secondary limits.maxSecondary).toList
        ++ (excess? "Total" total limits.maxTotal).toList }

end DefectConfiguration

inductive ScalingFault where
  | sampleSize
  | invalid (faults : List Fault)

def ScalingFault.message : ScalingFault → String
  | sampleSize => "Sample sizes must be greater than 0."
  | invalid faults => Fault.messages faults

def DefectThresholds.scale (thresholds : DefectThresholds) (fromSize toSize : Binary64) :
    Except ScalingFault DefectThresholds :=
  if ¬ 0 < fromSize ∨ ¬ 0 < toSize then .error .sampleSize
  else
    let ratio := toSize / fromSize
    let scaled (limit : Option Binary64) : Option Binary64 :=
      limit.map fun value => (value * ratio).roundPlaces 2
    match DefectThresholds.make (scaled thresholds.maxPrimary) (scaled thresholds.maxSecondary)
        (scaled thresholds.maxTotal) with
    | .ok thresholds => .ok thresholds
    | .error faults => .error (.invalid faults)

end CoffeeGrading
