import CoffeeGrading.OffFlavour

/-!
Observed off-flavours against the rules.  Observations are looked up by category and name; one
that is not listed, or whose intensity is not on its scale, is a complaint of its own.
-/

namespace CoffeeGrading

structure OffFlavourObservation where
  name : String
  category : OffFlavourCategory
  intensity : Binary64

structure OffFlavourEvaluation where
  taintCount : Nat
  faultCount : Nat
  complaints : List String

namespace OffFlavourConfiguration

/-- The listed definition of a category and name key; of several, the last one listed. -/
def definition? (configuration : OffFlavourConfiguration) (category : OffFlavourCategory)
    (key : String) : Option OffFlavourDefinition :=
  (configuration.taints ++ configuration.faults).reverse.find? fun definition =>
    definition.category = category ∧ Text.nameKey definition.name = key

def complaint? (configuration : OffFlavourConfiguration) (observation : OffFlavourObservation) :
    Except NoWholeNumber (Option String) := do
  match configuration.definition? observation.category (Text.nameKey observation.name) with
  | none => .ok (some s!"Unknown {observation.category.name} \"{observation.name}\"")
  | some definition =>
    let accepted ← definition.scale.accepts observation.intensity
    let intensity := observation.intensity.briefText
    .ok (if accepted then none
      else some s!"Intensity {intensity} is not valid for \"{observation.name}\"")

def singleComplaints (configuration : OffFlavourConfiguration) :
    List OffFlavourObservation → Except NoWholeNumber (List String)
  | [] => .ok []
  | observation :: rest => do
    let complaint ← configuration.complaint? observation
    let others ← configuration.singleComplaints rest
    .ok (complaint.toList ++ others)

end OffFlavourConfiguration

namespace OffFlavourRules

def observed (category : OffFlavourCategory) (observations : List OffFlavourObservation) :
    List OffFlavourObservation :=
  observations.filter fun observation => observation.category = category

def countComplaint? (label : String) (count : Nat) (limit : Option Int) : Option String :=
  match limit with
  | some most =>
    if most < count then some s!"{label} count ({count}) exceeds maximum ({most})" else none
  | none => none

def intensityComplaints (category : OffFlavourCategory) (limit : Option Binary64)
    (observations : List OffFlavourObservation) : List String :=
  match limit with
  | some most =>
    ((observed category observations).filter fun observation =>
      most < observation.intensity).map fun observation =>
        category.title ++ s!" \"{observation.name}\" intensity " ++
          observation.intensity.briefText ++ " exceeds maximum " ++ most.briefText
  | none => []

def complaints (rules : OffFlavourRules) (observations : List OffFlavourObservation) :
    List String :=
  if rules.isZeroTolerance then
    if observations.isEmpty then []
    else [(rules.validationMessage.filter fun text => !text.isEmpty).getD
      "Zero tolerance: no taints or faults acceptable"]
  else
    (countComplaint? "Taint" (observed .taint observations).length rules.maxTaints).toList
      ++ (countComplaint? "Fault" (observed .fault observations).length rules.maxFaults).toList
      ++ (countComplaint? "Combined" observations.length rules.maxCombined).toList
      ++ intensityComplaints .taint rules.maxTaintIntensity observations
      ++ intensityComplaints .fault rules.maxFaultIntensity observations

end OffFlavourRules

/-- Applies the rules of a configuration to observations; they are acceptable when there is no
complaint. -/
def OffFlavourConfiguration.evaluate (configuration : OffFlavourConfiguration)
    (observations : List OffFlavourObservation) :
    Except NoWholeNumber OffFlavourEvaluation := do
  let single ← configuration.singleComplaints observations
  .ok {
    taintCount := (OffFlavourRules.observed .taint observations).length
    faultCount := (OffFlavourRules.observed .fault observations).length
    complaints := single ++ configuration.rules.complaints observations }

end CoffeeGrading
