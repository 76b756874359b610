import CoffeeGrading.Aspect
import CoffeeGrading.Catalogue
import CoffeeGrading.Document.Finite

/-!
Editing aspect configurations.  The places of the wordings stay their positions, and the
threshold stays the value of some wording: it follows a wording whose value changes, and it goes
when the wording that carries it is removed.
-/

namespace CoffeeGrading

structure UnmatchedThreshold where
  value : Binary64

def UnmatchedThreshold.message (unmatched : UnmatchedThreshold) : String :=
  "Minimum acceptable value " ++ unmatched.value.briefText ++ " does not match any wording."

inductive ThresholdFault where
  | unmatched (reason : UnmatchedThreshold)
  | invalid (faults : List Fault)

def AspectWording.make (id label : String) (value : Binary64) (displayOrder : Int)
    (description : Option String) : Except (List Fault) AspectWording :=
  requireFinite [("value", some value)] { id, label, value, displayOrder, description }

namespace AspectConfiguration

def add (configuration : AspectConfiguration) (id label : String) (value : Binary64)
    (description : Option String) : Except (List Fault) AspectConfiguration := do
  let wording ← AspectWording.make id label value configuration.wordings.length description
  .ok { configuration with wordings := DisplayOrder.append configuration.wordings wording }

def positionOf (configuration : AspectConfiguration) (id : String) : Except NotFound Nat :=
  match configuration.wordings.findIdx? fun wording => wording.id = id with
  | some position => .ok position
  | none => .error ⟨"Aspect wording", id⟩

def revised (wording : AspectWording) (label : Option String) (value : Option Binary64)
    (description : Option String) : AspectWording :=
  { wording with
    label := label.getD wording.label
    value := value.getD wording.value
    description := description.or wording.description }

/-- The threshold after the value of a wording changed.  It follows the wording when it stood at
the old value and no wording carries that value any more. -/
def followedThreshold (threshold : Option AspectThreshold) (old : Binary64)
    (value : Option Binary64) (wordings : List AspectWording) : Option AspectThreshold :=
  match threshold, value with
  | some threshold, some value =>
    if threshold.minAcceptableValue == old && !hasValue wordings old then
      some { threshold with minAcceptableValue := value }
    else some threshold
  | threshold, _ => threshold

def update (configuration : AspectConfiguration) (id : String) (label : Option String)
    (value : Option Binary64) (description : Option String) :
    Except NotFound AspectConfiguration := do
  let position ← configuration.positionOf id
  match configuration.wordings[position]? with
  | none => .ok configuration
  | some old =>
    let wordings := configuration.wordings.set position (revised old label value description)
    .ok { configuration with
      wordings
      threshold := followedThreshold configuration.threshold old.value value wordings }

def remove (configuration : AspectConfiguration) (id : String) :
    Except NotFound AspectConfiguration := do
  let position ← configuration.positionOf id
  match configuration.wordings[position]? with
  | none => .ok configuration
  | some gone =>
    .ok { configuration with
      wordings := DisplayOrder.renumber (configuration.wordings.eraseIdx position)
      threshold := configuration.threshold.filter fun threshold =>
        !(threshold.minAcceptableValue == gone.value) }

def swap (configuration : AspectConfiguration) (first second : Int) :
    Except OrderFault AspectConfiguration := do
  let wordings ← DisplayOrder.swap configuration.wordings first second
  .ok { configuration with wordings }

def move (configuration : AspectConfiguration) (index direction : Int) :
    Except OrderFault AspectConfiguration := do
  let wordings ← DisplayOrder.move configuration.wordings index direction
  .ok { configuration with wordings }

def setThreshold (configuration : AspectConfiguration) (value : Option Binary64)
    (validationMessage : Option String) : Except ThresholdFault AspectConfiguration :=
  match value with
  | none => .ok { configuration with threshold := none }
  | some value =>
    if !hasValue configuration.wordings value then .error (.unmatched ⟨value⟩)
    else
      match requireFinite [("min_acceptable_value", some value)]
          (AspectThreshold.mk value validationMessage) with
      | .ok threshold => .ok { configuration with threshold := some threshold }
      | .error faults => .error (.invalid faults)

end AspectConfiguration
end CoffeeGrading
