import CoffeeGrading.DisplayOrder
import CoffeeGrading.Distinct
import CoffeeGrading.Limits
import CoffeeGrading.Text.NameKey

/-!
Aspect configurations: the appearance of green or roasted beans as an ordered list of wordings,
each with a value, and the lowest value that is acceptable.  A configuration is sound when
`AspectConfiguration.flaw?` finds nothing.
-/

namespace CoffeeGrading

structure AspectWording where
  id : String
  label : String
  value : Binary64
  displayOrder : Int := 0
  description : Option String := none
deriving BEq

instance : HasDisplayOrder AspectWording where
  displayOrder := AspectWording.displayOrder
  placedAt wording place := { wording with displayOrder := place }

structure AspectThreshold where
  minAcceptableValue : Binary64
  validationMessage : Option String := none
deriving BEq

structure AspectConfiguration where
  wordings : List AspectWording := []
  threshold : Option AspectThreshold := none
  notes : Option String := none
deriving BEq

inductive AspectFlaw where
  | blankLabel
  | repeatedLabel
  | repeatedValue
  | valueOutside (label : String) (low high : Binary64)
  | danglingThreshold

def AspectFlaw.message : AspectFlaw → String
  | blankLabel => "Wording labels cannot be empty"
  | repeatedLabel => "Duplicate wording labels are not allowed"
  | repeatedValue => "Duplicate values are not allowed"
  | valueOutside label low high =>
    s!"Wording '{label}' value must be between {low.briefText} and {high.briefText}"
  | danglingThreshold => "Minimum acceptable value must match one of the wording values"

namespace AspectConfiguration

def isEmpty (configuration : AspectConfiguration) : Bool :=
  configuration.wordings.isEmpty && configuration.threshold.isNone

def hasValue (wordings : List AspectWording) (value : Binary64) : Bool :=
  wordings.any fun wording => wording.value == value

/-- The first flaw: labels that are blank or the same name, values that are equal or outside the
limits, a threshold that is the value of no wording. -/
def flaw? (limits : Limits) (configuration : AspectConfiguration) : Option AspectFlaw :=
  let wordings := configuration.wordings
  if wordings.any fun wording => Text.blank wording.label then some .blankLabel
  else if !distinct (wordings.map fun wording => Text.nameKey wording.label) then
    some .repeatedLabel
  else if !distinct (wordings.map (·.value)) then some .repeatedValue
  else
    match wordings.find? fun wording =>
        ¬ (limits.aspectValueMin ≤ wording.value ∧ wording.value ≤ limits.aspectValueMax) with
    | some wording =>
      some (.valueOutside wording.label limits.aspectValueMin limits.aspectValueMax)
    | none =>
      match configuration.threshold with
      | some threshold =>
        if hasValue wordings threshold.minAcceptableValue then none else some .danglingThreshold
      | none => none

def accepts (configuration : AspectConfiguration) (value : Binary64) : Bool :=
  match configuration.threshold with
  | none => true
  | some threshold => threshold.minAcceptableValue ≤ value

def wordingFor? (configuration : AspectConfiguration) (value : Binary64) :
    Option AspectWording :=
  configuration.wordings.find? fun wording => wording.value == value

end AspectConfiguration
end CoffeeGrading
