import CoffeeGrading.DisplayOrder
import CoffeeGrading.Distinct
import CoffeeGrading.Limits
import CoffeeGrading.Text.NameKey

/-!
Screen-size requirements: which share of a sample, in percent of its weight, may stay on each
sieve.  Requirements are sound when `ScreenRequirements.flaw?` finds nothing; a set without any
constraint is sound here.
-/

namespace CoffeeGrading

def standardScreenSizes : List String :=
  ["Pan", "Peas 9", "Peas 10", "Peas 11", "Screen 12", "Screen 13", "Screen 14", "Screen 15",
   "Screen 16", "Screen 17", "Screen 18", "Screen 19", "Screen 20"]

inductive ScreenRule where
  | minimum
  | maximum
  | range
  | any
deriving DecidableEq

namespace ScreenRule

def choices : List (String × ScreenRule) :=
  [("minimum", minimum), ("maximum", maximum), ("range", range), ("any", any)]

def name : ScreenRule → String
  | minimum => "minimum"
  | maximum => "maximum"
  | range => "range"
  | any => "any"

end ScreenRule

structure ScreenConstraint where
  screenSize : String
  rule : ScreenRule
  minValue : Option Binary64 := none
  maxValue : Option Binary64 := none
  displayOrder : Int := 0
deriving BEq

instance : HasDisplayOrder ScreenConstraint where
  displayOrder := ScreenConstraint.displayOrder
  placedAt constraint place := { constraint with displayOrder := place }

structure ScreenRequirements where
  constraints : List ScreenConstraint := []
  notes : Option String := none
deriving BEq

/-! ### Display -/

def percentText : Option Binary64 → String
  | some value => value.briefText ++ "%"
  | none => "?%"

namespace ScreenConstraint

def key (constraint : ScreenConstraint) : String :=
  Text.nameKey constraint.screenSize

def displayText (constraint : ScreenConstraint) : String :=
  match constraint.rule with
  | .minimum => "≥" ++ percentText constraint.minValue
  | .maximum => "≤" ++ percentText constraint.maxValue
  | .range => percentText constraint.minValue ++ "-" ++ percentText constraint.maxValue
  | .any => "Any amount"

end ScreenConstraint

def ScreenRequirements.screenSizes (requirements : ScreenRequirements) : List String :=
  (DisplayOrder.sort requirements.constraints).map (·.screenSize)

/-! ### Validation -/

inductive BoundFlaw where
  | minimumUnset
  | minimumOutside
  | maximumUnset
  | maximumOutside
  | rangeUnset
  | rangeOutside
  | rangeEmpty
  | anyBounded
deriving DecidableEq

inductive ScreenFlaw where
  | nameless
  | repeated (screenSize : String)
  | bounds (name : String) (flaw : BoundFlaw) (low high : Binary64)

def BoundFlaw.message (low high : Binary64) : BoundFlaw → String
  | minimumUnset => "minimum constraint requires min_value"
  | minimumOutside => s!"min_value must be between {low.briefText} and {high.briefText}"
  | maximumUnset => "maximum constraint requires max_value"
  | maximumOutside => s!"max_value must be between {low.briefText} and {high.briefText}"
  | rangeUnset => "range constraint requires both min_value and max_value"
  | rangeOutside => s!"range values must be between {low.briefText} and {high.briefText}"
  | rangeEmpty => "range min_value must be less than max_value"
  | anyBounded => "'any' constraint cannot carry min_value or max_value"

def ScreenFlaw.message : ScreenFlaw → String
  | nameless => "Screen size name is required"
  | repeated screenSize => s!"Duplicate screen size constraint: {screenSize}"
  | bounds name flaw low high => name ++ ": " ++ flaw.message low high

def Limits.allowsPercentage (limits : Limits) (value : Binary64) : Bool :=
  limits.percentageMin ≤ value ∧ value ≤ limits.percentageMax

namespace ScreenConstraint

def boundFlaw? (limits : Limits) (constraint : ScreenConstraint) : Option BoundFlaw :=
  match constraint.rule, constraint.minValue, constraint.maxValue with
  | .minimum, none, _ => some .minimumUnset
  | .minimum, some low, _ => if limits.allowsPercentage low then none else some .minimumOutside
  | .maximum, _, none => some .maximumUnset
  | .maximum, _, some high => if limits.allowsPercentage high then none else some .maximumOutside
  | .range, some low, some high =>
    if !limits.allowsPercentage low || !limits.allowsPercentage high then some .rangeOutside
    else if ¬ low < high then some .rangeEmpty
    else none
  | .range, _, _ => some .rangeUnset
  | .any, none, none => none
  | .any, _, _ => some .anyBounded

def flaw? (limits : Limits) (constraint : ScreenConstraint) : Option ScreenFlaw :=
  if Text.blank constraint.screenSize then some .nameless
  else
    (constraint.boundFlaw? limits).map fun flaw =>
      .bounds (Text.trim constraint.screenSize) flaw limits.percentageMin limits.percentageMax

end ScreenConstraint

/-- The first flaw of a set of constraints: a screen that is constrained twice, then the first
constraint with a flaw of its own. -/
def ScreenRequirements.flaw? (limits : Limits) (requirements : ScreenRequirements) :
    Option ScreenFlaw :=
  match firstRepeat? ScreenConstraint.key [] requirements.constraints with
  | some repeated => some (.repeated repeated.screenSize)
  | none => requirements.constraints.findSome? (ScreenConstraint.flaw? limits)

/-! ### Editing -/

structure ScreenTaken where
  screenSize : String
deriving DecidableEq

def ScreenTaken.message (taken : ScreenTaken) : String :=
  s!"Screen size '{taken.screenSize}' already has a constraint."

namespace ScreenRequirements

def add (requirements : ScreenRequirements) (constraint : ScreenConstraint) :
    Except ScreenTaken ScreenRequirements :=
  if requirements.constraints.any fun other => other.key = constraint.key then
    .error ⟨constraint.screenSize⟩
  else
    .ok { requirements with
      constraints := DisplayOrder.append requirements.constraints constraint }

def remove (requirements : ScreenRequirements) (screenSize : String) : ScreenRequirements :=
  { requirements with
    constraints := DisplayOrder.renumber
      (requirements.constraints.filter fun other => other.key ≠ Text.nameKey screenSize) }

def move (requirements : ScreenRequirements) (index direction : Int) :
    Except OrderFault ScreenRequirements := do
  let constraints ← DisplayOrder.move requirements.constraints index direction
  .ok { requirements with constraints }

end ScreenRequirements
end CoffeeGrading
