import CoffeeGrading.DisplayOrder
import CoffeeGrading.Distinct
import CoffeeGrading.Number.Decimal
import CoffeeGrading.Text.NameKey

/-!
Scales, the two ways in which a quality attribute is scored.  A numeric scale is a range walked
in steps from its lower end; a wording scale is a list of named levels, each with a number.  A
scale is sound when `Scale.flaw?` finds nothing.
-/

namespace CoffeeGrading

structure NumericScale where
  min : Binary64
  max : Binary64
  increment : Binary64
deriving BEq

structure WordingOption where
  label : String
  value : Binary64
  displayOrder : Int := 0
deriving BEq

instance : HasDisplayOrder WordingOption where
  displayOrder := WordingOption.displayOrder
  placedAt option place := { option with displayOrder := place }

inductive Scale where
  | numeric (range : NumericScale)
  | wording (options : List WordingOption)
deriving BEq

inductive ScaleFlaw where
  | emptyRange
  | noStep
  | noOptions
  | blankLabel
  | repeatedLabel
deriving DecidableEq

def ScaleFlaw.message : ScaleFlaw → String
  | emptyRange => "Minimum must be less than maximum"
  | noStep => "Increment must be greater than 0"
  | noOptions => "At least one option is required"
  | blankLabel => "Option labels cannot be empty"
  | repeatedLabel => "Duplicate labels are not allowed"

namespace Scale

/-- The first flaw of a scale: a numeric range has to hold more than one point and have a step, a
wording scale has to have options with labels that are neither blank nor the same name. -/
def flaw? : Scale → Option ScaleFlaw
  | numeric range =>
    if ¬ range.min < range.max then some .emptyRange
    else if ¬ 0 < range.increment then some .noStep
    else none
  | wording options =>
    if options.isEmpty then some .noOptions
    else if options.any fun option => Text.blank option.label then some .blankLabel
    else if !distinct (options.map fun option => Text.nameKey option.label) then
      some .repeatedLabel
    else none

def summary : Scale → String
  | numeric range =>
    let step := range.increment.briefText
    s!"Numeric {range.min.scoreText}-{range.max.scoreText} (step {step})"
  | wording options => s!"Wording ({options.length} levels)"

end Scale
end CoffeeGrading
