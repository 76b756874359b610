import CoffeeGrading.Document.Finite
import CoffeeGrading.ScreenSize

/-!
Measured distributions against screen-size requirements.  A screen that was not measured holds
nothing.  Each broken constraint gives one violation, in the order of the constraints.
-/

namespace CoffeeGrading

structure ScreenViolation where
  constraint : ScreenConstraint
  actual : Binary64
  message : String

def shareOf (distribution : List (String × Binary64)) (screenSize : String) : Binary64 :=
  (distribution.lookup screenSize).getD 0

namespace ScreenConstraint

/-- What to say about a share that breaks the constraint.  A bound that is not set is not broken,
and neither is a constraint that does not use its bounds. -/
def complaint? (constraint : ScreenConstraint) (actual : Binary64) : Option String :=
  let screen := constraint.screenSize
  let shown (value : Binary64) := percentText (some value)
  match constraint.rule, constraint.minValue, constraint.maxValue with
  | .minimum, some low, _ =>
    if actual < low then
      some (screen ++ " must be at least " ++ shown low ++ ", but is " ++ shown actual)
    else none
  | .maximum, _, some high =>
    if high < actual then
      some (screen ++ " must be at most " ++ shown high ++ ", but is " ++ shown actual)
    else none
  | .range, some low, some high =>
    if low ≤ actual ∧ actual ≤ high then none
    else
      some (screen ++ " must be between " ++ shown low ++ " and " ++ shown high ++ ", but is "
        ++ shown actual)
  | _, _, _ => none

/-- The violation of a constraint by a distribution, if there is one.  Its share has to be
finite. -/
def violation? (distribution : List (String × Binary64)) (constraint : ScreenConstraint) :
    Except (List Fault) (Option ScreenViolation) :=
  let actual := shareOf distribution constraint.screenSize
  match constraint.complaint? actual with
  | none => .ok none
  | some message => (requireFinite [("actual", some actual)] ⟨constraint, actual, message⟩).map some

end ScreenConstraint

namespace ScreenRequirements

def violationsOf (distribution : List (String × Binary64)) :
    List ScreenConstraint → Except (List Fault) (List ScreenViolation)
  | [] => .ok []
  | constraint :: rest => do
    let violation ← constraint.violation? distribution
    let others ← violationsOf distribution rest
    .ok (violation.toList ++ others)

def evaluate (requirements : ScreenRequirements) (distribution : List (String × Binary64)) :
    Except (List Fault) (List ScreenViolation) :=
  violationsOf distribution requirements.constraints

end ScreenRequirements
end CoffeeGrading
