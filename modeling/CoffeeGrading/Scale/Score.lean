import CoffeeGrading.Number.Descending
import CoffeeGrading.Number.Places
import CoffeeGrading.Scale

/-!
Scores on a scale: the lowest and the highest, all of them, whether a number is one of them, and
the wording that goes with it.  Scores are compared within a tolerance.
-/

namespace CoffeeGrading

def defaultTolerance : Binary64 := 0.01

inductive NoExtreme where
  | lowest
  | highest
deriving DecidableEq

def NoExtreme.message : NoExtreme → String
  | lowest => "min() arg is an empty sequence"
  | highest => "max() arg is an empty sequence"

structure ScoreRule where
  minValue : Binary64
  validationMessage : Option String := none
deriving BEq

namespace Scale

def extreme? (before : Binary64 → Binary64 → Bool) : List Binary64 → Option Binary64
  | [] => none
  | first :: rest =>
    some (rest.foldl (fun best value => if before value best then value else best) first)

def lowest : Scale → Except NoExtreme Binary64
  | numeric range => .ok range.min
  | wording options =>
    match extreme? (fun value best => value < best) (options.map (·.value)) with
    | some value => .ok value
    | none => .error .lowest

def highest : Scale → Except NoExtreme Binary64
  | numeric range => .ok range.max
  | wording options =>
    match extreme? (fun value best => best < value) (options.map (·.value)) with
    | some value => .ok value
    | none => .error .highest

def stepScore (range : NumericScale) (step : Nat) : Binary64 :=
  (range.min + Binary64.ofInt step * range.increment).roundPlaces 6

def scores : Scale → Except NoWholeNumber (List Binary64)
  | numeric range =>
    if ¬ 0 < range.increment ∨ ¬ range.min ≤ range.max then .ok []
    else do
      let steps ← ((range.max - range.min) / range.increment + 1e-9).floor
      .ok ((List.range (steps + 1).toNat).map (stepScore range))
  | wording options => .ok (Binary64.descending (options.map (·.value)))

def within (tolerance left right : Binary64) : Bool :=
  (left - right).abs < tolerance

/-- True when a number is a score of the scale within a tolerance.  The test counts the steps
from the lower end, so it fails where their number is too large for a number. -/
def accepts (scale : Scale) (score : Binary64) (tolerance : Binary64 := defaultTolerance) :
    Except NoWholeNumber Bool :=
  match scale with
  | numeric range =>
    if ¬ 0 < range.increment then .ok false
    else if score < range.min - tolerance ∨ range.max + tolerance < score then .ok false
    else do
      let steps := (score - range.min) / range.increment
      let nearest ← steps.round
      .ok ((steps - Binary64.ofInt nearest).abs * range.increment < tolerance)
  | wording options => .ok (options.any fun option => within tolerance option.value score)

/-- The wording for a score: the number itself on a numeric scale, the first label in display
order whose value is within the tolerance on a wording scale. -/
def label? (scale : Scale) (score : Binary64) (tolerance : Binary64 := defaultTolerance) :
    Option String :=
  match scale with
  | numeric _ => some score.briefText
  | wording options =>
    ((DisplayOrder.sort options).find? fun option => within tolerance option.value score).map
      (·.label)

def valueOf? (label : String) (options : List WordingOption) : Option Binary64 :=
  (options.find? fun option => Text.nameKey option.label = Text.nameKey label).map (·.value)

def constraintText (scale : Scale) (rule : ScoreRule) : String :=
  match scale with
  | numeric _ => "≥" ++ rule.minValue.scoreText
  | wording _ => "≥" ++ (scale.label? rule.minValue).getD rule.minValue.scoreText

end Scale
end CoffeeGrading
