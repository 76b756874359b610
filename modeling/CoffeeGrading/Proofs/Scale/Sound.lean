import CoffeeGrading.Proofs.Names
import CoffeeGrading.Scale.Score

/-!
What a usable scale is, and what it means for a number to be one of its scores.
-/

namespace CoffeeGrading.Scale

/-- A range holds more than one point and has a step; wordings have labels that tell them apart. -/
def Sound : Scale → Prop
  | numeric range => range.min < range.max ∧ 0 < range.increment
  | wording options => options ≠ [] ∧ NamesApart (options.map (·.label))

theorem flaw?_eq_none_iff (scale : Scale) : scale.flaw? = none ↔ scale.Sound := by
  cases scale with
  | numeric range =>
      by_cases ordered : range.min < range.max
      · by_cases stepped : 0 < range.increment
        · simp [flaw?, Sound, ordered, stepped]
        · simp [flaw?, Sound, ordered, stepped]
      · simp [flaw?, Sound, ordered]
  | wording options =>
      rw [Sound, namesApart_map_iff]
      cases options with
      | nil => simp [flaw?]
      | cons first rest =>
          simp only [flaw?, List.isEmpty_cons, Bool.false_eq_true, if_false, ne_eq,
            reduceCtorEq, not_false_eq_true, true_and]
          by_cases blank : (first :: rest).any fun option => Text.blank option.label
          · simp [blank]
          · simp [blank]

def stepsTo (range : NumericScale) (score : Binary64) : Binary64 :=
  (score - range.min) / range.increment

/-- A number is a score of a scale: within the range, and as near to a whole number of steps or to
the value of a wording as the tolerance says. -/
def Reaches (tolerance score : Binary64) : Scale → Prop
  | numeric range =>
    ¬ score < range.min - tolerance ∧ ¬ range.max + tolerance < score ∧
      ∃ steps, (stepsTo range score).round = .ok steps ∧
        (stepsTo range score - Binary64.ofInt steps).abs * range.increment < tolerance
  | wording options => ∃ option ∈ options, (option.value - score).abs < tolerance

theorem accepts_iff {scale : Scale} (sound : scale.Sound) (tolerance score : Binary64) :
    scale.accepts score tolerance = .ok true ↔ scale.Reaches tolerance score := by
  cases scale with
  | numeric range =>
      have stepped : 0 < range.increment := sound.2
      by_cases outside : score < range.min - tolerance ∨ range.max + tolerance < score
      · simp only [accepts, Reaches, stepped, outside, not_true_eq_false, if_false, if_true,
          Except.ok.injEq, Bool.false_eq_true, false_iff]
        rintro ⟨above, below, _⟩
        exact outside.elim above below
      · have inside := not_or.1 outside
        cases counted : (stepsTo range score).round with
        | error reason =>
            rw [stepsTo] at counted
            simp [accepts, Reaches, stepped, inside, stepsTo, counted, bind, Except.bind]
        | ok steps =>
            rw [stepsTo] at counted
            simp [accepts, Reaches, stepped, inside, stepsTo, counted, bind, Except.bind]
  | wording options => simp [accepts, Reaches, within]

end CoffeeGrading.Scale
