import CoffeeGrading.Proofs.DisplayOrder.Sorted
import CoffeeGrading.Proofs.EditSession
import CoffeeGrading.Proofs.Number.Descending
import CoffeeGrading.Scale.Score

/-!
The scores of a wording scale, looked at in three orders: as the options are listed, as they are
displayed, and by their values.  A number that is accepted has a label and is near one of the scores,
and the scores run from the highest to the lowest.
-/

namespace CoffeeGrading

def WordingOption.Matches (tolerance score : Binary64) (option : WordingOption) : Prop :=
  (option.value - score).abs < tolerance

instance (tolerance score : Binary64) : DecidablePred (WordingOption.Matches tolerance score) :=
  fun option => inferInstanceAs (Decidable ((option.value - score).abs < tolerance))

namespace Scale

open Binary64 DisplayOrder

/-! ### The ends of a scale -/

section Extremes

variable {before : Binary64 → Binary64 → Bool} {Reaches : Binary64 → Binary64 → Prop}

/-- The relation that is kept up by taking over every value that comes before the best one. -/
structure Selects (before : Binary64 → Binary64 → Bool) (Reaches : Binary64 → Binary64 → Prop) :
    Prop where
  trans : ∀ first second third, Reaches first second → Reaches second third → Reaches first third
  taken : ∀ value best, before value best = true → Reaches value best
  kept : ∀ value best, value.isNan = false → best.isNan = false → before value best = false →
    Reaches best value

theorem Selects.reflexive (selects : Selects before Reaches) {value : Binary64}
    (number : value.isNan = false) : Reaches value value := by
  cases better : before value value with
  | true => exact selects.taken value value better
  | false => exact selects.kept value value number number better

theorem Selects.exists_extreme (selects : Selects before Reaches) {values : List Binary64}
    (numbers : ∀ value ∈ values, value.isNan = false) (filled : values ≠ []) :
    ∃ best, extreme? before values = some best ∧ best ∈ values ∧
      ∀ value ∈ values, Reaches best value := by
  cases values with
  | nil => exact absurd rfl filled
  | cons first rest =>
      clear filled
      induction rest generalizing first with
      | nil =>
          have number := numbers first List.mem_cons_self
          exact ⟨first, rfl, List.mem_cons_self, by simpa using selects.reflexive number⟩
      | cons next rest ih =>
          simp only [List.forall_mem_cons] at numbers ih ⊢
          obtain ⟨firstNumber, nextNumber, others⟩ := numbers
          cases better : before next first with
          | true =>
              obtain ⟨best, settled, listed, reachesNext, reaches⟩ := ih next ⟨nextNumber, others⟩
              refine ⟨best, by simpa [extreme?, better] using settled,
                List.mem_cons_of_mem first listed, ?_, reachesNext, reaches⟩
              exact selects.trans _ _ _ reachesNext (selects.taken next first better)
          | false =>
              obtain ⟨best, settled, listed, reachesFirst, reaches⟩ := ih first ⟨firstNumber, others⟩
              refine ⟨best, by simpa [extreme?, better] using settled, ?_, reachesFirst, ?_, reaches⟩
              · rcases List.mem_cons.1 listed with rfl | later
                · exact List.mem_cons_self
                · exact List.mem_cons_of_mem first (List.mem_cons_of_mem next later)
              · exact selects.trans _ _ _ reachesFirst
                  (selects.kept next first nextNumber firstNumber better)

theorem selects_highest : Selects (fun value best => best < value) fun best value => value ≤ best where
  trans _ _ _ first second := le_trans second first
  taken _ _ above := le_of_lt (of_decide_eq_true above)
  kept _ _ valueNumber bestNumber level :=
    le_of_not_lt bestNumber valueNumber (of_decide_eq_false level)

theorem selects_lowest : Selects (fun value best => value < best) fun best value => best ≤ value where
  trans _ _ _ first second := le_trans first second
  taken _ _ below := le_of_lt (of_decide_eq_true below)
  kept _ _ valueNumber bestNumber level :=
    le_of_not_lt valueNumber bestNumber (of_decide_eq_false level)

end Extremes

/-! ### Matching options -/

variable {options : List WordingOption} {score tolerance : Binary64}

theorem exists_answer (options : List WordingOption) (score tolerance : Binary64) :
    ∃ answer, (wording options).accepts score tolerance = .ok answer ∧
      (answer = true ↔ ∃ option ∈ options, option.Matches tolerance score) := by
  refine ⟨_, rfl, ?_⟩
  rw [List.any_eq_true]
  exact exists_congr fun option => and_congr_right fun _ => decide_eq_true_iff

theorem label?_wording (options : List WordingOption) (score tolerance : Binary64) :
    (wording options).label? score tolerance =
      ((sort options).find? fun option => option.Matches tolerance score).map (·.label) :=
  rfl

theorem label?_eq_some_iff (label : String) :
    (wording options).label? score tolerance = some label ↔
      ∃ before option after, options = before ++ option :: after ∧
        Foremost (WordingOption.Matches tolerance score) before option after ∧
        option.label = label := by
  rw [label?_wording, Option.map_eq_some_iff]
  constructor
  · rintro ⟨option, found, named⟩
    obtain ⟨before, after, split, foremost⟩ := (find?_sort_eq_some_iff options option).1 found
    exact ⟨before, option, after, split, foremost, named⟩
  · rintro ⟨before, option, after, split, foremost, named⟩
    exact ⟨option, (find?_sort_eq_some_iff options option).2 ⟨before, after, split, foremost⟩, named⟩

theorem label?_isSome_iff :
    ((wording options).label? score tolerance).isSome = true ↔
      ∃ option ∈ options, option.Matches tolerance score := by
  rw [label?_wording, Option.isSome_map, List.find?_isSome]
  simp only [mem_sort, decide_eq_true_eq]

/-- A number is accepted exactly when it has a label, and exactly when it is near one of the scores.
The label is the one of the foremost option that matches; the scores are the values of the options
from the highest down to the lowest. -/
theorem wording_views_agree (options : List WordingOption)
    (numbers : ∀ option ∈ options, option.value.isNan = false) (score tolerance : Binary64) :
    ∃ values answer, (wording options).scores = .ok values ∧
      (wording options).accepts score tolerance = .ok answer ∧
      (answer = true ↔ ((wording options).label? score tolerance).isSome = true) ∧
      (answer = true ↔ ∃ value ∈ values, (value - score).abs < tolerance) ∧
      (∀ label, (wording options).label? score tolerance = some label ↔
        ∃ before option after, options = before ++ option :: after ∧
          Foremost (WordingOption.Matches tolerance score) before option after ∧
          option.label = label) ∧
      values.Perm (options.map (·.value)) ∧
      values.Pairwise (fun left right => right ≤ left) ∧
      (options ≠ [] → ∃ first last high low,
        values.head? = some first ∧ values.getLast? = some last ∧
        (wording options).highest = .ok high ∧ (wording options).lowest = .ok low ∧
        (first == high) = true ∧ (last == low) = true) := by
  have valued : ∀ value ∈ options.map (·.value), value.isNan = false := by
    simpa using numbers
  have perm := descending_perm valued
  obtain ⟨answer, answered, matched⟩ := exists_answer options score tolerance
  refine ⟨_, answer, rfl, answered, matched.trans label?_isSome_iff.symm, ?near,
    fun label => label?_eq_some_iff label, perm, pairwise_descending valued, ?ends⟩
  case near =>
    rw [matched]
    constructor
    · rintro ⟨option, listed, near⟩
      exact ⟨option.value, perm.mem_iff.2 (List.mem_map_of_mem listed), near⟩
    · rintro ⟨value, listed, near⟩
      obtain ⟨option, among, rfl⟩ := List.mem_map.1 (perm.mem_iff.1 listed)
      exact ⟨option, among, near⟩
  case ends =>
    intro filled
    have some_values : options.map (·.value) ≠ [] := by simpa using filled
    obtain ⟨first, firstShown, greatest⟩ := exists_head_descending valued some_values
    obtain ⟨last, lastShown, least⟩ := exists_getLast_descending valued some_values
    obtain ⟨high, highest, isHighest⟩ := selects_highest.exists_extreme valued some_values
    obtain ⟨low, lowest, isLowest⟩ := selects_lowest.exists_extreme valued some_values
    refine ⟨first, last, high, low, firstShown, lastShown, ?_, ?_,
      beq_of_isGreatest greatest isHighest, beq_of_isLeast least isLowest⟩
    · simp [Scale.highest, highest]
    · simp [Scale.lowest, lowest]

def sharedScores : List WordingOption := [
  { label := "Fair", value := 7, displayOrder := 2 },
  { label := "Good", value := 7, displayOrder := 1 },
  { label := "Fine", value := 7, displayOrder := 1 },
  { label := "Poor", value := 1, displayOrder := 0 }]

theorem sharedScores_views_agree :
    (∀ option ∈ sharedScores, option.value.isNan = false) ∧
      (wording sharedScores).accepts 7 = .ok true ∧
      (wording sharedScores).label? 7 = some "Good" ∧
      ∃ values, (wording sharedScores).scores = .ok values ∧
        (∃ value ∈ values, (value - 7).abs < defaultTolerance) ∧
        values.Perm (sharedScores.map (·.value)) ∧
        ∃ first last, values.head? = some first ∧ values.getLast? = some last ∧
          (first == 7) = true ∧ (last == 1) = true := by
  have numbers : ∀ option ∈ sharedScores, option.value.isNan = false := by decide +kernel
  obtain ⟨values, answer, enumerated, answered, labelled, near, named, perm, _, ends⟩ :=
    wording_views_agree sharedScores numbers 7 defaultTolerance
  have good : (wording sharedScores).label? 7 = some "Good" :=
    (named "Good").2 ⟨[sharedScores[0]], sharedScores[1], [sharedScores[2], sharedScores[3]], rfl,
      ⟨by decide +kernel, by decide +kernel, by decide +kernel⟩, rfl⟩
  obtain rfl : answer = true := labelled.2 (by rw [good]; rfl)
  obtain ⟨first, last, high, low, head, back, highest, lowest, atTop, atBottom⟩ :=
    ends (by simp [sharedScores])
  have seven : (wording sharedScores).highest = .ok 7 :=
    toOption_eq_some_iff.1 (by decide +kernel)
  have one : (wording sharedScores).lowest = .ok 1 := toOption_eq_some_iff.1 (by decide +kernel)
  rw [Except.ok.inj (highest.symm.trans seven)] at atTop
  rw [Except.ok.inj (lowest.symm.trans one)] at atBottom
  exact ⟨numbers, answered, good, values, enumerated, near.1 rfl, perm, first, last, head, back,
    atTop, atBottom⟩

end Scale
end CoffeeGrading
