import CoffeeGrading.Proofs.EditSession
import CoffeeGrading.Proofs.Scale.Drift

/-!
The scores that a numeric scale enumerates, against those it accepts.  None lies below the lower
end.  One may lie beyond the upper end, because the steps are counted with an allowance of a
billionth of a step, and where the ends are large one may lie between the steps.
-/

namespace CoffeeGrading.Scale

open Binary64

variable {range : NumericScale} {values : List Binary64}

theorem scores_eq_ok (sound : (numeric range).Sound)
    (returned : (numeric range).scores = .ok values) :
    ∃ steps, ((range.max - range.min) / range.increment + 1e-9).floor = .ok steps ∧
      values = (List.range (steps + 1).toNat).map (stepScore range) := by
  have ordered : range.min ≤ range.max := le_of_lt sound.1
  have stepped : 0 < range.increment := sound.2
  have walked : ¬ (¬ 0 < range.increment ∨ ¬ range.min ≤ range.max) := by simp [ordered, stepped]
  rw [scores, if_neg walked] at returned
  obtain ⟨steps, counted, done⟩ := exists_of_bind_eq_ok returned
  exact ⟨steps, counted, (Except.ok.inj done).symm⟩

theorem stepScore_mono (finite : range.Finite) (positive : 0 < range.increment)
    {fewer more : Nat} (ordered : fewer ≤ more) :
    stepScore range fewer ≤ stepScore range more := by
  refine roundPlaces_le_roundPlaces 6 (add_le_add_of_finite finite.min ?_)
  exact mul_le_mul_of_pos finite.increment positive (ofInt_le_ofInt (by omega))

theorem not_stepScore_lt (finite : range.Finite) (positive : 0 < range.increment) (step : Nat) :
    ¬ stepScore range step < range.min - defaultTolerance := by
  have tolerance : defaultTolerance.isFinite ∧ 1 / 2 / 10 ^ 6 ≤ defaultTolerance.toRat := by
    decide +kernel
  refine not_lt_of_le (le_trans (sub_le_roundPlaces 6 finite.min tolerance.1 tolerance.2) ?_)
  have nonneg : 0 ≤ ofInt step * range.increment := by
    rw [← zero_mul_of_pos finite.increment positive, ← ofInt_zero]
    exact mul_le_mul_of_pos finite.increment positive (ofInt_le_ofInt (by omega))
  have upward := add_le_add_of_finite finite.min nonneg
  obtain ⟨place, here, _⟩ := place_of_finite finite.min
  have same : range.min ≤ range.min + 0 :=
    (le_iff_place _ _).2 ⟨place, place, here, (place?_add_zero _).trans here, Int.le_refl _⟩
  exact roundPlaces_le_roundPlaces 6 (le_trans same upward)

section

variable (finite : range.Finite) (sound : (numeric range).Sound)
  (returned : (numeric range).scores = .ok values)

include sound returned

theorem exists_step_of_mem {score : Binary64} (listed : score ∈ values) :
    ∃ (steps : Int) (step : Nat),
      ((range.max - range.min) / range.increment + 1e-9).floor = .ok steps ∧
        (step : Int) ≤ steps ∧ stepScore range step = score := by
  obtain ⟨steps, counted, rfl⟩ := scores_eq_ok sound returned
  obtain ⟨step, among, same⟩ := List.mem_map.1 listed
  have among := List.mem_range.1 among
  exact ⟨steps, step, counted, by omega, same⟩

include finite

theorem exists_last_of_mem {score : Binary64} (listed : score ∈ values) :
    ∃ last, values.getLast? = some last ∧ score ≤ last := by
  obtain ⟨steps, _, rfl⟩ := scores_eq_ok sound returned
  obtain ⟨step, among, rfl⟩ := List.mem_map.1 listed
  have among := List.mem_range.1 among
  refine ⟨stepScore range ((steps + 1).toNat - 1), ?_, stepScore_mono finite sound.2 (by omega)⟩
  have some : (steps + 1).toNat ≠ 0 := by omega
  simp [List.getLast?_map, List.getLast?_range, some]

theorem not_lt_of_mem {score : Binary64} (listed : score ∈ values) :
    ¬ score < range.min - defaultTolerance := by
  obtain ⟨_, step, _, _, rfl⟩ := exists_step_of_mem sound returned listed
  exact not_stepScore_lt finite sound.2 step

theorem all_accepted_iff :
    (∀ score ∈ values, (numeric range).accepts score = .ok true) ↔
      (∀ last, values.getLast? = some last → ¬ range.max + defaultTolerance < last) ∧
        ∀ score ∈ values, CountsBack range score := by
  have judged (score : Binary64) : (numeric range).accepts score = .ok true ↔
      ¬ score < range.min - defaultTolerance ∧ ¬ range.max + defaultTolerance < score ∧
        CountsBack range score := accepts_iff sound defaultTolerance score
  simp only [judged]
  constructor
  · intro accepted
    exact ⟨fun last given => (accepted last (List.mem_of_getLast? given)).2.1,
      fun score listed => (accepted score listed).2.2⟩
  · rintro ⟨within, counted⟩ score listed
    obtain ⟨last, given, ordered⟩ := exists_last_of_mem finite sound returned listed
    refine ⟨not_lt_of_mem finite sound returned listed, ?_, counted score listed⟩
    intro beyond
    exact within last given (lt_of_lt_of_le beyond ordered)

theorem countsBack_of_mem (moderate : range.Moderate) {score : Binary64}
    (listed : score ∈ values) : CountsBack range score := by
  have measured := moderate.measured finite sound
  obtain ⟨_, step, counted, among, rfl⟩ := exists_step_of_mem sound returned listed
  have size := steps_size measured counted among
  exact countsBack_of_near measured size (stepScore_near measured size)

theorem not_beyond_of_mem (moderate : range.Moderate) (short : range.increment ≤ 8e6)
    {score : Binary64} (listed : score ∈ values) : ¬ range.max + defaultTolerance < score := by
  have measured := moderate.measured finite sound
  obtain ⟨_, step, counted, among, rfl⟩ := exists_step_of_mem sound returned listed
  have size := steps_size measured counted among
  exact not_beyond measured (steps_reach measured counted among)
    (stepScore_near measured size) short

end

/-- No enumerated score is below the lower end.  All of them are accepted exactly when the last one
is not beyond the upper end and the steps count back from each.  Between ends of at most 10¹² the
steps always count back, and with steps of at most eight million no score is beyond the end. -/
theorem enumerated_accepted_iff (finite : range.Finite) (unflawed : (numeric range).flaw? = none)
    (returned : (numeric range).scores = .ok values) :
    (∀ score ∈ values, ¬ score < range.min - defaultTolerance) ∧
    ((∀ score ∈ values, (numeric range).accepts score = .ok true) ↔
      (∀ last, values.getLast? = some last → ¬ range.max + defaultTolerance < last) ∧
        ∀ score ∈ values, CountsBack range score) ∧
    (range.Moderate →
      ((∀ score ∈ values, (numeric range).accepts score = .ok true) ↔
        ∀ last, values.getLast? = some last → ¬ range.max + defaultTolerance < last)) ∧
    (range.Moderate → range.increment ≤ 8e6 →
      ∀ score ∈ values, (numeric range).accepts score = .ok true) := by
  have sound := (flaw?_eq_none_iff _).1 unflawed
  have accepted := all_accepted_iff finite sound returned
  refine ⟨fun _ => not_lt_of_mem finite sound returned, accepted, ?moderate, ?short⟩
  case moderate =>
    intro moderate
    rw [accepted, and_iff_left]
    exact fun _ => countsBack_of_mem finite sound returned moderate
  case short =>
    intro moderate short
    refine accepted.2 ⟨fun last given => ?_,
      fun _ => countsBack_of_mem finite sound returned moderate⟩
    exact not_beyond_of_mem finite sound returned moderate short (List.mem_of_getLast? given)

def halfPoints : NumericScale where
  min := 6
  max := 10
  increment := 0.5

theorem halfPoints_accepted :
    halfPoints.Finite ∧ (numeric halfPoints).flaw? = none ∧ halfPoints.Moderate ∧
      ∃ values, (numeric halfPoints).scores = .ok values ∧ values.getLast? = some 10 ∧
        ∀ score ∈ values, (numeric halfPoints).accepts score = .ok true := by
  have finite : halfPoints.Finite := ⟨by decide +kernel, by decide +kernel, by decide +kernel⟩
  have unflawed : (numeric halfPoints).flaw? = none := by decide +kernel
  have moderate : halfPoints.Moderate :=
    ⟨by decide +kernel, by decide +kernel, by decide +kernel⟩
  have returned : (numeric halfPoints).scores =
      .ok ((List.range 9).map (stepScore halfPoints)) :=
    toOption_eq_some_iff.1 (by decide +kernel)
  obtain ⟨_, _, _, accepted⟩ := enumerated_accepted_iff finite unflawed returned
  exact ⟨finite, unflawed, moderate, _, returned, by decide +kernel,
    accepted moderate (by decide +kernel)⟩

def longStep : NumericScale where
  min := 0
  max := 9999999999
  increment := 10000000000

/-- The allowance counts a step that leads out of the range, and its score is not accepted. -/
theorem longStep_enumerates_beyond :
    longStep.Finite ∧ (numeric longStep).flaw? = none ∧
      (numeric longStep).scores = .ok [0, 10000000000] ∧
      longStep.max + defaultTolerance < 10000000000 ∧
      (numeric longStep).accepts 10000000000 = .ok false := by
  have finite : longStep.Finite := ⟨by decide +kernel, by decide +kernel, by decide +kernel⟩
  exact ⟨finite, by decide +kernel, toOption_eq_some_iff.1 (by decide +kernel),
    by decide +kernel, toOption_eq_some_iff.1 (by decide +kernel)⟩

end CoffeeGrading.Scale
