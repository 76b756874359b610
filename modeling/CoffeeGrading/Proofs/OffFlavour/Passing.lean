import CoffeeGrading.OffFlavour.Observation
import CoffeeGrading.Proofs.Collected

/-!
When observed off-flavours pass: each of them is in order on its own, and the rules permit all of
them together.
-/

namespace CoffeeGrading

namespace OffFlavourRules

variable {rules : OffFlavourRules} {observations : List OffFlavourObservation}

def CountWithin (limit : Option Int) (count : Nat) : Prop :=
  ∀ most, limit = some most → (count : Int) ≤ most

def IntensityWithin (limit : Option Binary64) (observations : List OffFlavourObservation) : Prop :=
  ∀ most, limit = some most → ∀ observation ∈ observations, ¬ most < observation.intensity

/-- Every limit that is set holds: on the number of taints, of faults and of both, and on the
intensity of each taint and each fault. -/
structure Within (rules : OffFlavourRules) (observations : List OffFlavourObservation) : Prop where
  taints : CountWithin rules.maxTaints (observed .taint observations).length
  faults : CountWithin rules.maxFaults (observed .fault observations).length
  combined : CountWithin rules.maxCombined observations.length
  taintIntensity : IntensityWithin rules.maxTaintIntensity (observed .taint observations)
  faultIntensity : IntensityWithin rules.maxFaultIntensity (observed .fault observations)

/-- With zero tolerance there is no observation at all, without it the limits hold. -/
def Permits (rules : OffFlavourRules) (observations : List OffFlavourObservation) : Prop :=
  (rules.isZeroTolerance = true ∧ observations = []) ∨
    (rules.isZeroTolerance = false ∧ rules.Within observations)

theorem countComplaint?_eq_none_iff (label : String) (count : Nat) (limit : Option Int) :
    countComplaint? label count limit = none ↔ CountWithin limit count := by
  cases limit with
  | none => simp [countComplaint?, CountWithin]
  | some most => simp [countComplaint?, CountWithin]

theorem intensityComplaints_eq_nil_iff (category : OffFlavourCategory) (limit : Option Binary64)
    (observations : List OffFlavourObservation) :
    intensityComplaints category limit observations = [] ↔
      IntensityWithin limit (observed category observations) := by
  cases limit with
  | none => simp [intensityComplaints, IntensityWithin]
  | some most => simp [intensityComplaints, IntensityWithin, List.filter_eq_nil_iff]

theorem complaints_eq_nil_iff (rules : OffFlavourRules)
    (observations : List OffFlavourObservation) :
    rules.complaints observations = [] ↔ rules.Permits observations := by
  cases strict : rules.isZeroTolerance with
  | true =>
      by_cases clean : observations = []
      · simp [complaints, Permits, strict, clean]
      · simp [complaints, Permits, strict, clean]
  | false =>
      simp only [complaints, Permits, strict, Bool.false_eq_true, if_false, false_and, false_or,
        true_and, List.append_eq_nil_iff, Option.toList_eq_nil_iff, countComplaint?_eq_none_iff,
        intensityComplaints_eq_nil_iff]
      constructor
      · rintro ⟨⟨⟨⟨taints, faults⟩, combined⟩, taintIntensity⟩, faultIntensity⟩
        exact ⟨taints, faults, combined, taintIntensity, faultIntensity⟩
      · rintro ⟨taints, faults, combined, taintIntensity, faultIntensity⟩
        exact ⟨⟨⟨⟨taints, faults⟩, combined⟩, taintIntensity⟩, faultIntensity⟩

end OffFlavourRules

namespace OffFlavourConfiguration

variable {configuration : OffFlavourConfiguration} {observations : List OffFlavourObservation}
  {evaluation : OffFlavourEvaluation}

theorem singleComplaints_eq_collect (configuration : OffFlavourConfiguration)
    (observations : List OffFlavourObservation) :
    configuration.singleComplaints observations =
      collect configuration.complaint? observations := by
  induction observations with
  | nil => rfl
  | cons observation rest ih => rw [singleComplaints, collect, ih]

theorem singleComplaints_eq_nil_iff (configuration : OffFlavourConfiguration)
    (observations : List OffFlavourObservation) :
    configuration.singleComplaints observations = .ok [] ↔
      ∀ observation ∈ observations, configuration.complaint? observation = .ok none := by
  rw [singleComplaints_eq_collect, collect_eq_nil_iff]

theorem evaluate_eq_ok (returned : configuration.evaluate observations = .ok evaluation) :
    ∃ single, configuration.singleComplaints observations = .ok single ∧
      evaluation = {
        taintCount := (OffFlavourRules.observed .taint observations).length
        faultCount := (OffFlavourRules.observed .fault observations).length
        complaints := single ++ configuration.rules.complaints observations } := by
  obtain ⟨single, answer, done⟩ := exists_of_bind_eq_ok returned
  exact ⟨single, answer, (Except.ok.inj done).symm⟩

def Accepts (configuration : OffFlavourConfiguration)
    (observations : List OffFlavourObservation) : Prop :=
  ∃ evaluation, configuration.evaluate observations = .ok evaluation ∧ evaluation.complaints = []

theorem accepts_iff (configuration : OffFlavourConfiguration)
    (observations : List OffFlavourObservation) :
    configuration.Accepts observations ↔
      (∀ observation ∈ observations, configuration.complaint? observation = .ok none) ∧
        configuration.rules.Permits observations := by
  rw [← singleComplaints_eq_nil_iff, ← OffFlavourRules.complaints_eq_nil_iff]
  constructor
  · rintro ⟨evaluation, returned, silent⟩
    obtain ⟨single, answer, rfl⟩ := evaluate_eq_ok returned
    obtain ⟨rfl, permitted⟩ := List.append_eq_nil_iff.1 silent
    exact ⟨answer, permitted⟩
  · rintro ⟨answer, permitted⟩
    refine ⟨_, by rw [evaluate, answer]; rfl, ?_⟩
    exact permitted

theorem accepts_of_returned (returned : configuration.evaluate observations = .ok evaluation) :
    configuration.Accepts observations ↔ evaluation.complaints = [] := by
  constructor
  · rintro ⟨other, alsoReturned, silent⟩
    obtain rfl := Except.ok.inj (returned.symm.trans alsoReturned)
    exact silent
  · intro silent
    exact ⟨evaluation, returned, silent⟩

def earthyTaint : OffFlavourDefinition where
  id := "taint_earthy"
  name := "Earthy"
  category := .taint
  scale := .numeric { min := 1, max := 5, increment := 0.5 }

def earthyCups : OffFlavourConfiguration where
  taints := [earthyTaint]
  rules := { maxTaints := some 2, maxTaintIntensity := some 3 }

def slightlyEarthy : OffFlavourObservation where
  name := " EARTHY"
  category := .taint
  intensity := 1.5

def ratherEarthy : OffFlavourObservation where
  name := "earthy"
  category := .taint
  intensity := 3

theorem earthyCups_accepts : earthyCups.Accepts [slightlyEarthy, ratherEarthy] := by
  have single : earthyCups.singleComplaints [slightlyEarthy, ratherEarthy] = .ok [] :=
    toOption_eq_some_iff.1 (by decide +kernel)
  have rules : earthyCups.rules.complaints [slightlyEarthy, ratherEarthy] = [] := by
    decide +kernel
  exact (accepts_iff _ _).2 ⟨(singleComplaints_eq_nil_iff _ _).1 single,
    (OffFlavourRules.complaints_eq_nil_iff _ _).1 rules⟩

end OffFlavourConfiguration
end CoffeeGrading
