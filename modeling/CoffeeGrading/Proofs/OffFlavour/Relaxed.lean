import CoffeeGrading.OffFlavour.Editing
import CoffeeGrading.Proofs.Number.Order
import CoffeeGrading.Proofs.OffFlavour.Passing

/-!
Acceptance of off-flavours only grows: with fewer observations, and with rules that are no stricter.
In which order the observations were made changes nothing but the order of the complaints.
-/

namespace CoffeeGrading

namespace OffFlavourRules

variable {rules looser : OffFlavourRules} {observations fewer others : List OffFlavourObservation}

/-- The limits on numbers allow for none at all. -/
structure AllowsNone (rules : OffFlavourRules) : Prop where
  taints : CountWithin rules.maxTaints 0
  faults : CountWithin rules.maxFaults 0
  combined : CountWithin rules.maxCombined 0

def NoLower {Limit : Type} [LE Limit] (looser tighter : Option Limit) : Prop :=
  ∀ most, looser = some most → ∃ least, tighter = some least ∧ least ≤ most

/-- Every limit that is set is also set, and no higher, in the other rules. -/
structure Relaxes (looser rules : OffFlavourRules) : Prop where
  taints : NoLower looser.maxTaints rules.maxTaints
  faults : NoLower looser.maxFaults rules.maxFaults
  combined : NoLower looser.maxCombined rules.maxCombined
  taintIntensity : NoLower looser.maxTaintIntensity rules.maxTaintIntensity
  faultIntensity : NoLower looser.maxFaultIntensity rules.maxFaultIntensity

theorem CountWithin.mono {limit : Option Int} {count less : Nat} (within : CountWithin limit count)
    (ordered : less ≤ count) : CountWithin limit less := by
  intro most limited
  have enough := within most limited
  omega

theorem CountWithin.relaxed {limit tighter : Option Int} {count : Nat}
    (within : CountWithin tighter count) (relaxed : NoLower limit tighter) :
    CountWithin limit count := by
  intro most limited
  obtain ⟨least, known, ordered⟩ := relaxed most limited
  exact Int.le_trans (within least known) ordered

theorem IntensityWithin.sublist {limit : Option Binary64}
    (within : IntensityWithin limit observations) (among : fewer.Sublist observations) :
    IntensityWithin limit fewer :=
  fun most limited observation listed => within most limited observation (among.subset listed)

theorem IntensityWithin.relaxed {limit tighter : Option Binary64}
    (within : IntensityWithin tighter observations) (relaxed : NoLower limit tighter) :
    IntensityWithin limit observations := by
  intro most limited observation listed above
  obtain ⟨least, known, ordered⟩ := relaxed most limited
  exact within least known observation listed (Binary64.lt_of_le_of_lt ordered above)

theorem AllowsNone.permits_nil (allowed : rules.AllowsNone) : rules.Permits [] := by
  cases strict : rules.isZeroTolerance with
  | true => exact .inl ⟨strict, rfl⟩
  | false =>
      have nothing (limit : Option Binary64) : IntensityWithin limit [] := by
        simp [IntensityWithin]
      exact .inr ⟨strict, allowed.taints, allowed.faults, allowed.combined, nothing _, nothing _⟩

theorem Within.sublist (within : rules.Within observations) (among : fewer.Sublist observations) :
    rules.Within fewer := by
  have kept (category : OffFlavourCategory) :
      (observed category fewer).Sublist (observed category observations) := among.filter _
  exact ⟨within.taints.mono (kept .taint).length_le, within.faults.mono (kept .fault).length_le,
    within.combined.mono among.length_le, within.taintIntensity.sublist (kept .taint),
    within.faultIntensity.sublist (kept .fault)⟩

theorem Permits.sublist (permitted : rules.Permits observations)
    (among : fewer.Sublist observations) : rules.Permits fewer := by
  rcases permitted with ⟨strict, rfl⟩ | ⟨lenient, within⟩
  · exact .inl ⟨strict, List.eq_nil_of_sublist_nil among⟩
  · exact .inr ⟨lenient, within.sublist among⟩

theorem Within.relaxed (within : rules.Within observations) (relaxed : looser.Relaxes rules) :
    looser.Within observations :=
  ⟨within.taints.relaxed relaxed.taints, within.faults.relaxed relaxed.faults,
    within.combined.relaxed relaxed.combined,
    within.taintIntensity.relaxed relaxed.taintIntensity,
    within.faultIntensity.relaxed relaxed.faultIntensity⟩

theorem observed_perm (category : OffFlavourCategory) (same : observations.Perm others) :
    (observed category observations).Perm (observed category others) :=
  same.filter _

theorem intensityComplaints_perm (category : OffFlavourCategory) (limit : Option Binary64)
    (same : observations.Perm others) :
    (intensityComplaints category limit observations).Perm
      (intensityComplaints category limit others) := by
  cases limit with
  | none => exact .refl _
  | some most => exact ((observed_perm category same).filter _).map _

theorem complaints_perm (rules : OffFlavourRules) (same : observations.Perm others) :
    (rules.complaints observations).Perm (rules.complaints others) := by
  have taints := (observed_perm .taint same).length_eq
  have faults := (observed_perm .fault same).length_eq
  simp only [complaints, List.isEmpty_iff_length_eq_zero, same.length_eq, taints, faults]
  split
  · exact .refl _
  · exact ((List.Perm.refl _).append (intensityComplaints_perm .taint _ same)).append
      (intensityComplaints_perm .fault _ same)

end OffFlavourRules

namespace OffFlavourConfiguration

open OffFlavourRules

variable {configuration : OffFlavourConfiguration}
  {observations others : List OffFlavourObservation}

structure SameResult (left right : OffFlavourEvaluation) : Prop where
  taints : left.taintCount = right.taintCount
  faults : left.faultCount = right.faultCount
  complaints : left.complaints.Perm right.complaints

theorem evaluate_perm (same : observations.Perm others) {evaluation : OffFlavourEvaluation}
    (returned : configuration.evaluate observations = .ok evaluation) :
    ∃ other, configuration.evaluate others = .ok other ∧ SameResult evaluation other := by
  obtain ⟨single, answer, rfl⟩ := evaluate_eq_ok returned
  rw [singleComplaints_eq_collect] at answer
  obtain ⟨other, otherAnswer, perm⟩ := collect_perm same answer
  refine ⟨_, by rw [evaluate, singleComplaints_eq_collect, otherAnswer]; rfl, ?_⟩
  exact ⟨(observed_perm .taint same).length_eq, (observed_perm .fault same).length_eq,
    perm.append (configuration.rules.complaints_perm same)⟩

/-- Accepted observations stay accepted when some of them are left out; under zero tolerance, with
any rules that allow for none; without it, with any rules that have no limit which is new or lower.
Observations in another order have the same result, up to the order of the complaints. -/
theorem acceptance_grows (configuration : OffFlavourConfiguration)
    (observations : List OffFlavourObservation) :
    (configuration.Accepts observations →
      (∀ fewer, fewer.Sublist observations → configuration.Accepts fewer) ∧
      (configuration.rules.isZeroTolerance = true → ∀ rules : OffFlavourRules,
        rules.AllowsNone → (configuration.setRules rules).Accepts observations) ∧
      (configuration.rules.isZeroTolerance = false → ∀ rules : OffFlavourRules,
        rules.isZeroTolerance = false → rules.Relaxes configuration.rules →
          (configuration.setRules rules).Accepts observations)) ∧
    ∀ evaluation, configuration.evaluate observations = .ok evaluation →
      ∀ others, observations.Perm others →
        ∃ other, configuration.evaluate others = .ok other ∧
          (evaluation.complaints = [] ↔ other.complaints = []) ∧ SameResult evaluation other := by
  constructor
  · intro accepted
    obtain ⟨silent, permitted⟩ := (accepts_iff configuration observations).1 accepted
    refine ⟨?fewer, ?strict, ?lenient⟩
    case fewer =>
      intro fewer among
      exact (accepts_iff configuration fewer).2
        ⟨fun observation listed => silent observation (among.subset listed),
          permitted.sublist among⟩
    case strict =>
      intro strict rules allowed
      obtain ⟨_, clean⟩ : configuration.rules.isZeroTolerance = true ∧ observations = [] :=
        permitted.resolve_right fun lenient => by simp [strict] at lenient
      subst clean
      exact (accepts_iff _ []).2 ⟨silent, allowed.permits_nil⟩
    case lenient =>
      intro lenient rules alsoLenient relaxed
      obtain ⟨_, within⟩ := permitted.resolve_left fun strict => by simp [lenient] at strict
      exact (accepts_iff _ observations).2
        ⟨silent, .inr ⟨alsoLenient, within.relaxed relaxed⟩⟩
  · intro evaluation returned others same
    obtain ⟨other, alsoReturned, result⟩ := evaluate_perm same returned
    refine ⟨other, alsoReturned, ?_, result⟩
    rw [← List.length_eq_zero_iff, ← List.length_eq_zero_iff, result.complaints.length_eq]

def cleanCups : OffFlavourConfiguration where
  taints := [earthyTaint]
  rules := { zeroTolerance := some true }

theorem earthyCups_acceptance_grows :
    earthyCups.Accepts [slightlyEarthy, ratherEarthy] ∧
      earthyCups.Accepts [ratherEarthy] ∧
      (earthyCups.setRules { maxTaints := some 3 }).Accepts [slightlyEarthy, ratherEarthy] ∧
      cleanCups.Accepts [] ∧ (cleanCups.setRules { maxCombined := some 0 }).Accepts [] ∧
      ∃ other, earthyCups.evaluate [ratherEarthy, slightlyEarthy] = .ok other ∧
        other.complaints = [] := by
  obtain ⟨grows, anyOrder⟩ := acceptance_grows earthyCups [slightlyEarthy, ratherEarthy]
  obtain ⟨fewer, _, looser⟩ := grows earthyCups_accepts
  obtain ⟨evaluation, returned, silent⟩ := earthyCups_accepts
  have clean : cleanCups.Accepts [] := ⟨_, rfl, rfl⟩
  have allows : ({ maxCombined := some 0 } : OffFlavourRules).AllowsNone := by
    constructor <;> simp [CountWithin]
  have relaxes : ({ maxTaints := some 3 } : OffFlavourRules).Relaxes earthyCups.rules := by
    constructor <;> simp [NoLower, earthyCups]
  obtain ⟨other, alsoReturned, verdict, _⟩ :=
    anyOrder evaluation returned [ratherEarthy, slightlyEarthy] (.swap _ _ _)
  exact ⟨earthyCups_accepts, fewer _ (by simp), looser rfl _ rfl relaxes, clean,
    ((acceptance_grows cleanCups []).1 clean).2.1 rfl _ allows, other, alsoReturned,
    verdict.1 silent⟩

end OffFlavourConfiguration
end CoffeeGrading
