import CoffeeGrading.OffFlavour.Observation
import CoffeeGrading.Proofs.Defect.Totals
import CoffeeGrading.Proofs.Passing
import CoffeeGrading.Proofs.Template.Finite
import CoffeeGrading.Proofs.Template.Verdict

/-!
Accepted templates can be met.  Each rule that validation accepts is passed by some measurement,
and because validation tells the names apart, the measurements for single rules can be put together
into one distribution and one sheet of scores.
-/

namespace CoffeeGrading

open Binary64

/-! ### Screens -/

namespace ScreenConstraint

def ownShare (constraint : ScreenConstraint) : Binary64 :=
  match constraint.rule with
  | .minimum => constraint.minValue.getD 0
  | .maximum => constraint.maxValue.getD 0
  | .range => constraint.minValue.getD 0
  | .any => 0

theorem met_ownShare {limits : Limits} {constraint : ScreenConstraint}
    (bounded : constraint.Bounded limits) : constraint.Met constraint.ownShare := by
  obtain ⟨screenSize, rule, minValue, maxValue, displayOrder⟩ := constraint
  cases rule with
  | minimum =>
      obtain ⟨low, rfl, _⟩ := bounded
      simp [Met, ownShare, not_lt_self]
  | maximum =>
      obtain ⟨high, rfl, _⟩ := bounded
      simp [Met, ownShare, not_lt_self]
  | range =>
      obtain ⟨low, high, rfl, rfl, lowAllowed, _, ordered⟩ := bounded
      have reached := le_self (place_of_le_right lowAllowed.1)
      simp [Met, ownShare, reached, le_of_lt ordered]
  | any => trivial

theorem ownShare_finite {constraint : ScreenConstraint} (finite : constraint.Finite) :
    constraint.ownShare.isFinite = true := by
  obtain ⟨screenSize, rule, minValue, maxValue, displayOrder⟩ := constraint
  cases rule with
  | minimum => exact finite.min.getD
  | maximum => exact finite.max.getD
  | range => exact finite.min.getD
  | any => rfl

end ScreenConstraint

namespace ScreenRequirements

def ownDistribution (requirements : ScreenRequirements) : List (String × Binary64) :=
  requirements.constraints.map fun constraint => (constraint.screenSize, constraint.ownShare)

theorem evaluate_ownDistribution {limits : Limits} {requirements : ScreenRequirements}
    (sound : requirements.Sound limits) :
    requirements.evaluate requirements.ownDistribution = .ok [] := by
  apply (violationsOf_eq_nil_iff _ _).2
  intro constraint listed
  have share : shareOf requirements.ownDistribution constraint.screenSize =
      constraint.ownShare := by
    rw [shareOf, ownDistribution, lookup_of_nodup sound.names.nodup listed, Option.getD_some]
  rw [share]
  exact ScreenConstraint.met_ownShare (sound.bounded constraint listed)

end ScreenRequirements

/-! ### Scores -/

namespace CuppingAttribute

def leastScore (item : CuppingAttribute) : Binary64 :=
  match item.rule, item.scale with
  | some rule, _ => rule.minValue
  | none, .numeric range => range.min
  | none, .wording options => (options.head?.map (·.value)).getD 0

theorem leastScore_finite {item : CuppingAttribute} (finite : item.Finite) :
    item.leastScore.isFinite = true := by
  obtain ⟨name, scale, isRequired, rule⟩ := item
  cases rule with
  | some rule => exact finite.rule rule rfl
  | none =>
      cases scale with
      | numeric range => exact finite.scale.min
      | wording options =>
          cases options with
          | nil => rfl
          | cons first rest => exact finite.scale first List.mem_cons_self

theorem reaches_leastScore {tolerance : Binary64} (positive : 0 < tolerance)
    {item : CuppingAttribute} (finite : item.Finite) (scored : item.Scored tolerance) :
    item.scale.Reaches tolerance item.leastScore := by
  obtain ⟨name, scale, isRequired, rule⟩ := item
  cases rule with
  | some rule => exact scored.2 rule rfl
  | none =>
      cases scale with
      | numeric range =>
          obtain ⟨ordered, stepped⟩ := scored.1
          have steps : Scale.stepsTo range range.min = 0 := by
            rw [Scale.stepsTo, sub_self_of_finite finite.scale.min,
              zero_div_of_pos finite.scale.increment stepped]
          refine ⟨not_lt_sub positive range.min, ?_, 0, ?_, ?_⟩
          · intro above
            exact not_add_lt positive range.max (lt_trans above ordered)
          · show (Scale.stepsTo range range.min).round = .ok 0
            rw [steps, round_zero]
          · show (Scale.stepsTo range range.min - ofInt 0).abs * range.increment < tolerance
            rw [steps, ofInt_zero, sub_self_of_finite rfl, abs_zero,
              zero_mul_of_pos finite.scale.increment stepped]
            exact positive
      | wording options =>
          cases options with
          | nil => exact absurd rfl scored.1.1
          | cons first rest =>
              refine ⟨first, List.mem_cons_self, ?_⟩
              show (first.value - first.value).abs < tolerance
              rw [sub_self_of_finite (finite.scale first List.mem_cons_self), abs_zero]
              exact positive

end CuppingAttribute

namespace Cupping

theorem complaint?_eq_none {scores : List (String × Option Binary64)} {tolerance score : Binary64}
    {item : CuppingAttribute} (sound : item.scale.Sound)
    (scored : scoreOf scores item.name = some score)
    (reached : item.scale.Reaches tolerance score)
    (enough : ∀ rule, item.rule = some rule → ¬ score < rule.minValue - tolerance) :
    complaint? scores tolerance item = .ok none := by
  have accepted := (Scale.accepts_iff sound tolerance score).2 reached
  cases ruled : item.rule with
  | none => simp [complaint?, scored, accepted, ruled, bind, Except.bind]
  | some rule => simp [complaint?, scored, accepted, ruled, enough rule ruled, bind, Except.bind]

def leastScores (attributes : List CuppingAttribute) : List (String × Option Binary64) :=
  attributes.map fun item => (item.name, some item.leastScore)

theorem evaluate_leastScores {tolerance : Binary64} (positive : 0 < tolerance)
    {attributes : List CuppingAttribute} (finite : ∀ item ∈ attributes, item.Finite)
    (sound : Sound tolerance attributes) :
    evaluate attributes (leastScores attributes) tolerance = .ok [] := by
  apply (evaluate_eq_nil_iff _ _ _).2
  intro item listed
  have score : scoreOf (leastScores attributes) item.name = some item.leastScore := by
    rw [scoreOf, leastScores, lookup_of_nodup sound.names.nodup listed, Option.join_some]
  have scored := sound.scored item listed
  refine complaint?_eq_none scored.1 score
    (CuppingAttribute.reaches_leastScore positive (finite item listed) scored) ?_
  intro rule ruled
  have least : item.leastScore = rule.minValue := by rw [CuppingAttribute.leastScore, ruled]
  rw [least]
  exact not_lt_sub positive rule.minValue

end Cupping

/-! ### Aspects, defects, off-flavours -/

/-- A value is accepted, and it is the value of a wording if there are wordings. -/
def AspectConfiguration.Grades (configuration : AspectConfiguration) (value : Binary64) : Prop :=
  configuration.accepts value = true ∧
    (configuration.wordings ≠ [] → ∃ wording ∈ configuration.wordings, wording.value = value)

theorem AspectConfiguration.exists_grade {limits : Limits} {configuration : AspectConfiguration}
    (finite : configuration.Finite)
    (usable : configuration.isEmpty = false → configuration.Sound limits) :
    ∃ value : Binary64, value.isFinite = true ∧ configuration.Grades value := by
  obtain ⟨wordings, threshold, notes⟩ := configuration
  cases threshold with
  | some threshold =>
      obtain ⟨wording, listed, same⟩ := (usable (by simp [isEmpty])).threshold threshold rfl
      refine ⟨wording.value, finite.values wording listed, ?_, fun _ => ⟨wording, listed, rfl⟩⟩
      simpa [accepts] using le_of_beq same
  | none =>
      cases wordings with
      | nil => exact ⟨0, rfl, rfl, fun worded => absurd rfl worded⟩
      | cons first rest =>
          have listed : first ∈ first :: rest := List.mem_cons_self
          exact ⟨first.value, finite.values first listed, rfl, fun _ => ⟨first, listed, rfl⟩⟩

theorem categoryTotal_nil {defects : List DefectDefinition}
    (weighted : ∀ definition ∈ defects,
      definition.weight.isFinite = true ∧ 0 < definition.weight)
    (category : DefectCategory) : categoryTotal defects [] category = 0 := by
  rw [categoryTotal, sum_eq_zero, roundPlaces_zero]
  intro term member
  obtain ⟨definition, ofKind, rfl⟩ := List.mem_map.1 member
  obtain ⟨finite, positive⟩ := weighted definition (List.mem_filter.1 ofKind).1
  rw [defectEquivalents, countOf, List.lookup_nil, Option.getD_none,
    zero_mul_of_pos finite positive, roundPlaces_zero]

namespace DefectConfiguration

theorem bounded_of_usable {limits : Limits} {configuration : DefectConfiguration}
    (usable : configuration.isEmpty = false → configuration.Sound limits) :
    (∀ definition ∈ configuration.defects, 0 < definition.weight) ∧
      Nonnegative configuration.thresholds := by
  cases empty : configuration.isEmpty with
  | false =>
      have sound := usable empty
      exact ⟨fun definition listed => (sound.weights definition listed).1, sound.thresholds⟩
  | true =>
      simp only [isEmpty, DefectThresholds.isEmpty, Bool.and_eq_true, List.isEmpty_iff,
        Option.isNone_iff_eq_none] at empty
      obtain ⟨unlisted, ⟨primary, secondary⟩, total⟩ := empty
      refine ⟨by simp [unlisted], ?_, ?_, ?_⟩
      · simp [primary]
      · simp [secondary]
      · simp [total]

theorem evaluate_nil {limits : Limits} {configuration : DefectConfiguration}
    (finite : configuration.Finite)
    (usable : configuration.isEmpty = false → configuration.Sound limits) :
    ∃ evaluation, configuration.evaluate [] = .ok evaluation ∧ evaluation.complaints = [] := by
  obtain ⟨positive, allowed⟩ := bounded_of_usable usable
  have none_counted := categoryTotal_nil fun definition listed =>
    ⟨finite.weights definition listed, positive definition listed⟩
  have nothing (group : DefectGroup) : groupTotal configuration.defects [] group = 0 := by
    cases group with
    | category category => exact none_counted category
    | all =>
        rw [groupTotal, totalDefects, none_counted, none_counted, zero_add_zero, roundPlaces_zero]
  obtain ⟨evaluation, done⟩ := exists_evaluation none fun group => by
    rw [nothing group]
    rfl
  refine ⟨evaluation, done, (evaluated_of_returned done).silent_iff.2 ?_⟩
  intro group most limited
  rw [nothing group]
  exact not_lt_of_le (allowed.limitOn limited)

end DefectConfiguration

namespace OffFlavourConfiguration

theorem countComplaint?_zero {limit : Option Int} (allowed : ∀ most, limit = some most → 0 ≤ most)
    (label : String) : OffFlavourRules.countComplaint? label 0 limit = none := by
  cases limit with
  | none => rfl
  | some most =>
      have nonnegative := allowed most rfl
      simp [OffFlavourRules.countComplaint?, Int.not_lt.2 nonnegative]

theorem rules_of_usable {configuration : OffFlavourConfiguration}
    (usable : configuration.isEmpty = false → configuration.Sound) :
    configuration.rules.Sound := by
  cases empty : configuration.isEmpty with
  | false => exact (usable empty).rules
  | true =>
      simp only [isEmpty, OffFlavourRules.isActive, OffFlavourRules.hasLimits, Bool.and_eq_true,
        Bool.not_eq_true', Bool.or_eq_false_iff, Option.isSome_eq_false_iff,
        Option.isNone_iff_eq_none] at empty
      obtain ⟨_, tolerant, ⟨⟨⟨taints, faults⟩, combined⟩, taintIntensity⟩, faultIntensity⟩ := empty
      refine ⟨?_, ?_, ?_, ?_, ?_, ?_⟩
      · simp [tolerant]
      · simp [taints]
      · simp [faults]
      · simp [combined]
      · simp [taintIntensity]
      · simp [faultIntensity]

theorem evaluate_nil {configuration : OffFlavourConfiguration}
    (usable : configuration.isEmpty = false → configuration.Sound) :
    ∃ evaluation, configuration.evaluate [] = .ok evaluation ∧ evaluation.complaints = [] := by
  have sound := rules_of_usable usable
  have silent : configuration.rules.complaints [] = [] := by
    by_cases strict : configuration.rules.isZeroTolerance
    · simp [OffFlavourRules.complaints, strict]
    · have taint (limit : Option Binary64) (category : OffFlavourCategory) :
          OffFlavourRules.intensityComplaints category limit [] = [] := by
        cases limit <;> rfl
      simp [OffFlavourRules.complaints, strict, OffFlavourRules.observed, taint,
        countComplaint?_zero sound.taints, countComplaint?_zero sound.faults,
        countComplaint?_zero sound.combined]
  refine ⟨_, rfl, ?_⟩
  exact silent

end OffFlavourConfiguration

/-! ### Templates -/

/-- What is measured of a lot without defects and off-flavours. -/
structure Sample where
  distribution : List (String × Binary64)
  scores : List (String × Option Binary64)
  greenAspect : Binary64
  roastAspect : Binary64

/-- Each screen is measured once and each attribute scored once, with finite numbers. -/
structure Sample.Measured (sample : Sample) : Prop where
  screens : (sample.distribution.map (·.1)).Nodup
  shares : ∀ entry ∈ sample.distribution, entry.2.isFinite = true
  attributes : (sample.scores.map (·.1)).Nodup
  scores : ∀ entry ∈ sample.scores, FiniteIfSet entry.2
  greenAspect : sample.greenAspect.isFinite = true
  roastAspect : sample.roastAspect.isFinite = true

/-- No evaluation of the sample has a complaint. -/
structure QualityTemplate.MetBy (limits : Limits) (template : QualityTemplate)
    (sample : Sample) : Prop where
  screens : template.parameters.screenSizeRequirements.evaluate sample.distribution = .ok []
  cupping : Cupping.evaluate template.parameters.cuppingAttributes sample.scores
    limits.scoreTolerance = .ok []
  greenAspect : ∀ configuration,
    template.parameters.greenAspectConfiguration = some configuration →
      configuration.Grades sample.greenAspect
  roastAspect : ∀ configuration,
    template.parameters.roastAspectConfiguration = some configuration →
      configuration.Grades sample.roastAspect
  defects : ∀ configuration, template.parameters.defectConfiguration = some configuration →
    ∃ evaluation, configuration.evaluate [] = .ok evaluation ∧ evaluation.complaints = []
  offFlavours : ∀ configuration,
    template.parameters.taintFaultConfiguration = some configuration →
      ∃ evaluation, configuration.evaluate [] = .ok evaluation ∧ evaluation.complaints = []

theorem AspectConfiguration.exists_grade_if_present {limits : Limits}
    (aspect : Option AspectConfiguration)
    (finite : ∀ configuration, aspect = some configuration → configuration.Finite)
    (usable : UsableIfFilled isEmpty (Sound limits) aspect) :
    ∃ value : Binary64, value.isFinite = true ∧
      ∀ configuration, aspect = some configuration → configuration.Grades value := by
  cases aspect with
  | none => exact ⟨0, rfl, by simp⟩
  | some configuration =>
      obtain ⟨value, valueFinite, graded⟩ :=
        exists_grade (finite configuration rfl) (usable configuration rfl)
      refine ⟨value, valueFinite, ?_⟩
      intro other same
      obtain rfl := Option.some.inj same
      exact graded

/-- Whatever validation accepts can be met by some sample. -/
theorem QualityTemplate.attainable_of_valid (limits : Limits) (template : QualityTemplate)
    (report : TemplateReport) (positive : 0 < limits.scoreTolerance) (finite : template.Finite)
    (returned : template.validate limits = .ok report) (valid : report.isValid = true) :
    ∃ sample : Sample, sample.Measured ∧ template.MetBy limits sample := by
  have holds := (isValid_iff_holds returned).1 valid
  obtain ⟨_, screensSound⟩ := holds .screenSizes
  obtain ⟨_, cuppingSound⟩ := holds .cupping
  obtain ⟨green, greenFinite, greenGraded⟩ :=
    AspectConfiguration.exists_grade_if_present _ finite.greenAspect (holds .greenAspect)
  obtain ⟨roast, roastFinite, roastGraded⟩ :=
    AspectConfiguration.exists_grade_if_present _ finite.roastAspect (holds .roastAspect)
  refine ⟨⟨template.parameters.screenSizeRequirements.ownDistribution,
    Cupping.leastScores template.parameters.cuppingAttributes, green, roast⟩, ?_, ?_⟩
  · refine ⟨?_, ?_, ?_, ?_, greenFinite, roastFinite⟩
    · rw [ScreenRequirements.ownDistribution, List.map_map]
      exact screensSound.names.nodup
    · intro entry member
      obtain ⟨constraint, listed, rfl⟩ := List.mem_map.1 member
      exact ScreenConstraint.ownShare_finite (finite.screens constraint listed)
    · rw [Cupping.leastScores, List.map_map]
      exact cuppingSound.names.nodup
    · intro entry member score given
      obtain ⟨item, listed, rfl⟩ := List.mem_map.1 member
      obtain rfl := Option.some.inj given
      exact CuppingAttribute.leastScore_finite (finite.cupping item listed)
  · refine ⟨ScreenRequirements.evaluate_ownDistribution screensSound,
      Cupping.evaluate_leastScores positive finite.cupping cuppingSound, greenGraded, roastGraded,
      ?_, ?_⟩
    · intro configuration present
      exact DefectConfiguration.evaluate_nil (finite.defects configuration present)
        (holds .defects configuration present)
    · intro configuration present
      exact OffFlavourConfiguration.evaluate_nil (holds .offFlavours configuration present)

def washedLot : QualityTemplate where
  templateId := ⟨1⟩
  name := { en := "Washed" }
  origin := "Brazil"
  parameters := {
    screenSizeRequirements := { constraints := [
      { screenSize := "16", rule := .range, minValue := some 20, maxValue := some 80 }] }
    cuppingAttributes := [
      { name := "Body", scale := .numeric ⟨0, 10, 0.5⟩, rule := some { minValue := 6.5 } }] }
  createdBy := ⟨2⟩
  createdAt := QualityTemplate.newYear
  updatedAt := QualityTemplate.newYear

theorem washedLot_finite : washedLot.Finite := by
  have absent {Part : Type} {Fits : Part → Prop} : ∀ part, none = some part → Fits part := by simp
  refine ⟨finiteIfSet_none, ?_, absent, absent, finiteIfSet_none, finiteIfSet_none, absent,
    finiteIfSet_none, ?_, absent, absent⟩
  · intro constraint listed
    obtain rfl := List.mem_singleton.1 listed
    exact ⟨finiteIfSet_some (by decide +kernel), finiteIfSet_some (by decide +kernel)⟩
  · intro item listed
    obtain rfl := List.mem_singleton.1 listed
    refine ⟨⟨by decide +kernel, by decide +kernel, by decide +kernel⟩, ?_⟩
    intro rule ruled
    obtain rfl := Option.some.inj ruled
    decide +kernel

theorem washedLot_accepted : washedLot.validate {} = .ok ⟨[], []⟩ := by
  have accepted : (washedLot.validate {}).toOption = some ⟨[], []⟩ := by decide +kernel
  cases answer : washedLot.validate {} with
  | error fault => simp [answer, Except.toOption] at accepted
  | ok report =>
      rw [answer] at accepted
      exact congrArg Except.ok (Option.some.inj accepted)

theorem attainable_of_washedLot :
    0 < ({} : Limits).scoreTolerance ∧ washedLot.Finite ∧
      washedLot.validate {} = .ok ⟨[], []⟩ ∧ TemplateReport.isValid ⟨[], []⟩ = true ∧
      ∃ sample : Sample, sample.Measured ∧ washedLot.MetBy {} sample :=
  ⟨by decide +kernel, washedLot_finite, washedLot_accepted, rfl,
    QualityTemplate.attainable_of_valid {} washedLot ⟨[], []⟩ (by decide +kernel)
      washedLot_finite washedLot_accepted rfl⟩

end CoffeeGrading
