import CoffeeGrading.Proofs.Collected
import CoffeeGrading.Proofs.Document.Finite
import CoffeeGrading.Proofs.Template.Verdict
import CoffeeGrading.Template.Payload

/-!
When a template can be judged at all.  The search for flaws stops without an answer where the steps
to a lowest score are too many to be a number, and the warnings where the shares of regions add up
to more than a number holds.  Nothing else about a payload keeps it from being judged.
-/

namespace CoffeeGrading

theorem Binary64.round_eq_error_iff (value : Binary64) :
    (∃ reason, value.round = .error reason) ↔ value.isFinite = false := by
  cases value <;> simp [round, isFinite]

/-- A number within a range, so many steps up that their number is not finite. -/
def Scale.Endless (tolerance score : Binary64) : Scale → Prop
  | numeric range =>
    0 < range.increment ∧ ¬ score < range.min - tolerance ∧ ¬ range.max + tolerance < score ∧
      (stepsTo range score).isFinite = false
  | wording _ => False

theorem Scale.accepts_eq_error_iff (scale : Scale) (tolerance score : Binary64) :
    (∃ reason, scale.accepts score tolerance = .error reason) ↔ scale.Endless tolerance score := by
  cases scale with
  | wording options => simp [accepts, Endless]
  | numeric range =>
      by_cases stepped : 0 < range.increment
      · by_cases outside : score < range.min - tolerance ∨ range.max + tolerance < score
        · simp only [accepts, Endless, stepped, outside, not_true_eq_false, if_false, if_true,
            reduceCtorEq, exists_false, false_iff]
          rintro ⟨_, above, below, _⟩
          exact outside.elim above below
        · obtain ⟨above, below⟩ := not_or.1 outside
          rw [Endless, ← Binary64.round_eq_error_iff, stepsTo]
          cases counted : ((score - range.min) / range.increment).round with
          | error reason => simp [accepts, stepped, above, below, counted, bind, Except.bind]
          | ok steps => simp [accepts, stepped, above, below, counted, bind, Except.bind]
      · simp [accepts, Endless, stepped]

namespace CuppingAttribute

/-- An attribute whose name and scale are in order, but whose lowest score cannot be placed. -/
def Endless (tolerance : Binary64) (item : CuppingAttribute) : Prop :=
  Text.nameKey item.name ≠ "" ∧ item.scale.Sound ∧
    ∃ rule, item.rule = some rule ∧ item.scale.Endless tolerance rule.minValue

theorem flaw?_eq_error_iff (item : CuppingAttribute) (tolerance : Binary64) :
    (∃ reason, item.flaw? tolerance = .error reason) ↔ item.Endless tolerance := by
  rw [Endless, Ne, Text.nameKey_eq_empty_iff, ← Scale.flaw?_eq_none_iff]
  by_cases blank : Text.blank item.name
  · simp [flaw?, blank]
  · cases unsound : item.scale.flaw? with
    | some flaw => simp [flaw?, blank, unsound]
    | none =>
        cases ruled : item.rule with
        | none => simp [flaw?, blank, unsound, ruled]
        | some rule =>
            have placed := item.scale.accepts_eq_error_iff tolerance rule.minValue
            cases answer : item.scale.accepts rule.minValue tolerance with
            | error reason =>
                have endless := placed.1 ⟨reason, answer⟩
                simp [flaw?, ruleFlaw?, blank, unsound, ruled, answer, endless, bind, Except.bind]
            | ok accepted =>
                have reached : ¬ item.scale.Endless tolerance rule.minValue := by
                  rw [← placed, answer]
                  simp
                simp [flaw?, ruleFlaw?, blank, unsound, ruled, answer, reached, bind, Except.bind]

end CuppingAttribute

namespace Cupping

/-- The walk over a form meets an attribute that cannot be judged, behind others that are in
order. -/
inductive Stalls (tolerance : Binary64) : List CuppingAttribute → Prop
  | here {item : CuppingAttribute} (rest : List CuppingAttribute) :
      item.Endless tolerance → Stalls tolerance (item :: rest)
  | later {item : CuppingAttribute} {rest : List CuppingAttribute} :
      Text.nameKey item.name ≠ "" → item.Scored tolerance → Stalls tolerance rest →
        Stalls tolerance (item :: rest)

theorem firstFlaw?_eq_error_iff (tolerance : Binary64) (attributes : List CuppingAttribute) :
    (∃ reason, firstFlaw? tolerance attributes = .error reason) ↔
      Stalls tolerance attributes := by
  induction attributes with
  | nil =>
      simp only [firstFlaw?, reduceCtorEq, exists_false, false_iff]
      intro stalls
      cases stalls
  | cons item rest ih =>
      have stuck := item.flaw?_eq_error_iff tolerance
      have clear := item.flaw?_eq_none_iff tolerance
      cases answer : item.flaw? tolerance with
      | error reason =>
          have endless := stuck.1 ⟨reason, answer⟩
          simp [firstFlaw?, answer, bind, Except.bind, Stalls.here rest endless]
      | ok flaw =>
          have placed : ¬ item.Endless tolerance := by
            rw [← stuck, answer]
            simp
          cases flaw with
          | some flaw =>
              simp only [firstFlaw?, answer, bind, Except.bind, reduceCtorEq, exists_false,
                false_iff]
              intro stalls
              cases stalls with
              | here _ endless => exact placed endless
              | later present scored _ => simp [clear.2 ⟨present, scored⟩] at answer
          | none =>
              simp only [firstFlaw?, answer, bind, Except.bind, ih]
              obtain ⟨present, scored⟩ := clear.1 answer
              constructor
              · intro stalls
                exact .later present scored stalls
              · intro stalls
                cases stalls with
                | here _ endless => exact absurd endless placed
                | later _ _ stalls => exact stalls

theorem flaw?_eq_error_iff (tolerance : Binary64) (attributes : List CuppingAttribute) :
    (∃ reason, flaw? attributes tolerance = .error reason) ↔
      ((attributes.map (·.name)).map Text.nameKey).Nodup ∧ Stalls tolerance attributes := by
  rw [← distinct_keys_iff, ← firstFlaw?_eq_error_iff]
  by_cases apart : distinct (attributes.map CuppingAttribute.key) = true
  · simp [flaw?, apart]
  · simp [flaw?, apart]

end Cupping

namespace MicroRegionRequirement

/-- The lowest and the highest shares, as far as they are set, add up to finite numbers. -/
def Summable (requirement : MicroRegionRequirement) : Prop :=
  ∀ shares, requirement.percentagePerRegion = some shares →
    (Binary64.sum (shares.entries.filterMap fun entry => entry.2.min)).isFinite = true ∧
      (Binary64.sum (shares.entries.filterMap fun entry => entry.2.max)).isFinite = true

theorem totals_eq_ok_iff (requirement : MicroRegionRequirement) :
    (∃ totals, requirement.totals = .ok totals) ↔ requirement.Summable := by
  cases given : requirement.percentagePerRegion with
  | none => simp [totals, Summable, given]
  | some shares => simp [totals, Summable, given, requireFinite_eq_ok_iff]

end MicroRegionRequirement

namespace TemplateParameters

theorem sharesWarnings_eq_collect (limits : Limits)
    (requirements : List MicroRegionRequirement) :
    sharesWarnings limits requirements = collect (sharesWarning? limits) requirements := by
  induction requirements with
  | nil => rfl
  | cons requirement rest ih => rw [sharesWarnings, collect, ih]

theorem sharesWarning?_eq_ok_iff (limits : Limits) (requirement : MicroRegionRequirement) :
    (∃ note, sharesWarning? limits requirement = .ok note) ↔ requirement.Summable := by
  rw [← MicroRegionRequirement.totals_eq_ok_iff]
  cases added : requirement.totals with
  | error faults => simp [sharesWarning?, added, bind, Except.bind]
  | ok totals => simp [sharesWarning?, added, bind, Except.bind]

theorem sharesWarnings_eq_ok_iff (limits : Limits) (requirements : List MicroRegionRequirement) :
    (∃ notes, sharesWarnings limits requirements = .ok notes) ↔
      ∀ requirement ∈ requirements, requirement.Summable := by
  simp only [sharesWarnings_eq_collect, exists_collect_iff, sharesWarning?_eq_ok_iff]

theorem warnings_eq_ok_iff (limits : Limits) (parameters : TemplateParameters) :
    (∃ notes, parameters.warnings limits = .ok notes) ↔
      ∀ configuration, parameters.microRegionConfiguration = some configuration →
        ∀ requirement ∈ configuration.requirements, requirement.Summable := by
  cases given : parameters.microRegionConfiguration with
  | none => simp [warnings, given, bind, Except.bind]
  | some configuration =>
      simp only [Option.some.injEq, forall_eq', ← sharesWarnings_eq_ok_iff limits]
      cases answer : sharesWarnings limits configuration.requirements with
      | error faults => simp [warnings, given, answer, bind, Except.bind]
      | ok notes => simp [warnings, given, answer, bind, Except.bind]

theorem cuppingFlaw?_eq_error_iff (limits : Limits) (parameters : TemplateParameters) :
    (∃ reason, parameters.cuppingFlaw? limits = .error reason) ↔
      ((parameters.cuppingAttributes.map (·.name)).map Text.nameKey).Nodup ∧
        Cupping.Stalls limits.scoreTolerance parameters.cuppingAttributes := by
  rw [← Cupping.flaw?_eq_error_iff]
  by_cases unlisted : parameters.cuppingAttributes = []
  · simp [cuppingFlaw?, unlisted, Cupping.flaw?, Cupping.firstFlaw?, distinct]
  · cases answer : Cupping.flaw? parameters.cuppingAttributes limits.scoreTolerance with
    | error reason => simp [cuppingFlaw?, unlisted, answer, bind, Except.bind]
    | ok flaw => simp [cuppingFlaw?, unlisted, answer, bind, Except.bind]

end TemplateParameters

/-- The steps to the lowest scores that are looked at can be counted, and the shares of the regions
of every origin can be added up. -/
structure QualityTemplate.Judgeable (limits : Limits) (template : QualityTemplate) : Prop where
  countable : ((template.parameters.cuppingAttributes.map (·.name)).map Text.nameKey).Nodup →
    ¬ Cupping.Stalls limits.scoreTolerance template.parameters.cuppingAttributes
  summable : ∀ configuration, template.parameters.microRegionConfiguration = some configuration →
    ∀ requirement ∈ configuration.requirements, requirement.Summable

theorem QualityTemplate.validate_eq_ok_iff (limits : Limits) (template : QualityTemplate) :
    (∃ report, template.validate limits = .ok report) ↔ template.Judgeable limits := by
  have stalled := template.parameters.cuppingFlaw?_eq_error_iff limits
  have warned := template.parameters.warnings_eq_ok_iff limits
  cases searched : template.parameters.cuppingFlaw? limits with
  | error reason =>
      have stalls := stalled.1 ⟨reason, searched⟩
      simp only [validate, flaws, TemplateParameters.flaws, searched, bind, Except.bind,
        Except.mapError, reduceCtorEq, exists_false, false_iff]
      intro judgeable
      exact judgeable.countable stalls.1 stalls.2
  | ok cupping =>
      have countable : ((template.parameters.cuppingAttributes.map (·.name)).map
          Text.nameKey).Nodup →
            ¬ Cupping.Stalls limits.scoreTolerance template.parameters.cuppingAttributes := by
        intro apart stalls
        obtain ⟨reason, failed⟩ := stalled.2 ⟨apart, stalls⟩
        simp [searched] at failed
      cases answer : template.parameters.warnings limits with
      | error faults =>
          simp only [validate, flaws, TemplateParameters.flaws, searched, answer, bind,
            Except.bind, Except.mapError, reduceCtorEq, exists_false, false_iff]
          intro judgeable
          obtain ⟨notes, returned⟩ := warned.2 judgeable.summable
          simp [answer] at returned
      | ok notes =>
          simp only [validate, flaws, TemplateParameters.flaws, searched, answer, bind,
            Except.bind, Except.mapError, Except.ok.injEq, exists_eq', true_iff]
          exact ⟨countable, warned.1 ⟨notes, answer⟩⟩

namespace Payload

def reading (entries : List (String × Document)) (supply : Supply Timestamp) :
    Checked QualityTemplate :=
  (QualityTemplate.fields.readEntries (settle entries supply).2 supply).1

def flagMessages (entries : List (String × Document)) (supply : Supply Timestamp) : List String :=
  ((settle entries supply).1.map FlagFault.messages).getD []

theorem validate_of_faulty {limits : Limits} {entries : List (String × Document)}
    {supply : Supply Timestamp} {faults : List Fault}
    (faulty : reading entries supply = .faulty faults) :
    validate limits entries supply =
      .ok ⟨flagMessages entries supply ++ faults.map Fault.message, []⟩ := by
  have judged : judge limits (settle entries supply).2 supply =
      .ok ⟨faults.map Fault.message, []⟩ := by
    -- Unfolding by equations would open the reading of every record.
    delta judge
    rw [reading] at faulty
    rw [faulty]
  simp only [validate, judged, bind, Except.bind, flagMessages]

theorem validate_of_good {limits : Limits} {entries : List (String × Document)}
    {supply : Supply Timestamp} {template : QualityTemplate}
    (good : reading entries supply = .good template) :
    validate limits entries supply =
      (template.validate limits).map fun report =>
        { report with errors := flagMessages entries supply ++ report.errors } := by
  have judged : judge limits (settle entries supply).2 supply = template.validate limits := by
    delta judge
    rw [reading] at good
    rw [good]
  simp only [validate, judged, bind, Except.bind, flagMessages]
  cases template.validate limits <;> rfl

/-- A payload is judged exactly when the template it is read into, if it is read into one, can be
judged.  The errors are then those of the flags, followed by those of the document or, where it is
read into a template, by one for each part that does not hold. -/
theorem returns_iff_judgeable (limits : Limits) (entries : List (String × Document))
    (supply : Supply Timestamp) :
    ((∃ report, validate limits entries supply = .ok report) ↔
      ∀ template, reading entries supply = .good template → template.Judgeable limits) ∧
    ∀ report, validate limits entries supply = .ok report →
      ∃ errors, report.errors = flagMessages entries supply ++ errors ∧
        (∀ faults, reading entries supply = .faulty faults → errors = faults.map Fault.message) ∧
        ∀ template, reading entries supply = .good template →
          ∃ flaws : List TemplateFlaw, errors = flaws.map TemplateFlaw.message ∧
            flaws.map TemplateFlaw.part =
              TemplatePart.all.filter fun part => ¬ template.Holds limits part := by
  cases read : reading entries supply with
  | faulty faults =>
      rw [validate_of_faulty read]
      constructor
      · simp
      · intro report returned
        obtain rfl := Except.ok.inj returned
        refine ⟨_, rfl, ?_, by simp⟩
        intro others same
        rw [Checked.faulty.inj same]
  | good template =>
      rw [validate_of_good read]
      cases answer : template.validate limits with
      | error fault =>
          have unjudged : ¬ template.Judgeable limits := by
            rw [← QualityTemplate.validate_eq_ok_iff, answer]
            simp
          simpa [Except.map] using unjudged
      | ok report =>
          have judged := (template.validate_eq_ok_iff limits).1 ⟨report, answer⟩
          constructor
          · simpa [Except.map] using judged
          · intro result returned
            obtain rfl := Except.ok.inj returned
            refine ⟨report.errors, rfl, by simp, ?_⟩
            intro other same
            obtain rfl := Checked.good.inj same
            exact QualityTemplate.errors_by_part answer

def overflowingShares : List (String × Document) := [
  ("name", .object [("en", .text "Lot")]),
  ("origin", .text "Brazil"),
  ("created_by", .text "00000000-0000-0000-0000-000000000001"),
  ("parameters", .object [
    ("micro_region_configuration", .object [
      ("requirements", .list [.object [
        ("origin", .text "Brazil"),
        ("percentage_per_region", .object [
          ("a", .object [("max", .number 1.7e308)]),
          ("b", .object [("max", .number 1.7e308)])])]])])])]

def newYearSupply : Supply Timestamp := ⟨fun count => ⟨count⟩, 0, QualityTemplate.newYear⟩

/-- Not every payload is judged: here the shares add up to infinity before any message is
returned. -/
theorem no_report_of_overflowingShares :
    ¬ ∃ report, validate {} overflowingShares newYearSupply = .ok report := by
  have failed : (validate {} overflowingShares newYearSupply).toOption = none := by
    decide +kernel
  rintro ⟨report, returned⟩
  rw [returned] at failed
  simp [Except.toOption] at failed

end Payload
end CoffeeGrading
