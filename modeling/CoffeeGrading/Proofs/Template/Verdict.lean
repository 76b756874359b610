import CoffeeGrading.Proofs.Template.Sound

/-!
The verdict of a validation.  The report has one error for each part that does not hold, in the
order of the parts, and it is valid exactly when every part holds.
-/

namespace CoffeeGrading

namespace TemplatePart

def all : List TemplatePart :=
  [name, origin, sampleSize, moisture, roastSampleSize, quakers, screenSizes, cupping, greenAspect,
    roastAspect, defects, offFlavours, microRegions]

theorem mem_all (part : TemplatePart) : part ∈ all := by
  cases part <;> decide

end TemplatePart

namespace TemplateParameters

theorem part_of_moistureFlaw {limits : Limits} {parameters : TemplateParameters}
    {flaw : TemplateFlaw} (found : parameters.moistureFlaw? limits = some flaw) :
    flaw.part = .moisture := by
  simp only [moistureFlaw?] at found
  split at found
  · obtain rfl := Option.some.inj found
    rfl
  · split at found
    · obtain rfl := Option.some.inj found
      rfl
    · obtain ⟨_, same⟩ := Option.ite_none_right_eq_some.1 found
      obtain rfl := Option.some.inj same
      rfl

theorem part_of_screensFlaw {limits : Limits} {parameters : TemplateParameters}
    {flaw : TemplateFlaw} (found : parameters.screensFlaw? limits = some flaw) :
    flaw.part = .screenSizes := by
  simp only [screensFlaw?] at found
  split at found
  · obtain rfl := Option.some.inj found
    rfl
  · obtain ⟨_, _, rfl⟩ := Option.map_eq_some_iff.1 found
    rfl

theorem part_of_cuppingFlaw {limits : Limits} {parameters : TemplateParameters}
    {flaw : TemplateFlaw} (found : parameters.cuppingFlaw? limits = .ok (some flaw)) :
    flaw.part = .cupping := by
  simp only [cuppingFlaw?] at found
  split at found
  · obtain rfl := Option.some.inj (Except.ok.inj found)
    rfl
  · cases answer : Cupping.flaw? parameters.cuppingAttributes limits.scoreTolerance with
    | error reason => simp [answer, bind, Except.bind] at found
    | ok attributeFlaw =>
        simp only [answer, bind, Except.bind, Except.ok.injEq] at found
        obtain ⟨_, _, rfl⟩ := Option.map_eq_some_iff.1 found
        rfl

end TemplateParameters

namespace QualityTemplate

theorem part_of_partFlaw {limits : Limits} {template : QualityTemplate} {part : TemplatePart}
    {flaw : TemplateFlaw} (found : template.partFlaw? limits part = .ok (some flaw)) :
    flaw.part = part := by
  cases part with
  | name | origin | sampleSize | roastSampleSize | quakers =>
      obtain ⟨_, same⟩ := Option.ite_none_right_eq_some.1 (Except.ok.inj found)
      obtain rfl := Option.some.inj same
      rfl
  | greenAspect | roastAspect | defects | offFlavours | microRegions =>
      obtain ⟨_, _, rfl⟩ := Option.map_eq_some_iff.1 (Except.ok.inj found)
      rfl
  | moisture => exact TemplateParameters.part_of_moistureFlaw (Except.ok.inj found)
  | screenSizes => exact TemplateParameters.part_of_screensFlaw (Except.ok.inj found)
  | cupping => exact TemplateParameters.part_of_cuppingFlaw found

def isClear (limits : Limits) (template : QualityTemplate) (part : TemplatePart) : Bool :=
  match template.partFlaw? limits part with
  | .ok none => true
  | _ => false

theorem isClear_iff (limits : Limits) (template : QualityTemplate) (part : TemplatePart) :
    template.isClear limits part = true ↔ template.Holds limits part := by
  rw [← partFlaw?_eq_none_iff, isClear]
  split
  · next clear => simp [clear]
  · next unclear => simpa using unclear

instance (limits : Limits) (template : QualityTemplate) (part : TemplatePart) :
    Decidable (template.Holds limits part) :=
  decidable_of_iff _ (isClear_iff limits template part)

def found? (limits : Limits) (template : QualityTemplate) (part : TemplatePart) :
    Option TemplateFlaw :=
  match template.partFlaw? limits part with
  | .ok flaw => flaw
  | .error _ => none

theorem parts_of_found {limits : Limits} {template : QualityTemplate}
    (searched : ∀ part, ∃ flaw, template.partFlaw? limits part = .ok flaw)
    (parts : List TemplatePart) :
    (parts.filterMap (template.found? limits)).map TemplateFlaw.part =
      parts.filter fun part => ¬ template.Holds limits part := by
  induction parts with
  | nil => rfl
  | cons part rest ih =>
      obtain ⟨flaw, answer⟩ := searched part
      cases flaw with
      | none =>
          have holds := (template.partFlaw?_eq_none_iff limits part).1 answer
          have missed : template.found? limits part = none := by simp [found?, answer]
          rw [List.filterMap_cons_none missed, List.filter_cons_of_neg (by simpa using holds), ih]
      | some flaw =>
          have fails : ¬ template.Holds limits part := by
            rw [← partFlaw?_eq_none_iff, answer]
            simp
          have found : template.found? limits part = some flaw := by simp [found?, answer]
          rw [List.filterMap_cons_some found, List.map_cons, part_of_partFlaw answer,
            List.filter_cons_of_pos (by simpa using fails), ih]

theorem flaws_eq_found {limits : Limits} {template : QualityTemplate} {flaws : List TemplateFlaw}
    (searched : template.flaws limits = .ok flaws) :
    (∀ part, ∃ flaw, template.partFlaw? limits part = .ok flaw) ∧
      flaws = TemplatePart.all.filterMap (template.found? limits) := by
  cases answer : template.parameters.cuppingFlaw? limits with
  | error reason =>
      simp [QualityTemplate.flaws, TemplateParameters.flaws, answer, bind, Except.bind] at searched
  | ok cupping =>
      constructor
      · intro part
        cases part with
        | cupping => exact ⟨cupping, answer⟩
        | _ => exact ⟨_, rfl⟩
      · simp only [QualityTemplate.flaws, TemplateParameters.flaws, answer, bind, Except.bind,
          Except.ok.injEq] at searched
        have cuppingFound : template.found? limits .cupping = cupping := by
          simp [found?, partFlaw?, answer]
        have joined (first second : Option TemplateFlaw) (others : List (Option TemplateFlaw)) :
            first.toList ++ second.toList ++ others.filterMap id =
              (first :: second :: others).filterMap id := by
          cases first <;> cases second <;> rfl
        rw [← searched, joined, ← cuppingFound]
        exact List.filterMap_map (f := template.found? limits) (g := id) (l := TemplatePart.all)

theorem parts_of_flaws {limits : Limits} {template : QualityTemplate} {flaws : List TemplateFlaw}
    (searched : template.flaws limits = .ok flaws) :
    flaws.map TemplateFlaw.part =
      TemplatePart.all.filter fun part => ¬ template.Holds limits part := by
  obtain ⟨each, listed⟩ := flaws_eq_found searched
  rw [listed]
  exact parts_of_found each TemplatePart.all

theorem flaws_of_validate {limits : Limits} {template : QualityTemplate} {report : TemplateReport}
    (returned : template.validate limits = .ok report) :
    ∃ flaws, template.flaws limits = .ok flaws ∧ report.errors = flaws.map TemplateFlaw.message := by
  cases answer : template.flaws limits with
  | error reason => simp [validate, answer, Except.mapError, bind, Except.bind] at returned
  | ok flaws =>
      cases warned : template.parameters.warnings limits with
      | error faults =>
          simp [validate, answer, warned, Except.mapError, bind, Except.bind] at returned
      | ok warnings =>
          simp only [validate, answer, warned, Except.mapError, bind, Except.bind,
            Except.ok.injEq] at returned
          exact ⟨flaws, rfl, by rw [← returned]⟩

theorem errors_by_part {limits : Limits} {template : QualityTemplate} {report : TemplateReport}
    (returned : template.validate limits = .ok report) :
    ∃ flaws : List TemplateFlaw, report.errors = flaws.map TemplateFlaw.message ∧
      flaws.map TemplateFlaw.part =
        TemplatePart.all.filter fun part => ¬ template.Holds limits part := by
  obtain ⟨flaws, searched, errors⟩ := flaws_of_validate returned
  exact ⟨flaws, errors, parts_of_flaws searched⟩

theorem isValid_iff_holds {limits : Limits} {template : QualityTemplate} {report : TemplateReport}
    (returned : template.validate limits = .ok report) :
    report.isValid = true ↔ ∀ part, template.Holds limits part := by
  obtain ⟨flaws, errors, parts⟩ := errors_by_part returned
  rw [TemplateReport.isValid, List.isEmpty_iff, errors, List.map_eq_nil_iff,
    ← List.map_eq_nil_iff (f := TemplateFlaw.part), parts, List.filter_eq_nil_iff]
  constructor
  · intro clear part
    simpa using clear part (TemplatePart.mem_all part)
  · intro holds part _
    simpa using holds part

/-- A report names every part that does not hold once, in the order of the parts, and is valid
exactly when every part holds. -/
theorem report_names_failing_parts (limits : Limits) (template : QualityTemplate)
    (report : TemplateReport) (returned : template.validate limits = .ok report) :
    (∃ flaws : List TemplateFlaw, report.errors = flaws.map TemplateFlaw.message ∧
      flaws.map TemplateFlaw.part =
        TemplatePart.all.filter fun part => ¬ template.Holds limits part) ∧
    (report.isValid = true ↔ ∀ part, template.Holds limits part) :=
  ⟨errors_by_part returned, isValid_iff_holds returned⟩

def newYear : Timestamp := ⟨⟨2024, 1, 1, 0, 0, 0, 0, some 0⟩, by decide⟩

def untitled : QualityTemplate where
  templateId := ⟨1⟩
  name := { en := " " }
  origin := "Brazil"
  createdBy := ⟨2⟩
  createdAt := newYear
  updatedAt := newYear

def untitledReport : TemplateReport where
  errors := ["Template name is required", "At least one screen size constraint is required",
    "At least one cupping attribute is required"]
  warnings := []

theorem report_names_failing_parts_of_untitled :
    untitled.validate {} = .ok untitledReport ∧
      (∃ flaws : List TemplateFlaw, untitledReport.errors = flaws.map TemplateFlaw.message ∧
        flaws.map TemplateFlaw.part =
          TemplatePart.all.filter fun part => ¬ untitled.Holds {} part) ∧
      (untitledReport.isValid = true ↔ ∀ part, untitled.Holds {} part) :=
  ⟨rfl, report_names_failing_parts {} untitled untitledReport rfl⟩

end QualityTemplate
end CoffeeGrading
