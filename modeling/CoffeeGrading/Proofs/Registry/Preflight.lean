import CoffeeGrading.Proofs.Registry.Effects
import CoffeeGrading.Proofs.Template.Judgeable
import CoffeeGrading.Proofs.Template.Steady

/-!
The judgement of a payload foretells its registration.  A registry validates a first version with
the default sample size filled in, and it validates another template than the judgement did, with
identifiers of its own; neither makes a difference to what is found.
-/

namespace CoffeeGrading

namespace QualityTemplate

variable {size : Binary64} (template : QualityTemplate)

theorem sampleSizeFlaw?_asFirstVersion (positive : 0 < size) :
    (template.asFirstVersion size).parameters.sampleSizeFlaw? =
      template.parameters.sampleSizeFlaw? := by
  cases given : template.parameters.sampleSizeGrams with
  | none =>
      simp [asFirstVersion, TemplateParameters.sampleSizeFlaw?, TemplateParameters.isVanishing,
        given, positive]
  | some grams =>
      simp [asFirstVersion, TemplateParameters.sampleSizeFlaw?, TemplateParameters.isVanishing,
        given]

theorem validate_asFirstVersion (limits : Limits) (positive : 0 < size) :
    (template.asFirstVersion size).validate limits = template.validate limits := by
  have flaws : (template.asFirstVersion size).parameters.flaws limits =
      template.parameters.flaws limits := by
    rw [TemplateParameters.flaws, template.sampleSizeFlaw?_asFirstVersion positive]
    rfl
  have warnings : (template.asFirstVersion size).parameters.warnings limits =
      template.parameters.warnings limits := by
    rfl
  rw [validate, validate, QualityTemplate.flaws, QualityTemplate.flaws, flaws, warnings]
  rfl

end QualityTemplate

namespace Payload

variable {entries : List (String × Document)}

theorem settle_of_unflagged (unflagged : ∀ entry ∈ entries, isFlag entry = false)
    (supply : Supply Timestamp) : settle entries supply = (none, entries) := by
  have flags : entries.filter isFlag = [] := by
    rw [List.filter_eq_nil_iff]
    intro entry member
    simp [unflagged entry member]
  simp [settle, flags]

theorem validate_of_parsed {template : QualityTemplate} {readSupply : Supply Timestamp}
    (unflagged : ∀ entry ∈ entries, isFlag entry = false)
    (parsed : (QualityTemplate.read (.object entries) readSupply).1 = .good template)
    (limits : Limits) (supply : Supply Timestamp) :
    validate limits entries supply = template.validate limits := by
  have agree := QualityTemplate.fields_steady.readEntries entries readSupply supply
  change (QualityTemplate.fields.readEntries entries readSupply).1 = .good template at parsed
  rw [parsed] at agree
  obtain ⟨found, read, same⟩ := agree.of_good
  have settled := settle_of_unflagged unflagged supply
  have good : reading entries supply = .good found := by
    rw [reading, settled]
    exact read
  rw [validate_of_good good, same.validate limits]
  cases answer : found.validate limits with
  | error reason => rfl
  | ok report => simp [Except.map, flagMessages, settled]

end Payload

namespace Registry

/-- The outcome of a registration under limits that judged the payload before.  A template whose
identifier is free is registered exactly if the judgement found nothing, and is otherwise refused
with the errors of the judgement. -/
theorem registers_iff_payload_valid (limits : Limits) (defaultSampleSize : Binary64)
    (requests : List RegistryRequest) (entries : List (String × Document))
    (readSupply judgeSupply : Supply Timestamp) (template : QualityTemplate)
    (report : TemplateReport) (description : String) (versionId : Identifier) (now : Timestamp)
    (unflagged : ∀ entry ∈ entries, Payload.isFlag entry = false)
    (parsed : (QualityTemplate.read (.object entries) readSupply).1 = .good template)
    (positive : 0 < defaultSampleSize)
    (free : ((fresh limits defaultSampleSize).run requests).latest? template.templateId = none)
    (judged : Payload.validate limits entries judgeSupply = .ok report) :
    let outcome := ((RegistryAction.register template description versionId now).perform
      ((fresh limits defaultSampleSize).run requests)).1
    ((∃ first, outcome = .ok first) ↔ report.isValid = true) ∧
      (report.isValid = false →
        outcome = .error (.invalid template.templateId report.errors) ∧
          (RegistryFault.invalid template.templateId report.errors).message =
            "Template " ++ template.templateId.text ++ " is invalid: " ++
              "; ".intercalate report.errors) := by
  generalize registryEq : (fresh limits defaultSampleSize).run requests = registry at free ⊢
  obtain ⟨sameLimits, sameSize⟩ := run_settings limits defaultSampleSize requests
  rw [registryEq] at sameLimits sameSize
  have validated : (template.asFirstVersion registry.defaultSampleSize).validate registry.limits =
      .ok report := by
    rw [sameLimits, sameSize, template.validate_asFirstVersion limits positive,
      ← Payload.validate_of_parsed unflagged parsed limits judgeSupply, judged]
  have required := requireValid_of_validate validated
  rw [QualityTemplate.asFirstVersion_templateId] at required
  simp only [RegistryAction.perform_register, free, Option.isSome_none, Bool.false_eq_true,
    if_false, required]
  cases valid : report.isValid with
  | true => simp
  | false =>
      refine ⟨by simp, ?_⟩
      intro _
      exact ⟨rfl, rfl⟩

def draftPayload : List (String × Document) := [
  ("name", .object [("en", .text "Draft")]),
  ("origin", .text " "),
  ("created_by", .text "00000000-0000-0000-0000-000000000002"),
  ("parameters", .object [
    ("max_quakers", .whole (-1)),
    ("micro_region_configuration", .object [
      ("requirements", .list [
        .object [("origin", .text "Peru")], .object [("origin", .text " peru")]])])])]

def laterSupply : Supply Timestamp := ⟨fun count => ⟨count⟩, 7, QualityTemplate.newYear⟩

def draft : QualityTemplate where
  templateId := ⟨7⟩
  name := { en := "Draft" }
  origin := " "
  parameters := {
    maxQuakers := some (-1)
    microRegionConfiguration := some {
      requirements := [{ origin := "Peru" }, { origin := " peru" }] } }
  createdBy := ⟨2⟩
  createdAt := QualityTemplate.newYear
  updatedAt := QualityTemplate.newYear

def draftReport : TemplateReport where
  errors := ["Origin is required", "Max quakers cannot be negative",
    "At least one screen size constraint is required",
    "At least one cupping attribute is required",
    "Micro-regions: Duplicate micro-region requirement for origin \"peru\""]
  warnings := []

theorem draft_unflagged : ∀ entry ∈ draftPayload, Payload.isFlag entry = false := by
  simp [draftPayload, Payload.isFlag, SharingFlags.keys]

theorem draft_read : (QualityTemplate.read (.object draftPayload) laterSupply).1 = .good draft := by
  rfl

theorem draft_judged : Payload.validate {} draftPayload Payload.newYearSupply = .ok draftReport := by
  decide +kernel

theorem draft_free :
    ((fresh {} 300).run [washedLotRequest]).latest? draft.templateId = none :=
  ((fresh_consistent {} 300).effect washedLotRequest).confined.revisions _ (by decide)

theorem draft_refused_as_judged :
    (∀ entry ∈ draftPayload, Payload.isFlag entry = false) ∧
      (QualityTemplate.read (.object draftPayload) laterSupply).1 = .good draft ∧
      (0 : Binary64) < 300 ∧
      ((fresh {} 300).run [washedLotRequest]).latest? draft.templateId = none ∧
      Payload.validate {} draftPayload Payload.newYearSupply = .ok draftReport ∧
      let outcome := ((RegistryAction.register draft initialDescription ⟨8⟩
        QualityTemplate.newYear).perform ((fresh {} 300).run [washedLotRequest])).1
      ((∃ first, outcome = .ok first) ↔ draftReport.isValid = true) ∧
        (draftReport.isValid = false →
          outcome = .error (.invalid draft.templateId draftReport.errors) ∧
            (RegistryFault.invalid draft.templateId draftReport.errors).message =
              "Template " ++ draft.templateId.text ++ " is invalid: " ++
                "; ".intercalate draftReport.errors) :=
  ⟨draft_unflagged, draft_read, by decide +kernel, draft_free, draft_judged,
    registers_iff_payload_valid {} 300 [washedLotRequest] draftPayload laterSupply
      Payload.newYearSupply draft draftReport initialDescription ⟨8⟩ QualityTemplate.newYear
      draft_unflagged draft_read (by decide +kernel) draft_free draft_judged⟩

end Registry
end CoffeeGrading
