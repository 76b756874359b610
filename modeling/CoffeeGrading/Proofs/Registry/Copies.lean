import CoffeeGrading.Proofs.Registry.Preflight
import CoffeeGrading.Proofs.Registry.SampleSizes

/-!
Copies of templates.  A registry holds valid templates alone, and a copy is judged like its source:
it shares the origin and the parameters, and its name is never blank.  So every copy under a free
identifier is registered, next to everything that was there.
-/

namespace CoffeeGrading

theorem LocalizedText.copied_not_blank (name : LocalizedText) :
    Text.blank name.copied.en = false := by
  rw [Bool.eq_false_iff]
  intro blank
  have parenthesis : '(' ∈ name.copied.en.toList := by simp [copied]
  exact absurd ((Text.blank_iff _).1 blank '(' parenthesis) (by decide)

namespace QualityTemplate

variable {source : QualityTemplate} {limits : Limits}

theorem validate_congr {template other : QualityTemplate}
    (name : template.nameFlaw? = other.nameFlaw?) (origin : template.origin = other.origin)
    (parameters : template.parameters = other.parameters) :
    template.validate limits = other.validate limits := by
  simp only [validate, flaws, originFlaw?, name, origin, parameters]

theorem validate_clone (named : source.nameFlaw? = none) (id actor : Identifier)
    (sharing : Option SharingScope) (now : Timestamp) :
    (source.clone id actor none sharing now).validate limits = source.validate limits := by
  have copied : (source.clone id actor none sharing now).nameFlaw? = none := by
    simp [nameFlaw?, clone, source.name.copied_not_blank]
  exact validate_congr (copied.trans named.symm) rfl rfl

theorem nameFlaw?_of_valid {report : TemplateReport}
    (returned : source.validate limits = .ok report) (valid : report.isValid = true) :
    source.nameFlaw? = none := by
  have named := (isValid_iff_holds returned).1 valid .name
  exact Except.ok.inj ((source.partFlaw?_eq_none_iff limits .name).2 named)

/-- The first version of a copy: the content of its source, under an identifier of its own and for
another author. -/
structure CopyOf (source stored : QualityTemplate) (id actor : Identifier)
    (sharing : Option SharingScope) (defaultSampleSize : Binary64) (now : Timestamp) : Prop where
  templateId : stored.templateId = id
  version : stored.version = 1
  templateParentId : stored.templateParentId = some source.templateId
  createdBy : stored.createdBy = actor
  isActive : stored.isActive = true
  sharing : stored.sharing = sharing.getD .authorOnly
  name : stored.name = source.name.copied
  description : stored.description = source.description
  origin : stored.origin = source.origin
  parameters : stored.parameters = { source.parameters with
    sampleSizeGrams := some (source.parameters.sampleSizeGrams.getD defaultSampleSize) }
  createdAt : stored.createdAt = now
  updatedAt : stored.updatedAt = now

theorem copyOf_clone (source : QualityTemplate) (size : Binary64) (id actor : Identifier)
    (sharing : Option SharingScope) (now : Timestamp) :
    CopyOf source ((source.clone id actor none sharing now).asFirstVersion size) id actor sharing
      size now := by
  constructor <;> rfl

end QualityTemplate

namespace Registry

variable {registry : Registry}

theorem requireValid_clone {source : QualityTemplate} (positive : 0 < registry.defaultSampleSize)
    (valid : registry.requireValid source = .ok ()) (id actor : Identifier)
    (sharing : Option SharingScope) (now : Timestamp) :
    registry.requireValid ((source.clone id actor none sharing now).asFirstVersion
      registry.defaultSampleSize) = .ok () := by
  obtain ⟨report, returned, clear⟩ := requireValid_eq_ok_iff.1 valid
  have named := QualityTemplate.nameFlaw?_of_valid returned clear
  rw [requireValid_eq_ok_iff, QualityTemplate.validate_asFirstVersion _ _ positive,
    QualityTemplate.validate_clone named]
  exact ⟨report, returned, clear⟩

theorem Consistent.clone_adds (consistent : registry.Consistent) {source : QualityTemplate}
    {id templateId : Identifier} (positive : 0 < registry.defaultSampleSize)
    (known : registry.latest? id = some source) (accepted : registry.requireValid source = .ok ())
    (free : registry.latest? templateId = none) (actor versionId : Identifier)
    (sharing : Option SharingScope) (now : Timestamp) :
    ∃ stored next,
      (RegistryAction.clone id actor none sharing templateId versionId now).perform registry =
        (.ok stored, next) ∧
      source.CopyOf stored templateId actor sharing registry.defaultSampleSize now ∧
      Adds stored ⟨versionId, templateId, 1, stored.parameters,
        "Cloned from template: " ++ source.name.en, actor, now⟩ registry next := by
  have copy := source.copyOf_clone registry.defaultSampleSize templateId actor sharing now
  have valid := requireValid_clone positive accepted templateId actor sharing now
  have performed := perform_register_of_valid rfl free valid
    s!"Cloned from template: {source.name.en}" versionId now
  generalize (source.clone templateId actor none sharing now).asFirstVersion
    registry.defaultSampleSize = stored at copy performed
  have record : stored.recorded stored.templateId versionId stored.createdBy
      s!"Cloned from template: {source.name.en}" now = ⟨versionId, templateId, 1, stored.parameters,
        "Cloned from template: " ++ source.name.en, actor, now⟩ := by
    rw [copy.templateId, copy.createdBy, QualityTemplate.recorded, copy.version]
    rfl
  rw [record] at performed
  refine ⟨stored, _, ?_, copy, consistent.adds copy.templateId.symm (copy.templateId.symm ▸ free)⟩
  rw [RegistryAction.perform_clone, known]
  exact performed

/-- A copy under a free identifier is never refused.  It is the first version of a template of its
own, whatever version its source is at, and the source and all other templates stay as they are. -/
theorem clones_added_apart (limits : Limits) (defaultSampleSize : Binary64)
    (requests : List RegistryRequest) (positive : 0 < defaultSampleSize) (source : QualityTemplate)
    (id actor templateId versionId : Identifier) (sharing : Option SharingScope) (now : Timestamp)
    (known : ((fresh limits defaultSampleSize).run requests).latest? id = some source)
    (free : ((fresh limits defaultSampleSize).run requests).latest? templateId = none) :
    let registry := (fresh limits defaultSampleSize).run requests
    ∃ stored next,
      (RegistryAction.clone id actor none sharing templateId versionId now).perform registry =
        (.ok stored, next) ∧
      source.templateId = id ∧
      source.CopyOf stored templateId actor sharing defaultSampleSize now ∧
      Adds stored ⟨versionId, templateId, 1, stored.parameters,
        "Cloned from template: " ++ source.name.en, actor, now⟩ registry next ∧
      next.latest? id = some source ∧ next.history id = registry.history id := by
  intro registry
  have consistent : registry.Consistent := run_consistent limits defaultSampleSize requests
  have validated : registry.Validated := run_validated limits defaultSampleSize requests
  have size : registry.defaultSampleSize = defaultSampleSize :=
    (run_settings limits defaultSampleSize requests).2
  have accepted : registry.requireValid source = .ok () :=
    requireValid_eq_ok_iff.2 ((validated id).revision_valid source known)
  obtain ⟨stored, next, performed, copy, adds⟩ := consistent.clone_adds (size.symm ▸ positive) known
    accepted free actor versionId sharing now
  have apart : id ≠ stored.templateId := by
    rintro rfl
    rw [copy.templateId, free] at known
    cases known
  refine ⟨stored, next, performed, (consistent id).revision_id source known, size ▸ copy, adds,
    ?_, adds.others.histories id apart⟩
  rw [adds.others.revisions id apart]
  exact known

theorem unsizedLot_cloned_apart :
    ∃ stored next,
      (RegistryAction.clone ⟨1⟩ ⟨9⟩ none none ⟨5⟩ ⟨6⟩ QualityTemplate.newYear).perform
        ((fresh {} 300).run [washedLotRequest, unsizedRequest]) = (.ok stored, next) ∧
      unsizedLot.version = 2 ∧ unsizedLot.parameters.sampleSizeGrams = none ∧
      stored.version = 1 ∧ stored.parameters.sampleSizeGrams = some 300 ∧
      next.latest? ⟨1⟩ = some unsizedLot := by
  have last : (fresh {} 300).run [washedLotRequest, unsizedRequest] =
      (unsizedRequest.action.perform ((fresh {} 300).run [washedLotRequest])).2 := rfl
  have known : ((fresh {} 300).run [washedLotRequest, unsizedRequest]).latest? ⟨1⟩ =
      some unsizedLot := by
    rw [last, unsized_performed]
    simp
  have free : ((fresh {} 300).run [washedLotRequest, unsizedRequest]).latest? ⟨5⟩ = none := by
    rw [last, unsized_performed, latest?_withVersion, latest?_withRevision, if_neg (by decide)]
    exact ((fresh_consistent {} 300).effect washedLotRequest).confined.revisions _ (by decide)
  have unset : unsizedLot.parameters.sampleSizeGrams = none := by decide +kernel
  obtain ⟨stored, next, performed, _, copy, _, stays, _⟩ := clones_added_apart {} 300
    [washedLotRequest, unsizedRequest] (by decide +kernel) unsizedLot ⟨1⟩ ⟨9⟩ ⟨5⟩ ⟨6⟩ none
    QualityTemplate.newYear known free
  refine ⟨stored, next, performed, by decide +kernel, unset, copy.version, ?_, stays⟩
  rw [copy.parameters, unset]
  rfl

end Registry
end CoffeeGrading
