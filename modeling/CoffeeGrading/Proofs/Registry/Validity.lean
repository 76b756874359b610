import CoffeeGrading.Proofs.Registry.Chronicle
import CoffeeGrading.Proofs.Template.Parameters

/-!
Everything a registry holds has been accepted.  The current revisions are valid as they stand; of
an earlier version only the parameters are kept, and these are in order under every later name and
origin of the template.
-/

namespace CoffeeGrading

namespace Registry

variable {registry : Registry} {template : QualityTemplate}

theorem requireValid_of_validate {report : TemplateReport}
    (returned : template.validate registry.limits = .ok report) :
    registry.requireValid template =
      if report.isValid then .ok () else .error (.invalid template.templateId report.errors) := by
  simp only [requireValid, returned]

theorem requireValid_eq_ok_iff :
    registry.requireValid template = .ok () ↔
      ∃ report, template.validate registry.limits = .ok report ∧ report.isValid = true := by
  cases returned : template.validate registry.limits with
  | error reason => simp [requireValid, returned]
  | ok report => simp [requireValid_of_validate returned]

@[simp] theorem limits_withRevision (id : Identifier) :
    (registry.withRevision id template).limits = registry.limits := by
  rfl

@[simp] theorem limits_withVersion (version : TemplateVersion) :
    (registry.withVersion version).limits = registry.limits := by
  rfl

@[simp] theorem defaultSampleSize_withRevision (id : Identifier) :
    (registry.withRevision id template).defaultSampleSize = registry.defaultSampleSize := by
  rfl

@[simp] theorem defaultSampleSize_withVersion (version : TemplateVersion) :
    (registry.withVersion version).defaultSampleSize = registry.defaultSampleSize := by
  rfl

theorem run_settings (limits : Limits) (defaultSampleSize : Binary64)
    (requests : List RegistryRequest) :
    ((fresh limits defaultSampleSize).run requests).limits = limits ∧
      ((fresh limits defaultSampleSize).run requests).defaultSampleSize = defaultSampleSize := by
  refine run_induction
    (fun registry => registry.limits = limits ∧ registry.defaultSampleSize = defaultSampleSize)
    _ ⟨rfl, rfl⟩ ?_ requests
  intro current ending transition settings
  cases transition with
  | refused => exact settings
  | registered => simpa using settings
  | retained => simpa using settings
  | advanced => simpa using settings
  | halted => simpa using settings

end Registry

/-- The current revision of a template passes validation, and what is recorded of it passes every
check of parameters. -/
structure Accepted (limits : Limits) (revision : Option QualityTemplate)
    (history : List TemplateVersion) : Prop where
  revision_valid : ∀ template, revision = some template →
    ∃ report, template.validate limits = .ok report ∧ report.isValid = true
  records_flawless : ∀ version ∈ history, version.parameters.flaws limits = .ok []

namespace Accepted

variable {limits : Limits} {template : QualityTemplate} {history : List TemplateVersion}

theorem unknown : Accepted limits none [] := by
  constructor <;> simp

theorem retained {revision : Option QualityTemplate} (accepted : Accepted limits revision history)
    (valid : ∃ report, template.validate limits = .ok report ∧ report.isValid = true) :
    Accepted limits (some template) history where
  revision_valid other same := by
    obtain rfl := Option.some.inj same
    exact valid
  records_flawless := accepted.records_flawless

theorem extended {revision : Option QualityTemplate} {version : TemplateVersion}
    (accepted : Accepted limits revision history)
    (valid : ∃ report, template.validate limits = .ok report ∧ report.isValid = true)
    (parameters : version.parameters = template.parameters) :
    Accepted limits (some template) (history ++ [version]) where
  revision_valid := (accepted.retained valid).revision_valid
  records_flawless other member := by
    rcases List.mem_append.1 member with earlier | last
    · exact accepted.records_flawless other earlier
    · obtain ⟨report, returned, clear⟩ := valid
      rw [List.mem_singleton.1 last, parameters]
      exact QualityTemplate.parameterFlaws_of_valid returned clear

end Accepted

namespace Registry

def Validated (registry : Registry) : Prop :=
  ∀ id, Accepted registry.limits (registry.latest? id) (registry.history id)

variable {registry : Registry} {id : Identifier} {template : QualityTemplate}

theorem Validated.retained (validated : registry.Validated)
    (valid : registry.requireValid template = .ok ()) :
    (registry.withRevision id template).Validated := by
  intro other
  by_cases same : other = id
  · simpa [same] using (validated id).retained (requireValid_eq_ok_iff.1 valid)
  · simpa [same] using validated other

theorem Validated.extended {version : TemplateVersion} (validated : registry.Validated)
    (valid : registry.requireValid template = .ok ()) (about : version.templateId = id)
    (parameters : version.parameters = template.parameters) :
    ((registry.withRevision id template).withVersion version).Validated := by
  subst about
  intro other
  by_cases same : other = version.templateId
  · simpa [same] using
      (validated version.templateId).extended (requireValid_eq_ok_iff.1 valid) parameters
  · simpa [same] using validated other

theorem Validated.kept {ending : Except RegistryFault QualityTemplate × Registry}
    (transition : Transition registry ending) (validated : registry.Validated) :
    ending.2.Validated := by
  cases transition with
  | refused fault => exact validated
  | registered template description versionId now first firstEq unknown valid =>
      exact validated.extended valid rfl rfl
  | retained id edit now current edited editedEq known valid unchanged =>
      exact validated.retained valid
  | advanced id actor edit description versionId now current edited parameters editedEq known valid
      changed counted =>
      exact validated.extended valid rfl rfl
  | halted id edit now fault current edited parameters editedEq known valid changed uncounted =>
      exact validated.retained valid

theorem run_validated (limits : Limits) (defaultSampleSize : Binary64)
    (requests : List RegistryRequest) :
    ((fresh limits defaultSampleSize).run requests).Validated :=
  run_induction Validated _ (fun _ => Accepted.unknown)
    (fun _ _ transition validated => validated.kept transition) requests

/-- After every run of requests the current revisions are valid under the limits of the registry.
The search for flaws finds none in the parameters of any recorded version, and each of the eleven
parts holds in every template that has these parameters, whatever its name and origin. -/
theorem accepted_after_run (limits : Limits) (defaultSampleSize : Binary64)
    (requests : List RegistryRequest) (id : Identifier) :
    Accepted limits (((fresh limits defaultSampleSize).run requests).latest? id)
        (((fresh limits defaultSampleSize).run requests).history id) ∧
      ∀ version ∈ ((fresh limits defaultSampleSize).run requests).history id,
        ∀ template : QualityTemplate, template.parameters = version.parameters →
          ∀ part ∈ TemplatePart.ofParameters, template.Holds limits part := by
  have accepted := run_validated limits defaultSampleSize requests id
  rw [(run_settings limits defaultSampleSize requests).1] at accepted
  refine ⟨accepted, ?_⟩
  intro version recorded template same
  rw [← QualityTemplate.parameterFlaws_eq_nil_iff, same]
  exact accepted.records_flawless version recorded

end Registry
end CoffeeGrading
