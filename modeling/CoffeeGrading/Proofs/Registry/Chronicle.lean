import CoffeeGrading.Proofs.Registry.Transitions

/-!
The revisions and the histories of a registry tell the same story: a template has a current revision
exactly when it has a history, whose versions are numbered from one, and whose last version holds
the current parameters.
-/

namespace CoffeeGrading

/-- What the current revision and the history of one template have to do with each other. -/
structure Chronicle (id : Identifier) (revision : Option QualityTemplate)
    (history : List TemplateVersion) : Prop where
  known_iff : revision.isSome ↔ history ≠ []
  revision_id : ∀ template, revision = some template → template.templateId = id
  record_ids : ∀ version ∈ history, version.templateId = id
  numbered : history.map (·.versionNumber) =
    (List.range history.length).map fun place => ↑(place + 1)
  current_version : ∀ template, revision = some template → template.version = history.length
  last_parameters : ∀ template, revision = some template →
    history.getLast?.map (·.parameters) = some template.parameters

namespace Chronicle

variable {id : Identifier} {history : List TemplateVersion}

theorem unknown : Chronicle id none [] := by
  constructor <;> simp

theorem counted {revision : Option QualityTemplate} {template : QualityTemplate}
    (chronicle : Chronicle id revision history) (known : revision = some template) :
    1 ≤ template.version := by
  have recorded := List.length_pos_iff.2 (chronicle.known_iff.1 (by simp [known]))
  have version := chronicle.current_version template known
  omega

theorem history_eq_nil (chronicle : Chronicle id none history) : history = [] := by
  simpa using chronicle.known_iff

theorem extended {revision : Option QualityTemplate} {template : QualityTemplate}
    {version : TemplateVersion} (chronicle : Chronicle id revision history)
    (templateId : template.templateId = id) (versionId : version.templateId = id)
    (number : version.versionNumber = template.version)
    (parameters : version.parameters = template.parameters)
    (next : template.version = history.length + 1) :
    Chronicle id (some template) (history ++ [version]) where
  known_iff := by simp
  revision_id other same := by
    obtain rfl := Option.some.inj same
    exact templateId
  record_ids other member := by
    rcases List.mem_append.1 member with earlier | last
    · exact chronicle.record_ids other earlier
    · rw [List.mem_singleton.1 last]
      exact versionId
  numbered := by
    simp only [List.map_append, chronicle.numbered, List.length_append, List.length_singleton,
      List.range_succ]
    simp [number, next]
  current_version other same := by
    obtain rfl := Option.some.inj same
    simp [next]
  last_parameters other same := by
    obtain rfl := Option.some.inj same
    simp [parameters]

theorem retained {current template : QualityTemplate}
    (chronicle : Chronicle id (some current) history)
    (templateId : template.templateId = id) (version : template.version = current.version)
    (parameters : template.parameters = current.parameters) :
    Chronicle id (some template) history where
  known_iff := by simpa using chronicle.known_iff
  revision_id other same := by
    obtain rfl := Option.some.inj same
    exact templateId
  record_ids := chronicle.record_ids
  numbered := chronicle.numbered
  current_version other same := by
    obtain rfl := Option.some.inj same
    rw [version]
    exact chronicle.current_version current rfl
  last_parameters other same := by
    obtain rfl := Option.some.inj same
    rw [parameters]
    exact chronicle.last_parameters current rfl

end Chronicle

/-! ### What an edit does to a template -/

namespace TemplateEdit

variable (edit : TemplateEdit) (current : QualityTemplate) (now : Timestamp)

@[simp] theorem apply_templateId : (edit.apply current now).templateId = current.templateId := by
  simp only [apply]
  split <;> rfl

theorem apply_version_of_unchanged (unchanged : edit.newParameters? current = none) :
    (edit.apply current now).version = current.version := by
  simp [apply, unchanged]

theorem apply_parameters_of_unchanged (unchanged : edit.newParameters? current = none) :
    (edit.apply current now).parameters = current.parameters := by
  simp [apply, unchanged]

theorem apply_version_of_changed {parameters : TemplateParameters}
    (changed : edit.newParameters? current = some parameters) :
    (edit.apply current now).version = current.version + 1 := by
  simp [apply, changed]

theorem apply_parameters_of_changed {parameters : TemplateParameters}
    (changed : edit.newParameters? current = some parameters) :
    (edit.apply current now).parameters = parameters := by
  simp [apply, changed]

end TemplateEdit

namespace Registry

def Consistent (registry : Registry) : Prop :=
  ∀ id, Chronicle id (registry.latest? id) (registry.history id)

def fresh (limits : Limits) (defaultSampleSize : Binary64) : Registry :=
  { limits, defaultSampleSize }

theorem fresh_consistent (limits : Limits) (defaultSampleSize : Binary64) :
    (fresh limits defaultSampleSize).Consistent :=
  fun _ => Chronicle.unknown

theorem Consistent.extended {registry : Registry} {id : Identifier} {template : QualityTemplate}
    {version : TemplateVersion} (consistent : registry.Consistent)
    (versionId : version.templateId = id)
    (chronicle : Chronicle id (some template) (registry.history id ++ [version])) :
    ((registry.withRevision id template).withVersion version).Consistent := by
  subst versionId
  intro other
  by_cases same : other = version.templateId
  · simpa [same] using chronicle
  · simpa [same] using consistent other

theorem Consistent.kept {registry : Registry}
    {ending : Except RegistryFault QualityTemplate × Registry}
    (transition : Transition registry ending) (consistent : registry.Consistent) :
    ending.2.Consistent := by
  cases transition with
  | refused fault => exact consistent
  | registered template description versionId now first firstEq unknown valid =>
      subst firstEq
      have chronicle := consistent template.templateId
      rw [unknown] at chronicle
      have empty := chronicle.history_eq_nil
      refine consistent.extended (by simp) ?_
      rw [empty] at chronicle
      simpa [empty] using chronicle.extended (by simp) (by simp) (by simp) (by simp) (by simp)
  | retained id edit now current edited editedEq known valid unchanged =>
      subst editedEq
      have chronicle := consistent id
      rw [known] at chronicle
      intro other
      by_cases same : other = id
      · subst same
        have templateId := chronicle.revision_id current rfl
        simpa using chronicle.retained (by simpa using templateId)
          (edit.apply_version_of_unchanged current now unchanged)
          (edit.apply_parameters_of_unchanged current now unchanged)
      · simpa [same] using consistent other
  | advanced id actor edit description versionId now current edited parameters editedEq known valid
      changed counted =>
      subst editedEq
      have chronicle := consistent id
      rw [known] at chronicle
      have templateId := chronicle.revision_id current rfl
      have version := chronicle.current_version current rfl
      refine consistent.extended (by simp) (chronicle.extended ?_ ?_ ?_ ?_ ?_)
      · simpa using templateId
      · simp
      · simp
      · simp
      · rw [edit.apply_version_of_changed current now changed, version]
  | halted id edit now fault current edited parameters editedEq known valid changed uncounted =>
      subst editedEq
      have chronicle := consistent id
      rw [known] at chronicle
      have version := chronicle.current_version current rfl
      rw [edit.apply_version_of_changed current now changed, version] at uncounted
      omega

theorem run_consistent (limits : Limits) (defaultSampleSize : Binary64)
    (requests : List RegistryRequest) :
    ((fresh limits defaultSampleSize).run requests).Consistent :=
  run_induction Consistent _ (fresh_consistent limits defaultSampleSize)
    (fun _ _ transition consistent => consistent.kept transition) requests

/-- After every run of requests on a new registry, whether they succeed or fail, the revision and
the history of each template belong together. -/
theorem chronicle_after_run (limits : Limits) (defaultSampleSize : Binary64)
    (requests : List RegistryRequest) (id : Identifier) :
    Chronicle id (((fresh limits defaultSampleSize).run requests).latest? id)
      (((fresh limits defaultSampleSize).run requests).history id) :=
  run_consistent limits defaultSampleSize requests id

end Registry
end CoffeeGrading
