import CoffeeGrading.Proofs.Registry.Validity
import CoffeeGrading.Proofs.Template.Attainable

/-!
What a request leaves behind in a registry whose revisions and histories belong together.  It is
refused and nothing has changed; or it stores a revision of the one template that it is about, and
adds a version to the history of that template if it brings parameters that are not yet in force.
-/

namespace CoffeeGrading

theorem TemplateEdit.newParameters?_eq_some_iff (edit : TemplateEdit) (current : QualityTemplate)
    (parameters : TemplateParameters) :
    edit.newParameters? current = some parameters ↔
      edit.parameters = some parameters ∧ (parameters == current.parameters) = false := by
  simp [newParameters?, Option.filter_eq_some_iff]

namespace RegistryRequest

def subject : RegistryRequest → Identifier
  | register template _ _ _ => template.templateId
  | save id _ _ _ _ _ => id
  | clone _ _ _ _ templateId _ _ => templateId

/-- A new template comes with its parameters; an edit may bring some that differ from those in
force. -/
def BringsParameters (registry : Registry) : RegistryRequest → Prop
  | register .. => True
  | clone .. => True
  | save id _ edit _ _ _ => ∃ current parameters, registry.latest? id = some current ∧
      edit.parameters = some parameters ∧ (parameters == current.parameters) = false

end RegistryRequest

namespace Registry

variable {registry : Registry}

theorem requireValid_recordable {template : QualityTemplate} {fault : RegistryFault}
    (refused : registry.requireValid template = .error fault) (faults : List Fault) :
    fault ≠ .unrecorded faults := by
  intro unrecorded
  subst unrecorded
  simp only [requireValid] at refused
  split at refused
  · cases Except.error.inj refused
  · split at refused
    · cases refused
    · cases Except.error.inj refused

/-- How a request ends and what it leaves, seen from the template it is about. -/
inductive Effect (registry : Registry) (request : RegistryRequest) :
    Except RegistryFault QualityTemplate × Registry → Prop
  | refused (fault : RegistryFault) (recordable : ∀ faults, fault ≠ .unrecorded faults) :
      Effect registry request (.error fault, registry)
  | retained (current edited : QualityTemplate)
      (known : registry.latest? request.subject = some current)
      (version : edited.version = current.version)
      (parameters : edited.parameters = current.parameters)
      (nothingNew : ¬ request.BringsParameters registry) :
      Effect registry request (.ok edited, registry.withRevision request.subject edited)
  | recorded (template : QualityTemplate) (version : TemplateVersion)
      (about : version.templateId = request.subject)
      (new : request.BringsParameters registry) :
      Effect registry request
        (.ok template, (registry.withRevision request.subject template).withVersion version)

theorem register_effect (registry : Registry) (template : QualityTemplate) (description : String)
    (versionId : Identifier) (now : Timestamp) (request : RegistryRequest)
    (about : request.subject = template.templateId) (new : request.BringsParameters registry) :
    Effect registry request
      ((RegistryAction.register template description versionId now).perform registry) := by
  rw [RegistryAction.perform_register]
  by_cases taken : (registry.latest? template.templateId).isSome
  · rw [if_pos taken]
    exact .refused _ (by simp)
  · rw [if_neg taken]
    cases judged : registry.requireValid (template.asFirstVersion registry.defaultSampleSize) with
    | error fault =>
        simp only [judged]
        exact .refused fault (requireValid_recordable judged)
    | ok =>
        simp only [judged, QualityTemplate.asFirstVersion_templateId, ← about]
        exact .recorded _ _ (by simp) new

theorem Consistent.save_effect (consistent : registry.Consistent) (id actor : Identifier)
    (edit : TemplateEdit) (description : Option String) (versionId : Identifier)
    (now : Timestamp) :
    Effect registry (.save id actor edit description versionId now)
      ((RegistryAction.save id actor edit description versionId now).perform registry) := by
  rw [RegistryAction.perform_save]
  cases known : registry.latest? id with
  | none => exact .refused _ (by simp)
  | some current =>
      cases judged : registry.requireValid (edit.apply current now) with
      | error fault =>
          simp only [judged]
          exact .refused fault (requireValid_recordable judged)
      | ok =>
          cases changed : edit.newParameters? current with
          | none =>
              simp only [judged, changed, Option.isNone_none, if_true]
              refine .retained current _ known (edit.apply_version_of_unchanged current now changed)
                (edit.apply_parameters_of_unchanged current now changed) ?_
              rintro ⟨other, parameters, latest, given, differ⟩
              obtain rfl := Option.some.inj (known.symm.trans latest)
              have new := (edit.newParameters?_eq_some_iff current parameters).2 ⟨given, differ⟩
              rw [changed] at new
              cases new
          | some parameters =>
              have chronicle := consistent id
              rw [known] at chronicle
              have version := chronicle.current_version current rfl
              have next := edit.apply_version_of_changed current now changed
              have counted : 1 ≤ (edit.apply current now).version := by omega
              have ⟨given, differ⟩ := (edit.newParameters?_eq_some_iff current parameters).1 changed
              simp only [judged, changed, counted, Option.isNone_some, Bool.false_eq_true, if_false,
                if_true]
              exact .recorded _ _ rfl ⟨current, parameters, known, given, differ⟩

theorem Consistent.effect (consistent : registry.Consistent) (request : RegistryRequest) :
    Effect registry request (request.action.perform registry) := by
  cases request with
  | register template description versionId now =>
      exact register_effect registry template description versionId now _ rfl trivial
  | save id actor edit description versionId now =>
      exact consistent.save_effect id actor edit description versionId now
  | clone id actor name sharing templateId versionId now =>
      simp only [RegistryRequest.action, RegistryAction.perform_clone]
      cases known : registry.latest? id with
      | none => exact .refused _ (by simp)
      | some source =>
          exact register_effect registry (source.clone templateId actor name sharing now) _
            versionId now _ rfl trivial

/-! ### Histories -/

/-- Two registries that differ in nothing but the revision and the history of one template. -/
structure Confined (id : Identifier) (before after : Registry) : Prop where
  revisions : ∀ other, other ≠ id → after.latest? other = before.latest? other
  histories : ∀ other, other ≠ id → after.history other = before.history other

structure SameContent (id : Identifier) (before after : Registry) : Prop where
  version : (after.latest? id).map (·.version) = (before.latest? id).map (·.version)
  parameters : (after.latest? id).map (·.parameters) = (before.latest? id).map (·.parameters)
  history : after.history id = before.history id

/-- What a request may do to the records: it adds one to the template it is about, or none. -/
structure OnlyAppends (request : RegistryRequest) (before : Registry)
    (ending : Except RegistryFault QualityTemplate × Registry) : Prop where
  earlier_stay : ∀ id, before.history id <+: ending.2.history id
  confined : Confined request.subject before ending.2
  appended : ∃ added : Option TemplateVersion,
    ending.2.history request.subject = before.history request.subject ++ added.toList ∧
      (added.isSome ↔ (∃ template, ending.1 = .ok template) ∧ request.BringsParameters before)
  nothing_new : ¬ request.BringsParameters before → ∀ id, SameContent id before ending.2

namespace Effect

variable {request : RegistryRequest} {ending : Except RegistryFault QualityTemplate × Registry}

theorem confined (effect : Effect registry request ending) :
    Confined request.subject registry ending.2 := by
  cases effect with
  | refused fault recordable => exact ⟨fun _ _ => rfl, fun _ _ => rfl⟩
  | retained current edited known version parameters nothingNew =>
      constructor
      · intro other different
        simp [different]
      · intro other different
        simp
  | recorded template version about new =>
      constructor
      · intro other different
        simp [different]
      · intro other different
        simp [about, different]

theorem appended (effect : Effect registry request ending) :
    ∃ added : Option TemplateVersion,
      ending.2.history request.subject = registry.history request.subject ++ added.toList ∧
        (added.isSome ↔
          (∃ template, ending.1 = .ok template) ∧ request.BringsParameters registry) := by
  cases effect with
  | refused fault recordable => exact ⟨none, by simp, by simp⟩
  | retained current edited known version parameters nothingNew =>
      exact ⟨none, by simp, by simp [nothingNew]⟩
  | recorded template version about new => exact ⟨some version, by simp [about], by simp [new]⟩

theorem sameContent (effect : Effect registry request ending)
    (nothingNew : ¬ request.BringsParameters registry) (id : Identifier) :
    SameContent id registry ending.2 := by
  cases effect with
  | refused fault recordable => exact ⟨rfl, rfl, rfl⟩
  | retained current edited known version parameters _ =>
      by_cases same : id = request.subject
      · subst same
        exact ⟨by simp [known, version], by simp [known, parameters], by simp⟩
      · exact ⟨by simp [same], by simp [same], by simp⟩
  | recorded template version about new => exact absurd new nothingNew

theorem onlyAppends (effect : Effect registry request ending) :
    OnlyAppends request registry ending := by
  refine ⟨?_, effect.confined, effect.appended, effect.sameContent⟩
  intro id
  by_cases same : id = request.subject
  · obtain ⟨added, grown, _⟩ := effect.appended
    rw [same, grown]
    exact List.prefix_append _ _
  · simp [effect.confined.histories id same]

theorem unchanged_of_error {fault : RegistryFault}
    (effect : Effect registry request ending) (failed : ending.1 = .error fault) :
    ending.2 = registry ∧ ∀ faults, fault ≠ .unrecorded faults := by
  cases effect with
  | refused reason recordable =>
      obtain rfl := Except.error.inj failed
      exact ⟨rfl, recordable⟩
  | retained | recorded => cases failed

end Effect

theorem Consistent.history_prefix_run (consistent : registry.Consistent)
    (requests : List RegistryRequest) (id : Identifier) :
    registry.history id <+: (registry.run requests).history id := by
  induction requests generalizing registry with
  | nil => exact List.prefix_rfl
  | cons request rest ih =>
      have first := (consistent.effect request).onlyAppends.earlier_stay id
      exact first.trans (ih (consistent.kept (request_transition registry request)))

/-- Histories are append-only.  Whatever came before, the next request adds at most one record, to
the template that it is about, and it adds one exactly if it succeeds and brings parameters that are
not in force.  An edit without such parameters leaves the version, the parameters and every history
as they are. -/
theorem histories_append_only (limits : Limits) (defaultSampleSize : Binary64)
    (requests : List RegistryRequest) (request : RegistryRequest) :
    OnlyAppends request ((fresh limits defaultSampleSize).run requests)
      (request.action.perform ((fresh limits defaultSampleSize).run requests)) :=
  ((run_consistent limits defaultSampleSize requests).effect request).onlyAppends

/-- A request that fails leaves every revision and every history as it was, although revisions are
stored before versions are recorded: by then nothing can fail any more. -/
theorem failed_request_changes_nothing (limits : Limits) (defaultSampleSize : Binary64)
    (requests : List RegistryRequest) (request : RegistryRequest) (fault : RegistryFault)
    (failed : (request.action.perform ((fresh limits defaultSampleSize).run requests)).1 =
      .error fault) :
    (request.action.perform ((fresh limits defaultSampleSize).run requests)).2 =
        (fresh limits defaultSampleSize).run requests ∧
      ∀ faults, fault ≠ .unrecorded faults :=
  ((run_consistent limits defaultSampleSize requests).effect request).unchanged_of_error failed

/-! ### Registrations -/

/-- One template more, with one record, and nothing else. -/
structure Adds (template : QualityTemplate) (version : TemplateVersion)
    (before after : Registry) : Prop where
  revisions : after.revisions = before.revisions ++ [(template.templateId, template)]
  latest : after.latest? template.templateId = some template
  history : after.history template.templateId = [version]
  others : Confined template.templateId before after
  settings : after.limits = before.limits ∧ after.defaultSampleSize = before.defaultSampleSize

theorem Consistent.adds (consistent : registry.Consistent) {template : QualityTemplate}
    {version : TemplateVersion} (about : version.templateId = template.templateId)
    (free : registry.latest? template.templateId = none) :
    Adds template version registry
      ((registry.withRevision template.templateId template).withVersion version) := by
  have unrecorded : registry.history template.templateId = [] := by
    have chronicle := consistent template.templateId
    rw [free] at chronicle
    exact chronicle.history_eq_nil
  refine ⟨alter_of_unknown free, ?_, ?_, ?_, ⟨rfl, rfl⟩⟩
  · simp
  · simp [about, unrecorded]
  · constructor
    · intro other different
      simp [different]
    · intro other different
      simp [about, different]

theorem perform_register_of_valid {template first : QualityTemplate}
    (firstEq : first = template.asFirstVersion registry.defaultSampleSize)
    (free : registry.latest? template.templateId = none)
    (valid : registry.requireValid first = .ok ()) (description : String) (versionId : Identifier)
    (now : Timestamp) :
    (RegistryAction.register template description versionId now).perform registry =
      (.ok first, (registry.withRevision first.templateId first).withVersion
        (first.recorded first.templateId versionId first.createdBy description now)) := by
  subst firstEq
  simp [RegistryAction.perform_register, free, valid]

theorem held_after_register {limits : Limits} {defaultSampleSize : Binary64}
    {template first : QualityTemplate} {report : TemplateReport}
    (firstEq : first = template.asFirstVersion defaultSampleSize)
    (judged : first.validate limits = .ok report) (valid : report.isValid = true)
    (description : String) (versionId : Identifier) (now : Timestamp) :
    ((fresh limits defaultSampleSize).run [.register template description versionId now]).latest?
        template.templateId = some first ∧
      ((fresh limits defaultSampleSize).run [.register template description versionId now]).history
        template.templateId =
          [first.recorded first.templateId versionId first.createdBy description now] := by
  have required : (fresh limits defaultSampleSize).requireValid first = .ok () :=
    requireValid_eq_ok_iff.2 ⟨report, judged, valid⟩
  have performed := perform_register_of_valid firstEq rfl required description versionId now
  have id : first.templateId = template.templateId := by
    rw [firstEq, QualityTemplate.asFirstVersion_templateId]
  have adds : Adds first (first.recorded first.templateId versionId first.createdBy description now)
      (fresh limits defaultSampleSize) _ := (fresh_consistent limits defaultSampleSize).adds rfl rfl
  simp only [run, List.foldl_cons, List.foldl_nil, RegistryRequest.action, performed, ← id]
  exact ⟨adds.latest, adds.history⟩

def washedLotRequest : RegistryRequest :=
  .register washedLot initialDescription ⟨3⟩ QualityTemplate.newYear

def uncupped : TemplateEdit where
  parameters := some { washedLot.parameters with cuppingAttributes := [] }

def uncuppedRequest : RegistryRequest :=
  .save ⟨1⟩ ⟨2⟩ uncupped none ⟨4⟩ QualityTemplate.newYear

def uncuppedFault : RegistryFault :=
  .invalid ⟨1⟩ ["At least one cupping attribute is required"]

theorem washedLot_registered :
    ((fresh {} 300).run [washedLotRequest]).latest? ⟨1⟩ = some (washedLot.asFirstVersion 300) := by
  have judged : (washedLot.asFirstVersion 300).validate {} = .ok ⟨[], []⟩ := by
    decide +kernel
  exact (held_after_register rfl judged rfl initialDescription ⟨3⟩ QualityTemplate.newYear).1

theorem uncupped_refused :
    (uncuppedRequest.action.perform ((fresh {} 300).run [washedLotRequest])).1 =
      .error uncuppedFault := by
  have judged : (uncupped.apply (washedLot.asFirstVersion 300) QualityTemplate.newYear).validate {}
      = .ok ⟨["At least one cupping attribute is required"], []⟩ := by
    decide +kernel
  generalize lots : (fresh {} 300).run [washedLotRequest] = registry
  have limits : registry.limits = {} := lots ▸ (run_settings {} 300 _).1
  have known : registry.latest? ⟨1⟩ = some (washedLot.asFirstVersion 300) :=
    lots ▸ washedLot_registered
  rw [← limits] at judged
  have refused := requireValid_of_validate judged
  simp only [uncuppedRequest, RegistryRequest.action, RegistryAction.perform_save, known, refused]
  rfl

theorem uncupped_changes_nothing :
    (uncuppedRequest.action.perform ((fresh {} 300).run [washedLotRequest])).1 =
        .error uncuppedFault ∧
      (uncuppedRequest.action.perform ((fresh {} 300).run [washedLotRequest])).2 =
        (fresh {} 300).run [washedLotRequest] ∧
      ∀ faults, uncuppedFault ≠ .unrecorded faults :=
  ⟨uncupped_refused, failed_request_changes_nothing {} 300 [washedLotRequest] uncuppedRequest
    uncuppedFault uncupped_refused⟩

end Registry
end CoffeeGrading
