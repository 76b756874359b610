import CoffeeGrading.Registry

/-!
What one request does to a registry.  Each operation has an equation for how it ends and what it
leaves behind; together they say that a request is refused, registers a template, or stores an edit
with or without a new version.
-/

namespace CoffeeGrading

namespace QualityTemplate

variable (template : QualityTemplate)

@[simp] theorem asFirstVersion_templateId (size : Binary64) :
    (template.asFirstVersion size).templateId = template.templateId := by
  rfl

@[simp] theorem asFirstVersion_version (size : Binary64) :
    (template.asFirstVersion size).version = 1 := by
  rfl

@[simp] theorem recorded_templateId (id versionId author : Identifier) (description : String)
    (now : Timestamp) :
    (template.recorded id versionId author description now).templateId = id := by
  rfl

@[simp] theorem recorded_versionNumber (id versionId author : Identifier) (description : String)
    (now : Timestamp) :
    (template.recorded id versionId author description now).versionNumber = template.version := by
  rfl

@[simp] theorem recorded_parameters (id versionId author : Identifier) (description : String)
    (now : Timestamp) :
    (template.recorded id versionId author description now).parameters = template.parameters := by
  rfl

end QualityTemplate

namespace RegistryAction

variable {Value Result : Type} (registry : Registry)

@[simp] theorem perform_pure (value : Value) :
    (pure value : RegistryAction Value).perform registry = (.ok value, registry) := by
  rfl

@[simp] theorem perform_get :
    (get : RegistryAction Registry).perform registry = (.ok registry, registry) := by
  rfl

@[simp] theorem perform_throw (fault : RegistryFault) :
    (throw fault : RegistryAction Value).perform registry = (.error fault, registry) := by
  rfl

@[simp] theorem perform_lift (result : Except RegistryFault Value) :
    (liftM result : RegistryAction Value).perform registry = (result, registry) := by
  rfl

@[simp] theorem perform_bind (action : RegistryAction Value)
    (next : Value → RegistryAction Result) :
    (action >>= next).perform registry =
      match action.perform registry with
      | (.ok value, middle) => (next value).perform middle
      | (.error fault, middle) => (.error fault, middle) := by
  simp only [perform, ExceptT.run_bind, StateT.run_bind]
  generalize action.run.run registry = ending
  obtain ⟨result, middle⟩ := ending
  cases result with
  | ok value => rfl
  | error fault => rfl

@[simp] theorem perform_map (action : RegistryAction Value) (change : Value → Result) :
    (change <$> action).perform registry =
      match action.perform registry with
      | (.ok value, middle) => (.ok (change value), middle)
      | (.error fault, middle) => (.error fault, middle) := by
  rw [map_eq_pure_bind, perform_bind]
  rfl

@[simp] theorem perform_storeRevision (id : Identifier) (template : QualityTemplate) :
    (storeRevision id template).perform registry = (.ok (), registry.withRevision id template) := by
  rfl

theorem perform_appendVersion (version : TemplateVersion) :
    (appendVersion version).perform registry =
      if 1 ≤ version.versionNumber then (.ok (), registry.withVersion version)
      else (.error (.unrecorded [⟨["version_number"], .belowOne⟩]), registry) := by
  by_cases counted : 1 ≤ version.versionNumber
  · simp only [appendVersion, TemplateVersion.checked, counted, if_true]
    rfl
  · simp only [appendVersion, TemplateVersion.checked, counted, if_false]
    rfl

theorem perform_register (template : QualityTemplate) (description : String)
    (versionId : Identifier) (now : Timestamp) :
    (register template description versionId now).perform registry =
      if (registry.latest? template.templateId).isSome then
        (.error (.taken template.templateId), registry)
      else
        let first := template.asFirstVersion registry.defaultSampleSize
        match registry.requireValid first with
        | .error fault => (.error fault, registry)
        | .ok () =>
          (.ok first, (registry.withRevision first.templateId first).withVersion
            (first.recorded first.templateId versionId first.createdBy description now)) := by
  by_cases taken : (registry.latest? template.templateId).isSome
  · simp [register, taken]
  · cases judged : registry.requireValid (template.asFirstVersion registry.defaultSampleSize) with
    | error fault => simp [register, taken, judged]
    | ok => simp [register, taken, judged, perform_appendVersion]

theorem perform_save (id actor : Identifier) (edit : TemplateEdit) (description : Option String)
    (versionId : Identifier) (now : Timestamp) :
    (save id actor edit description versionId now).perform registry =
      match registry.latest? id with
      | none => (.error (.unknown id), registry)
      | some current =>
        let edited := edit.apply current now
        match registry.requireValid edited with
        | .error fault => (.error fault, registry)
        | .ok () =>
          if (edit.newParameters? current).isNone then
            (.ok edited, registry.withRevision id edited)
          else if 1 ≤ edited.version then
            (.ok edited, (registry.withRevision id edited).withVersion (edited.recorded id versionId
              actor (Registry.editDescription description edited.version) now))
          else
            (.error (.unrecorded [⟨["version_number"], .belowOne⟩]),
              registry.withRevision id edited) := by
  cases known : registry.latest? id with
  | none => simp [save, Registry.latest, known]
  | some current =>
      cases judged : registry.requireValid (edit.apply current now) with
      | error fault => simp [save, Registry.latest, known, judged]
      | ok =>
          cases changed : edit.newParameters? current with
          | none => simp [save, Registry.latest, known, judged, changed]
          | some parameters =>
              by_cases counted : 1 ≤ (edit.apply current now).version
              · simp [save, Registry.latest, known, judged, changed, counted,
                  perform_appendVersion]
              · simp [save, Registry.latest, known, judged, changed, counted,
                  perform_appendVersion]

theorem perform_clone (id actor : Identifier) (name : Option LocalizedText)
    (sharing : Option SharingScope) (templateId versionId : Identifier) (now : Timestamp) :
    (clone id actor name sharing templateId versionId now).perform registry =
      match registry.latest? id with
      | none => (.error (.unknown id), registry)
      | some source =>
        (register (source.clone templateId actor name sharing now)
          s!"Cloned from template: {source.name.en}" versionId now).perform registry := by
  cases known : registry.latest? id with
  | none => simp [clone, Registry.latest, known]
  | some source => simp [clone, Registry.latest, known]

end RegistryAction

namespace Registry

variable (registry : Registry)

@[simp] theorem latest?_withRevision (id other : Identifier) (template : QualityTemplate) :
    (registry.withRevision id template).latest? other =
      if other = id then some template else registry.latest? other := by
  simp [latest?, withRevision, lookup_alter]

@[simp] theorem history_withRevision (id other : Identifier) (template : QualityTemplate) :
    (registry.withRevision id template).history other = registry.history other := by
  rfl

@[simp] theorem latest?_withVersion (version : TemplateVersion) (other : Identifier) :
    (registry.withVersion version).latest? other = registry.latest? other := by
  rfl

@[simp] theorem history_withVersion (version : TemplateVersion) (other : Identifier) :
    (registry.withVersion version).history other =
      if other = version.templateId then registry.history other ++ [version]
      else registry.history other := by
  by_cases same : other = version.templateId
  · simp [history, withVersion, lookup_alter, same]
  · simp [history, withVersion, lookup_alter, same]

end Registry

inductive RegistryRequest where
  | register (template : QualityTemplate) (description : String) (versionId : Identifier)
      (now : Timestamp)
  | save (id actor : Identifier) (edit : TemplateEdit) (description : Option String)
      (versionId : Identifier) (now : Timestamp)
  | clone (id actor : Identifier) (name : Option LocalizedText) (sharing : Option SharingScope)
      (templateId versionId : Identifier) (now : Timestamp)

def RegistryRequest.action : RegistryRequest → RegistryAction QualityTemplate
  | register template description versionId now => .register template description versionId now
  | save id actor edit description versionId now =>
    .save id actor edit description versionId now
  | clone id actor name sharing templateId versionId now =>
    .clone id actor name sharing templateId versionId now

namespace Registry

/-- How a request may end, and the registry it may leave. -/
inductive Transition (registry : Registry) : Except RegistryFault QualityTemplate × Registry → Prop
  | refused (fault : RegistryFault) : Transition registry (.error fault, registry)
  | registered (template : QualityTemplate) (description : String) (versionId : Identifier)
      (now : Timestamp) (first : QualityTemplate)
      (firstEq : first = template.asFirstVersion registry.defaultSampleSize)
      (unknown : registry.latest? template.templateId = none)
      (valid : registry.requireValid first = .ok ()) :
      Transition registry (.ok first, (registry.withRevision first.templateId first).withVersion
        (first.recorded first.templateId versionId first.createdBy description now))
  | retained (id : Identifier) (edit : TemplateEdit) (now : Timestamp)
      (current edited : QualityTemplate) (editedEq : edited = edit.apply current now)
      (known : registry.latest? id = some current)
      (valid : registry.requireValid edited = .ok ())
      (unchanged : edit.newParameters? current = none) :
      Transition registry (.ok edited, registry.withRevision id edited)
  | advanced (id actor : Identifier) (edit : TemplateEdit) (description : String)
      (versionId : Identifier) (now : Timestamp) (current edited : QualityTemplate)
      (parameters : TemplateParameters) (editedEq : edited = edit.apply current now)
      (known : registry.latest? id = some current)
      (valid : registry.requireValid edited = .ok ())
      (changed : edit.newParameters? current = some parameters)
      (counted : 1 ≤ edited.version) :
      Transition registry (.ok edited, (registry.withRevision id edited).withVersion
        (edited.recorded id versionId actor description now))
  | halted (id : Identifier) (edit : TemplateEdit) (now : Timestamp) (fault : RegistryFault)
      (current edited : QualityTemplate) (parameters : TemplateParameters)
      (editedEq : edited = edit.apply current now)
      (known : registry.latest? id = some current)
      (valid : registry.requireValid edited = .ok ())
      (changed : edit.newParameters? current = some parameters)
      (uncounted : ¬ 1 ≤ edited.version) :
      Transition registry (.error fault, registry.withRevision id edited)

theorem register_transition (registry : Registry) (template : QualityTemplate)
    (description : String) (versionId : Identifier) (now : Timestamp) :
    Transition registry
      ((RegistryAction.register template description versionId now).perform registry) := by
  rw [RegistryAction.perform_register]
  cases known : registry.latest? template.templateId with
  | some current => exact .refused _
  | none =>
      cases judged : registry.requireValid (template.asFirstVersion registry.defaultSampleSize) with
      | error fault => simpa [judged] using Transition.refused fault
      | ok =>
          simpa [judged] using
            Transition.registered template description versionId now _ rfl known judged

theorem save_transition (registry : Registry) (id actor : Identifier) (edit : TemplateEdit)
    (description : Option String) (versionId : Identifier) (now : Timestamp) :
    Transition registry
      ((RegistryAction.save id actor edit description versionId now).perform registry) := by
  rw [RegistryAction.perform_save]
  cases known : registry.latest? id with
  | none => exact .refused _
  | some current =>
      cases judged : registry.requireValid (edit.apply current now) with
      | error fault => simpa [judged] using Transition.refused fault
      | ok =>
          cases changed : edit.newParameters? current with
          | none =>
              simpa [judged, changed] using
                Transition.retained id edit now current _ rfl known judged changed
          | some parameters =>
              by_cases counted : 1 ≤ (edit.apply current now).version
              · simpa [judged, changed, counted] using
                  Transition.advanced id actor edit _ versionId now current _ parameters rfl
                    known judged changed counted
              · simpa [judged, changed, counted] using
                  Transition.halted id edit now _ current _ parameters rfl known judged changed
                    counted

theorem request_transition (registry : Registry) (request : RegistryRequest) :
    Transition registry (request.action.perform registry) := by
  cases request with
  | register template description versionId now =>
      exact register_transition registry template description versionId now
  | save id actor edit description versionId now =>
      exact save_transition registry id actor edit description versionId now
  | clone id actor name sharing templateId versionId now =>
      simp only [RegistryRequest.action, RegistryAction.perform_clone]
      cases known : registry.latest? id with
      | none => exact .refused _
      | some source => exact register_transition registry _ _ versionId now

def run (registry : Registry) (requests : List RegistryRequest) : Registry :=
  requests.foldl (fun current request => (request.action.perform current).2) registry

theorem run_append (registry : Registry) (earlier later : List RegistryRequest) :
    registry.run (earlier ++ later) = (registry.run earlier).run later :=
  List.foldl_append

/-- What holds at first and is kept by every transition holds after every run. -/
theorem run_induction (invariant : Registry → Prop) (registry : Registry)
    (initially : invariant registry)
    (kept : ∀ current ending, Transition current ending → invariant current → invariant ending.2)
    (requests : List RegistryRequest) : invariant (registry.run requests) := by
  induction requests generalizing registry with
  | nil => exact initially
  | cons request rest ih =>
      exact ih _ (kept _ _ (request_transition registry request) initially)

end Registry
end CoffeeGrading
