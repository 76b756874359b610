import CoffeeGrading.Proofs.Registry.Effects

/-!
The parameters that a registry holds, in force or on record, and where they come from.  All of them
were brought by a request: a registration brings those of its template, a copy those of its source,
both with the sample size filled in, and an edit brings its own as they are.
-/

namespace CoffeeGrading

namespace Registry

/-- The parameters of a current revision or of a recorded version. -/
inductive Stored (registry : Registry) : TemplateParameters → Prop where
  | current {id : Identifier} {template : QualityTemplate}
      (known : registry.latest? id = some template) : registry.Stored template.parameters
  | recorded {id : Identifier} {version : TemplateVersion}
      (listed : version ∈ registry.history id) : registry.Stored version.parameters

/-- The parameters that a request puts in force where it is carried out. -/
inductive Brings (registry : Registry) : RegistryRequest → TemplateParameters → Prop where
  | registered (template : QualityTemplate) (description : String) (versionId : Identifier)
      (now : Timestamp) :
      registry.Brings (.register template description versionId now)
        (template.asFirstVersion registry.defaultSampleSize).parameters
  | saved {id : Identifier} {edit : TemplateEdit} {current : QualityTemplate}
      {parameters : TemplateParameters} (actor : Identifier) (description : Option String)
      (versionId : Identifier) (now : Timestamp) (known : registry.latest? id = some current)
      (valid : registry.requireValid (edit.apply current now) = .ok ())
      (changed : edit.newParameters? current = some parameters) :
      registry.Brings (.save id actor edit description versionId now) parameters
  | cloned {id : Identifier} {source : QualityTemplate} (actor : Identifier)
      (name : Option LocalizedText) (sharing : Option SharingScope)
      (templateId versionId : Identifier) (now : Timestamp)
      (known : registry.latest? id = some source) :
      registry.Brings (.clone id actor name sharing templateId versionId now)
        (source.asFirstVersion registry.defaultSampleSize).parameters

variable {registry : Registry} {parameters : TemplateParameters}

theorem not_stored_fresh (limits : Limits) (defaultSampleSize : Binary64) :
    ¬ (fresh limits defaultSampleSize).Stored parameters := by
  intro stored
  cases stored with
  | current known => cases known
  | recorded listed => cases listed

theorem Stored.of_withRevision {id : Identifier} {template : QualityTemplate}
    (stored : (registry.withRevision id template).Stored parameters) :
    registry.Stored parameters ∨ parameters = template.parameters := by
  cases stored with
  | @current other found known =>
      rw [latest?_withRevision] at known
      split at known
      · obtain rfl := Option.some.inj known
        exact .inr rfl
      · exact .inl (.current known)
  | recorded listed => exact .inl (.recorded listed)

theorem Stored.of_withVersion {version : TemplateVersion}
    (stored : (registry.withVersion version).Stored parameters) :
    registry.Stored parameters ∨ parameters = version.parameters := by
  cases stored with
  | current known => exact .inl (.current known)
  | recorded listed =>
      rw [history_withVersion] at listed
      split at listed
      · rcases List.mem_append.1 listed with earlier | last
        · exact .inl (.recorded earlier)
        · rw [List.mem_singleton.1 last]
          exact .inr rfl
      · exact .inl (.recorded listed)

theorem Stored.of_register {template : QualityTemplate} {description : String}
    {versionId : Identifier} {now : Timestamp}
    (stored : ((RegistryAction.register template description versionId now).perform
      registry).2.Stored parameters) :
    registry.Stored parameters ∨
      parameters = (template.asFirstVersion registry.defaultSampleSize).parameters := by
  rw [RegistryAction.perform_register] at stored
  split at stored
  · exact .inl stored
  · dsimp only at stored
    split at stored
    · exact .inl stored
    · rcases stored.of_withVersion with earlier | same
      · exact earlier.of_withRevision
      · exact .inr same

theorem left_by_save (registry : Registry) (id actor : Identifier) (edit : TemplateEdit)
    (description : Option String) (versionId : Identifier) (now : Timestamp) :
    ((RegistryAction.save id actor edit description versionId now).perform registry).2 = registry ∨
      ∃ current, registry.latest? id = some current ∧
        registry.requireValid (edit.apply current now) = .ok () ∧
        (((RegistryAction.save id actor edit description versionId now).perform registry).2 =
            registry.withRevision id (edit.apply current now) ∨
          ∃ version, version.parameters = (edit.apply current now).parameters ∧
            ((RegistryAction.save id actor edit description versionId now).perform registry).2 =
              (registry.withRevision id (edit.apply current now)).withVersion version) := by
  rw [RegistryAction.perform_save]
  split
  · exact .inl rfl
  · next current known =>
      dsimp only
      split
      · exact .inl rfl
      · next valid =>
          refine .inr ⟨current, known, valid, ?_⟩
          split
          · exact .inl rfl
          · split
            · exact .inr ⟨_, rfl, rfl⟩
            · exact .inl rfl

theorem Stored.of_save {id actor : Identifier} {edit : TemplateEdit} {description : Option String}
    {versionId : Identifier} {now : Timestamp}
    (stored : ((RegistryAction.save id actor edit description versionId now).perform
      registry).2.Stored parameters) :
    registry.Stored parameters ∨
      registry.Brings (.save id actor edit description versionId now) parameters := by
  rcases left_by_save registry id actor edit description versionId now with
    same | ⟨current, known, valid, left⟩
  · exact .inl (same ▸ stored)
  · have held : registry.Stored parameters ∨
        parameters = (edit.apply current now).parameters := by
      rcases left with left | ⟨version, same, left⟩
      · exact (left ▸ stored).of_withRevision
      · rcases (left ▸ stored).of_withVersion with earlier | equal
        · exact earlier.of_withRevision
        · exact .inr (equal.trans same)
    rcases held with earlier | rfl
    · exact .inl earlier
    · cases changed : edit.newParameters? current with
      | none =>
          rw [edit.apply_parameters_of_unchanged current now changed]
          exact .inl (.current known)
      | some brought =>
          rw [edit.apply_parameters_of_changed current now changed]
          exact .inr (.saved actor description versionId now known valid changed)

theorem Stored.of_request {request : RegistryRequest}
    (stored : (request.action.perform registry).2.Stored parameters) :
    registry.Stored parameters ∨ registry.Brings request parameters := by
  cases request with
  | register template description versionId now =>
      rcases stored.of_register with earlier | rfl
      · exact .inl earlier
      · exact .inr (.registered template description versionId now)
  | save id actor edit description versionId now => exact stored.of_save
  | clone id actor name sharing templateId versionId now =>
      simp only [RegistryRequest.action, RegistryAction.perform_clone] at stored
      cases known : registry.latest? id with
      | none =>
          rw [known] at stored
          exact .inl stored
      | some source =>
          simp only [known] at stored
          rcases stored.of_register with earlier | rfl
          · exact .inl earlier
          · right
            change registry.Brings _ (source.asFirstVersion registry.defaultSampleSize).parameters
            exact .cloned actor name sharing templateId versionId now known

theorem stored_after_run {Fit : TemplateParameters → Prop}
    (initially : ∀ parameters, registry.Stored parameters → Fit parameters)
    (requests : List RegistryRequest)
    (brought : ∀ earlier request later, requests = earlier ++ request :: later →
      (∀ parameters, (registry.run earlier).Stored parameters → Fit parameters) →
      ∀ parameters, (registry.run earlier).Brings request parameters → Fit parameters) :
    ∀ parameters, (registry.run requests).Stored parameters → Fit parameters := by
  induction requests generalizing registry with
  | nil => exact initially
  | cons request rest ih =>
      change ∀ parameters,
        ((request.action.perform registry).2.run rest).Stored parameters → Fit parameters
      refine ih ?_ ?_
      · intro parameters stored
        rcases stored.of_request with earlier | new
        · exact initially parameters earlier
        · exact brought [] request rest rfl initially parameters new
      · intro earlier next later split
        exact brought (request :: earlier) next later (by rw [split, List.cons_append])

end Registry
end CoffeeGrading
