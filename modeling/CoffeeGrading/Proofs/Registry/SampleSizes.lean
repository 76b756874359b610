import CoffeeGrading.Proofs.Registry.Stored

/-!
The sample size that the defect limits of a template refer to.  A registration and a copy fill in
the default where none is declared; an edit stores its parameters as they come.  A registry holds
parameters without a sample size from the first edit that brings some.
-/

namespace CoffeeGrading

namespace RegistryRequest

def sampleSize? (registry : Registry) (defaultSampleSize : Binary64) :
    RegistryRequest → Option Binary64
  | register template _ _ _ =>
    some (template.parameters.sampleSizeGrams.getD defaultSampleSize)
  | save id _ edit _ _ _ => (registry.latest? id).bind fun current =>
    ((edit.newParameters? current).getD current.parameters).sampleSizeGrams
  | clone id _ _ _ _ _ _ => (registry.latest? id).map fun source =>
    source.parameters.sampleSizeGrams.getD defaultSampleSize

/-- An edit that is carried out with new parameters in which no sample size is set. -/
def UnsetsSampleSize (registry : Registry) : RegistryRequest → Prop
  | register .. => False
  | save id actor edit description versionId now =>
    (∃ edited, ((RegistryAction.save id actor edit description versionId now).perform registry).1 =
      .ok edited) ∧
    ∃ current parameters, registry.latest? id = some current ∧
      edit.newParameters? current = some parameters ∧ parameters.sampleSizeGrams = none
  | clone .. => False

end RegistryRequest

namespace Registry

variable {registry : Registry}

theorem eq_of_registered {template stored : QualityTemplate} {description : String}
    {versionId : Identifier} {now : Timestamp}
    (done : ((RegistryAction.register template description versionId now).perform registry).1 =
      .ok stored) : stored = template.asFirstVersion registry.defaultSampleSize := by
  rw [RegistryAction.perform_register] at done
  split at done
  · cases done
  · dsimp only at done
    split at done
    · cases done
    · exact (Except.ok.inj done).symm

theorem eq_of_saved {id actor : Identifier} {edit : TemplateEdit} {description : Option String}
    {versionId : Identifier} {now : Timestamp} {stored : QualityTemplate}
    (done : ((RegistryAction.save id actor edit description versionId now).perform registry).1 =
      .ok stored) :
    ∃ current, registry.latest? id = some current ∧
      registry.requireValid stored = .ok () ∧ stored = edit.apply current now := by
  rw [RegistryAction.perform_save] at done
  split at done
  · cases done
  · next current known =>
      dsimp only at done
      split at done
      · cases done
      · next judged =>
          have same : edit.apply current now = stored := by
            split at done
            · exact Except.ok.inj done
            · split at done
              · exact Except.ok.inj done
              · cases done
          exact ⟨current, known, same ▸ judged, same.symm⟩

theorem sampleSize_of_done {request : RegistryRequest} {stored : QualityTemplate}
    (done : (request.action.perform registry).1 = .ok stored) :
    stored.parameters.sampleSizeGrams =
      request.sampleSize? registry registry.defaultSampleSize := by
  cases request with
  | register template description versionId now =>
      rw [eq_of_registered done]
      rfl
  | save id actor edit description versionId now =>
      obtain ⟨current, known, _, rfl⟩ := eq_of_saved done
      simp only [RegistryRequest.sampleSize?, known, Option.bind_some]
      cases changed : edit.newParameters? current with
      | none => rw [edit.apply_parameters_of_unchanged current now changed, Option.getD_none]
      | some parameters =>
          rw [edit.apply_parameters_of_changed current now changed, Option.getD_some]
  | clone id actor name sharing templateId versionId now =>
      simp only [RegistryRequest.action, RegistryAction.perform_clone] at done
      cases known : registry.latest? id with
      | none =>
          rw [known] at done
          cases done
      | some source =>
          simp only [known] at done
          rw [eq_of_registered done]
          simp [RegistryRequest.sampleSize?, known, QualityTemplate.asFirstVersion,
            QualityTemplate.clone]

theorem Consistent.perform_save_of_new (consistent : registry.Consistent) {id : Identifier}
    {edit : TemplateEdit} {current : QualityTemplate} {parameters : TemplateParameters}
    {now : Timestamp} (known : registry.latest? id = some current)
    (valid : registry.requireValid (edit.apply current now) = .ok ())
    (changed : edit.newParameters? current = some parameters) (actor : Identifier)
    (description : Option String) (versionId : Identifier) :
    (RegistryAction.save id actor edit description versionId now).perform registry =
      (.ok (edit.apply current now),
        (registry.withRevision id (edit.apply current now)).withVersion
          ((edit.apply current now).recorded id versionId actor
            (editDescription description (edit.apply current now).version) now)) := by
  have before := (consistent id).counted known
  have next := edit.apply_version_of_changed current now changed
  have counted : 1 ≤ (edit.apply current now).version := by omega
  simp [RegistryAction.perform_save, known, valid, changed, counted]

theorem Consistent.set_of_brought (consistent : registry.Consistent) {request : RegistryRequest}
    {parameters : TemplateParameters} (brought : registry.Brings request parameters)
    (keeps : ¬ request.UnsetsSampleSize registry) :
    parameters.sampleSizeGrams.isSome = true := by
  cases brought with
  | registered | cloned => rfl
  | saved actor description versionId now known valid changed =>
      rw [Option.isSome_iff_ne_none]
      intro unset
      have performed :=
        consistent.perform_save_of_new known valid changed actor description versionId
      exact keeps ⟨⟨_, congrArg Prod.fst performed⟩, _, _, known, changed, unset⟩

theorem Consistent.recorded_of_unset (consistent : registry.Consistent)
    {request : RegistryRequest} (unsets : request.UnsetsSampleSize registry) :
    ∃ id, ∃ version ∈ (request.action.perform registry).2.history id,
      version.parameters.sampleSizeGrams = none := by
  cases request with
  | register | clone => exact unsets.elim
  | save id actor edit description versionId now =>
      obtain ⟨⟨edited, done⟩, current, parameters, known, changed, unset⟩ := unsets
      obtain ⟨other, alsoKnown, valid, rfl⟩ := eq_of_saved done
      obtain rfl := Option.some.inj (known.symm.trans alsoKnown)
      have performed :=
        consistent.perform_save_of_new known valid changed actor description versionId
      refine ⟨id, (edit.apply current now).recorded id versionId actor
        (editDescription description (edit.apply current now).version) now, ?_, ?_⟩
      · simp [RegistryRequest.action, performed]
      · simpa [edit.apply_parameters_of_changed current now changed] using unset

/-- A request that succeeds leaves its template with the sample size that was declared, and only a
registration or a copy falls back on the default where none was.  So every revision and every
record of a run has a sample size exactly if no edit was carried out that brought new parameters
without one. -/
theorem sample_sizes_set_iff (limits : Limits) (defaultSampleSize : Binary64)
    (requests : List RegistryRequest) :
    (∀ (request : RegistryRequest) (stored : QualityTemplate),
      (request.action.perform ((fresh limits defaultSampleSize).run requests)).1 = .ok stored →
        stored.parameters.sampleSizeGrams =
          request.sampleSize? ((fresh limits defaultSampleSize).run requests)
            defaultSampleSize) ∧
    ((∀ parameters, ((fresh limits defaultSampleSize).run requests).Stored parameters →
        parameters.sampleSizeGrams.isSome = true) ↔
      ∀ earlier request later, requests = earlier ++ request :: later →
        ¬ request.UnsetsSampleSize ((fresh limits defaultSampleSize).run earlier)) := by
  constructor
  · intro request stored done
    have size := sampleSize_of_done done
    rwa [(run_settings limits defaultSampleSize requests).2] at size
  · constructor
    · rintro set earlier request later rfl unsets
      have consistent := run_consistent limits defaultSampleSize earlier
      obtain ⟨id, version, listed, unset⟩ := consistent.recorded_of_unset unsets
      have next := consistent.kept (request_transition _ request)
      have stays : version ∈
          ((fresh limits defaultSampleSize).run (earlier ++ request :: later)).history id := by
        rw [run_append]
        exact (next.history_prefix_run later id).subset listed
      have known := set version.parameters (.recorded stays)
      simp [unset] at known
    · intro keeps
      refine stored_after_run (fun _ stored => absurd stored (not_stored_fresh _ _)) requests ?_
      intro earlier request later split _ parameters brought
      exact (run_consistent limits defaultSampleSize earlier).set_of_brought brought
        (keeps earlier request later split)

theorem washedLot_sized :
    ((fresh {} 300).run [washedLotRequest]).latest? ⟨1⟩ = some (washedLot.asFirstVersion 300) ∧
      ∀ parameters, ((fresh {} 300).run [washedLotRequest]).Stored parameters →
        parameters.sampleSizeGrams.isSome = true := by
  refine ⟨washedLot_registered, (sample_sizes_set_iff {} 300 [washedLotRequest]).2.2 ?_⟩
  intro earlier request later split unsets
  have listed : request ∈ [washedLotRequest] := by simp [split]
  rw [List.mem_singleton.1 listed] at unsets
  exact unsets

def unsized : TemplateEdit where
  parameters := some { washedLot.parameters with maxQuakers := some 3 }

def unsizedRequest : RegistryRequest :=
  .save ⟨1⟩ ⟨2⟩ unsized none ⟨4⟩ QualityTemplate.newYear

def unsizedLot : QualityTemplate :=
  unsized.apply (washedLot.asFirstVersion 300) QualityTemplate.newYear

def unsizedVersion : TemplateVersion :=
  unsizedLot.recorded ⟨1⟩ ⟨4⟩ ⟨2⟩ (editDescription none unsizedLot.version) QualityTemplate.newYear

theorem unsized_performed :
    unsizedRequest.action.perform ((fresh {} 300).run [washedLotRequest]) =
      (.ok unsizedLot, (((fresh {} 300).run [washedLotRequest]).withRevision ⟨1⟩
        unsizedLot).withVersion unsizedVersion) := by
  have judged : unsizedLot.validate {} = .ok ⟨[], []⟩ := by decide +kernel
  have limits := (run_settings {} 300 [washedLotRequest]).1
  rw [← limits] at judged
  have changed : unsized.newParameters? (washedLot.asFirstVersion 300) =
      some { washedLot.parameters with maxQuakers := some 3 } :=
    (unsized.newParameters?_eq_some_iff _ _).2 ⟨rfl, by decide +kernel⟩
  exact (run_consistent {} 300 [washedLotRequest]).perform_save_of_new washedLot_registered
    (requireValid_eq_ok_iff.2 ⟨_, judged, rfl⟩) changed ⟨2⟩ none ⟨4⟩

theorem unsized_save_unsets_sampleSize :
    (0 : Binary64) < 300 ∧
      (∃ template,
        ((fresh {} 300).run [washedLotRequest, unsizedRequest]).latest? ⟨1⟩ = some template ∧
        template.parameters.sampleSizeGrams = none) ∧
      ∃ version ∈ ((fresh {} 300).run [washedLotRequest, unsizedRequest]).history ⟨1⟩,
        version.parameters.sampleSizeGrams = none := by
  have last : (fresh {} 300).run [washedLotRequest, unsizedRequest] =
      (unsizedRequest.action.perform ((fresh {} 300).run [washedLotRequest])).2 := rfl
  rw [last, unsized_performed]
  exact ⟨by decide +kernel, ⟨unsizedLot, by simp, by decide +kernel⟩,
    ⟨unsizedVersion, by simp [unsizedVersion], by decide +kernel⟩⟩

end Registry
end CoffeeGrading
