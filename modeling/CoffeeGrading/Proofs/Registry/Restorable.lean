import CoffeeGrading.Proofs.Registry.Preflight
import CoffeeGrading.Proofs.Registry.Stored
import CoffeeGrading.Proofs.Template.Written
import CoffeeGrading.Settings

/-!
Reading back what a registry holds.  Numbers that come from documents are finite.  The sample size
that is filled in comes from the settings, which ask for a number above zero and take an infinite
one; what carries it is held, but cannot be read back.
-/

namespace CoffeeGrading

def RegistryRequest.OfDocuments : RegistryRequest → Prop
  | register template _ _ _ =>
    ∃ document supply, (QualityTemplate.read document supply).1 = .good template
  | save _ _ edit _ _ _ => ∀ parameters, edit.parameters = some parameters →
    ∃ document supply, (TemplateParameters.read document supply).1 = .good parameters
  | clone .. => True

namespace TemplateParameters

/-- Parameters that are written without loss, or would be but for a sample size that was filled
in. -/
structure WritableBut (filledIn : Binary64) (parameters : TemplateParameters) : Prop where
  others : Writable { parameters with sampleSizeGrams := none }
  sampleSize : FiniteIfSet parameters.sampleSizeGrams ∨ parameters.sampleSizeGrams = some filledIn

variable {filledIn : Binary64} {parameters : TemplateParameters}

theorem Writable.writableBut (writable : parameters.Writable) (filledIn : Binary64) :
    parameters.WritableBut filledIn where
  others := ⟨{ writable.finite with sampleSize := finiteIfSet_none }, writable.settled⟩
  sampleSize := .inl writable.finite.sampleSize

theorem WritableBut.writable_iff (writable : parameters.WritableBut filledIn) :
    parameters.Writable ↔ FiniteIfSet parameters.sampleSizeGrams := by
  constructor
  · exact fun whole => whole.finite.sampleSize
  · intro finite
    exact ⟨{ writable.others.finite with sampleSize := finite }, writable.others.settled⟩

theorem WritableBut.filled {template : QualityTemplate}
    (writable : template.parameters.WritableBut filledIn) :
    (template.asFirstVersion filledIn).parameters.WritableBut filledIn where
  others := writable.others
  sampleSize := by
    change FiniteIfSet (some (template.parameters.sampleSizeGrams.getD filledIn)) ∨
      some (template.parameters.sampleSizeGrams.getD filledIn) = some filledIn
    cases declared : template.parameters.sampleSizeGrams with
    | none => exact .inr rfl
    | some size =>
        have sampleSize := writable.sampleSize
        rw [declared] at sampleSize
        exact sampleSize

theorem WritableBut.restored_iff (writable : parameters.WritableBut filledIn) :
    read parameters.document = pure parameters ↔ FiniteIfSet parameters.sampleSizeGrams := by
  rw [← writable.writable_iff]
  constructor
  · intro restored
    refine read_writable parameters.document Payload.newYearSupply parameters ?_
    rw [restored]
    rfl
  · exact read_document

end TemplateParameters

theorem QualityTemplate.restored_iff {filledIn : Binary64} {template : QualityTemplate}
    (counted : 1 ≤ template.version) (writable : template.parameters.WritableBut filledIn) :
    read template.document = pure template ↔
      FiniteIfSet template.parameters.sampleSizeGrams := by
  rw [← writable.writable_iff]
  constructor
  · intro restored
    have whole : template.Writable := by
      refine read_writable template.document Payload.newYearSupply template ?_
      rw [restored]
      rfl
    exact whole.parameters
  · intro whole
    exact read_document ⟨counted, whole⟩

namespace Registry

/-- Everything that is held reads back as it is, and takes nothing new for it. -/
structure ReadsBack (registry : Registry) : Prop where
  revisions : ∀ id template, registry.latest? id = some template →
    QualityTemplate.read template.document = pure template
  records : ∀ id, ∀ version ∈ registry.history id,
    TemplateParameters.read version.parameters.document = pure version.parameters

theorem brought_writableBut {registry : Registry} {request : RegistryRequest}
    {parameters : TemplateParameters} {filledIn : Binary64}
    (fills : registry.defaultSampleSize = filledIn) (documents : request.OfDocuments)
    (held : ∀ parameters, registry.Stored parameters → parameters.WritableBut filledIn)
    (brought : registry.Brings request parameters) : parameters.WritableBut filledIn := by
  subst fills
  cases brought with
  | registered template description versionId now =>
      obtain ⟨document, supply, parsed⟩ := documents
      have whole := QualityTemplate.read_writable document supply template parsed
      exact (whole.parameters.writableBut _).filled
  | saved actor description versionId now known valid changed =>
      have given := ((TemplateEdit.newParameters?_eq_some_iff _ _ _).1 changed).1
      obtain ⟨document, supply, parsed⟩ := documents parameters given
      exact (TemplateParameters.read_writable document supply parameters parsed).writableBut _
  | cloned actor name sharing templateId versionId now known =>
      exact (held _ (.current known)).filled

theorem stored_writableBut (limits : Limits) (defaultSampleSize : Binary64)
    (requests : List RegistryRequest) (documents : ∀ request ∈ requests, request.OfDocuments) :
    ∀ parameters, ((fresh limits defaultSampleSize).run requests).Stored parameters →
      parameters.WritableBut defaultSampleSize := by
  refine stored_after_run (fun _ stored => absurd stored (not_stored_fresh _ _)) requests ?_
  intro earlier request later split held parameters brought
  have listed : request ∈ requests := by simp [split]
  have fills := (run_settings limits defaultSampleSize earlier).2
  exact brought_writableBut fills (documents request listed) held brought

/-- After every run of requests whose templates and parameters came from documents, a revision and
the parameters of a recorded version read back exactly if their sample size is finite.  A sample
size that is not is the one that the registry fills in, so that everything reads back as long as
that one is finite. -/
theorem reads_back_iff_finite (limits : Limits) (defaultSampleSize : Binary64)
    (requests : List RegistryRequest) (documents : ∀ request ∈ requests, request.OfDocuments) :
    (∀ id template, ((fresh limits defaultSampleSize).run requests).latest? id = some template →
      (QualityTemplate.read template.document = pure template ↔
        FiniteIfSet template.parameters.sampleSizeGrams)) ∧
    (∀ id, ∀ version ∈ ((fresh limits defaultSampleSize).run requests).history id,
      (TemplateParameters.read version.parameters.document = pure version.parameters ↔
        FiniteIfSet version.parameters.sampleSizeGrams)) ∧
    (∀ parameters, ((fresh limits defaultSampleSize).run requests).Stored parameters →
      ¬ FiniteIfSet parameters.sampleSizeGrams →
        parameters.sampleSizeGrams = some defaultSampleSize) ∧
    (defaultSampleSize.isFinite = true →
      ((fresh limits defaultSampleSize).run requests).ReadsBack) := by
  have writable := stored_writableBut limits defaultSampleSize requests documents
  have revisions : ∀ id template,
      ((fresh limits defaultSampleSize).run requests).latest? id = some template →
        (QualityTemplate.read template.document = pure template ↔
          FiniteIfSet template.parameters.sampleSizeGrams) :=
    fun id template known =>
      have chronicle := run_consistent limits defaultSampleSize requests id
      QualityTemplate.restored_iff (chronicle.counted known) (writable _ (.current known))
  have records : ∀ id, ∀ version ∈ ((fresh limits defaultSampleSize).run requests).history id,
      (TemplateParameters.read version.parameters.document = pure version.parameters ↔
        FiniteIfSet version.parameters.sampleSizeGrams) :=
    fun id version listed => (writable _ (.recorded listed)).restored_iff
  refine ⟨revisions, records, ?_, ?_⟩
  · intro parameters stored infinite
    exact (writable parameters stored).sampleSize.resolve_left infinite
  · intro finite
    have sizes (parameters : TemplateParameters)
        (stored : ((fresh limits defaultSampleSize).run requests).Stored parameters) :
        FiniteIfSet parameters.sampleSizeGrams := by
      rcases (writable parameters stored).sampleSize with declared | filled
      · exact declared
      · rw [filled]
        exact finiteIfSet_some finite
    exact ⟨fun id template known => (revisions id template known).2 (sizes _ (.current known)),
      fun id version listed => (records id version listed).2 (sizes _ (.recorded listed))⟩

theorem washedLot_of_document : washedLotRequest.OfDocuments := by
  have settled : ∀ configuration,
      washedLot.parameters.taintFaultConfiguration = some configuration →
        configuration.rules.Settled := by
    intro configuration given
    cases given
  have restored : QualityTemplate.read washedLot.document = pure washedLot :=
    QualityTemplate.read_document ⟨by decide, washedLot_finite, settled⟩
  refine ⟨washedLot.document, Payload.newYearSupply, ?_⟩
  rw [restored]
  rfl

theorem washedLot_reads_back :
    (∀ request ∈ [washedLotRequest], request.OfDocuments) ∧
      (300 : Binary64).isFinite = true ∧
      ((fresh {} 300).run [washedLotRequest]).latest? ⟨1⟩ = some (washedLot.asFirstVersion 300) ∧
      ((fresh {} 300).run [washedLotRequest]).ReadsBack := by
  have documents : ∀ request ∈ [washedLotRequest], request.OfDocuments := by
    intro request listed
    rw [List.mem_singleton.1 listed]
    exact washedLot_of_document
  have finite : (300 : Binary64).isFinite = true := by decide +kernel
  exact ⟨documents, finite, washedLot_registered,
    (reads_back_iff_finite {} 300 [washedLotRequest] documents).2.2.2 finite⟩

instance {Value : Type} (checked : Checked Value) (faults : List Fault) :
    Decidable (checked = .faulty faults) :=
  match checked with
  | .good _ => isFalse nofun
  | .faulty found => decidable_of_iff (found = faults) (by rw [Checked.faulty.injEq])

def infiniteSizes : List (String × String) :=
  [("DEFAULT_SAMPLE_SIZE_GRAMS", "inf")]

theorem infinite_default_is_unreadable :
    (Settings.read infiniteSizes).toOption.map (·.defaultSampleSize) = some (.infinity false) ∧
      (0 : Binary64) < .infinity false ∧
      washedLotRequest.OfDocuments ∧
      (∃ template,
        ((fresh {} (.infinity false)).run [washedLotRequest]).latest? ⟨1⟩ = some template ∧
        (QualityTemplate.read template.document Payload.newYearSupply).1 =
          .faulty [⟨["parameters", "sample_size_grams"], .notFinite⟩]) ∧
      ∃ version ∈ ((fresh {} (.infinity false)).run [washedLotRequest]).history ⟨1⟩,
        (TemplateParameters.read version.parameters.document Payload.newYearSupply).1 =
          .faulty [⟨["sample_size_grams"], .notFinite⟩] := by
  have judged : (washedLot.asFirstVersion (.infinity false)).validate {} = .ok ⟨[], []⟩ := by
    decide +kernel
  obtain ⟨known, history⟩ :=
    held_after_register rfl judged rfl initialDescription ⟨3⟩ QualityTemplate.newYear
  have recorded := history ▸ List.mem_singleton_self _
  exact ⟨by decide +kernel, by decide +kernel, washedLot_of_document,
    ⟨_, known, by decide +kernel⟩, ⟨_, recorded, by decide +kernel⟩⟩

end Registry
end CoffeeGrading
