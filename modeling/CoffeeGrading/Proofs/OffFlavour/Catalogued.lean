import CoffeeGrading.Proofs.OffFlavour.Passing
import CoffeeGrading.Proofs.OffFlavour.Sound
import CoffeeGrading.Proofs.Text.Respelled

/-!
Observed off-flavours against the definitions of a configuration that is in order.  There the names
of each category are told apart by their keys, so that the definition an observation is looked up
to is the only one it can mean.  How its name is spelled does not matter as long as the key stays
the same; a capital sigma is an example of a letter whose case changes the key.
-/

namespace CoffeeGrading

namespace OffFlavourConfiguration

variable {configuration : OffFlavourConfiguration} {observations : List OffFlavourObservation}
  {definition other : OffFlavourDefinition}

def definitions (configuration : OffFlavourConfiguration) : List OffFlavourDefinition :=
  configuration.taints ++ configuration.faults

/-- A listed definition of the category and the name of an observation.  Names are the same when
their keys are, which leave blanks at the ends out and are in lower case. -/
structure Means (configuration : OffFlavourConfiguration) (observation : OffFlavourObservation)
    (definition : OffFlavourDefinition) : Prop where
  listed : definition ∈ configuration.definitions
  category : definition.category = observation.category
  name : Text.nameKey definition.name = Text.nameKey observation.name

/-- An observation means one definition, and its intensity is on the scale of this one. -/
def Recognises (configuration : OffFlavourConfiguration)
    (observation : OffFlavourObservation) : Prop :=
  ∃ definition, configuration.Means observation definition ∧
    (∀ other, configuration.Means observation other → other = definition) ∧
    definition.scale.accepts observation.intensity = .ok true

/-- The same observation, its name perhaps spelled in another way that has the same key. -/
structure SameButSpelling (observation respelled : OffFlavourObservation) : Prop where
  category : respelled.category = observation.category
  intensity : respelled.intensity = observation.intensity
  name : Text.nameKey respelled.name = Text.nameKey observation.name

/-- Two evaluations that agree, except for the texts of their complaints. -/
structure SameVerdict (left right : OffFlavourEvaluation) : Prop where
  taints : left.taintCount = right.taintCount
  faults : left.faultCount = right.faultCount
  verdict : left.complaints = [] ↔ right.complaints = []

theorem ListSound.eq_of_key {list : OffFlavourCategory} {definitions : List OffFlavourDefinition}
    (sound : ListSound list definitions) (listed : definition ∈ definitions)
    (otherListed : other ∈ definitions)
    (same : Text.nameKey definition.name = Text.nameKey other.name) : definition = other := by
  have apart := sound.names.apart
  rw [List.map_map] at apart
  exact List.inj_on_of_nodup_map apart listed otherListed same

theorem Sound.mem_list (sound : configuration.Sound)
    (listed : definition ∈ configuration.definitions) :
    definition ∈ configuration.list definition.category := by
  rcases List.mem_append.1 listed with taint | fault
  · rw [sound.taints.placed definition taint]
    exact taint
  · rw [sound.faults.placed definition fault]
    exact fault

theorem Means.unique {observation : OffFlavourObservation}
    (means : configuration.Means observation definition) (sound : configuration.Sound)
    (also : configuration.Means observation other) : other = definition := by
  have here := sound.mem_list means.listed
  have there := sound.mem_list also.listed
  rw [means.category] at here
  rw [also.category] at there
  exact (sound.list observation.category).eq_of_key there here (also.name.trans means.name.symm)

theorem definition?_eq_some_iff (sound : configuration.Sound)
    (observation : OffFlavourObservation) (definition : OffFlavourDefinition) :
    configuration.definition? observation.category (Text.nameKey observation.name) =
        some definition ↔
      configuration.Means observation definition := by
  have means_of_found : ∀ {found},
      configuration.definition? observation.category (Text.nameKey observation.name) =
        some found → configuration.Means observation found := by
    intro found lookup
    have fits := List.find?_some lookup
    simp only [decide_eq_true_eq] at fits
    exact ⟨List.mem_reverse.1 (List.mem_of_find?_eq_some lookup), fits.1, fits.2⟩
  constructor
  · exact means_of_found
  · intro means
    cases lookup : configuration.definition? observation.category
        (Text.nameKey observation.name) with
    | none =>
        have missed := List.find?_eq_none.1 lookup definition (List.mem_reverse.2 means.listed)
        simp [means.category, means.name] at missed
    | some found => rw [means.unique sound (means_of_found lookup)]

theorem complaint?_eq_none_iff (sound : configuration.Sound)
    (observation : OffFlavourObservation) :
    configuration.complaint? observation = .ok none ↔ configuration.Recognises observation := by
  have found_iff := definition?_eq_some_iff sound observation
  cases lookup : configuration.definition? observation.category
      (Text.nameKey observation.name) with
  | none =>
      simp only [complaint?, lookup, Except.ok.injEq, reduceCtorEq, false_iff]
      rintro ⟨definition, means, _⟩
      simp [(found_iff definition).2 means] at lookup
  | some definition =>
      have means := (found_iff definition).1 lookup
      have silent : configuration.complaint? observation = .ok none ↔
          definition.scale.accepts observation.intensity = .ok true := by
        cases answer : definition.scale.accepts observation.intensity with
        | error reason => simp [complaint?, lookup, answer, bind, Except.bind]
        | ok accepted => cases accepted <;> simp [complaint?, lookup, answer, bind, Except.bind]
      rw [silent]
      constructor
      · intro accepted
        exact ⟨definition, means, fun _ => means.unique sound, accepted⟩
      · rintro ⟨other, also, _, accepted⟩
        rwa [means.unique sound also] at accepted

theorem observed_length_add (observations : List OffFlavourObservation) :
    (OffFlavourRules.observed .taint observations).length +
      (OffFlavourRules.observed .fault observations).length = observations.length := by
  induction observations with
  | nil => rfl
  | cons observation rest ih =>
      cases category : observation.category with
      | taint => simp [OffFlavourRules.observed, category] at ih ⊢; omega
      | fault => simp [OffFlavourRules.observed, category] at ih ⊢; omega

theorem complaint?_respelled {observation other : OffFlavourObservation}
    (same : SameButSpelling observation other) {complaint : Option String}
    (answer : configuration.complaint? observation = .ok complaint) :
    ∃ otherComplaint, configuration.complaint? other = .ok otherComplaint ∧
      (otherComplaint = none ↔ complaint = none) := by
  simp only [complaint?, same.category, same.name, same.intensity] at answer ⊢
  cases lookup : configuration.definition? observation.category
      (Text.nameKey observation.name) with
  | none =>
      simp only [lookup] at answer
      obtain rfl := Except.ok.inj answer
      exact ⟨_, rfl, by simp⟩
  | some definition =>
      simp only [lookup] at answer ⊢
      obtain ⟨accepted, judged, done⟩ := exists_of_bind_eq_ok answer
      obtain rfl := Except.ok.inj done
      refine ⟨_, by rw [judged]; rfl, ?_⟩
      cases accepted <;> simp

section Respelling

variable {others : List OffFlavourObservation}
  (respelled : List.Forall₂ SameButSpelling observations others)

include respelled

theorem observed_respelled (category : OffFlavourCategory) :
    List.Forall₂ SameButSpelling (OffFlavourRules.observed category observations)
      (OffFlavourRules.observed category others) := by
  induction respelled with
  | nil => exact .nil
  | @cons observation other _ _ same _ ih =>
      by_cases placed : observation.category = category
      · have otherPlaced : other.category = category := same.category.trans placed
        simpa [OffFlavourRules.observed, placed, otherPlaced] using ⟨same, ih⟩
      · have otherPlaced : ¬ other.category = category := fun there =>
          placed (same.category.symm.trans there)
        simpa [OffFlavourRules.observed, placed, otherPlaced] using ih

theorem intensityWithin_respelled (limit : Option Binary64) :
    OffFlavourRules.IntensityWithin limit observations ↔
      OffFlavourRules.IntensityWithin limit others := by
  induction respelled with
  | nil => rfl
  | cons same _ ih =>
      simp only [OffFlavourRules.IntensityWithin, List.forall_mem_cons, same.intensity] at ih ⊢
      grind

theorem permits_respelled (rules : OffFlavourRules) :
    rules.Permits observations ↔ rules.Permits others := by
  have lengths (category : OffFlavourCategory) :=
    (observed_respelled respelled category).length_eq
  have intensities (category : OffFlavourCategory) :=
    intensityWithin_respelled (observed_respelled respelled category)
  have within : rules.Within observations ↔ rules.Within others := by
    constructor
    · rintro ⟨taints, faults, combined, taintIntensity, faultIntensity⟩
      exact ⟨lengths .taint ▸ taints, lengths .fault ▸ faults, respelled.length_eq ▸ combined,
        (intensities .taint _).1 taintIntensity, (intensities .fault _).1 faultIntensity⟩
    · rintro ⟨taints, faults, combined, taintIntensity, faultIntensity⟩
      exact ⟨lengths .taint ▸ taints, lengths .fault ▸ faults, respelled.length_eq ▸ combined,
        (intensities .taint _).2 taintIntensity, (intensities .fault _).2 faultIntensity⟩
  have clean : observations = [] ↔ others = [] := by
    rw [← List.length_eq_zero_iff, respelled.length_eq, List.length_eq_zero_iff]
  rw [OffFlavourRules.Permits, OffFlavourRules.Permits, within, clean]

theorem evaluate_respelled {evaluation : OffFlavourEvaluation}
    (returned : configuration.evaluate observations = .ok evaluation) :
    ∃ other, configuration.evaluate others = .ok other ∧ SameVerdict evaluation other := by
  obtain ⟨single, answer, rfl⟩ := evaluate_eq_ok returned
  rw [singleComplaints_eq_collect] at answer
  obtain ⟨otherSingle, otherAnswer, silent⟩ :=
    collect_forall₂ respelled (fun _ _ _ same first => complaint?_respelled same first) answer
  have lengths (category : OffFlavourCategory) :=
    (observed_respelled respelled category).length_eq
  have permitted := permits_respelled respelled configuration.rules
  rw [← OffFlavourRules.complaints_eq_nil_iff, ← OffFlavourRules.complaints_eq_nil_iff]
    at permitted
  refine ⟨_, by rw [evaluate, singleComplaints_eq_collect, otherAnswer]; rfl, lengths .taint,
    lengths .fault, ?_⟩
  rw [List.append_eq_nil_iff, List.append_eq_nil_iff, silent, permitted]

end Respelling

/-- Observations pass exactly when each of them means one definition, whose scale it is on, and the
rules permit them all.  Each is counted, as a taint or as a fault.  A spelling with the same key
changes neither the verdict nor the counts, and the key stays the same under blanks and, in names
without a capital sigma, under the case of letters. -/
theorem evaluation_decided (unflawed : configuration.flaw? = none)
    {evaluation : OffFlavourEvaluation}
    (returned : configuration.evaluate observations = .ok evaluation) :
    (evaluation.complaints = [] ↔
      (∀ observation ∈ observations, configuration.Recognises observation) ∧
        configuration.rules.Permits observations) ∧
    evaluation.taintCount = (OffFlavourRules.observed .taint observations).length ∧
    evaluation.faultCount = (OffFlavourRules.observed .fault observations).length ∧
    evaluation.taintCount + evaluation.faultCount = observations.length ∧
    (∀ others, List.Forall₂ SameButSpelling observations others →
      ∃ other, configuration.evaluate others = .ok other ∧ SameVerdict evaluation other) ∧
    (∀ text name other, Text.Padded name text → Text.Padded other text →
      Text.nameKey name = Text.nameKey other) ∧
    ∀ name other, Text.Respelled name other → 'Σ' ∉ name.toList → 'Σ' ∉ other.toList →
      Text.nameKey name = Text.nameKey other := by
  have sound := (flaw?_eq_none_iff configuration).1 unflawed
  refine ⟨?verdict, ?taints, ?faults, ?counts,
    fun others respelled => evaluate_respelled respelled returned, ?blanks,
    fun name other => Text.Respelled.nameKey_eq⟩
  case verdict =>
    rw [← accepts_of_returned returned, accepts_iff]
    simp only [complaint?_eq_none_iff sound]
  case blanks =>
    intro text name other padded otherPadded
    rw [Text.nameKey_of_padded padded, Text.nameKey_of_padded otherPadded]
  all_goals obtain ⟨_, _, rfl⟩ := evaluate_eq_ok returned
  case taints => rfl
  case faults => rfl
  case counts => exact observed_length_add observations

def loudlyEarthy : OffFlavourObservation :=
  { slightlyEarthy with name := "eARTHY\n" }

theorem loudlyEarthy_respelled : Text.Respelled slightlyEarthy.name loudlyEarthy.name := by
  decide +kernel

theorem earthyCups_evaluation_decided :
    earthyCups.flaw? = none ∧
      (∀ observation ∈ [slightlyEarthy, ratherEarthy], earthyCups.Recognises observation) ∧
      earthyCups.rules.Permits [slightlyEarthy, ratherEarthy] ∧
      SameButSpelling slightlyEarthy loudlyEarthy ∧
      ∃ other, earthyCups.evaluate [loudlyEarthy, ratherEarthy] = .ok other ∧
        other.complaints = [] ∧ other.taintCount = 2 ∧ other.faultCount = 0 := by
  have unflawed : earthyCups.flaw? = none := by
    rw [← Option.not_isSome_iff_eq_none]
    decide +kernel
  obtain ⟨evaluation, returned, silent⟩ := earthyCups_accepts
  obtain ⟨verdict, taints, faults, _, respelled, _, recased⟩ :=
    evaluation_decided unflawed returned
  obtain ⟨recognised, permitted⟩ := verdict.1 silent
  have same : SameButSpelling slightlyEarthy loudlyEarthy :=
    ⟨rfl, rfl, (recased _ _ loudlyEarthy_respelled (by decide) (by decide)).symm⟩
  obtain ⟨other, alsoReturned, agreed⟩ :=
    respelled [loudlyEarthy, ratherEarthy] (.cons same (.cons ⟨rfl, rfl, rfl⟩ .nil))
  exact ⟨unflawed, recognised, permitted, same, other, alsoReturned, agreed.verdict.1 silent,
    agreed.taints.symm.trans taints, agreed.faults.symm.trans faults⟩

end OffFlavourConfiguration
end CoffeeGrading
