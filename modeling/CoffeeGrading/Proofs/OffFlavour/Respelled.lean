import CoffeeGrading.Proofs.OffFlavour.Catalogued

/-!
Names of off-flavours that differ in their keys.  Some configuration in order tells them apart, so
that the key is all that counts of a name; it can change with the case of a single letter.
-/

namespace CoffeeGrading

namespace OffFlavourConfiguration

variable {name other : String}

def foreign (name : String) : OffFlavourObservation where
  name
  category := .taint
  intensity := 3

/-! ### One key -/

theorem accepts_of_nameKey_eq {configuration : OffFlavourConfiguration}
    {category : OffFlavourCategory} {intensity : Binary64}
    (same : Text.nameKey name = Text.nameKey other)
    (accepted : configuration.Accepts [⟨name, category, intensity⟩]) :
    configuration.Accepts [⟨other, category, intensity⟩] := by
  obtain ⟨evaluation, returned, silent⟩ := accepted
  have spelling : SameButSpelling ⟨name, category, intensity⟩ ⟨other, category, intensity⟩ := by
    constructor
    · rfl
    · rfl
    · exact same.symm
  obtain ⟨respelled, alsoReturned, agreed⟩ := evaluate_respelled (.cons spelling .nil) returned
  exact ⟨respelled, alsoReturned, agreed.verdict.1 silent⟩

def soleTaint (name : String) : OffFlavourConfiguration where
  taints := [{ earthyTaint with name }]

theorem earthyTaint_sound : earthyTaint.scale.Sound := by
  rw [← Scale.flaw?_eq_none_iff, ← Option.not_isSome_iff_eq_none]
  decide +kernel

theorem soleTaint_sound (present : Text.nameKey name ≠ "") : (soleTaint name).Sound where
  taints := by
    refine ⟨?_, ⟨?_, ?_⟩, ?_⟩
    · simp [soleTaint, earthyTaint]
    · simpa [soleTaint] using present
    · simp [soleTaint]
    · simpa [soleTaint] using earthyTaint_sound
  faults := ⟨by simp [soleTaint], ⟨by simp [soleTaint], by simp [soleTaint]⟩, by simp [soleTaint]⟩
  rules := (OffFlavourRules.flaw?_eq_none_iff _).1 rfl

theorem soleTaint_means_iff (definition : OffFlavourDefinition) :
    (soleTaint name).Means (foreign other) definition ↔
      definition = { earthyTaint with name } ∧ Text.nameKey name = Text.nameKey other := by
  constructor
  · rintro ⟨listed, _, same⟩
    obtain rfl : definition = { earthyTaint with name } := by
      simpa [definitions, soleTaint] using listed
    exact ⟨rfl, same⟩
  · rintro ⟨rfl, same⟩
    exact ⟨by simp [definitions, soleTaint], rfl, same⟩

theorem earthyTaint_accepts : earthyTaint.scale.accepts 3 = .ok true :=
  toOption_eq_some_iff.1 (by decide +kernel)

theorem soleTaint_accepts_iff (present : Text.nameKey name ≠ "") (other : String) :
    (soleTaint name).Accepts [foreign other] ↔ Text.nameKey name = Text.nameKey other := by
  have permitted : (soleTaint name).rules.Permits [foreign other] :=
    (OffFlavourRules.complaints_eq_nil_iff _ _).1 rfl
  rw [accepts_iff, and_iff_left permitted, List.forall_mem_singleton,
    complaint?_eq_none_iff (soleTaint_sound present)]
  simp only [Recognises, soleTaint_means_iff]
  constructor
  · rintro ⟨_, ⟨_, same⟩, _⟩
    exact same
  · intro same
    exact ⟨_, ⟨rfl, same⟩, fun _ means => means.1, earthyTaint_accepts⟩

/-- Two names have one key exactly when no configuration in order tells them apart. -/
theorem nameKey_eq_iff_accepts :
    Text.nameKey name = Text.nameKey other ↔
      ∀ (configuration : OffFlavourConfiguration) category intensity,
        configuration.flaw? = none →
          (configuration.Accepts [⟨name, category, intensity⟩] ↔
            configuration.Accepts [⟨other, category, intensity⟩]) := by
  constructor
  · intro same configuration category intensity _
    exact ⟨accepts_of_nameKey_eq same, accepts_of_nameKey_eq same.symm⟩
  · intro alike
    have alikeUnder {sole : String} (present : Text.nameKey sole ≠ "") :=
      alike (soleTaint sole) .taint 3 ((flaw?_eq_none_iff _).2 (soleTaint_sound present))
    by_cases present : Text.nameKey name ≠ ""
    · have accepted := (soleTaint_accepts_iff present name).2 rfl
      exact (soleTaint_accepts_iff present other).1 ((alikeUnder present).1 accepted)
    · by_contra differ
      have otherPresent : Text.nameKey other ≠ "" := by grind
      have accepted := (soleTaint_accepts_iff otherPresent other).2 rfl
      have also := (alikeUnder otherPresent).2 accepted
      exact differ ((soleTaint_accepts_iff otherPresent name).1 also).symm

/-! ### One name in two cases -/

structure Recased (observation recased : OffFlavourObservation) : Prop where
  category : recased.category = observation.category
  intensity : recased.intensity = observation.intensity
  name : Text.Respelled observation.name recased.name

def foreignTaints : OffFlavourConfiguration where
  taints := [{ earthyTaint with name := "ΣΟΣ" }, { earthyTaint with name := "Süß" }]

theorem foreignTaints_unknown (name : String)
    (missing : (foreignTaints.definition? .taint (Text.nameKey name)).isSome = false) :
    foreignTaints.evaluate [foreign name] = .ok ⟨1, 0, [s!"Unknown taint \"{name}\""]⟩ := by
  have unlisted : foreignTaints.definition? .taint (Text.nameKey name) = none := by
    simpa using missing
  have single : foreignTaints.singleComplaints [foreign name] =
      .ok [s!"Unknown taint \"{name}\""] := by
    simp only [singleComplaints, complaint?, foreign, unlisted]
    rfl
  rw [evaluate, single]
  rfl

/-- The case of letters can change what a name means.  The last sigma of the lower-case form is
another letter than the first, and a sharp s becomes two letters in capitals. -/
theorem foreignTaints_recased_refused :
    foreignTaints.flaw? = none ∧
      (∃ definition ∈ foreignTaints.taints, Text.Respelled definition.name "σοσ" ∧
        definition.scale.accepts 3 = .ok true) ∧
      foreignTaints.rules.Permits [foreign "σοσ"] ∧
      foreignTaints.evaluate [foreign "ΣΟΣ"] = .ok ⟨1, 0, []⟩ ∧
      foreignTaints.evaluate [foreign "σοσ"] = .ok ⟨1, 0, ["Unknown taint \"σοσ\""]⟩ ∧
      foreignTaints.evaluate [foreign "Süß"] = .ok ⟨1, 0, []⟩ ∧
      foreignTaints.evaluate [foreign "SÜSS"] = .ok ⟨1, 0, ["Unknown taint \"SÜSS\""]⟩ ∧
      ¬ ∀ (configuration : OffFlavourConfiguration) (observations others),
        configuration.flaw? = none → List.Forall₂ Recased observations others →
          (configuration.Accepts observations ↔ configuration.Accepts others) := by
  have unflawed : foreignTaints.flaw? = none := by
    rw [← Option.not_isSome_iff_eq_none]
    decide +kernel
  have respelled : Text.Respelled "ΣΟΣ" "σοσ" := by decide +kernel
  have known (name : String)
      (answer : (foreignTaints.singleComplaints [foreign name]).toOption = some []) :
      foreignTaints.evaluate [foreign name] = .ok ⟨1, 0, []⟩ := by
    rw [evaluate, toOption_eq_some_iff.1 answer]
    rfl
  have permitted : foreignTaints.rules.Permits [foreign "σοσ"] :=
    (OffFlavourRules.complaints_eq_nil_iff _ _).1 rfl
  have accepted := known "ΣΟΣ" (by decide +kernel)
  have refused := foreignTaints_unknown "σοσ" (by decide +kernel)
  refine ⟨unflawed, ⟨_, List.mem_cons_self, respelled, earthyTaint_accepts⟩, permitted, accepted,
    refused, known "Süß" (by decide +kernel), foreignTaints_unknown "SÜSS" (by decide +kernel), ?_⟩
  intro unchanged
  have recased : Recased (foreign "ΣΟΣ") (foreign "σοσ") := ⟨rfl, rfl, respelled⟩
  have also := (unchanged foreignTaints _ _ unflawed (.cons recased .nil)).1 ⟨_, accepted, rfl⟩
  rw [accepts_of_returned refused] at also
  cases also

end OffFlavourConfiguration
end CoffeeGrading
