import CoffeeGrading.Aspect.Template
import CoffeeGrading.Defect.Template
import CoffeeGrading.OffFlavour.Template
import CoffeeGrading.Proofs.EditSession
import CoffeeGrading.Proofs.Template.Written

/-!
The predefined configurations.  All of them are written without loss, and so is what is loaded from
them, whose identifiers are new.
-/

namespace CoffeeGrading

theorem mem_of_findById {Entry : Type} {noun : String} {idOf : Entry → String}
    {entries : List Entry} {id : String} {entry : Entry}
    (found : findById noun idOf entries id = .ok entry) : entry ∈ entries := by
  unfold findById at found
  split at found
  · next known =>
      rw [← Except.ok.inj found]
      exact List.mem_of_find?_eq_some known
  · cases found

theorem AspectTemplate.catalogue_finite :
    ∀ template ∈ green ++ roast, template.configuration.Finite := by
  decide +kernel

theorem AspectTemplate.value_of_mem_renewed {fresh : Nat → Identifier}
    {wordings : List AspectWording} (finite : ∀ wording ∈ wordings, wording.value.isFinite = true) :
    ∀ wording ∈ renewed fresh wordings, wording.value.isFinite = true := by
  intro wording listed
  obtain ⟨position, bound, same⟩ := List.mem_mapIdx.1 listed
  have kept := finite wordings[position] (List.getElem_mem bound)
  rwa [← same]

theorem AspectTemplate.load_finite {fresh : Nat → Identifier} {id : String}
    {configuration : AspectConfiguration} (loaded : load fresh id = .ok configuration) :
    configuration.Finite := by
  obtain ⟨template, found, done⟩ := exists_of_bind_eq_ok loaded
  obtain rfl := Except.ok.inj done
  have finite := catalogue_finite template (mem_of_findById found)
  exact ⟨value_of_mem_renewed finite.values, finite.threshold⟩

theorem DefectTemplate.catalogue_finite :
    ∀ template ∈ catalogue, template.configuration.Finite := by
  decide +kernel

theorem DefectTemplate.load_finite {id : String} {configuration : DefectConfiguration}
    (loaded : load id = .ok configuration) : configuration.Finite := by
  obtain ⟨template, found, done⟩ := exists_of_bind_eq_ok loaded
  obtain rfl := Except.ok.inj done
  exact catalogue_finite template (mem_of_findById found)

theorem OffFlavourTemplate.catalogue_writable :
    ∀ template ∈ catalogue, template.configuration.Writable := by
  have finite : ∀ template ∈ catalogue, template.configuration.Finite := by decide +kernel
  have settled : ∀ template ∈ catalogue, template.configuration.rules.isZeroTolerance = true →
      template.configuration.rules.hasLimits = false := by decide +kernel
  exact fun template listed => ⟨finite template listed, settled template listed⟩

theorem OffFlavourTemplate.scale_of_mem_renewed {fresh : Nat → Identifier} {start : Nat}
    {definitions : List OffFlavourDefinition}
    (finite : ∀ definition ∈ definitions, definition.scale.Finite) :
    ∀ definition ∈ renewed fresh start definitions, definition.scale.Finite := by
  intro definition listed
  obtain ⟨position, bound, same⟩ := List.mem_mapIdx.1 listed
  have kept := finite definitions[position] (List.getElem_mem bound)
  rwa [← same]

theorem OffFlavourTemplate.load_writable {fresh : Nat → Identifier} {id : String}
    {configuration : OffFlavourConfiguration} (loaded : load fresh id = .ok configuration) :
    configuration.Writable := by
  obtain ⟨template, found, done⟩ := exists_of_bind_eq_ok loaded
  obtain rfl := Except.ok.inj done
  obtain ⟨finite, settled⟩ := catalogue_writable template (mem_of_findById found)
  exact ⟨⟨scale_of_mem_renewed finite.taints, scale_of_mem_renewed finite.faults, finite.rules⟩,
    settled⟩

end CoffeeGrading
