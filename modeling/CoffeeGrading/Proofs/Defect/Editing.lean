import CoffeeGrading.Defect.Editing
import CoffeeGrading.Proofs.Catalogue
import CoffeeGrading.Proofs.DisplayOrder
import CoffeeGrading.Proofs.Document.Finite

/-!
Edits of defect configurations.  Every number that they bring in is checked.
-/

namespace CoffeeGrading

inductive DefectEdit where
  | add (name : String) (category : DefectCategory) (weight : Binary64)
      (description : Option String)
  | remove (category : DefectCategory) (index : Int)
  | move (category : DefectCategory) (index direction : Int)
  | setThresholds (maxPrimary maxSecondary maxTotal : Option Binary64)
  | load (id : String)
  | clear

namespace DefectConfiguration

def perform (configuration : DefectConfiguration) : DefectEdit → Option DefectConfiguration
  | .add name category weight description =>
    (configuration.add name category weight description).toOption
  | .remove category index => (configuration.remove category index).toOption
  | .move category index direction => (configuration.move category index direction).toOption
  | .setThresholds maxPrimary maxSecondary maxTotal =>
    (configuration.setThresholds maxPrimary maxSecondary maxTotal).toOption
  | .load id => (DefectTemplate.load id).toOption
  | .clear => some {}

variable {configuration next : DefectConfiguration} {category : DefectCategory}

theorem placeless_weight :
    DisplayOrder.Placeless fun definition : DefectDefinition => definition.weight.isFinite = true :=
  fun _ _ finite => finite

theorem finite_default : ({} : DefectConfiguration).Finite := by
  decide

theorem Finite.members (finite : configuration.Finite) (category : DefectCategory) :
    ∀ definition ∈ defectsByCategory category configuration.defects,
      definition.weight.isFinite = true :=
  DisplayOrder.forall_mem_sort fun definition listed =>
    finite.weights definition (List.mem_filter.1 listed).1

theorem placeless_category : DisplayOrder.Placeless fun definition : DefectDefinition =>
    definition.category = category :=
  fun _ _ placed => placed

theorem ofCategory_replaceCategory (configuration : DefectConfiguration)
    {members : List DefectDefinition}
    (placed : ∀ definition ∈ members, definition.category = category) (other : DefectCategory) :
    ofCategory other (configuration.replaceCategory category members).defects =
      if other = category then DisplayOrder.renumber members
      else ofCategory other configuration.defects := by
  have renumbered := placeless_category.renumber placed
  have own : ofCategory other (DisplayOrder.renumber members) =
      if other = category then DisplayOrder.renumber members else [] := by
    split
    · next same =>
        exact List.filter_eq_self.2 fun definition listed => by
          simp [renumbered definition listed, same]
    · next different =>
        exact List.filter_eq_nil_iff.2 fun definition listed => by
          simp [renumbered definition listed, Ne.symm different]
  have others : ofCategory other (configuration.defects.filter fun definition =>
      definition.category ≠ category) =
        if other = category then [] else ofCategory other configuration.defects := by
    rw [ofCategory, List.filter_filter]
    split
    · next same => simp [same]
    · next different =>
        refine List.filter_congr fun definition _ => ?_
        simp +contextual [different]
  cases category with
  | primary =>
      rw [replaceCategory, ofCategory, List.filter_append, ← ofCategory, ← ofCategory, own, others]
      split <;> simp
  | secondary =>
      rw [replaceCategory, ofCategory, List.filter_append, ← ofCategory, ← ofCategory, own, others]
      split <;> simp

theorem length_replaceCategory (configuration : DefectConfiguration) (category : DefectCategory)
    (members : List DefectDefinition) :
    (configuration.replaceCategory category members).defects.length =
      members.length + (configuration.defects.filter fun definition =>
        definition.category ≠ category).length := by
  cases category with
  | primary => simp [replaceCategory]
  | secondary => simp [replaceCategory, Nat.add_comm]

theorem length_defectsByCategory_add (category : DefectCategory)
    (defects : List DefectDefinition) :
    (defectsByCategory category defects).length +
        (defects.filter fun definition => definition.category ≠ category).length =
      defects.length := by
  have parted := List.length_eq_length_filter_add (l := defects)
    fun definition : DefectDefinition => definition.category = category
  rw [defectsByCategory, DisplayOrder.sort, List.length_mergeSort, ofCategory]
  simpa using parted.symm

theorem placeless_replaceCategory {Fits : DefectDefinition → Prop}
    (placeless : DisplayOrder.Placeless Fits) {members : List DefectDefinition}
    (fits : ∀ definition ∈ configuration.defects, Fits definition)
    (membersFit : ∀ definition ∈ members, Fits definition) (category : DefectCategory) :
    ∀ definition ∈ (configuration.replaceCategory category members).defects, Fits definition := by
  have renumbered := placeless.renumber membersFit
  have others : ∀ definition ∈ configuration.defects.filter fun definition =>
      definition.category ≠ category, Fits definition :=
    fun definition listed => fits definition (List.mem_filter.1 listed).1
  cases category with
  | primary => exact List.forall_mem_append.2 ⟨renumbered, others⟩
  | secondary => exact List.forall_mem_append.2 ⟨others, renumbered⟩

theorem Finite.replaceCategory {members : List DefectDefinition} (finite : configuration.Finite)
    (membersFinite : ∀ definition ∈ members, definition.weight.isFinite = true)
    (category : DefectCategory) : (configuration.replaceCategory category members).Finite :=
  ⟨placeless_replaceCategory placeless_weight finite.weights membersFinite category,
    finite.thresholds⟩

theorem Finite.add {name : String} {weight : Binary64} {description : Option String}
    (finite : configuration.Finite)
    (added : configuration.add name category weight description = .ok next) : next.Finite := by
  obtain ⟨definition, made, done⟩ := exists_of_bind_eq_ok added
  obtain ⟨checked, rfl⟩ := (requireFinite_eq_ok_iff _ _ _).1 made
  obtain rfl := Except.ok.inj done
  have weight_finite : weight.isFinite = true := by simpa using checked
  exact finite.replaceCategory (List.forall_mem_append.2
    ⟨finite.members category, List.forall_mem_singleton.2 weight_finite⟩) category

theorem Finite.remove {index : Int} (finite : configuration.Finite)
    (removed : configuration.remove category index = .ok next) : next.Finite := by
  obtain ⟨members, left, done⟩ := exists_of_bind_eq_ok removed
  obtain rfl := Except.ok.inj done
  exact finite.replaceCategory (placeless_weight.removeAt (finite.members category) left) category

theorem Finite.move {index direction : Int} (finite : configuration.Finite)
    (moved : configuration.move category index direction = .ok next) : next.Finite := by
  obtain ⟨members, reordered, done⟩ := exists_of_bind_eq_ok moved
  obtain rfl := Except.ok.inj done
  exact finite.replaceCategory (placeless_weight.move (finite.members category) reordered) category

theorem Finite.setThresholds {maxPrimary maxSecondary maxTotal : Option Binary64}
    (finite : configuration.Finite)
    (changed : configuration.setThresholds maxPrimary maxSecondary maxTotal = .ok next) :
    next.Finite := by
  obtain ⟨thresholds, made, done⟩ := exists_of_bind_eq_ok changed
  obtain ⟨checked, rfl⟩ := (requireFinite_eq_ok_iff _ _ _).1 made
  obtain rfl := Except.ok.inj done
  simp only [List.forall_mem_cons, ← finiteIfSet_iff_all] at checked
  obtain ⟨primary, secondary, total, _⟩ := checked
  exact ⟨finite.weights, primary, secondary, total⟩

theorem Finite.perform {edit : DefectEdit} (finite : configuration.Finite)
    (performed : configuration.perform edit = some next) : next.Finite := by
  cases edit with
  | add name category weight description => exact finite.add (toOption_eq_some_iff.1 performed)
  | remove category index => exact finite.remove (toOption_eq_some_iff.1 performed)
  | move category index direction => exact finite.move (toOption_eq_some_iff.1 performed)
  | setThresholds maxPrimary maxSecondary maxTotal =>
      exact finite.setThresholds (toOption_eq_some_iff.1 performed)
  | load id => exact DefectTemplate.load_finite (toOption_eq_some_iff.1 performed)
  | clear =>
      obtain rfl := Option.some.inj performed
      exact finite_default

end DefectConfiguration
end CoffeeGrading
