import CoffeeGrading.OffFlavour.Editing
import CoffeeGrading.Proofs.Catalogue
import CoffeeGrading.Proofs.DisplayOrder

/-!
Edits of configurations of off-flavours.  Definitions, scales and rules come from readings, copies
from what is there, and zero tolerance that is switched replaces the rules it overrules.
-/

namespace CoffeeGrading

inductive OffFlavourEdit where
  | add (definition : Parsed OffFlavourDefinition.read)
  | create (category : OffFlavourCategory) (identifier : Identifier) (name : String)
      (displayOrder : Int) (scale : Option (Parsed Scale.read))
  | clone (category : OffFlavourCategory) (index : Int) (identifier : Identifier)
  | remove (category : OffFlavourCategory) (index : Int)
  | move (category : OffFlavourCategory) (index direction : Int)
  | setRules (rules : Parsed OffFlavourRules.read)
  | setZeroTolerance (enabled : Bool)
  | load (fresh : Nat → Identifier) (id : String)
  | clear

namespace OffFlavourConfiguration

def perform (configuration : OffFlavourConfiguration) :
    OffFlavourEdit → Option OffFlavourConfiguration
  | .add definition => some (configuration.add definition.value)
  | .create category identifier name displayOrder scale =>
    some (configuration.add
      (.create category identifier name displayOrder (scale.map Parsed.value)))
  | .clone category index identifier =>
    (configuration.item category index).toOption.map fun definition =>
      configuration.add (definition.clone identifier)
  | .remove category index => (configuration.remove category index).toOption
  | .move category index direction => (configuration.move category index direction).toOption
  | .setRules rules => some (configuration.setRules rules.value)
  | .setZeroTolerance enabled =>
    some (configuration.setRules (configuration.rules.setZeroTolerance enabled))
  | .load fresh id => (OffFlavourTemplate.load fresh id).toOption
  | .clear => some {}

variable {configuration next : OffFlavourConfiguration} {category : OffFlavourCategory}

theorem placeless_scale :
    DisplayOrder.Placeless fun definition : OffFlavourDefinition => definition.scale.Finite :=
  fun _ _ finite => finite

theorem writable_default : ({} : OffFlavourConfiguration).Writable :=
  ⟨by decide, OffFlavourRules.settled_default⟩

theorem Finite.list (finite : configuration.Finite) (category : OffFlavourCategory) :
    ∀ definition ∈ configuration.list category, definition.scale.Finite := by
  cases category with
  | taint => exact finite.taints
  | fault => exact finite.faults

theorem Writable.withList {definitions : List OffFlavourDefinition}
    (writable : configuration.Writable)
    (finite : ∀ definition ∈ definitions, definition.scale.Finite)
    (category : OffFlavourCategory) : (configuration.withList category definitions).Writable := by
  obtain ⟨⟨taints, faults, rules⟩, settled⟩ := writable
  cases category with
  | taint => exact ⟨⟨finite, faults, rules⟩, settled⟩
  | fault => exact ⟨⟨taints, finite, rules⟩, settled⟩

theorem Writable.add {definition : OffFlavourDefinition} (writable : configuration.Writable)
    (finite : definition.scale.Finite) : (configuration.add definition).Writable :=
  writable.withList (placeless_scale.append (writable.finite.list _) finite) _

theorem Writable.remove {index : Int} (writable : configuration.Writable)
    (removed : configuration.remove category index = .ok next) : next.Writable := by
  obtain ⟨definitions, left, done⟩ := exists_of_bind_eq_ok removed
  obtain rfl := Except.ok.inj done
  exact writable.withList (placeless_scale.removeAt (writable.finite.list category) left) category

theorem Writable.move {index direction : Int} (writable : configuration.Writable)
    (moved : configuration.move category index direction = .ok next) : next.Writable := by
  obtain ⟨definitions, reordered, done⟩ := exists_of_bind_eq_ok moved
  obtain rfl := Except.ok.inj done
  exact writable.withList (placeless_scale.move (writable.finite.list category) reordered) category

theorem item_mem {index : Int} {definition : OffFlavourDefinition}
    (found : configuration.item category index = .ok definition) :
    definition ∈ configuration.list category := by
  unfold item at found
  extract_lets definitions position at found
  split at found
  · cases found
  · split at found
    · next known =>
        obtain rfl := Except.ok.inj found
        exact List.mem_of_getElem? known
    · cases found

theorem setZeroTolerance_writable (rules : OffFlavourRules) (enabled : Bool) :
    (rules.setZeroTolerance enabled).Finite ∧ (rules.setZeroTolerance enabled).Settled := by
  cases enabled with
  | true => exact ⟨⟨finiteIfSet_none, finiteIfSet_none⟩, fun _ => rfl⟩
  | false => exact ⟨⟨finiteIfSet_none, finiteIfSet_none⟩, OffFlavourRules.settled_default⟩

theorem Writable.setRules {rules : OffFlavourRules} (writable : configuration.Writable)
    (finite : rules.Finite) (settled : rules.Settled) :
    (configuration.setRules rules).Writable :=
  ⟨⟨writable.finite.taints, writable.finite.faults, finite⟩, settled⟩

theorem Writable.perform {edit : OffFlavourEdit} (writable : configuration.Writable)
    (performed : configuration.perform edit = some next) : next.Writable := by
  cases edit with
  | add definition =>
      obtain rfl := Option.some.inj performed
      exact writable.add (definition.fits OffFlavourDefinition.read_yields)
  | create category identifier name displayOrder scale =>
      obtain rfl := Option.some.inj performed
      apply writable.add
      cases scale with
      | none => exact (by decide +kernel : OffFlavourDefinition.defaultScale.Finite)
      | some scale => exact scale.fits Scale.read_yields
  | clone category index identifier =>
      obtain ⟨definition, found, rfl⟩ := Option.map_eq_some_iff.1 performed
      have listed := item_mem (toOption_eq_some_iff.1 found)
      exact writable.add (writable.finite.list category definition listed)
  | remove category index => exact writable.remove (toOption_eq_some_iff.1 performed)
  | move category index direction => exact writable.move (toOption_eq_some_iff.1 performed)
  | setRules rules =>
      obtain rfl := Option.some.inj performed
      exact writable.setRules (rules.fits OffFlavourRules.read_yields)
        (rules.fits OffFlavourRules.read_settles)
  | setZeroTolerance enabled =>
      obtain rfl := Option.some.inj performed
      obtain ⟨finite, settled⟩ := setZeroTolerance_writable configuration.rules enabled
      exact writable.setRules finite settled
  | load fresh id => exact OffFlavourTemplate.load_writable (toOption_eq_some_iff.1 performed)
  | clear =>
      obtain rfl := Option.some.inj performed
      exact writable_default

end OffFlavourConfiguration
end CoffeeGrading
