import CoffeeGrading.Proofs.Aspect.Addressing
import CoffeeGrading.Proofs.Catalogue
import CoffeeGrading.Proofs.DisplayOrder
import CoffeeGrading.Proofs.Document.Finite

/-!
Edits of aspect configurations.  All but one of them build what they add from checked parts; an
update writes the new value of a wording, and of a threshold that follows it, as it is given.
-/

namespace CoffeeGrading

inductive AspectEdit where
  | add (id label : String) (value : Binary64) (description : Option String)
  | update (id : String) (label : Option String) (value : Option Binary64)
      (description : Option String)
  | remove (id : String)
  | swap (first second : Int)
  | move (index direction : Int)
  | setThreshold (value : Option Binary64) (validationMessage : Option String)
  | load (fresh : Nat → Identifier) (id : String)
  | clear

def AspectEdit.uncheckedValue : AspectEdit → Option Binary64
  | update _ _ value _ => value
  | _ => none

namespace AspectConfiguration

def perform (configuration : AspectConfiguration) : AspectEdit → Option AspectConfiguration
  | .add id label value description => (configuration.add id label value description).toOption
  | .update id label value description =>
    (configuration.update id label value description).toOption
  | .remove id => (configuration.remove id).toOption
  | .swap first second => (configuration.swap first second).toOption
  | .move index direction => (configuration.move index direction).toOption
  | .setThreshold value validationMessage =>
    (configuration.setThreshold value validationMessage).toOption
  | .load fresh id => (AspectTemplate.load fresh id).toOption
  | .clear => some {}

variable {configuration next : AspectConfiguration}

theorem placeless_value :
    DisplayOrder.Placeless fun wording : AspectWording => wording.value.isFinite = true :=
  fun _ _ finite => finite

theorem finite_default : ({} : AspectConfiguration).Finite := by
  constructor
  · exact fun wording listed => absurd listed List.not_mem_nil
  · exact fun threshold given => by cases given

theorem add_eq_ok {id label : String} {value : Binary64} {description : Option String}
    (added : configuration.add id label value description = .ok next) :
    value.isFinite = true ∧ next = { configuration with
      wordings := DisplayOrder.append configuration.wordings
        ⟨id, label, value, configuration.wordings.length, description⟩ } := by
  obtain ⟨wording, made, done⟩ := exists_of_bind_eq_ok added
  obtain ⟨checked, rfl⟩ := (requireFinite_eq_ok_iff _ _ _).1 made
  obtain rfl := Except.ok.inj done
  exact ⟨by simpa using checked, rfl⟩

theorem swap_eq_ok {first second : Int} (swapped : configuration.swap first second = .ok next) :
    ∃ reordered, reordered.Perm configuration.wordings ∧
      next = { configuration with wordings := DisplayOrder.renumber reordered } := by
  obtain ⟨wordings, exchanged, done⟩ := exists_of_bind_eq_ok swapped
  obtain rfl := Except.ok.inj done
  obtain ⟨reordered, same, rfl⟩ := DisplayOrder.swap_eq_ok exchanged
  exact ⟨reordered, same, rfl⟩

theorem move_eq_ok {index direction : Int} (moved : configuration.move index direction = .ok next) :
    ∃ reordered, reordered.Perm configuration.wordings ∧
      next = { configuration with wordings := DisplayOrder.renumber reordered } := by
  obtain ⟨wordings, exchanged, done⟩ := exists_of_bind_eq_ok moved
  obtain rfl := Except.ok.inj done
  obtain ⟨reordered, same, rfl⟩ := DisplayOrder.move_eq_ok exchanged
  exact ⟨reordered, same, rfl⟩

theorem Finite.add {id label : String} {value : Binary64} {description : Option String}
    (finite : configuration.Finite)
    (added : configuration.add id label value description = .ok next) : next.Finite := by
  obtain ⟨value_finite, rfl⟩ := add_eq_ok added
  exact ⟨placeless_value.append finite.values value_finite, finite.threshold⟩

theorem Finite.remove {id : String} (finite : configuration.Finite)
    (removed : configuration.remove id = .ok next) : next.Finite := by
  obtain ⟨before, gone, after, addressed, rfl⟩ := remove_eq_ok removed
  constructor
  · exact placeless_value.chosen finite.values addressed.sublist.subperm
  · intro threshold kept
    exact finite.threshold threshold (Option.filter_eq_some_iff.1 kept).1

theorem Finite.swap {first second : Int} (finite : configuration.Finite)
    (swapped : configuration.swap first second = .ok next) : next.Finite := by
  obtain ⟨reordered, same, rfl⟩ := swap_eq_ok swapped
  exact ⟨placeless_value.chosen finite.values same.subperm, finite.threshold⟩

theorem Finite.move {index direction : Int} (finite : configuration.Finite)
    (moved : configuration.move index direction = .ok next) : next.Finite := by
  obtain ⟨reordered, same, rfl⟩ := move_eq_ok moved
  exact ⟨placeless_value.chosen finite.values same.subperm, finite.threshold⟩

theorem setThreshold_eq_ok {value : Option Binary64} {validationMessage : Option String}
    (changed : configuration.setThreshold value validationMessage = .ok next) :
    next = { configuration with threshold := value.map (AspectThreshold.mk · validationMessage) } ∧
      ∀ number, value = some number →
        number.isFinite = true ∧ hasValue configuration.wordings number = true := by
  cases value with
  | none =>
      obtain rfl := Except.ok.inj changed
      exact ⟨rfl, fun number given => by cases given⟩
  | some number =>
      simp only [AspectConfiguration.setThreshold] at changed
      by_cases matched : hasValue configuration.wordings number = true
      · rw [matched, Bool.not_true, if_neg Bool.false_ne_true] at changed
        split at changed
        · next threshold made =>
            obtain ⟨checked, rfl⟩ := (requireFinite_eq_ok_iff _ _ _).1 made
            obtain rfl := Except.ok.inj changed
            refine ⟨rfl, ?_⟩
            intro given same
            obtain rfl := Option.some.inj same
            exact ⟨by simpa using checked, matched⟩
        · cases changed
      · simp [matched] at changed

theorem Finite.setThreshold {value : Option Binary64} {validationMessage : Option String}
    (finite : configuration.Finite)
    (changed : configuration.setThreshold value validationMessage = .ok next) : next.Finite := by
  obtain ⟨rfl, checked⟩ := setThreshold_eq_ok changed
  refine ⟨finite.values, ?_⟩
  intro threshold set
  obtain ⟨number, given, rfl⟩ := Option.map_eq_some_iff.1 set
  exact (checked number given).1

theorem followedThreshold_cases (threshold : Option AspectThreshold) (old : Binary64)
    (value : Option Binary64) (wordings : List AspectWording) {followed : AspectThreshold}
    (follows : followedThreshold threshold old value wordings = some followed) :
    threshold = some followed ∨ value = some followed.minAcceptableValue := by
  cases threshold with
  | none => simp [followedThreshold] at follows
  | some stood =>
      cases value with
      | none => exact .inl (by simpa [followedThreshold] using follows)
      | some value =>
          simp only [followedThreshold] at follows
          split at follows
          · exact .inr (by rw [← Option.some.inj follows])
          · exact .inl follows

theorem Finite.update_iff {id : String} {label : Option String} {value : Option Binary64}
    {description : Option String} (finite : configuration.Finite)
    (updated : configuration.update id label value description = .ok next) :
    next.Finite ↔ FiniteIfSet value := by
  obtain ⟨before, old, after, addressed, rfl⟩ := update_eq_ok updated
  constructor
  · rintro ⟨values, _⟩ number rfl
    exact values _ (List.mem_append_right _ List.mem_cons_self)
  · intro unset_or_finite
    constructor
    · have known := finite.values
      rw [addressed.split, List.forall_mem_append, List.forall_mem_cons] at known
      obtain ⟨front, own, back⟩ := known
      refine List.forall_mem_append.2 ⟨front, List.forall_mem_cons.2 ⟨?_, back⟩⟩
      cases value with
      | none => exact own
      | some number => exact unset_or_finite number rfl
    · intro threshold follows
      rcases followedThreshold_cases _ _ _ _ follows with stood | written
      · exact finite.threshold threshold stood
      · exact unset_or_finite _ written

theorem Finite.perform_iff {edit : AspectEdit} (finite : configuration.Finite)
    (performed : configuration.perform edit = some next) :
    next.Finite ↔ FiniteIfSet edit.uncheckedValue := by
  have kept (nextFinite : next.Finite) : next.Finite ↔ FiniteIfSet none :=
    iff_of_true nextFinite finiteIfSet_none
  cases edit with
  | add id label value description => exact kept (finite.add (toOption_eq_some_iff.1 performed))
  | update id label value description => exact finite.update_iff (toOption_eq_some_iff.1 performed)
  | remove id => exact kept (finite.remove (toOption_eq_some_iff.1 performed))
  | swap first second => exact kept (finite.swap (toOption_eq_some_iff.1 performed))
  | move index direction => exact kept (finite.move (toOption_eq_some_iff.1 performed))
  | setThreshold value validationMessage =>
      exact kept (finite.setThreshold (toOption_eq_some_iff.1 performed))
  | load fresh id => exact kept (AspectTemplate.load_finite (toOption_eq_some_iff.1 performed))
  | clear =>
      obtain rfl := Option.some.inj performed
      exact kept finite_default

end AspectConfiguration
end CoffeeGrading
