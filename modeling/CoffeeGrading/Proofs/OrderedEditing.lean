import CoffeeGrading.Proofs.Aspect.Editing
import CoffeeGrading.Proofs.DisplayOrder.Numbered
import CoffeeGrading.Proofs.OffFlavour.Editing
import CoffeeGrading.Proofs.ScreenSize.Editing
import Mathlib.Logic.Relation

/-!
The ordered lists of aspect configurations, screen-size requirements and configurations of
off-flavours.  A call that edits one of them makes exactly the change it was asked for and numbers
the entries anew; the other calls leave the places alone, so that a list which is numbered stays
numbered in every run of calls.
-/

namespace CoffeeGrading

open DisplayOrder HasDisplayOrder

theorem kept_along_run {State : Type} {Step : State → State → Prop} (Invariant : State → Prop)
    (kept : ∀ state next, Step state next → Invariant state → Invariant next)
    {first last : State} (run : Relation.ReflTransGen Step first last)
    (initially : Invariant first) : Invariant last := by
  induction run with
  | refl => exact initially
  | tail _ step ih => exact kept _ _ step ih

/-! ### Aspects -/

namespace AspectConfiguration

variable {configuration next : AspectConfiguration}

/-- A call that returned, and what it returned. -/
inductive Step (configuration : AspectConfiguration) : AspectConfiguration → Prop
  | add {id label : String} {value : Binary64} {description : Option String} {next}
      (returned : configuration.add id label value description = .ok next) :
      Step configuration next
  | update {id : String} {label : Option String} {value : Option Binary64}
      {description : Option String} {next}
      (returned : configuration.update id label value description = .ok next) :
      Step configuration next
  | remove {id : String} {next} (returned : configuration.remove id = .ok next) :
      Step configuration next
  | swap {first second : Int} {next} (returned : configuration.swap first second = .ok next) :
      Step configuration next
  | move {index direction : Int} {next} (returned : configuration.move index direction = .ok next) :
      Step configuration next
  | setThreshold {value : Option Binary64} {validationMessage : Option String} {next}
      (returned : configuration.setThreshold value validationMessage = .ok next) :
      Step configuration next

theorem numbered_of_add {id label : String} {value : Binary64} {description : Option String}
    (returned : configuration.add id label value description = .ok next) :
    Numbered (configuration.wordings ++ [⟨id, label, value, 0, description⟩]) next.wordings ∧
      next = { configuration with wordings := next.wordings } := by
  obtain ⟨_, rfl⟩ := add_eq_ok returned
  obtain ⟨places, entries⟩ := numbered_append configuration.wordings
    ⟨id, label, value, configuration.wordings.length, description⟩
  refine ⟨⟨places, entries.trans ?_⟩, rfl⟩
  simp [unplaced, placedAt]

theorem numbered_of_remove {id : String} (returned : configuration.remove id = .ok next) :
    (∃ wording ∈ configuration.wordings, wording.id = id) ∧
      Numbered (configuration.wordings.eraseP fun wording => wording.id = id) next.wordings ∧
      (next = { configuration with wordings := next.wordings } ∨
        next = { configuration with wordings := next.wordings, threshold := none }) := by
  obtain ⟨before, gone, after, addressed, rfl⟩ := remove_eq_ok returned
  refine ⟨⟨gone, by simp [addressed.split], addressed.named⟩, ?_, ?_⟩
  · rw [eraseP_addressed addressed]
    exact numbered_renumber _
  · cases configuration.threshold with
    | none => exact .inl rfl
    | some threshold =>
        by_cases carried : threshold.minAcceptableValue == gone.value
        · exact .inr (by simp [Option.filter, carried])
        · exact .inl (by simp [Option.filter, carried])

theorem swapped_of_swap {first second : Int}
    (returned : configuration.swap first second = .ok next) :
    Swapped first second configuration.wordings next.wordings ∧
      next = { configuration with wordings := next.wordings } := by
  obtain ⟨wordings, exchanged, done⟩ := exists_of_bind_eq_ok returned
  obtain rfl := Except.ok.inj done
  exact ⟨DisplayOrder.swapped_of_swap exchanged, rfl⟩

theorem moved_of_move {index direction : Int}
    (returned : configuration.move index direction = .ok next) :
    Moved index direction configuration.wordings next.wordings ∧
      next = { configuration with wordings := next.wordings } := by
  obtain ⟨wordings, moved, done⟩ := exists_of_bind_eq_ok returned
  obtain rfl := Except.ok.inj done
  exact ⟨DisplayOrder.moved_of_move moved, rfl⟩

theorem places_of_update {id : String} {label : Option String} {value : Option Binary64}
    {description : Option String}
    (returned : configuration.update id label value description = .ok next) :
    next.wordings.map displayOrder = configuration.wordings.map displayOrder := by
  obtain ⟨before, old, after, addressed, rfl⟩ := update_eq_ok returned
  rw [addressed.split, List.map_append, List.map_append, List.map_cons, List.map_cons]
  rfl

theorem wordings_of_setThreshold {value : Option Binary64} {validationMessage : Option String}
    (returned : configuration.setThreshold value validationMessage = .ok next) :
    next.wordings = configuration.wordings := by
  obtain ⟨rfl, _⟩ := setThreshold_eq_ok returned
  rfl

theorem Step.contiguous (step : Step configuration next)
    (contiguous : isContiguous configuration.wordings = true) :
    isContiguous next.wordings = true := by
  cases step with
  | add returned => exact (numbered_of_add returned).1.places
  | update returned =>
      have places := places_of_update returned
      have count := congrArg List.length places
      rw [List.length_map, List.length_map] at count
      rwa [isContiguous, places, count]
  | remove returned => exact (numbered_of_remove returned).2.1.places
  | swap returned => exact (swapped_of_swap returned).1.places
  | move returned => exact (moved_of_move returned).1.places
  | setThreshold returned => rwa [wordings_of_setThreshold returned]

theorem contiguous_of_run (run : Relation.ReflTransGen Step configuration next) :
    isContiguous configuration.wordings = true → isContiguous next.wordings = true :=
  kept_along_run (fun state : AspectConfiguration => isContiguous state.wordings = true)
    (fun _ _ step => step.contiguous) run

end AspectConfiguration

/-! ### Screens -/

namespace ScreenRequirements

variable {requirements next : ScreenRequirements}

inductive Step (requirements : ScreenRequirements) : ScreenRequirements → Prop
  | add {constraint : ScreenConstraint} {next} (returned : requirements.add constraint = .ok next) :
      Step requirements next
  | remove (screenSize : String) : Step requirements (requirements.remove screenSize)
  | move {index direction : Int} {next} (returned : requirements.move index direction = .ok next) :
      Step requirements next

theorem numbered_of_add {constraint : ScreenConstraint}
    (returned : requirements.add constraint = .ok next) :
    Numbered (requirements.constraints ++ [constraint]) next.constraints ∧
      next = { requirements with constraints := next.constraints } := by
  obtain ⟨_, rfl⟩ := add_eq_ok returned
  exact ⟨numbered_append _ _, rfl⟩

theorem moved_of_move {index direction : Int}
    (returned : requirements.move index direction = .ok next) :
    Moved index direction requirements.constraints next.constraints ∧
      next = { requirements with constraints := next.constraints } := by
  obtain ⟨constraints, moved, done⟩ := exists_of_bind_eq_ok returned
  obtain rfl := Except.ok.inj done
  exact ⟨DisplayOrder.moved_of_move moved, rfl⟩

theorem Step.contiguous (step : Step requirements next) :
    isContiguous next.constraints = true := by
  cases step with
  | add returned => exact (numbered_of_add returned).1.places
  | remove screenSize => exact isContiguous_renumber _
  | move returned => exact (moved_of_move returned).1.places

theorem contiguous_of_run (run : Relation.ReflTransGen Step requirements next) :
    isContiguous requirements.constraints = true → isContiguous next.constraints = true :=
  kept_along_run (fun state : ScreenRequirements => isContiguous state.constraints = true)
    (fun _ _ step _ => step.contiguous) run

end ScreenRequirements

/-! ### Off-flavours -/

namespace OffFlavourConfiguration

variable {configuration next : OffFlavourConfiguration} {category : OffFlavourCategory}

inductive Step (configuration : OffFlavourConfiguration) : OffFlavourConfiguration → Prop
  | add (definition : OffFlavourDefinition) : Step configuration (configuration.add definition)
  | remove {category : OffFlavourCategory} {index : Int} {next}
      (returned : configuration.remove category index = .ok next) : Step configuration next
  | move {category : OffFlavourCategory} {index direction : Int} {next}
      (returned : configuration.move category index direction = .ok next) : Step configuration next
  | setRules (rules : OffFlavourRules) : Step configuration (configuration.setRules rules)

structure OnlyListDiffers (category : OffFlavourCategory)
    (before after : OffFlavourConfiguration) : Prop where
  other : ∀ list, list ≠ category → after.list list = before.list list
  rules : after.rules = before.rules
  notes : after.notes = before.notes

@[simp] theorem list_withList (definitions : List OffFlavourDefinition) :
    (configuration.withList category definitions).list category = definitions := by
  cases category <;> rfl

theorem onlyListDiffers_withList (definitions : List OffFlavourDefinition) :
    OnlyListDiffers category configuration (configuration.withList category definitions) := by
  cases category with
  | taint =>
      refine ⟨?_, rfl, rfl⟩
      rintro (_ | _) other
      · exact absurd rfl other
      · rfl
  | fault =>
      refine ⟨?_, rfl, rfl⟩
      rintro (_ | _) other
      · rfl
      · exact absurd rfl other

theorem numbered_of_add (configuration : OffFlavourConfiguration)
    (definition : OffFlavourDefinition) :
    Numbered (configuration.list definition.category ++ [definition])
        ((configuration.add definition).list definition.category) ∧
      OnlyListDiffers definition.category configuration (configuration.add definition) := by
  unfold OffFlavourConfiguration.add
  rw [list_withList]
  exact ⟨numbered_append _ _, onlyListDiffers_withList _⟩

theorem removed_of_remove {index : Int}
    (returned : configuration.remove category index = .ok next) :
    Removed index (configuration.list category) (next.list category) ∧
      OnlyListDiffers category configuration next := by
  obtain ⟨definitions, removed, done⟩ := exists_of_bind_eq_ok returned
  obtain rfl := Except.ok.inj done
  rw [list_withList]
  exact ⟨removed_of_removeAt removed, onlyListDiffers_withList definitions⟩

theorem moved_of_move {index direction : Int}
    (returned : configuration.move category index direction = .ok next) :
    Moved index direction (configuration.list category) (next.list category) ∧
      OnlyListDiffers category configuration next := by
  obtain ⟨definitions, moved, done⟩ := exists_of_bind_eq_ok returned
  obtain rfl := Except.ok.inj done
  rw [list_withList]
  exact ⟨DisplayOrder.moved_of_move moved, onlyListDiffers_withList definitions⟩

theorem OnlyListDiffers.contiguous (only : OnlyListDiffers category configuration next)
    (places : isContiguous (next.list category) = true)
    (contiguous : ∀ list, isContiguous (configuration.list list) = true) :
    ∀ list, isContiguous (next.list list) = true := by
  intro list
  by_cases same : list = category
  · rw [same]
    exact places
  · rw [only.other list same]
    exact contiguous list

theorem Step.contiguous (step : Step configuration next)
    (contiguous : ∀ list, isContiguous (configuration.list list) = true) :
    ∀ list, isContiguous (next.list list) = true := by
  cases step with
  | add definition =>
      obtain ⟨numbered, only⟩ := numbered_of_add configuration definition
      exact only.contiguous numbered.places contiguous
  | remove returned =>
      obtain ⟨removed, only⟩ := removed_of_remove returned
      exact only.contiguous removed.numbered.places contiguous
  | move returned =>
      obtain ⟨moved, only⟩ := moved_of_move returned
      exact only.contiguous moved.places contiguous
  | setRules rules =>
      intro list
      cases list with
      | taint => exact contiguous .taint
      | fault => exact contiguous .fault

theorem contiguous_of_run (run : Relation.ReflTransGen Step configuration next) :
    (∀ category, isContiguous (configuration.list category) = true) →
      ∀ category, isContiguous (next.list category) = true :=
  kept_along_run
    (fun state : OffFlavourConfiguration => ∀ category, isContiguous (state.list category) = true)
    (fun _ _ step => step.contiguous) run

end OffFlavourConfiguration

/-- Whatever places the entries of a list came with, a call that edits the list makes the change it
was asked for, leaves everything else as it was, and puts every entry at the place of its position;
no call of a run undoes this. -/
theorem list_edits_number_anew :
    (∀ configuration next : AspectConfiguration,
      (∀ id label value description,
        configuration.add id label value description = .ok next →
          Numbered (configuration.wordings ++ [⟨id, label, value, 0, description⟩]) next.wordings ∧
            next = { configuration with wordings := next.wordings }) ∧
      (∀ id, configuration.remove id = .ok next →
        (∃ wording ∈ configuration.wordings, wording.id = id) ∧
          Numbered (configuration.wordings.eraseP fun wording => wording.id = id) next.wordings ∧
          (next = { configuration with wordings := next.wordings } ∨
            next = { configuration with wordings := next.wordings, threshold := none })) ∧
      (∀ first second, configuration.swap first second = .ok next →
        Swapped first second configuration.wordings next.wordings ∧
          next = { configuration with wordings := next.wordings }) ∧
      (∀ index direction, configuration.move index direction = .ok next →
        Moved index direction configuration.wordings next.wordings ∧
          next = { configuration with wordings := next.wordings }) ∧
      (∀ id label value description,
        configuration.update id label value description = .ok next →
          next.wordings.map displayOrder = configuration.wordings.map displayOrder) ∧
      (∀ value validationMessage,
        configuration.setThreshold value validationMessage = .ok next →
          next.wordings = configuration.wordings) ∧
      (Relation.ReflTransGen AspectConfiguration.Step configuration next →
        isContiguous configuration.wordings = true → isContiguous next.wordings = true)) ∧
    (∀ requirements next : ScreenRequirements,
      (∀ constraint, requirements.add constraint = .ok next →
        Numbered (requirements.constraints ++ [constraint]) next.constraints ∧
          next = { requirements with constraints := next.constraints }) ∧
      (∀ screenSize, requirements.remove screenSize = next →
        Numbered (requirements.constraints.filter fun other =>
            Text.nameKey other.screenSize ≠ Text.nameKey screenSize) next.constraints ∧
          next = { requirements with constraints := next.constraints }) ∧
      (∀ index direction, requirements.move index direction = .ok next →
        Moved index direction requirements.constraints next.constraints ∧
          next = { requirements with constraints := next.constraints }) ∧
      (Relation.ReflTransGen ScreenRequirements.Step requirements next →
        isContiguous requirements.constraints = true → isContiguous next.constraints = true)) ∧
    ∀ configuration next : OffFlavourConfiguration,
      (∀ definition, configuration.add definition = next →
        Numbered (configuration.list definition.category ++ [definition])
            (next.list definition.category) ∧
          OffFlavourConfiguration.OnlyListDiffers definition.category configuration next) ∧
      (∀ category index, configuration.remove category index = .ok next →
        Removed index (configuration.list category) (next.list category) ∧
          OffFlavourConfiguration.OnlyListDiffers category configuration next) ∧
      (∀ category index direction, configuration.move category index direction = .ok next →
        Moved index direction (configuration.list category) (next.list category) ∧
          OffFlavourConfiguration.OnlyListDiffers category configuration next) ∧
      (∀ rules, configuration.setRules rules = next →
        ∀ category, next.list category = configuration.list category) ∧
      (Relation.ReflTransGen OffFlavourConfiguration.Step configuration next →
        (∀ category, isContiguous (configuration.list category) = true) →
          ∀ category, isContiguous (next.list category) = true) := by
  refine ⟨?aspects, ?screens, ?offFlavours⟩
  case aspects =>
    intro configuration next
    exact ⟨fun _ _ _ _ => AspectConfiguration.numbered_of_add,
      fun _ => AspectConfiguration.numbered_of_remove,
      fun _ _ => AspectConfiguration.swapped_of_swap,
      fun _ _ => AspectConfiguration.moved_of_move,
      fun _ _ _ _ => AspectConfiguration.places_of_update,
      fun _ _ => AspectConfiguration.wordings_of_setThreshold,
      AspectConfiguration.contiguous_of_run⟩
  case screens =>
    intro requirements next
    refine ⟨fun _ => ScreenRequirements.numbered_of_add, ?_,
      fun _ _ => ScreenRequirements.moved_of_move,
      ScreenRequirements.contiguous_of_run⟩
    rintro screenSize rfl
    exact ⟨numbered_renumber _, rfl⟩
  case offFlavours =>
    intro configuration next
    refine ⟨?_, fun _ _ => OffFlavourConfiguration.removed_of_remove,
      fun _ _ _ => OffFlavourConfiguration.moved_of_move, ?_,
      OffFlavourConfiguration.contiguous_of_run⟩
    · rintro definition rfl
      exact OffFlavourConfiguration.numbered_of_add configuration definition
    · rintro rules rfl category
      cases category <;> rfl

def scatteredBeans : AspectConfiguration where
  wordings := [⟨"w", "Poor", 1, 4, none⟩, ⟨"w", "Good", 5, -2, none⟩, ⟨"x", "Fine", 9, 4, none⟩]

def remainingBeans : AspectConfiguration where
  wordings := [⟨"w", "Good", 5, 0, none⟩, ⟨"x", "Fine", 9, 1, none⟩]

def exchangedBeans : AspectConfiguration where
  wordings := [⟨"x", "Fine", 9, 0, none⟩, ⟨"w", "Good", 5, 1, none⟩]

def scatteredScreens : ScreenRequirements where
  constraints := [{ screenSize := "16", rule := .any, displayOrder := 3 }]

def twoScreens : ScreenRequirements where
  constraints := [
    { screenSize := "16", rule := .any },
    { screenSize := "12", rule := .any, displayOrder := 1 }]

def sourness : OffFlavourDefinition where
  id := "s"
  name := "Sour"
  category := .fault
  scale := .numeric ⟨1, 5, 0.5⟩
  displayOrder := 9

theorem scattered_lists_numbered :
    (scatteredBeans.remove "w" = .ok remainingBeans ∧
      (∃ wording ∈ scatteredBeans.wordings, wording.id = "w") ∧
      Numbered (scatteredBeans.wordings.eraseP fun wording => wording.id = "w")
        remainingBeans.wordings ∧
      (remainingBeans = { scatteredBeans with wordings := remainingBeans.wordings } ∨
        remainingBeans =
          { scatteredBeans with wordings := remainingBeans.wordings, threshold := none })) ∧
    (remainingBeans.swap 0 1 = .ok exchangedBeans ∧
      Swapped 0 1 remainingBeans.wordings exchangedBeans.wordings ∧
      exchangedBeans = { remainingBeans with wordings := exchangedBeans.wordings }) ∧
    (scatteredScreens.add { screenSize := "12", rule := .any } = .ok twoScreens ∧
      Numbered (scatteredScreens.constraints ++ [{ screenSize := "12", rule := .any }])
        twoScreens.constraints ∧
      twoScreens = { scatteredScreens with constraints := twoScreens.constraints }) ∧
    (OffFlavourConfiguration.move { faults := [sourness] } .fault 0 1 =
        .ok { faults := [{ sourness with displayOrder := 0 }] } ∧
      Moved 0 1 [sourness] [{ sourness with displayOrder := 0 }] ∧
      OffFlavourConfiguration.OnlyListDiffers .fault { faults := [sourness] }
        { faults := [{ sourness with displayOrder := 0 }] }) ∧
    (Relation.ReflTransGen AspectConfiguration.Step remainingBeans exchangedBeans ∧
      isContiguous remainingBeans.wordings = true ∧
      isContiguous exchangedBeans.wordings = true) := by
  obtain ⟨aspects, screens, offFlavours⟩ := list_edits_number_anew
  have removed : scatteredBeans.remove "w" = .ok remainingBeans := rfl
  have exchanged : remainingBeans.swap 0 1 = .ok exchangedBeans := rfl
  have added : scatteredScreens.add { screenSize := "12", rule := .any } = .ok twoScreens := by
    have apart : Text.nameKey "16" ≠ Text.nameKey "12" := by decide +kernel
    simp [ScreenRequirements.add, scatteredScreens, twoScreens, ScreenConstraint.key, apart,
      DisplayOrder.append, renumber, placedAt]
  have stayed : OffFlavourConfiguration.move { faults := [sourness] } .fault 0 1 =
      .ok { faults := [{ sourness with displayOrder := 0 }] } := rfl
  have run : Relation.ReflTransGen AspectConfiguration.Step remainingBeans exchangedBeans :=
    .tail (.single (.setThreshold (rfl : remainingBeans.setThreshold none none = _)))
      (.swap exchanged)
  have numbered : isContiguous remainingBeans.wordings = true := by decide
  exact ⟨⟨removed, (aspects _ _).2.1 _ removed⟩,
    ⟨exchanged, (aspects _ _).2.2.1 _ _ exchanged⟩,
    ⟨added, (screens _ _).1 _ added⟩,
    ⟨stayed, (offFlavours _ _).2.2.1 _ _ _ stayed⟩,
    run, numbered, (aspects _ _).2.2.2.2.2.2 run numbered⟩

end CoffeeGrading
