import CoffeeGrading.Proofs.Defect.Categories
import CoffeeGrading.Proofs.DisplayOrder.Stable
import CoffeeGrading.Proofs.OrderedEditing

/-!
Lists that are edited, and sorted whenever they are shown.  A list is numbered exactly if numbering
changes nothing, and then it is sorted already; so from the first edit on it does not matter whether
and when the list is sorted, and what is shown of it is the list as it stands.
-/

namespace CoffeeGrading

open DisplayOrder HasDisplayOrder

namespace DisplayOrder

variable {Entry : Type} [HasDisplayOrder Entry] {items result : List Entry}

inductive EditedTo (items : List Entry) : List Entry → Prop
  | renumbered : EditedTo items (renumber items)
  | filtered (keep : Entry → Bool) : EditedTo items (renumber (items.filter keep))
  | appended (item : Entry) : EditedTo items (append items item)
  | removed {index : Int} {next : List Entry} (returned : removeAt items index = .ok next) :
      EditedTo items next
  | swapped {first second : Int} {next : List Entry}
      (returned : swap items first second = .ok next) : EditedTo items next
  | moved {index direction : Int} {next : List Entry}
      (returned : move items index direction = .ok next) : EditedTo items next

inductive EditedOrSortedTo (items : List Entry) : List Entry → Prop
  | edited {next : List Entry} (step : EditedTo items next) : EditedOrSortedTo items next
  | sorted : EditedOrSortedTo items (sort items)

variable [LawfulDisplayOrder Entry]

theorem isContiguous_iff : isContiguous items = true ↔ renumber items = items := by
  constructor
  · exact renumber_of_isContiguous
  · intro unchanged
    rw [← unchanged]
    exact isContiguous_renumber items

theorem numbered_iff : Numbered items result ↔ result = renumber items := by
  constructor
  · exact Numbered.eq_renumber
  · rintro rfl
    exact numbered_renumber items

theorem sort_of_isContiguous (places : isContiguous items = true) : sort items = items := by
  have sorted := sort_renumber items
  rwa [renumber_of_isContiguous places] at sorted

theorem EditedTo.places (step : EditedTo items result) : isContiguous result = true := by
  cases step with
  | renumbered => exact isContiguous_renumber items
  | filtered keep => exact isContiguous_renumber (items.filter keep)
  | appended item => exact (numbered_append items item).places
  | removed returned => exact (removed_of_removeAt returned).numbered.places
  | swapped returned => exact (swapped_of_swap returned).places
  | moved returned => exact (moved_of_move returned).places

theorem edited_of_run (run : Relation.ReflTransGen EditedOrSortedTo items result)
    (places : isContiguous items = true) :
    Relation.ReflTransGen EditedTo items result ∧ isContiguous result = true := by
  refine kept_along_run (fun list => Relation.ReflTransGen EditedTo items list ∧
    isContiguous list = true) ?_ run ⟨.refl, places⟩
  rintro list next step ⟨edits, numbered⟩
  cases step with
  | edited step => exact ⟨edits.tail step, step.places⟩
  | sorted =>
      rw [sort_of_isContiguous numbered]
      exact ⟨edits, numbered⟩

end DisplayOrder

theorem ScreenRequirements.screenSizes_of_step {requirements next : ScreenRequirements}
    (step : Step requirements next) : next.screenSizes = next.constraints.map (·.screenSize) := by
  rw [screenSizes, sort_of_isContiguous step.contiguous]

theorem DefectConfiguration.members_of_edit {configuration next : DefectConfiguration}
    {category : DefectCategory} {edit : MemberEdit}
    (returned : configuration.edit category edit = .ok next) :
    next.members category = ofCategory category next.defects := by
  rw [edit_eq, ← bind_ok_eq_map] at returned
  obtain ⟨members, changed, done⟩ := exists_of_bind_eq_ok returned
  obtain rfl := Except.ok.inj done
  have listed := ofCategory_replaceCategory configuration (category_of_changed changed) category
  rw [if_pos rfl] at listed
  rw [DefectConfiguration.members, defectsByCategory, listed, sort_renumber]

/-- A list is numbered exactly if numbering changes nothing; there is one way to number it, and one
way to sort it that leaves equal places in their order.  Once it was edited its entries stay where
they are whenever it is sorted, so that screens and defects are shown as they are listed. -/
theorem sorting_keeps_numbered_lists :
    (∀ (Entry : Type) [HasDisplayOrder Entry] [LawfulDisplayOrder Entry] (items : List Entry),
      (isContiguous items = true ↔ renumber items = items) ∧
      renumber (renumber items) = renumber items ∧
      isContiguous (renumber items) = true ∧
      (renumber items).length = items.length ∧
      (∀ result, Numbered items result ↔ result = renumber items) ∧
      (∀ result, SortedStably items result ↔ result = sort items) ∧
      sort (renumber items) = renumber items ∧
      ∀ edited last, EditedTo items edited →
        Relation.ReflTransGen EditedOrSortedTo edited last →
          sort last = last ∧ Relation.ReflTransGen EditedTo edited last) ∧
    (∀ requirements next, ScreenRequirements.Step requirements next →
      next.screenSizes = next.constraints.map (·.screenSize)) ∧
    ∀ (configuration next : DefectConfiguration) category edit,
      configuration.edit category edit = .ok next →
        next.members category = ofCategory category next.defects := by
  refine ⟨?lists, fun _ _ => ScreenRequirements.screenSizes_of_step,
    fun _ _ _ _ => DefectConfiguration.members_of_edit⟩
  intro Entry _ _ items
  have places := isContiguous_renumber items
  refine ⟨isContiguous_iff, renumber_of_isContiguous places, places, length_renumber items,
    fun _ => numbered_iff, fun _ => sortedStably_iff, sort_renumber items, ?runs⟩
  intro edited last step run
  obtain ⟨edits, numbered⟩ := edited_of_run run step.places
  exact ⟨sort_of_isContiguous numbered, edits⟩

def sortedBeans : List AspectWording :=
  [⟨"w", "Good", 5, -2, none⟩, ⟨"w", "Poor", 1, 4, none⟩, ⟨"x", "Fine", 9, 4, none⟩]

theorem sortedStably_beans : SortedStably scatteredBeans.wordings sortedBeans := by
  refine ⟨.swap _ _ _, ?_, ?_⟩
  · simp [Ascending, sortedBeans, displayOrder]
  · intro place
    by_cases lowest : -2 = place
    · subst lowest
      rfl
    · simp [level, scatteredBeans, sortedBeans, List.filter_cons, displayOrder, lowest]

theorem scattered_lists_sorted :
    renumber scatteredBeans.wordings ≠ scatteredBeans.wordings ∧
    sort scatteredBeans.wordings = sortedBeans ∧
    (EditedTo scatteredBeans.wordings remainingBeans.wordings ∧
      Relation.ReflTransGen EditedOrSortedTo remainingBeans.wordings
        (sort exchangedBeans.wordings) ∧
      sort (sort exchangedBeans.wordings) = sort exchangedBeans.wordings ∧
      Relation.ReflTransGen EditedTo remainingBeans.wordings (sort exchangedBeans.wordings)) ∧
    (ScreenRequirements.Step scatteredScreens (scatteredScreens.remove "12") ∧
      (scatteredScreens.remove "12").screenSizes =
        (scatteredScreens.remove "12").constraints.map (·.screenSize)) ∧
    DefectConfiguration.mingledDefects.edit .primary (.move 0 1) =
        .ok DefectConfiguration.sourBehindBlack ∧
      DefectConfiguration.sourBehindBlack.members .primary =
        ofCategory .primary DefectConfiguration.sourBehindBlack.defects := by
  obtain ⟨lists, screens, defects⟩ := sorting_keeps_numbered_lists
  obtain ⟨contiguous_iff, _, _, _, _, sorted_iff, _, after⟩ := lists _ scatteredBeans.wordings
  have removed : EditedTo scatteredBeans.wordings remainingBeans.wordings :=
    .removed (rfl : removeAt _ 0 = _)
  have exchanged : EditedTo remainingBeans.wordings exchangedBeans.wordings :=
    .swapped (rfl : swap _ 0 1 = _)
  have run := (Relation.ReflTransGen.single (EditedOrSortedTo.edited exchanged)).tail .sorted
  have step : ScreenRequirements.Step scatteredScreens (scatteredScreens.remove "12") :=
    .remove "12"
  have moved := DefectConfiguration.mingledDefects_moved
  exact ⟨mt contiguous_iff.2 (by decide), ((sorted_iff _).1 sortedStably_beans).symm,
    ⟨removed, run, after _ _ removed run⟩, ⟨step, screens _ _ step⟩, moved,
    defects _ _ _ _ moved⟩

end CoffeeGrading
