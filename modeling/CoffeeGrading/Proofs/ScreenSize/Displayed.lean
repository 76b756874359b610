import CoffeeGrading.Proofs.DisplayOrder.Numbered
import CoffeeGrading.Proofs.DisplayOrder.Sorted
import CoffeeGrading.Proofs.ScreenSize.Editing
import CoffeeGrading.Proofs.Template.Written

/-!
What edits do to the screens that are displayed.  The display goes by the places of the constraints,
the edits by their positions: they number the constraints as they are listed, and so bring the
display into the order of the list.  Where that is the order of the display already, an edit shows;
elsewhere it shows together with a new order of the other screens.
-/

namespace CoffeeGrading

open DisplayOrder

namespace ScreenRequirements

/-- The screens are displayed in the order in which their constraints are listed. -/
def ListedAsDisplayed (constraints : List ScreenConstraint) : Prop :=
  (sort constraints).map (·.screenSize) = constraints.map (·.screenSize)

theorem listedAsDisplayed_of_ascending {constraints : List ScreenConstraint}
    (ascending : Ascending constraints) : ListedAsDisplayed constraints := by
  rw [ListedAsDisplayed, (sort_eq_self_iff constraints).2 ascending]

def others (requirements : ScreenRequirements) (screenSize : String) : List ScreenConstraint :=
  requirements.constraints.filter fun other => other.key ≠ Text.nameKey screenSize

def displayedWithout (requirements : ScreenRequirements) (screenSize : String) : List String :=
  requirements.screenSizes.filter fun shown => Text.nameKey shown ≠ Text.nameKey screenSize

theorem screenSizes_of_renumbered (requirements : ScreenRequirements)
    (constraints : List ScreenConstraint) :
    { requirements with constraints := renumber constraints }.screenSizes =
      constraints.map (·.screenSize) := by
  rw [screenSizes, sort_renumber, map_renumber fun _ _ => rfl]

theorem screenSizes_remove (requirements : ScreenRequirements) (screenSize : String) :
    (requirements.remove screenSize).screenSizes =
      (requirements.others screenSize).map (·.screenSize) :=
  requirements.screenSizes_of_renumbered (requirements.others screenSize)

theorem displayedWithout_eq (requirements : ScreenRequirements) (screenSize : String) :
    requirements.displayedWithout screenSize =
      (sort (requirements.others screenSize)).map (·.screenSize) := by
  rw [displayedWithout, screenSizes, List.filter_map, others, ← filter_sort]
  refine congrArg _ (List.filter_congr ?_)
  intro constraint _
  rw [Function.comp_apply, decide_eq_decide, ScreenConstraint.key]

theorem others_of_absent {requirements : ScreenRequirements} {screenSize : String}
    (absent : ∀ constraint ∈ requirements.constraints,
      constraint.key ≠ Text.nameKey screenSize) :
    requirements.others screenSize = requirements.constraints :=
  List.filter_eq_self.2 fun constraint listed => decide_eq_true (absent constraint listed)

theorem screenSizes_of_add {requirements next : ScreenRequirements}
    {constraint : ScreenConstraint} (added : requirements.add constraint = .ok next) :
    next.screenSizes =
      requirements.constraints.map (·.screenSize) ++ [constraint.screenSize] := by
  obtain ⟨_, rfl⟩ := add_eq_ok added
  rw [DisplayOrder.append, screenSizes_of_renumbered, List.map_append]
  rfl

theorem add_of_absent {requirements : ScreenRequirements} {constraint : ScreenConstraint}
    (absent : ∀ other ∈ requirements.constraints, other.key ≠ constraint.key) :
    requirements.add constraint =
      .ok { requirements with
        constraints := DisplayOrder.append requirements.constraints constraint } := by
  have free : (requirements.constraints.any fun other => other.key = constraint.key) = false :=
    List.any_eq_false.2 fun other listed => by simpa using absent other listed
  rw [add, free]
  rfl

/-- A removal is displayed as the removal of the screens of that name, and an addition as a further
screen at the end, exactly when the constraints that stay are listed in the order in which they are
displayed; where screens are told apart, exactly when these stand in the order of their places. -/
theorem display_edited_iff (requirements : ScreenRequirements) :
    (∀ screenSize,
      (requirements.remove screenSize).screenSizes = requirements.displayedWithout screenSize ↔
        ListedAsDisplayed (requirements.others screenSize)) ∧
    (∀ screenSize, (∀ constraint ∈ requirements.constraints,
        constraint.key ≠ Text.nameKey screenSize) →
      ((requirements.remove screenSize).screenSizes = requirements.screenSizes ↔
        ListedAsDisplayed requirements.constraints)) ∧
    (∀ constraint next, requirements.add constraint = .ok next →
      (next.screenSizes = requirements.screenSizes ++ [constraint.screenSize] ↔
        ListedAsDisplayed requirements.constraints)) ∧
    ∀ kept : List ScreenConstraint, kept.Sublist requirements.constraints →
      (Ascending kept → ListedAsDisplayed kept) ∧
        ((requirements.constraints.map (·.screenSize)).Nodup →
          ListedAsDisplayed kept → Ascending kept) := by
  have removal : ∀ screenSize,
      (requirements.remove screenSize).screenSizes = requirements.displayedWithout screenSize ↔
        ListedAsDisplayed (requirements.others screenSize) := by
    intro screenSize
    rw [screenSizes_remove, displayedWithout_eq, ListedAsDisplayed]
    exact eq_comm
  refine ⟨removal, ?absent, ?addition, ?places⟩
  case absent =>
    intro screenSize absent
    have unchanged : requirements.displayedWithout screenSize = requirements.screenSizes := by
      rw [displayedWithout_eq, others_of_absent absent, screenSizes]
    rw [← unchanged, removal, others_of_absent absent]
  case addition =>
    intro constraint next added
    rw [screenSizes_of_add added, List.append_cancel_right_eq, ListedAsDisplayed]
    exact eq_comm
  case places =>
    intro kept among
    refine ⟨listedAsDisplayed_of_ascending, ?_⟩
    intro apart
    exact (map_sort_eq_iff (apart.sublist (among.map _))).1

def gradedScreens : ScreenRequirements where
  constraints := [
    { screenSize := "16", rule := .any, displayOrder := -3 },
    { screenSize := "12", rule := .any, displayOrder := 4 },
    { screenSize := "Pan", rule := .any, displayOrder := 4 }]

def peaScreen : ScreenConstraint := { screenSize := "Peas 9", rule := .any, displayOrder := -7 }

theorem gradedScreens_edited_as_displayed :
    (gradedScreens.remove " PAN").screenSizes = gradedScreens.displayedWithout " PAN" ∧
    ((∀ constraint ∈ gradedScreens.constraints, constraint.key ≠ Text.nameKey "18") ∧
      (gradedScreens.remove "18").screenSizes = gradedScreens.screenSizes) ∧
    ∃ next, gradedScreens.add peaScreen = .ok next ∧
      next.screenSizes = gradedScreens.screenSizes ++ ["Peas 9"] := by
  obtain ⟨removal, absence, addition, places⟩ := display_edited_iff gradedScreens
  have ascending : Ascending gradedScreens.constraints := by
    simp [Ascending, gradedScreens, HasDisplayOrder.displayOrder]
  have kept : (gradedScreens.others " PAN").Sublist gradedScreens.constraints :=
    List.filter_sublist
  have listed := (places _ (List.Sublist.refl _)).1 ascending
  have absent : ∀ constraint ∈ gradedScreens.constraints,
      constraint.key ≠ Text.nameKey "18" := by
    decide +kernel
  have peaAbsent : ∀ constraint ∈ gradedScreens.constraints, constraint.key ≠ peaScreen.key := by
    decide +kernel
  have added := add_of_absent peaAbsent
  exact ⟨(removal " PAN").2 ((places _ kept).1 (ascending.sublist kept)),
    ⟨absent, (absence "18" absent).2 listed⟩, _, added, (addition _ _ added).2 listed⟩

def reversedScreens : ScreenRequirements where
  constraints := [
    { screenSize := "16", rule := .any, displayOrder := 1 },
    { screenSize := "12", rule := .any, displayOrder := 0 }]

/-- The removal of a screen that is not there turns the display round, and so does an addition. -/
theorem absent_removal_reorders_display :
    ScreenRequirements.read reversedScreens.document = pure reversedScreens ∧
      reversedScreens.screenSizes = ["12", "16"] ∧
      ((∀ constraint ∈ reversedScreens.constraints, constraint.key ≠ Text.nameKey "18") ∧
        (reversedScreens.remove "18").screenSizes = ["16", "12"]) ∧
      ∃ next, reversedScreens.add { screenSize := "18", rule := .any } = .ok next ∧
        next.screenSizes = ["16", "12", "18"] := by
  have finite : ∀ constraint ∈ reversedScreens.constraints, constraint.Finite := by
    simp only [reversedScreens, List.forall_mem_cons]
    exact ⟨⟨finiteIfSet_none, finiteIfSet_none⟩, ⟨finiteIfSet_none, finiteIfSet_none⟩, by simp⟩
  have shown : reversedScreens.screenSizes = ["12", "16"] := by
    simp [screenSizes, reversedScreens, sort, List.mergeSort, HasDisplayOrder.displayOrder]
  have absent : ∀ constraint ∈ reversedScreens.constraints,
      constraint.key ≠ Text.nameKey "18" := by
    decide +kernel
  have removed : (reversedScreens.remove "18").screenSizes = ["16", "12"] := by
    rw [screenSizes_remove, others_of_absent absent]
    rfl
  have newAbsent : ∀ constraint ∈ reversedScreens.constraints,
      constraint.key ≠ ({ screenSize := "18", rule := .any } : ScreenConstraint).key := absent
  have added := add_of_absent newAbsent
  exact ⟨ScreenRequirements.read_document finite, shown, ⟨absent, removed⟩, _, added,
    screenSizes_of_add added⟩

end ScreenRequirements
end CoffeeGrading
