import CoffeeGrading.Proofs.Defect.Categories
import CoffeeGrading.Proofs.OrderedEditing

/-!
Moves by one step, of a list and of the configurations that hold one.  A step within the list is
undone by the step back, and a step off the list only numbers the entries anew.  What becomes of an
index that lies outside depends on where the step leads: into the list, and the call is refused; off
the list, and the index is overlooked.
-/

namespace CoffeeGrading

open DisplayOrder HasDisplayOrder

namespace DisplayOrder

variable {Entry : Type} {items : List Entry} {index direction : Int}

def IsStep (direction : Int) : Prop :=
  direction = -1 ∨ direction = 1

theorem IsStep.neg (step : IsStep direction) : IsStep (-direction) := by
  unfold IsStep at step ⊢
  omega

theorem position_of_within (within : Within items index) :
    position items.length index = .ok index.toNat :=
  if_pos within

theorem position_of_outside (outside : ¬ Within items index) :
    position items.length index = .error (.outOfRange index items.length) :=
  if_neg outside

theorem within_iff_of_length {other : List Entry} (same : other.length = items.length) :
    Within other index ↔ Within items index := by
  rw [Within, Within, same]

variable [HasDisplayOrder Entry]

theorem swap_of_within {first second : Int} (firstWithin : Within items first)
    (secondWithin : Within items second) :
    swap items first second = .ok (renumber (exchange items first.toNat second.toNat)) := by
  rw [swap, position_of_within firstWithin, position_of_within secondWithin]
  rfl

theorem swap_of_outside {first second : Int} (outside : ¬ Within items first) :
    swap items first second = .error (.outOfRange first items.length) := by
  rw [swap, position_of_outside outside]
  rfl

theorem move_onto (step : IsStep direction) (onto : Within items (index + direction)) :
    move items index direction = swap items index (index + direction) := by
  have allowed : ¬ (direction ≠ -1 ∧ direction ≠ 1) := by
    unfold IsStep at step
    omega
  rw [move, if_neg allowed]
  exact if_pos onto

theorem move_off (step : IsStep direction) (off : ¬ Within items (index + direction)) :
    move items index direction = .ok (renumber items) := by
  have allowed : ¬ (direction ≠ -1 ∧ direction ≠ 1) := by
    unfold IsStep at step
    omega
  rw [move, if_neg allowed]
  exact if_neg off

variable [LawfulDisplayOrder Entry]

theorem swap_back {first second : Int} (firstWithin : Within items first)
    (secondWithin : Within items second) :
    ∃ swapped, swap items first second = .ok swapped ∧ swapped.length = items.length ∧
      swap swapped second first = .ok (renumber items) := by
  have there := swap_of_within firstWithin secondWithin
  have same : (renumber (exchange items first.toNat second.toNat)).length = items.length := by
    rw [length_renumber, (exchange_perm _ _ _).length_eq]
  have back := swap_of_within ((within_iff_of_length same).2 secondWithin)
    ((within_iff_of_length same).2 firstWithin)
  refine ⟨_, there, same, back.trans ?_⟩
  exact congrArg Except.ok ((swapped_of_swap there).back (swapped_of_swap back)).eq_renumber

theorem move_back (step : IsStep direction) (within : Within items index)
    (onto : Within items (index + direction)) :
    ∃ moved, move items index direction = .ok moved ∧
      move moved (index + direction) (-direction) = .ok (renumber items) := by
  obtain ⟨moved, there, same, back⟩ := swap_back within onto
  have home : index + direction + -direction = index := Int.add_neg_cancel_right index direction
  have returns : Within moved (index + direction + -direction) := by
    rw [home, within_iff_of_length same]
    exact within
  refine ⟨moved, (move_onto step onto).trans there, ?_⟩
  rw [move_onto step.neg returns, home, back]

/-- What becomes of calls that move an entry by one step, in a state with a list that can be viewed
and replaced.  An index is refused when it lies outside the list and the step leads into it, so the
refusal tells the indexes outside only where the index or its neighbour lies within.  A step that
leads off the list only numbers the entries anew, wherever it starts; and every other step is undone
by the step back. -/
structure MovesBySteps {State : Type} (view : State → List Entry)
    (withItems : State → List Entry → State)
    (move : State → Int → Int → Except OrderFault State) (state : State) : Prop where
  refused_iff : ∀ index direction, IsStep direction → ∀ fault,
    move state index direction = .error fault ↔
      ¬ Within (view state) index ∧ Within (view state) (index + direction) ∧
        fault = .outOfRange index (view state).length
  told_iff : ∀ index direction, IsStep direction →
    (((∃ fault, move state index direction = .error fault) ↔ ¬ Within (view state) index) ↔
      Within (view state) index ∨ Within (view state) (index + direction))
  off : ∀ index direction, IsStep direction → ¬ Within (view state) (index + direction) →
    move state index direction = .ok (withItems state (renumber (view state)))
  back : ∀ index direction, IsStep direction → Within (view state) index →
    Within (view state) (index + direction) →
      ∃ next, move state index direction = .ok next ∧
        move next (index + direction) (-direction) =
          .ok (withItems state (renumber (view state)))

theorem movesBySteps_of_view {State : Type} {view : State → List Entry}
    {withItems : State → List Entry → State} {move : State → Int → Int → Except OrderFault State}
    {state : State}
    (handed : ∀ state index direction, move state index direction =
      (DisplayOrder.move (view state) index direction).map (withItems state))
    (viewed : ∀ index direction moved,
      DisplayOrder.move (view state) index direction = .ok moved →
        view (withItems state moved) = moved ∧
          ∀ items, withItems (withItems state moved) items = withItems state items) :
    MovesBySteps view withItems move state := by
  have refused_iff : ∀ index direction, IsStep direction → ∀ fault,
      move state index direction = .error fault ↔
        ¬ Within (view state) index ∧ Within (view state) (index + direction) ∧
          fault = .outOfRange index (view state).length := by
    intro index direction step fault
    rw [handed]
    by_cases onto : Within (view state) (index + direction)
    · by_cases within : Within (view state) index
      · obtain ⟨moved, there, _⟩ := move_back step within onto
        simp [there, within, Except.map]
      · rw [move_onto step onto, swap_of_outside within]
        simp [within, onto, Except.map, eq_comm]
    · simp [move_off step onto, onto, Except.map]
  refine ⟨refused_iff, ?told_iff, ?off, ?back⟩
  case told_iff =>
    intro index direction step
    simp only [refused_iff index direction step]
    by_cases within : Within (view state) index
    · simp [within]
    · simp [within]
  case off =>
    intro index direction step off
    rw [handed, move_off step off]
    rfl
  case back =>
    intro index direction step within onto
    obtain ⟨moved, there, returned⟩ := move_back step within onto
    obtain ⟨shown, again⟩ := viewed index direction moved there
    refine ⟨withItems state moved, by rw [handed, there]; rfl, ?_⟩
    rw [handed, shown, returned]
    exact congrArg Except.ok (again _)

end DisplayOrder

theorem AspectConfiguration.movesBySteps (configuration : AspectConfiguration) :
    MovesBySteps AspectConfiguration.wordings
      (fun configuration wordings => { configuration with wordings })
      AspectConfiguration.move configuration :=
  movesBySteps_of_view (fun _ _ _ => bind_ok_eq_map _ _) fun _ _ _ _ => ⟨rfl, fun _ => rfl⟩

theorem ScreenRequirements.movesBySteps (requirements : ScreenRequirements) :
    MovesBySteps ScreenRequirements.constraints
      (fun requirements constraints => { requirements with constraints })
      ScreenRequirements.move requirements :=
  movesBySteps_of_view (fun _ _ _ => bind_ok_eq_map _ _) fun _ _ _ _ => ⟨rfl, fun _ => rfl⟩

namespace OffFlavourConfiguration

theorem withList_withList (configuration : OffFlavourConfiguration)
    (category : OffFlavourCategory) (first second : List OffFlavourDefinition) :
    (configuration.withList category first).withList category second =
      configuration.withList category second := by
  cases category <;> rfl

theorem movesBySteps (category : OffFlavourCategory) (configuration : OffFlavourConfiguration) :
    MovesBySteps (fun configuration => configuration.list category)
      (fun configuration => configuration.withList category)
      (fun configuration => configuration.move category) configuration :=
  movesBySteps_of_view (fun _ _ _ => bind_ok_eq_map _ _) fun _ _ moved _ =>
    ⟨list_withList moved, withList_withList configuration category moved⟩

end OffFlavourConfiguration

namespace DefectConfiguration

theorem replaceCategory_replaceCategory {category : DefectCategory}
    (configuration : DefectConfiguration) {first : List DefectDefinition}
    (placed : ∀ definition ∈ first, definition.category = category)
    (second : List DefectDefinition) :
    (configuration.replaceCategory category first).replaceCategory category second =
      configuration.replaceCategory category second := by
  have listed := ofCategory_replaceCategory configuration placed
  cases category with
  | primary =>
      rw [replaceCategory_primary _ second, replaceCategory_primary _ second, listed]
      rfl
  | secondary =>
      rw [replaceCategory_secondary _ second, replaceCategory_secondary _ second, listed]
      rfl

theorem movesBySteps (category : DefectCategory) (configuration : DefectConfiguration) :
    MovesBySteps (fun configuration => configuration.members category)
      (fun configuration => configuration.replaceCategory category)
      (fun configuration => configuration.move category) configuration := by
  refine movesBySteps_of_view (fun _ _ _ => bind_ok_eq_map _ _) ?_
  intro index direction moved done
  have placed := placeless_category.move (category_of_mem_members configuration category) done
  refine ⟨?_, replaceCategory_replaceCategory configuration placed⟩
  rw [members_replaceCategory configuration placed, if_pos rfl]
  exact renumber_of_isContiguous (moved_of_move done).places

end DefectConfiguration

/-- A list, and each configuration that holds one, takes a step in the same way: what lies outside
is refused if it would come in and is overlooked if it would not, what lies inside is never refused,
and an entry that steps past its neighbour steps back to the list as it was, numbered anew. -/
theorem moves_by_one_step {Entry : Type} [HasDisplayOrder Entry] [LawfulDisplayOrder Entry]
    (items : List Entry) (aspect : AspectConfiguration) (screens : ScreenRequirements)
    (offFlavours : OffFlavourConfiguration) (defects : DefectConfiguration) :
    MovesBySteps id (fun _ moved => moved) DisplayOrder.move items ∧
    MovesBySteps AspectConfiguration.wordings
      (fun configuration wordings => { configuration with wordings })
      AspectConfiguration.move aspect ∧
    MovesBySteps ScreenRequirements.constraints
      (fun requirements constraints => { requirements with constraints })
      ScreenRequirements.move screens ∧
    (∀ category, MovesBySteps (fun configuration => configuration.list category)
      (fun configuration => configuration.withList category)
      (fun configuration => configuration.move category) offFlavours) ∧
    ∀ category, MovesBySteps (fun configuration => configuration.members category)
      (fun configuration => configuration.replaceCategory category)
      (fun configuration => configuration.move category) defects := by
  refine ⟨movesBySteps_of_view ?_ fun _ _ _ _ => ⟨rfl, fun _ => rfl⟩, aspect.movesBySteps,
    screens.movesBySteps, fun category => offFlavours.movesBySteps category,
    fun category => defects.movesBySteps category⟩
  intro items index direction
  exact (id_map (DisplayOrder.move items index direction)).symm

def scatteredLevels : List WordingOption :=
  [⟨"Clean", 3, 4⟩, ⟨"Dull", 2, 4⟩, ⟨"Dirty", 1, -2⟩]

def numberedLevels : List WordingOption :=
  [⟨"Clean", 3, 0⟩, ⟨"Dull", 2, 1⟩, ⟨"Dirty", 1, 2⟩]

theorem levels_moved_by_one_step :
    (∃ next, move scatteredLevels 2 (-1) = .ok next ∧ move next 1 1 = .ok numberedLevels) ∧
      move scatteredLevels 3 (-1) = .error (.outOfRange 3 3) ∧
      move scatteredLevels 2 1 = .ok numberedLevels := by
  obtain ⟨⟨refused_iff, _, off, back⟩, _⟩ := moves_by_one_step scatteredLevels {} {} {} {}
  have up : IsStep (-1) := .inl rfl
  have down : IsStep 1 := .inr rfl
  have inside : Within scatteredLevels 2 := by decide
  have neighbour : Within scatteredLevels (2 + -1) := by decide
  have outside : ¬ Within scatteredLevels 3 := by decide
  exact ⟨back 2 (-1) up inside neighbour,
    (refused_iff 3 (-1) up _).2 ⟨outside, inside, rfl⟩, off 2 1 down outside⟩

/-- An index far outside is no fault: the list is numbered anew as if nothing were wrong. -/
theorem distant_index_overlooked :
    (¬ Within scatteredLevels 7 ∧ move scatteredLevels 7 1 = .ok numberedLevels) ∧
      (¬ Within scatteredLevels (-2) ∧ move scatteredLevels (-2) 1 = .ok numberedLevels) ∧
      ¬ ∀ (items : List WordingOption) index direction, IsStep direction →
        ((∃ fault, move items index direction = .error fault) ↔ ¬ Within items index) := by
  have behind : move scatteredLevels 7 1 = .ok numberedLevels := rfl
  have before : move scatteredLevels (-2) 1 = .ok numberedLevels := rfl
  have outside : ¬ Within scatteredLevels 7 := by decide
  refine ⟨⟨outside, behind⟩, ⟨by decide, before⟩, ?_⟩
  intro refused
  obtain ⟨fault, failed⟩ := (refused scatteredLevels 7 1 (.inr rfl)).2 outside
  rw [behind] at failed
  cases failed

end CoffeeGrading
