import CoffeeGrading.Proofs.Defect.Editing
import CoffeeGrading.Proofs.DisplayOrder.Numbered

/-!
The two categories of a defect configuration as lists of their own.  An edit changes the members of
one category, in the order in which they are displayed, and nothing else; so two edits of different
categories can be made in either order.
-/

namespace CoffeeGrading

open DisplayOrder

inductive MemberEdit where
  | add (name : String) (weight : Binary64) (description : Option String)
  | remove (index : Int)
  | move (index direction : Int)

inductive MemberFault where
  | invalid (faults : List Fault)
  | misplaced (fault : OrderFault)

/-- The members after an edit, described without the way it is carried out. -/
def MemberEdit.Makes (category : DefectCategory) (before after : List DefectDefinition) :
    MemberEdit → Prop
  | add name weight description =>
    Numbered (before ++ [⟨name, category, weight, 0, description⟩]) after
  | remove index => Removed index before after
  | move index direction => Moved index direction before after

def MemberEdit.change (category : DefectCategory) (members : List DefectDefinition) :
    MemberEdit → Except MemberFault (List DefectDefinition)
  | add name weight description => do
    let definition ← (requireFinite [("weight", some weight)]
      ({ name, category, weight, displayOrder := members.length, description } :
        DefectDefinition)).mapError .invalid
    .ok (members ++ [definition])
  | remove index => (removeAt members index).mapError .misplaced
  | move index direction => (DisplayOrder.move members index direction).mapError .misplaced

theorem MemberEdit.makes_of_change {edit : MemberEdit} {category : DefectCategory}
    {before members : List DefectDefinition}
    (changed : edit.change category before = .ok members) :
    edit.Makes category before (renumber members) := by
  cases edit with
  | add name weight description =>
      obtain ⟨definition, made, done⟩ := exists_of_bind_eq_ok changed
      obtain ⟨_, rfl⟩ := (requireFinite_eq_ok_iff _ _ _).1 (eq_ok_of_mapError made)
      obtain rfl := Except.ok.inj done
      obtain ⟨places, entries⟩ := numbered_append before
        ⟨name, category, weight, before.length, description⟩
      exact ⟨places, entries.trans (by simp [unplaced, HasDisplayOrder.placedAt])⟩
  | remove index =>
      have removed := removed_of_removeAt (eq_ok_of_mapError changed)
      rwa [renumber_of_isContiguous removed.numbered.places]
  | move index direction =>
      have moved := moved_of_move (eq_ok_of_mapError changed)
      rwa [renumber_of_isContiguous moved.places]

namespace DefectConfiguration

def edit (configuration : DefectConfiguration) (category : DefectCategory) :
    MemberEdit → Except MemberFault DefectConfiguration
  | .add name weight description =>
    (configuration.add name category weight description).mapError .invalid
  | .remove index => (configuration.remove category index).mapError .misplaced
  | .move index direction => (configuration.move category index direction).mapError .misplaced

/-- How an edit ends and the configuration it leaves; a refused one leaves everything as it was. -/
def attempt (configuration : DefectConfiguration) (category : DefectCategory)
    (edit : MemberEdit) : Option MemberFault × DefectConfiguration :=
  match configuration.edit category edit with
  | .ok next => (none, next)
  | .error fault => (some fault, configuration)

def members (configuration : DefectConfiguration) (category : DefectCategory) :
    List DefectDefinition :=
  defectsByCategory category configuration.defects

/-- Nothing but the members of one category is different, and primary defects come first. -/
structure OnlyMembersDiffer (category : DefectCategory) (before after : DefectConfiguration) :
    Prop where
  other : ∀ other, other ≠ category →
    ofCategory other after.defects = ofCategory other before.defects
  primary_first :
    after.defects = ofCategory .primary after.defects ++ ofCategory .secondary after.defects
  thresholds : after.thresholds = before.thresholds
  notes : after.notes = before.notes

variable {configuration next : DefectConfiguration} {category : DefectCategory}
  {members : List DefectDefinition}

theorem edit_eq (configuration : DefectConfiguration) (category : DefectCategory)
    (edit : MemberEdit) :
    configuration.edit category edit =
      (edit.change category (configuration.members category)).map
        (configuration.replaceCategory category) := by
  cases edit with
  | add name weight description =>
      simp only [DefectConfiguration.edit, DefectConfiguration.add, MemberEdit.change,
        DefectConfiguration.members]
      cases requireFinite [("weight", some weight)] (DefectDefinition.mk name category weight
        (defectsByCategory category configuration.defects).length description) with
      | error faults => rfl
      | ok definition => rfl
  | remove index =>
      simp only [DefectConfiguration.edit, DefectConfiguration.remove, MemberEdit.change,
        DefectConfiguration.members]
      cases removeAt (defectsByCategory category configuration.defects) index with
      | error fault => rfl
      | ok definitions => rfl
  | move index direction =>
      simp only [DefectConfiguration.edit, DefectConfiguration.move, MemberEdit.change,
        DefectConfiguration.members]
      cases DisplayOrder.move (defectsByCategory category configuration.defects) index
        direction with
      | error fault => rfl
      | ok definitions => rfl

theorem category_of_mem_members (configuration : DefectConfiguration)
    (category : DefectCategory) :
    ∀ definition ∈ configuration.members category, definition.category = category :=
  forall_mem_sort fun definition listed => by simpa using (List.mem_filter.1 listed).2

theorem category_of_changed {edit : MemberEdit}
    (changed : edit.change category (configuration.members category) = .ok members) :
    ∀ definition ∈ members, definition.category = category := by
  have placed := category_of_mem_members configuration category
  cases edit with
  | add name weight description =>
      obtain ⟨definition, made, done⟩ := exists_of_bind_eq_ok changed
      obtain ⟨_, rfl⟩ := (requireFinite_eq_ok_iff _ _ _).1 (eq_ok_of_mapError made)
      obtain rfl := Except.ok.inj done
      exact List.forall_mem_append.2 ⟨placed, List.forall_mem_singleton.2 rfl⟩
  | remove index => exact placeless_category.removeAt placed (eq_ok_of_mapError changed)
  | move index direction => exact placeless_category.move placed (eq_ok_of_mapError changed)

theorem members_replaceCategory (configuration : DefectConfiguration)
    (placed : ∀ definition ∈ members, definition.category = category) (other : DefectCategory) :
    (configuration.replaceCategory category members).members other =
      if other = category then renumber members else configuration.members other := by
  rw [DefectConfiguration.members, defectsByCategory, ofCategory_replaceCategory _ placed]
  split
  · exact sort_renumber members
  · rfl

theorem replaceCategory_primary (configuration : DefectConfiguration)
    (members : List DefectDefinition) :
    configuration.replaceCategory .primary members = { configuration with
      defects := renumber members ++ ofCategory .secondary configuration.defects } := by
  have others (category : DefectCategory) : category ≠ .primary ↔ category = .secondary := by
    cases category <;> decide
  simp only [replaceCategory, ofCategory, others]

theorem replaceCategory_secondary (configuration : DefectConfiguration)
    (members : List DefectDefinition) :
    configuration.replaceCategory .secondary members = { configuration with
      defects := ofCategory .primary configuration.defects ++ renumber members } := by
  have others (category : DefectCategory) : category ≠ .secondary ↔ category = .primary := by
    cases category <;> decide
  simp only [replaceCategory, ofCategory, others]

theorem onlyMembersDiffer_replaceCategory (configuration : DefectConfiguration)
    (placed : ∀ definition ∈ members, definition.category = category) :
    OnlyMembersDiffer category configuration
      (configuration.replaceCategory category members) := by
  have listed := ofCategory_replaceCategory configuration placed
  refine ⟨fun other different => by rw [listed, if_neg different], ?_, ?_, ?_⟩
  · cases category with
    | primary => rw [listed, listed, if_pos rfl, if_neg (by decide), replaceCategory_primary]
    | secondary => rw [listed, listed, if_pos rfl, if_neg (by decide), replaceCategory_secondary]
  · cases category <;> rfl
  · cases category <;> rfl

theorem replaceCategory_comm (configuration : DefectConfiguration)
    {primary secondary : List DefectDefinition}
    (primaryPlaced : ∀ definition ∈ primary, definition.category = .primary)
    (secondaryPlaced : ∀ definition ∈ secondary, definition.category = .secondary) :
    (configuration.replaceCategory .primary primary).replaceCategory .secondary secondary =
      (configuration.replaceCategory .secondary secondary).replaceCategory .primary primary := by
  have primaries := ofCategory_replaceCategory configuration primaryPlaced .primary
  have secondaries := ofCategory_replaceCategory configuration secondaryPlaced .secondary
  rw [if_pos rfl] at primaries secondaries
  rw [replaceCategory_secondary _ secondary, primaries, replaceCategory_primary _ primary]
  rw [replaceCategory_primary _ primary, secondaries, replaceCategory_secondary _ secondary]

theorem makes_of_edit {edit : MemberEdit} (returned : configuration.edit category edit = .ok next) :
    edit.Makes category (configuration.members category) (next.members category) ∧
      OnlyMembersDiffer category configuration next := by
  rw [edit_eq] at returned
  cases changed : edit.change category (configuration.members category) with
  | error fault =>
      rw [changed] at returned
      cases returned
  | ok members =>
      rw [changed] at returned
      obtain rfl := Except.ok.inj returned
      have placed := category_of_changed changed
      rw [members_replaceCategory _ placed, if_pos rfl]
      exact ⟨MemberEdit.makes_of_change changed, onlyMembersDiffer_replaceCategory _ placed⟩

theorem attempt_eq (configuration : DefectConfiguration) (category : DefectCategory)
    (edit : MemberEdit) :
    configuration.attempt category edit =
      match edit.change category (configuration.members category) with
      | .ok members => (none, configuration.replaceCategory category members)
      | .error fault => (some fault, configuration) := by
  rw [attempt, edit_eq]
  cases edit.change category (configuration.members category) with
  | error fault => rfl
  | ok members => rfl

theorem fault_of_members_eq {other : DefectConfiguration} {edit : MemberEdit}
    (same : other.members category = configuration.members category) :
    (other.attempt category edit).1 = (configuration.attempt category edit).1 := by
  rw [attempt_eq, attempt_eq, same]
  cases edit.change category (configuration.members category) with
  | error fault => rfl
  | ok members => rfl

theorem members_attempt {other : DefectCategory} (different : other ≠ category)
    (configuration : DefectConfiguration) (edit : MemberEdit) :
    (configuration.attempt category edit).2.members other = configuration.members other := by
  rw [attempt_eq]
  cases changed : edit.change category (configuration.members category) with
  | error fault => rfl
  | ok members =>
      simp only [members_replaceCategory configuration (category_of_changed changed), different,
        if_false]

theorem attempt_comm (configuration : DefectConfiguration) (primary secondary : MemberEdit) :
    ((configuration.attempt .primary primary).2.attempt .secondary secondary).2 =
      ((configuration.attempt .secondary secondary).2.attempt .primary primary).2 := by
  have primaryMembers := members_attempt (by decide : DefectCategory.primary ≠ .secondary)
    configuration secondary
  have secondaryMembers := members_attempt (by decide : DefectCategory.secondary ≠ .primary)
    configuration primary
  rw [attempt_eq (configuration.attempt .primary primary).2, secondaryMembers,
    attempt_eq (configuration.attempt .secondary secondary).2, primaryMembers,
    attempt_eq configuration, attempt_eq configuration]
  cases primaryChanged : primary.change .primary (configuration.members .primary) with
  | error fault =>
      cases secondary.change .secondary (configuration.members .secondary) with
      | error other => rfl
      | ok secondaries => rfl
  | ok primaries =>
      cases secondaryChanged : secondary.change .secondary (configuration.members .secondary) with
      | error fault => rfl
      | ok secondaries =>
          exact replaceCategory_comm configuration (category_of_changed primaryChanged)
            (category_of_changed secondaryChanged)

/-- Each category of a configuration is a list of its own.  An edit of one makes of its members, as
they are displayed, what was asked for, and leaves the other category, the limits and the notes as
they are.  Two edits of different categories can be made in either order: each ends as it would
without the other, and both orders lead to one configuration. -/
theorem categories_edited_apart (configuration : DefectConfiguration) :
    (∀ category edit next, configuration.edit category edit = .ok next →
      edit.Makes category (configuration.members category) (next.members category) ∧
        OnlyMembersDiffer category configuration next) ∧
    ∀ primary secondary : MemberEdit,
      let primaryFirst := (configuration.attempt .primary primary).2.attempt .secondary secondary
      let secondaryFirst :=
        (configuration.attempt .secondary secondary).2.attempt .primary primary
      primaryFirst.2 = secondaryFirst.2 ∧
        primaryFirst.1 = (configuration.attempt .secondary secondary).1 ∧
        secondaryFirst.1 = (configuration.attempt .primary primary).1 := by
  refine ⟨fun _ _ _ => makes_of_edit, ?_⟩
  intro primary secondary
  refine ⟨attempt_comm configuration primary secondary, ?_, ?_⟩
  · exact fault_of_members_eq (members_attempt (by decide) configuration primary)
  · exact fault_of_members_eq (members_attempt (by decide) configuration secondary)

def mingledDefects : DefectConfiguration where
  defects := [⟨"Black", .primary, 1, 3, none⟩, ⟨"Chipped", .secondary, 0.2, 3, none⟩,
    ⟨"Sour", .primary, 1, -1, none⟩, ⟨"Shell", .secondary, 0.2, 3, none⟩]

def sourBehindBlack : DefectConfiguration where
  defects := [⟨"Black", .primary, 1, 0, none⟩, ⟨"Sour", .primary, 1, 1, none⟩,
    ⟨"Chipped", .secondary, 0.2, 3, none⟩, ⟨"Shell", .secondary, 0.2, 3, none⟩]

theorem mingledDefects_moved : mingledDefects.edit .primary (.move 0 1) = .ok sourBehindBlack := by
  have displayed : mingledDefects.members .primary =
      [⟨"Sour", .primary, 1, -1, none⟩, ⟨"Black", .primary, 1, 3, none⟩] := by
    simp [DefectConfiguration.members, defectsByCategory, ofCategory, mingledDefects, sort,
      HasDisplayOrder.displayOrder, List.mergeSort]
  rw [edit_eq, displayed]
  rfl

theorem mingled_categories_apart :
    mingledDefects.edit .primary (.move 0 1) = .ok sourBehindBlack ∧
      (MemberEdit.move 0 1).Makes .primary (mingledDefects.members .primary)
        (sourBehindBlack.members .primary) ∧
      OnlyMembersDiffer .primary mingledDefects sourBehindBlack :=
  ⟨mingledDefects_moved, (categories_edited_apart mingledDefects).1 .primary (.move 0 1)
    sourBehindBlack mingledDefects_moved⟩

end DefectConfiguration
end CoffeeGrading
