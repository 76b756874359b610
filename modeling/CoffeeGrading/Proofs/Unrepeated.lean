import CoffeeGrading.Proofs.Cupping.Sound
import CoffeeGrading.Proofs.OrderedEditing
import CoffeeGrading.Proofs.ScreenSize.Displayed
import CoffeeGrading.Proofs.ScreenSize.Sound

/-!
Lists whose entries go by their names.  An addition is refused exactly when the search for flaws
would find a name repeated behind it, so no run of edits leads to a repeated name; and what was
added under a name goes again, alone, when this name is removed, however it is written.
-/

namespace CoffeeGrading

open DisplayOrder

section Entries

variable {Entry : Type} {name : Entry → String} {entries : List Entry} {entry : Entry}

theorem unrepeated_append_iff (apart : Unrepeated (entries.map name)) :
    Unrepeated ((entries ++ [entry]).map name) ↔
      ∀ other ∈ entries, Text.nameKey (name other) ≠ Text.nameKey (name entry) := by
  rw [Unrepeated, List.map_append, List.map_append, List.nodup_append]
  constructor
  · rintro ⟨_, _, new⟩ other listed
    exact new _ (List.mem_map_of_mem (List.mem_map_of_mem listed)) _ (by simp)
  · intro new
    refine ⟨apart, List.nodup_singleton _, ?_⟩
    simpa using new

theorem filter_append_of_absent {key : Entry → String} {removed : String}
    (absent : ∀ other ∈ entries, key other ≠ removed) (carried : key entry = removed) :
    (entries ++ [entry]).filter (fun other => key other ≠ removed) = entries := by
  have others : entries.filter (fun other => key other ≠ removed) = entries :=
    List.filter_eq_self.2 fun other listed => decide_eq_true (absent other listed)
  rw [List.filter_append, others]
  simp [carried]

end Entries

/-! ### Screens -/

theorem ScreenConstraint.flaw?_ne_repeated (limits : Limits) (constraint : ScreenConstraint)
    (screenSize : String) : constraint.flaw? limits ≠ some (.repeated screenSize) := by
  unfold ScreenConstraint.flaw?
  split
  · simp
  · simp

namespace ScreenRequirements

variable {requirements next reached : ScreenRequirements} {constraint : ScreenConstraint}

theorem exists_repeated_iff (limits : Limits) (requirements : ScreenRequirements) :
    (∃ screenSize, requirements.flaw? limits = some (.repeated screenSize)) ↔
      ¬ Unrepeated (requirements.constraints.map (·.screenSize)) := by
  rw [Unrepeated, ← firstRepeat?_key_eq_none_iff]
  cases repeats : firstRepeat? ScreenConstraint.key [] requirements.constraints with
  | some repeated => simp [flaw?, repeats]
  | none =>
      simp only [flaw?, repeats, not_true_eq_false, iff_false]
      rintro ⟨screenSize, found⟩
      obtain ⟨constraint, _, flawed⟩ := List.exists_of_findSome?_eq_some found
      exact constraint.flaw?_ne_repeated limits screenSize flawed

theorem exists_taken_iff (requirements : ScreenRequirements) (constraint : ScreenConstraint) :
    (∃ taken, requirements.add constraint = .error taken) ↔
      ¬ ∀ other ∈ requirements.constraints, other.key ≠ constraint.key := by
  rw [add]
  split
  · next taken => simpa using taken
  · next free => simpa using free

theorem screenSizes_renumber (constraints : List ScreenConstraint) :
    (renumber constraints).map (·.screenSize) = constraints.map (·.screenSize) :=
  map_renumber (fun _ _ => rfl) constraints

theorem Step.unrepeated (step : Step requirements next)
    (apart : Unrepeated (requirements.constraints.map (·.screenSize))) :
    Unrepeated (next.constraints.map (·.screenSize)) := by
  cases step with
  | add added =>
      obtain ⟨absent, rfl⟩ := add_eq_ok added
      simp only [DisplayOrder.append, screenSizes_renumber]
      exact (unrepeated_append_iff apart).2 absent
  | remove screenSize =>
      simp only [ScreenRequirements.remove, screenSizes_renumber]
      exact apart.of_subperm List.filter_sublist.subperm
  | move moved =>
      obtain ⟨constraints, exchanged, done⟩ := exists_of_bind_eq_ok moved
      obtain rfl := Except.ok.inj done
      obtain ⟨reordered, same, rfl⟩ := move_eq_ok exchanged
      simp only [screenSizes_renumber]
      exact apart.of_subperm same.subperm

theorem unrepeated_of_run (run : Relation.ReflTransGen Step requirements reached) :
    Unrepeated (requirements.constraints.map (·.screenSize)) →
      Unrepeated (reached.constraints.map (·.screenSize)) :=
  kept_along_run
    (fun state : ScreenRequirements => Unrepeated (state.constraints.map (·.screenSize)))
    (fun _ _ step => step.unrepeated) run

theorem remove_of_add (added : requirements.add constraint = .ok next) {screenSize : String}
    (same : Text.nameKey screenSize = constraint.key) :
    next.remove screenSize =
      { requirements with constraints := renumber requirements.constraints } := by
  obtain ⟨absent, rfl⟩ := add_eq_ok added
  rw [remove, DisplayOrder.append, renumber_filter_renumber fun _ _ => rfl, same,
    filter_append_of_absent absent rfl]

/-- The answer to a further constraint, held against the search for flaws. -/
structure AdditionGuarded (requirements : ScreenRequirements) (constraint : ScreenConstraint) :
    Prop where
  refused_iff : ∀ limits,
    (∃ taken, requirements.add constraint = .error taken) ↔
      ∃ screenSize, flaw? limits
        { requirements with constraints := requirements.constraints ++ [constraint] } =
          some (.repeated screenSize)
  unrepeated : ∀ next, requirements.add constraint = .ok next →
    Unrepeated (next.constraints.map (·.screenSize))
  undone : ∀ next, requirements.add constraint = .ok next →
    ∀ screenSize, Text.nameKey screenSize = constraint.key →
      next.remove screenSize =
        { requirements with constraints := renumber requirements.constraints }

theorem additionGuarded (apart : Unrepeated (requirements.constraints.map (·.screenSize)))
    (constraint : ScreenConstraint) : requirements.AdditionGuarded constraint where
  refused_iff limits := by
    rw [exists_taken_iff, exists_repeated_iff]
    exact not_congr (unrepeated_append_iff apart).symm
  unrepeated _ added := Step.unrepeated (.add added) apart
  undone _ added _ same := remove_of_add added same

end ScreenRequirements

/-! ### Cupping -/

theorem CuppingAttribute.flaw?_ne_repeatedName (tolerance : Binary64) (item : CuppingAttribute) :
    item.flaw? tolerance ≠ .ok (some .repeatedName) := by
  unfold CuppingAttribute.flaw?
  repeat' split
  · simp
  · simp
  · simp
  · next rule _ =>
      unfold ruleFlaw?
      cases item.scale.accepts rule.minValue tolerance with
      | error reason => simp [bind, Except.bind]
      | ok accepted =>
          cases item.scale <;> cases accepted <;> simp [bind, Except.bind]

namespace Cupping

variable {attributes next reached : List CuppingAttribute} {item : CuppingAttribute}

inductive Step (attributes : List CuppingAttribute) : List CuppingAttribute → Prop
  | add {item : CuppingAttribute} {next} (returned : add attributes item = .ok next) :
      Step attributes next
  | remove (name : String) : Step attributes (remove attributes name)

theorem firstFlaw?_ne_repeatedName (tolerance : Binary64) (attributes : List CuppingAttribute) :
    firstFlaw? tolerance attributes ≠ .ok (some .repeatedName) := by
  induction attributes with
  | nil => simp [firstFlaw?]
  | cons item rest ih =>
      have own := item.flaw?_ne_repeatedName tolerance
      cases answer : item.flaw? tolerance with
      | error reason => simp [firstFlaw?, answer, bind, Except.bind]
      | ok flaw =>
          cases flaw with
          | none => simpa [firstFlaw?, answer, bind, Except.bind] using ih
          | some flaw => simpa [firstFlaw?, answer, bind, Except.bind] using own

theorem repeatedName_iff (tolerance : Binary64) (attributes : List CuppingAttribute) :
    flaw? attributes tolerance = .ok (some .repeatedName) ↔
      ¬ Unrepeated (attributes.map (·.name)) := by
  rw [Unrepeated, ← distinct_keys_iff]
  by_cases apart : distinct (attributes.map CuppingAttribute.key) = true
  · simp [flaw?, apart, firstFlaw?_ne_repeatedName]
  · simp [flaw?, apart]

theorem exists_taken_iff (attributes : List CuppingAttribute) (item : CuppingAttribute) :
    (∃ taken, add attributes item = .error taken) ↔
      ¬ ∀ other ∈ attributes, other.key ≠ item.key := by
  rw [add]
  split
  · next taken => simpa using taken
  · next free => simpa using free

theorem add_eq_ok (added : add attributes item = .ok next) :
    (∀ other ∈ attributes, other.key ≠ item.key) ∧ next = attributes ++ [item] := by
  rw [add] at added
  split at added
  · cases added
  · next free => exact ⟨by simpa using free, (Except.ok.inj added).symm⟩

theorem Step.unrepeated (step : Step attributes next)
    (apart : Unrepeated (attributes.map (·.name))) : Unrepeated (next.map (·.name)) := by
  cases step with
  | add added =>
      obtain ⟨absent, rfl⟩ := add_eq_ok added
      exact (unrepeated_append_iff apart).2 absent
  | remove name => exact apart.of_subperm List.filter_sublist.subperm

theorem unrepeated_of_run (run : Relation.ReflTransGen Step attributes reached) :
    Unrepeated (attributes.map (·.name)) → Unrepeated (reached.map (·.name)) :=
  kept_along_run (fun state : List CuppingAttribute => Unrepeated (state.map (·.name)))
    (fun _ _ step => step.unrepeated) run

theorem remove_of_add (added : add attributes item = .ok next) {name : String}
    (same : Text.nameKey name = item.key) : remove next name = attributes := by
  obtain ⟨absent, rfl⟩ := add_eq_ok added
  rw [remove, same, filter_append_of_absent absent rfl]

/-- The answer to a further attribute, held against the search for flaws. -/
structure AdditionGuarded (attributes : List CuppingAttribute) (item : CuppingAttribute) :
    Prop where
  refused_iff : ∀ tolerance,
    (∃ taken, add attributes item = .error taken) ↔
      flaw? (attributes ++ [item]) tolerance = .ok (some .repeatedName)
  unrepeated : ∀ next, add attributes item = .ok next → Unrepeated (next.map (·.name))
  undone : ∀ next, add attributes item = .ok next →
    ∀ name, Text.nameKey name = item.key → remove next name = attributes

theorem additionGuarded (apart : Unrepeated (attributes.map (·.name)))
    (item : CuppingAttribute) : AdditionGuarded attributes item where
  refused_iff tolerance := by
    rw [exists_taken_iff, repeatedName_iff]
    exact not_congr (unrepeated_append_iff apart).symm
  unrepeated _ added := Step.unrepeated (.add added) apart
  undone _ added _ same := remove_of_add added same

end Cupping

/-- An addition to entries whose names are apart is refused exactly when the search for flaws would
call a name repeated behind it, and is otherwise undone by a removal under any spelling of its name;
and nothing that edits make of an empty set repeats a name. -/
theorem additions_refused_as_repeated :
    (∀ requirements : ScreenRequirements,
      Unrepeated (requirements.constraints.map (·.screenSize)) →
        ∀ constraint, requirements.AdditionGuarded constraint) ∧
    (∀ (notes : Option String) (reached : ScreenRequirements),
      Relation.ReflTransGen ScreenRequirements.Step { notes } reached →
        ∀ limits screenSize, reached.flaw? limits ≠ some (.repeated screenSize)) ∧
    (∀ attributes : List CuppingAttribute, Unrepeated (attributes.map (·.name)) →
      ∀ item, Cupping.AdditionGuarded attributes item) ∧
    ∀ reached : List CuppingAttribute, Relation.ReflTransGen Cupping.Step [] reached →
      ∀ tolerance, Cupping.flaw? reached tolerance ≠ .ok (some .repeatedName) := by
  refine ⟨fun _ => ScreenRequirements.additionGuarded, ?screens,
    fun _ => Cupping.additionGuarded, ?cupping⟩
  case screens =>
    intro notes reached run limits screenSize repeated
    have apart := ScreenRequirements.unrepeated_of_run run List.nodup_nil
    exact (ScreenRequirements.exists_repeated_iff limits reached).1 ⟨screenSize, repeated⟩ apart
  case cupping =>
    intro reached run tolerance repeated
    have apart := Cupping.unrepeated_of_run run List.nodup_nil
    exact (Cupping.repeatedName_iff tolerance reached).1 repeated apart

def greekScreens : ScreenRequirements where
  constraints := [{ screenSize := "Μέγας", rule := .any, displayOrder := 4 }]

def panScreen : ScreenConstraint := { screenSize := "Pan", rule := .any }

def tartness : CuppingAttribute where
  name := "Säure"
  scale := .wording []

theorem greekScreens_additions :
    Unrepeated (greekScreens.constraints.map (·.screenSize)) ∧
    (∃ screenSize, ScreenRequirements.flaw? {} { greekScreens with
      constraints := greekScreens.constraints ++ [{ screenSize := " ΜΈΓΑΣ", rule := .any }] } =
        some (.repeated screenSize)) ∧
    (∃ next, greekScreens.add panScreen = .ok next ∧
      next.remove " PAN" =
        { greekScreens with constraints := renumber greekScreens.constraints }) ∧
    (∃ next, ScreenRequirements.add {} panScreen = .ok next ∧
      ∀ limits screenSize, next.flaw? limits ≠ some (.repeated screenSize)) ∧
    Unrepeated ([tartness].map (·.name)) ∧
    Cupping.flaw? ([tartness] ++ [{ tartness with name := "SÄURE " }]) defaultTolerance =
      .ok (some .repeatedName) ∧
    Cupping.add [] tartness = .ok [tartness] ∧
      ∀ tolerance, Cupping.flaw? [tartness] tolerance ≠ .ok (some .repeatedName) := by
  obtain ⟨screens, screenRuns, cupping, cuppingRuns⟩ := additions_refused_as_repeated
  have screensApart : Unrepeated (greekScreens.constraints.map (·.screenSize)) :=
    List.nodup_singleton _
  have attributesApart : Unrepeated ([tartness].map (·.name)) := List.nodup_singleton _
  have newScreen : ∀ other ∈ greekScreens.constraints, other.key ≠ panScreen.key := by
    decide +kernel
  have added := ScreenRequirements.add_of_absent newScreen
  have begun : ScreenRequirements.add {} panScreen = .ok _ :=
    ScreenRequirements.add_of_absent (List.forall_mem_nil _)
  refine ⟨screensApart, ?taken, ⟨_, added, ?undone⟩, ⟨_, begun, ?run⟩, attributesApart, ?form,
    rfl, cuppingRuns _ (.single (.add rfl))⟩
  case taken =>
    refine ((screens _ screensApart _).refused_iff {}).1 ⟨⟨" ΜΈΓΑΣ"⟩, ?_⟩
    have same : (greekScreens.constraints.any fun other =>
        other.key = Text.nameKey " ΜΈΓΑΣ") = true := by
      decide +kernel
    exact if_pos same
  case undone =>
    exact (screens _ screensApart _).undone _ added " PAN" (by decide +kernel)
  case run => exact screenRuns none _ (.single (.add begun))
  case form =>
    refine ((cupping _ attributesApart _).refused_iff _).1 ⟨⟨"SÄURE "⟩, ?_⟩
    have same : ([tartness].any fun other => other.key = Text.nameKey "SÄURE ") = true := by
      decide +kernel
    exact if_pos same

end CoffeeGrading
