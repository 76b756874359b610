import CoffeeGrading.Proofs.Aspect.Editing
import CoffeeGrading.Proofs.DisplayOrder.Numbered
import CoffeeGrading.Proofs.Identifier
import CoffeeGrading.Proofs.Names
import Mathlib.Data.List.Nodup

/-!
Wordings are told apart by their identifiers.  Every identifier in a configuration was there from
the start or was handed out on the way, and nothing that an edit does lets one appear twice.
-/

namespace CoffeeGrading

theorem Identifier.text_injective : Function.Injective Identifier.text := by
  intro left right same
  have read_same := congrArg Identifier.read same
  rw [read_text, read_text] at read_same
  exact Except.ok.inj read_same

/-- The identifiers that are handed out for an edit: one for a new wording, and one for every
wording of a configuration that is loaded. -/
def AspectEdit.handedOut : AspectEdit → List String
  | add id _ _ _ => [id]
  | load fresh id =>
    match AspectTemplate.load fresh id with
    | .ok loaded => (List.range loaded.wordings.length).map fun place => (fresh place).text
    | .error _ => []
  | _ => []

namespace AspectConfiguration

def ids (configuration : AspectConfiguration) : List String :=
  configuration.wordings.map (·.id)

variable {configuration next : AspectConfiguration} {id : String}
  {before after : List AspectWording} {wording : AspectWording}

theorem ids_renumber (wordings : List AspectWording) :
    (DisplayOrder.renumber wordings).map (·.id) = wordings.map (·.id) :=
  DisplayOrder.map_renumber (fun _ _ => rfl) wordings

theorem ids_of_add {label : String} {value : Binary64} {description : Option String}
    (added : configuration.add id label value description = .ok next) :
    next.ids = configuration.ids ++ [id] := by
  obtain ⟨_, rfl⟩ := add_eq_ok added
  rw [ids, DisplayOrder.append, ids_renumber, List.map_append]
  rfl

theorem ids_of_update {label : Option String} {value : Option Binary64}
    {description : Option String}
    (updated : configuration.update id label value description = .ok next) :
    next.ids = configuration.ids := by
  obtain ⟨before, old, after, addressed, rfl⟩ := update_eq_ok updated
  simp [ids, addressed.split, revised]

theorem ids_of_remove (removed : configuration.remove id = .ok next) :
    next.ids.Sublist configuration.ids := by
  obtain ⟨before, gone, after, addressed, rfl⟩ := remove_eq_ok removed
  rw [ids, ids_renumber]
  exact addressed.sublist.map (·.id)

theorem ids_of_swap {first second : Int} (swapped : configuration.swap first second = .ok next) :
    next.ids.Perm configuration.ids := by
  obtain ⟨reordered, same, rfl⟩ := swap_eq_ok swapped
  rw [ids, ids_renumber]
  exact same.map (·.id)

theorem ids_of_move {index direction : Int}
    (moved : configuration.move index direction = .ok next) :
    next.ids.Perm configuration.ids := by
  obtain ⟨reordered, same, rfl⟩ := move_eq_ok moved
  rw [ids, ids_renumber]
  exact same.map (·.id)

theorem ids_of_setThreshold {value : Option Binary64} {validationMessage : Option String}
    (changed : configuration.setThreshold value validationMessage = .ok next) :
    next.ids = configuration.ids := by
  obtain ⟨rfl, _⟩ := setThreshold_eq_ok changed
  rfl

theorem ids_of_load {fresh : Nat → Identifier} (loaded : AspectTemplate.load fresh id = .ok next) :
    next.ids = (AspectEdit.load fresh id).handedOut := by
  simp only [AspectEdit.handedOut, loaded]
  obtain ⟨template, _, done⟩ := exists_of_bind_eq_ok loaded
  obtain rfl := Except.ok.inj done
  apply List.ext_getElem
  · simp [ids]
  · intro place _ _
    simp [ids, AspectTemplate.renewed]

theorem ids_of_perform {edit : AspectEdit} (performed : configuration.perform edit = some next) :
    next.ids.Subperm (configuration.ids ++ edit.handedOut) := by
  have old (fewer : next.ids.Subperm configuration.ids) :
      next.ids.Subperm (configuration.ids ++ edit.handedOut) :=
    fewer.trans (List.sublist_append_left _ _).subperm
  cases edit with
  | add id label value description =>
      have added := ids_of_add (toOption_eq_some_iff.1 performed)
      exact added ▸ List.Subperm.refl _
  | update id label value description =>
      have same := ids_of_update (toOption_eq_some_iff.1 performed)
      exact old (same ▸ List.Subperm.refl _)
  | remove id => exact old (ids_of_remove (toOption_eq_some_iff.1 performed)).subperm
  | swap first second => exact old (ids_of_swap (toOption_eq_some_iff.1 performed)).subperm
  | move index direction => exact old (ids_of_move (toOption_eq_some_iff.1 performed)).subperm
  | setThreshold value validationMessage =>
      have same := ids_of_setThreshold (toOption_eq_some_iff.1 performed)
      exact old (same ▸ List.Subperm.refl _)
  | load fresh id =>
      have new := ids_of_load (toOption_eq_some_iff.1 performed)
      exact new ▸ (List.sublist_append_right _ _).subperm
  | clear =>
      obtain rfl := Option.some.inj performed
      exact old (List.nil_subperm)

theorem ids_of_edited (configuration : AspectConfiguration) (edits : List AspectEdit) :
    (edited AspectConfiguration.perform configuration edits).ids.Subperm
      (configuration.ids ++ edits.flatMap AspectEdit.handedOut) := by
  induction edits generalizing configuration with
  | nil => simp [edited, List.Subperm.refl]
  | cons edit later ih =>
      rw [List.flatMap_cons, ← List.append_assoc]
      cases performed : configuration.perform edit with
      | none =>
          have others : (configuration.ids ++ later.flatMap AspectEdit.handedOut).Subperm
              (configuration.ids ++ edit.handedOut ++ later.flatMap AspectEdit.handedOut) :=
            ((List.sublist_append_left _ _).append (.refl _)).subperm
          simpa [edited, performed] using (ih configuration).trans others
      | some next =>
          have step := (ids_of_perform performed).append
            (List.Subperm.refl (later.flatMap AspectEdit.handedOut))
          simpa [edited, performed] using (ih next).trans step

/-! ### Reaching a wording -/

/-- An identifier reaches one wording alone: an update revises it, a removal takes it out, and both
leave the others as they were but for their places. -/
structure Reached (configuration : AspectConfiguration) (id : String) (before : List AspectWording)
    (wording : AspectWording) (after : List AspectWording) : Prop
    extends Addressed configuration.wordings id before wording after where
  alone : ∀ other ∈ before ++ after, other.id ≠ id
  updated : ∀ label value description, ∃ next,
    configuration.update id label value description = .ok next ∧
      next.wordings = before ++ revised wording label value description :: after
  removed : ∃ next, configuration.remove id = .ok next ∧
    DisplayOrder.Numbered (before ++ after) next.wordings

/-- Updates and removals under an identifier are refused, and a session goes on as if they had not
been asked for. -/
structure Refused (configuration : AspectConfiguration) (id : String) : Prop where
  updated : ∀ label value description,
    configuration.update id label value description = .error ⟨"Aspect wording", id⟩
  removed : configuration.remove id = .error ⟨"Aspect wording", id⟩
  unchanged : ∀ label value description later,
    edited AspectConfiguration.perform configuration (.update id label value description :: later) =
        edited AspectConfiguration.perform configuration later ∧
      edited AspectConfiguration.perform configuration (.remove id :: later) =
        edited AspectConfiguration.perform configuration later

theorem reached_of_addressed (apart : configuration.ids.Nodup)
    (addressed : Addressed configuration.wordings id before wording after) :
    configuration.Reached id before wording after := by
  refine ⟨addressed, ?_, ?_, ?_⟩
  · intro other listed same
    rw [ids, addressed.split] at apart
    exact key_ne_of_nodup apart other listed (same.trans addressed.named.symm)
  · intro label value description
    exact ⟨_, update_addressed addressed label value description, rfl⟩
  · exact ⟨_, remove_addressed addressed, DisplayOrder.numbered_renumber _⟩

theorem refused_of_unknown (unknown : ∀ wording ∈ configuration.wordings, wording.id ≠ id) :
    configuration.Refused id := by
  have updated := update_unknown unknown
  have removed := remove_unknown unknown
  refine ⟨updated, removed, ?_⟩
  intro label value description later
  constructor
  · simp [edited, perform, updated, Except.toOption]
  · simp [edited, perform, removed, Except.toOption]

/-- No two wordings share an identifier, if none was handed out twice.  An identifier that a wording
has reaches this wording alone; any other is refused. -/
theorem wordings_told_apart (edits : List AspectEdit) (issued : List Identifier)
    (apart : issued.Nodup)
    (handed : edits.flatMap AspectEdit.handedOut = issued.map Identifier.text) :
    let configuration := edited AspectConfiguration.perform {} edits
    configuration.ids.Nodup ∧
      ∀ id,
        (id ∈ configuration.ids → ∃ before wording after,
          configuration.Reached id before wording after) ∧
        (id ∉ configuration.ids → configuration.Refused id) := by
  intro configuration
  have taken : configuration.ids.Subperm (issued.map Identifier.text) :=
    handed ▸ ids_of_edited {} edits
  have texts_apart : (issued.map Identifier.text).Nodup :=
    apart.map Identifier.text_injective
  have unique : configuration.ids.Nodup :=
    DisplayOrder.pairwise_of_subperm (fun _ _ => Ne.symm) taken texts_apart
  refine ⟨unique, ?_⟩
  intro id
  constructor
  · intro present
    obtain ⟨before, wording, after, addressed⟩ := exists_addressed (List.mem_map.1 present)
    exact ⟨before, wording, after, reached_of_addressed unique addressed⟩
  · intro absent
    refine refused_of_unknown ?_
    intro wording listed named
    exact absent (List.mem_map.2 ⟨wording, listed, named⟩)

def serialIdentifier (number : Nat) : Identifier :=
  ⟨BitVec.ofNat 128 number⟩

def replacedShades : List AspectEdit := [
  .add (serialIdentifier 0).text "Pale" 5 none,
  .load (fun place => serialIdentifier (place + 1)) "green-simplified",
  .add (serialIdentifier 4).text "Faded" 3 none,
  .swap 0 3,
  .remove (serialIdentifier 2).text]

theorem replaced_shades_told_apart :
    let configuration := edited AspectConfiguration.perform {} replacedShades
    configuration.ids.Nodup ∧
      (∃ before wording after,
        configuration.Reached (serialIdentifier 4).text before wording after) ∧
      configuration.Refused (serialIdentifier 2).text := by
  have handed : replacedShades.flatMap AspectEdit.handedOut =
      ((List.range 5).map serialIdentifier).map Identifier.text := by decide +kernel
  have apart : ((List.range 5).map serialIdentifier).Nodup := by decide +kernel
  obtain ⟨unique, reaches⟩ := wordings_told_apart replacedShades _ apart handed
  exact ⟨unique, (reaches _).1 (by decide +kernel), (reaches _).2 (by decide +kernel)⟩

end AspectConfiguration
end CoffeeGrading
