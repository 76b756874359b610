import CoffeeGrading.Proofs.Template.Sharing

/-!
Who sees a template.  A scope and the flags it is written as are two spellings of one thing, and
every pair of flags that does not contradict itself is the spelling of a scope.  So the flags tell
who sees the template.
-/

namespace CoffeeGrading

namespace SharingScope

variable {isGlobal : Bool} {laboratoryIds : List Identifier} {scope : SharingScope}

theorem ofFlags_toFlags (scope : SharingScope) :
    ofFlags scope.toFlags.1 scope.toFlags.2 = .ok scope := by
  cases scope <;> rfl

theorem toFlags_of_ofFlags (made : ofFlags isGlobal laboratoryIds = .ok scope) :
    scope.toFlags = (isGlobal, laboratoryIds) := by
  unfold ofFlags at made
  split at made
  case h_2 => cases made
  all_goals
    obtain rfl := Except.ok.inj made
    rfl

theorem isVisibleTo_iff (scope : SharingScope) (createdBy userId : Identifier)
    (laboratoryId : Option Identifier) :
    scope.isVisibleTo createdBy userId laboratoryId = true ↔
      userId = createdBy ∨ scope.toFlags.1 = true ∨
        ∃ id ∈ laboratoryId, id ∈ scope.toFlags.2 := by
  cases scope with
  | everyone => simp [isVisibleTo, toFlags]
  | laboratories first others =>
      simp [isVisibleTo, toFlags, SharingScope.laboratoryIds, Option.any_eq_true]
  | authorOnly => simp [isVisibleTo, toFlags, SharingScope.laboratoryIds]

end SharingScope

namespace SharingFlags

variable {flags : SharingFlags}

theorem exists_conflict_iff :
    (∃ conflict, flags.scope = .error conflict) ↔ flags.Contradictory := by
  constructor
  · rintro ⟨conflict, failed⟩
    by_contra consistent
    obtain ⟨scope, made⟩ := scope_of_consistent consistent
    cases made.symm.trans failed
  · intro contradictory
    exact ⟨_, scope_of_contradictory contradictory⟩

/-- The scope is written as the flags again, and shows the template to its author, to all whom the
flags name, and to nobody else. -/
structure StandFor (flags : SharingFlags) (scope : SharingScope) : Prop where
  written : scope.toFlags = (flags.isGlobal.getD false, flags.laboratoryIds.getD [])
  visible_iff : ∀ createdBy userId laboratoryId,
    scope.isVisibleTo createdBy userId laboratoryId = true ↔
      userId = createdBy ∨ flags.isGlobal = some true ∨
        ∃ id ∈ laboratoryId, id ∈ flags.laboratoryIds.getD []

theorem standFor_of_scope {scope : SharingScope} (made : flags.scope = .ok scope) :
    flags.StandFor scope := by
  have written := SharingScope.toFlags_of_ofFlags made
  refine ⟨written, ?_⟩
  intro createdBy userId laboratoryId
  rw [scope.isVisibleTo_iff, written]
  simp [Option.getD_eq_iff]

/-- Flags make a scope exactly when they do not contradict each other, and then one that says what
they say; and every scope is made by the flags that it is written as. -/
theorem scopes_said_by_flags :
    (∀ flags : SharingFlags,
      ((∃ conflict, flags.scope = .error conflict) ↔ flags.Contradictory) ∧
        (¬ flags.Contradictory → ∃ scope, flags.scope = .ok scope ∧ flags.StandFor scope)) ∧
    ∀ scope : SharingScope,
      SharingScope.ofFlags scope.toFlags.1 scope.toFlags.2 = .ok scope := by
  refine ⟨?_, SharingScope.ofFlags_toFlags⟩
  intro flags
  refine ⟨exists_conflict_iff, ?_⟩
  intro consistent
  obtain ⟨scope, made⟩ := scope_of_consistent consistent
  exact ⟨scope, made, standFor_of_scope made⟩

def twoLaboratories : SharingFlags where
  laboratoryIds := some [⟨5⟩, ⟨6⟩, ⟨5⟩]

theorem twoLaboratories_scope :
    ¬ twoLaboratories.Contradictory ∧ ∃ scope, twoLaboratories.scope = .ok scope ∧
      scope.toFlags = (false, [⟨5⟩, ⟨6⟩, ⟨5⟩]) ∧
      scope.isVisibleTo ⟨1⟩ ⟨2⟩ (some ⟨6⟩) = true ∧ scope.isVisibleTo ⟨1⟩ ⟨2⟩ none = false := by
  have consistent : ¬ twoLaboratories.Contradictory := by
    rintro ⟨everyone, _⟩
    cases everyone
  obtain ⟨scope, made, stands⟩ := (scopes_said_by_flags.1 twoLaboratories).2 consistent
  refine ⟨consistent, scope, made, stands.written, ?_, ?_⟩
  · exact (stands.visible_iff _ _ _).2 (.inr (.inr ⟨⟨6⟩, rfl, by decide⟩))
  · rw [Bool.eq_false_iff, ne_eq, stands.visible_iff]
    decide

end SharingFlags
end CoffeeGrading
