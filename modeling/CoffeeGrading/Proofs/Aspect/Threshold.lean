import CoffeeGrading.Proofs.Aspect.Editing
import CoffeeGrading.Proofs.Number.Order

/-!
The threshold of an aspect configuration is always the value of a wording.  When the last wording
that carries its value is given another one, the threshold goes with it; when a wording that carries
its value is removed, the threshold is dropped.  Equality is that of numbers, so what is not a
number is the value of nothing.
-/

namespace CoffeeGrading

/-- An edit that writes no value which is not a number.  Only updates write what they are given
without a check. -/
def AspectEdit.WritesNumber (edit : AspectEdit) : Prop :=
  ∀ value, edit.uncheckedValue = some value → value.isNan = false

namespace AspectConfiguration

def Anchored (configuration : AspectConfiguration) : Prop :=
  ∀ threshold, configuration.threshold = some threshold →
    ∃ wording ∈ configuration.wordings, (wording.value == threshold.minAcceptableValue) = true

def StandsAt (configuration : AspectConfiguration) (value : Binary64) : Prop :=
  ∃ threshold, configuration.threshold = some threshold ∧
    (threshold.minAcceptableValue == value) = true

/-- The threshold stands at a value that none of the wordings carries. -/
def Deserted (configuration : AspectConfiguration) (value : Binary64)
    (wordings : List AspectWording) : Prop :=
  configuration.StandsAt value ∧ ∀ wording ∈ wordings, (wording.value == value) = false

/-- A configuration that is edited from the start: nothing at all, or a predefined one, either as it
is in the catalogue or loaded from there. -/
def Initial (configuration : AspectConfiguration) : Prop :=
  configuration = {} ∨
    (∃ template ∈ AspectTemplate.green ++ AspectTemplate.roast,
      configuration = template.configuration) ∨
    ∃ fresh id, AspectTemplate.load fresh id = .ok configuration

variable {configuration next : AspectConfiguration} {id : String}

theorem anchored_of_unset (unset : configuration.threshold = none) : configuration.Anchored := by
  intro threshold given
  rw [unset] at given
  cases given

theorem Anchored.kept (anchored : configuration.Anchored)
    (same : next.threshold = configuration.threshold)
    (values : configuration.wordings.map (·.value) ⊆ next.wordings.map (·.value)) :
    next.Anchored := by
  intro threshold given
  rw [same] at given
  obtain ⟨wording, listed, stands⟩ := anchored threshold given
  obtain ⟨other, member, equal⟩ := List.mem_map.1 (values (List.mem_map_of_mem listed))
  exact ⟨other, member, equal ▸ stands⟩

theorem values_renumber (wordings : List AspectWording) :
    (DisplayOrder.renumber wordings).map (·.value) = wordings.map (·.value) :=
  DisplayOrder.map_renumber (fun _ _ => rfl) wordings

theorem Anchored.reordered {wordings : List AspectWording} (anchored : configuration.Anchored)
    (same : wordings.Perm configuration.wordings) :
    Anchored { configuration with wordings := DisplayOrder.renumber wordings } := by
  refine anchored.kept rfl ?_
  rw [values_renumber]
  exact ((same.map (·.value)).symm).subset

theorem Anchored.add {label : String} {value : Binary64} {description : Option String}
    (anchored : configuration.Anchored)
    (added : configuration.add id label value description = .ok next) : next.Anchored := by
  obtain ⟨_, rfl⟩ := add_eq_ok added
  refine anchored.kept rfl ?_
  rw [DisplayOrder.append, values_renumber, List.map_append]
  exact List.subset_append_left _ _

theorem Anchored.swap {first second : Int} (anchored : configuration.Anchored)
    (swapped : configuration.swap first second = .ok next) : next.Anchored := by
  obtain ⟨reordered, same, rfl⟩ := swap_eq_ok swapped
  exact anchored.reordered same

theorem Anchored.move {index direction : Int} (anchored : configuration.Anchored)
    (moved : configuration.move index direction = .ok next) : next.Anchored := by
  obtain ⟨reordered, same, rfl⟩ := move_eq_ok moved
  exact anchored.reordered same

theorem anchored_of_setThreshold {value : Option Binary64} {validationMessage : Option String}
    (changed : configuration.setThreshold value validationMessage = .ok next) :
    next.Anchored := by
  obtain ⟨rfl, matched⟩ := setThreshold_eq_ok changed
  intro threshold set
  obtain ⟨number, given, rfl⟩ := Option.map_eq_some_iff.1 set
  exact List.any_eq_true.1 (matched number given).2

/-! ### Updates -/

theorem followedThreshold_of_deserted {old number : Binary64} {wordings : List AspectWording}
    (deserted : configuration.Deserted old wordings) :
    followedThreshold configuration.threshold old (some number) wordings =
      configuration.threshold.map fun threshold =>
        { threshold with minAcceptableValue := number } := by
  obtain ⟨⟨threshold, given, stands⟩, left⟩ := deserted
  have gone : hasValue wordings old = false := by simpa [hasValue] using left
  simp [followedThreshold, given, stands, gone]

theorem followedThreshold_of_stays {old : Binary64} {value : Option Binary64}
    {wordings : List AspectWording} (stays : value = none ∨ ¬ configuration.Deserted old wordings) :
    followedThreshold configuration.threshold old value wordings = configuration.threshold := by
  cases given : configuration.threshold with
  | none => rfl
  | some threshold =>
      cases value with
      | none => rfl
      | some number =>
          have inhabited := stays.resolve_left (by simp)
          simp only [followedThreshold]
          split
          · next moves =>
              simp only [Bool.and_eq_true, Bool.not_eq_true'] at moves
              have left : ∀ wording ∈ wordings, (wording.value == old) = false := by
                simpa [hasValue] using moves.2
              exact absurd ⟨⟨threshold, given, moves.1⟩, left⟩ inhabited
          · rfl

theorem Anchored.update {label : Option String} {value : Option Binary64}
    {description : Option String} (anchored : configuration.Anchored)
    (number : ∀ written, value = some written → written.isNan = false)
    (updated : configuration.update id label value description = .ok next) : next.Anchored := by
  obtain ⟨before, old, after, addressed, rfl⟩ := update_eq_ok updated
  generalize wordingsEq : before ++ revised old label value description :: after = wordings
  have changed : revised old label value description ∈ wordings := by simp [← wordingsEq]
  intro threshold given
  by_cases moved : value.isSome ∧ configuration.Deserted old.value wordings
  · obtain ⟨changes, deserted⟩ := moved
    obtain ⟨written, rfl⟩ := Option.isSome_iff_exists.1 changes
    simp only [followedThreshold_of_deserted deserted] at given
    obtain ⟨stood, _, rfl⟩ := Option.map_eq_some_iff.1 given
    exact ⟨_, changed, Binary64.beq_self_of_number (number written rfl)⟩
  · have stays : value = none ∨ ¬ configuration.Deserted old.value wordings := by
      rwa [not_and_or, Option.not_isSome_iff_eq_none] at moved
    simp only [followedThreshold_of_stays stays] at given
    obtain ⟨wording, listed, stands⟩ := anchored threshold given
    have others : wording ∈ wordings ∨ wording = old := by
      rw [addressed.split] at listed
      simp only [← wordingsEq, List.mem_append, List.mem_cons] at listed ⊢
      tauto
    rcases others with there | rfl
    · exact ⟨wording, there, stands⟩
    · cases value with
      | none => exact ⟨_, changed, stands⟩
      | some written =>
          have inhabited := stays.resolve_left (by simp)
          have stood : configuration.StandsAt wording.value :=
            ⟨threshold, given, (Binary64.beq_comm _ _).trans stands⟩
          have carried : ∃ other ∈ wordings, (other.value == wording.value) = true := by
            by_contra uncarried
            exact inhabited ⟨stood, by simpa using uncarried⟩
          obtain ⟨other, member, same⟩ := carried
          exact ⟨other, member, Binary64.beq_trans same stands⟩

/-! ### Removals -/

theorem filtered_of_standsAt {value : Binary64} (stands : configuration.StandsAt value) :
    configuration.threshold.filter (fun threshold => !(threshold.minAcceptableValue == value)) =
      none := by
  obtain ⟨threshold, given, same⟩ := stands
  simp [given, same]

theorem filtered_of_elsewhere {value : Binary64} (elsewhere : ¬ configuration.StandsAt value) :
    configuration.threshold.filter (fun threshold => !(threshold.minAcceptableValue == value)) =
      configuration.threshold := by
  cases given : configuration.threshold with
  | none => rfl
  | some threshold =>
      have unlike : (threshold.minAcceptableValue == value) = false := by
        rw [Bool.eq_false_iff]
        exact fun same => elsewhere ⟨threshold, given, same⟩
      simp [unlike]

theorem Anchored.remove (anchored : configuration.Anchored)
    (removed : configuration.remove id = .ok next) : next.Anchored := by
  obtain ⟨before, gone, after, addressed, rfl⟩ := remove_eq_ok removed
  by_cases stands : configuration.StandsAt gone.value
  · exact anchored_of_unset (filtered_of_standsAt stands)
  · rw [filtered_of_elsewhere stands]
    have left : Anchored { configuration with wordings := before ++ after } := by
      intro threshold given
      obtain ⟨wording, listed, same⟩ := anchored threshold given
      have other : wording ≠ gone := by
        rintro rfl
        exact stands ⟨threshold, given, (Binary64.beq_comm _ _).trans same⟩
      refine ⟨wording, ?_, same⟩
      rw [addressed.split] at listed
      simpa [other] using listed
    exact left.reordered (.refl _)

/-! ### Sessions -/

theorem threshold_unset : ∀ template ∈ AspectTemplate.green ++ AspectTemplate.roast,
    template.configuration.threshold = none := by
  simp [AspectTemplate.green, AspectTemplate.roast]

theorem anchored_of_load {fresh : Nat → Identifier}
    (loaded : AspectTemplate.load fresh id = .ok configuration) : configuration.Anchored := by
  obtain ⟨template, found, done⟩ := exists_of_bind_eq_ok loaded
  obtain rfl := Except.ok.inj done
  exact anchored_of_unset (threshold_unset template (mem_of_findById found))

theorem Initial.anchored (initial : configuration.Initial) : configuration.Anchored := by
  rcases initial with rfl | ⟨template, listed, rfl⟩ | ⟨fresh, id, loaded⟩
  · exact anchored_of_unset rfl
  · exact anchored_of_unset (threshold_unset template listed)
  · exact anchored_of_load loaded

theorem Anchored.perform {edit : AspectEdit} (anchored : configuration.Anchored)
    (number : edit.WritesNumber) (performed : configuration.perform edit = some next) :
    next.Anchored := by
  cases edit with
  | add id label value description => exact anchored.add (toOption_eq_some_iff.1 performed)
  | update id label value description =>
      exact anchored.update number (toOption_eq_some_iff.1 performed)
  | remove id => exact anchored.remove (toOption_eq_some_iff.1 performed)
  | swap first second => exact anchored.swap (toOption_eq_some_iff.1 performed)
  | move index direction => exact anchored.move (toOption_eq_some_iff.1 performed)
  | setThreshold value validationMessage =>
      exact anchored_of_setThreshold (toOption_eq_some_iff.1 performed)
  | load fresh id => exact anchored_of_load (toOption_eq_some_iff.1 performed)
  | clear =>
      obtain rfl := Option.some.inj performed
      exact anchored_of_unset rfl

/-- A threshold never dangles.  Every edit that writes numbers leaves it at the value of a wording
if it was at one before, and so does every session.  An update moves it exactly when it stood at the
old value of the wording and no wording has that value any more; a removal drops it exactly when it
stood at the value of the wording that is removed. -/
theorem threshold_never_dangles :
    (∀ (configuration next : AspectConfiguration) (edit : AspectEdit),
      configuration.Anchored → edit.WritesNumber → configuration.perform edit = some next →
        next.Anchored) ∧
    (∀ (start : AspectConfiguration) (edits : List AspectEdit),
      start.Initial → (∀ edit ∈ edits, edit.WritesNumber) →
        (edited AspectConfiguration.perform start edits).Anchored) ∧
    (∀ (configuration next : AspectConfiguration) (id : String) (label : Option String)
      (value : Option Binary64) (description : Option String),
      configuration.update id label value description = .ok next →
        ∃ before old after, Addressed configuration.wordings id before old after ∧
          next.wordings = before ++ revised old label value description :: after ∧
          (∀ number, value = some number → configuration.Deserted old.value next.wordings →
            next.threshold = configuration.threshold.map fun threshold =>
              { threshold with minAcceptableValue := number }) ∧
          (value = none ∨ ¬ configuration.Deserted old.value next.wordings →
            next.threshold = configuration.threshold)) ∧
    (∀ (configuration next : AspectConfiguration) (id : String),
      configuration.remove id = .ok next →
        ∃ before gone after, Addressed configuration.wordings id before gone after ∧
          next.wordings = DisplayOrder.renumber (before ++ after) ∧
          (configuration.StandsAt gone.value → next.threshold = none) ∧
          (¬ configuration.StandsAt gone.value → next.threshold = configuration.threshold)) := by
  refine ⟨fun _ _ _ => Anchored.perform, ?sessions, ?updates, ?removals⟩
  case sessions =>
    intro start edits initial numbers
    exact edited_induction (fun _ _ _ => Anchored.perform) initial.anchored numbers
  case updates =>
    intro configuration next id label value description updated
    obtain ⟨before, old, after, addressed, rfl⟩ := update_eq_ok updated
    refine ⟨before, old, after, addressed, rfl, ?_, followedThreshold_of_stays⟩
    rintro number rfl deserted
    exact followedThreshold_of_deserted deserted
  case removals =>
    intro configuration next id removed
    obtain ⟨before, gone, after, addressed, rfl⟩ := remove_eq_ok removed
    exact ⟨before, gone, after, addressed, rfl, filtered_of_standsAt, filtered_of_elsewhere⟩

def twoShades (pale dark minimum : Binary64) : AspectConfiguration where
  wordings := [⟨"pale", "Pale", pale, 0, none⟩, ⟨"dark", "Dark", dark, 1, none⟩]
  threshold := some ⟨minimum, none⟩

theorem addressed_dark (pale dark minimum : Binary64) :
    Addressed (twoShades pale dark minimum).wordings "dark" [⟨"pale", "Pale", pale, 0, none⟩]
      ⟨"dark", "Dark", dark, 1, none⟩ [] :=
  ⟨rfl, rfl, by simp⟩

theorem shades_threshold_never_dangles :
    (∃ next, (twoShades 7 5 5).update "dark" none (some 8) none = .ok next ∧ next.Anchored ∧
      next.threshold = some ⟨8, none⟩) ∧
    (∃ next, (twoShades 5 5 5).update "dark" none (some 8) none = .ok next ∧
      next.threshold = some ⟨5, none⟩) ∧
    (∃ next, (twoShades 5 5 5).remove "dark" = .ok next ∧ next.threshold = none) ∧
    (edited AspectConfiguration.perform {} [.add "pale" "Pale" 5 none,
      .setThreshold (some 5) none, .update "pale" none (some 8) none]).Anchored := by
  obtain ⟨step, session, updates, removals⟩ := threshold_never_dangles
  have same : ((5 : Binary64) == 5) = true := by decide +kernel
  have unlike : ((7 : Binary64) == 5) = false ∧ ((8 : Binary64) == 5) = false := by decide +kernel
  have eight : (8 : Binary64).isNan = false := by decide +kernel
  have writes (id : String) : AspectEdit.WritesNumber (.update id none (some 8) none) := by
    intro value written
    obtain rfl := Option.some.inj written
    exact eight
  refine ⟨?last, ?another, ?removed, session _ _ (.inl rfl) ?numbers⟩
  case last =>
    have updated := update_addressed (addressed_dark 7 5 5) none (some 8) none
    have anchored : (twoShades 7 5 5).Anchored := by
      intro threshold given
      obtain rfl := Option.some.inj given
      exact ⟨_, List.mem_cons_of_mem _ List.mem_cons_self, same⟩
    refine ⟨_, updated, step _ _ (.update "dark" none (some 8) none) anchored (writes "dark")
      (toOption_eq_some_iff.2 updated), ?_⟩
    obtain ⟨_, old, _, addressed, _, follows, _⟩ := updates _ _ _ _ _ _ updated
    obtain rfl := Option.some.inj
      ((find?_addressed (addressed_dark 7 5 5)).symm.trans (find?_addressed addressed))
    exact follows 8 rfl ⟨⟨_, rfl, same⟩, by simpa [revised] using unlike⟩
  case another =>
    have updated := update_addressed (addressed_dark 5 5 5) none (some 8) none
    refine ⟨_, updated, ?_⟩
    obtain ⟨_, old, _, addressed, _, _, stays⟩ := updates _ _ _ _ _ _ updated
    obtain rfl := Option.some.inj
      ((find?_addressed (addressed_dark 5 5 5)).symm.trans (find?_addressed addressed))
    exact stays (.inr fun deserted => by simpa [same] using deserted.2 _ List.mem_cons_self)
  case removed =>
    have removed := remove_addressed (addressed_dark 5 5 5)
    refine ⟨_, removed, ?_⟩
    obtain ⟨_, gone, _, addressed, _, dropped, _⟩ := removals _ _ _ removed
    obtain rfl := Option.some.inj
      ((find?_addressed (addressed_dark 5 5 5)).symm.trans (find?_addressed addressed))
    exact dropped ⟨_, rfl, same⟩
  case numbers =>
    simp only [List.forall_mem_cons]
    exact ⟨by simp [AspectEdit.WritesNumber, AspectEdit.uncheckedValue],
      by simp [AspectEdit.WritesNumber, AspectEdit.uncheckedValue], writes "pale", by simp⟩

end AspectConfiguration
end CoffeeGrading
