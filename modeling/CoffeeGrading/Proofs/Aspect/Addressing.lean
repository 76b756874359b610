import CoffeeGrading.Aspect.Editing

/-!
Wordings are addressed by their identifiers.  An update and a removal reach the first wording under
an identifier, and are refused where there is none.
-/

namespace CoffeeGrading.AspectConfiguration

/-- The first wording under an identifier, with what stands before and behind it. -/
structure Addressed (wordings : List AspectWording) (id : String) (before : List AspectWording)
    (wording : AspectWording) (after : List AspectWording) : Prop where
  split : wordings = before ++ wording :: after
  named : wording.id = id
  first : ∀ other ∈ before, other.id ≠ id

variable {configuration next : AspectConfiguration} {id : String}
  {before after : List AspectWording} {wording : AspectWording}

theorem exists_addressed {wordings : List AspectWording}
    (known : ∃ wording ∈ wordings, wording.id = id) :
    ∃ before wording after, Addressed wordings id before wording after := by
  have found : (wordings.find? fun wording => wording.id = id).isSome := by simpa using known
  obtain ⟨wording, found⟩ := Option.isSome_iff_exists.1 found
  obtain ⟨named, before, after, split, first⟩ := List.find?_eq_some_iff_append.1 found
  exact ⟨before, wording, after, split, by simpa using named, by simpa using first⟩

theorem find?_addressed {wordings : List AspectWording}
    (addressed : Addressed wordings id before wording after) :
    (wordings.find? fun wording => wording.id = id) = some wording := by
  have passed : (before.find? fun other => other.id = id) = none := by
    simpa using addressed.first
  simp [addressed.split, List.find?_append, passed, addressed.named]

theorem positionOf_addressed
    (addressed : Addressed configuration.wordings id before wording after) :
    configuration.positionOf id = .ok before.length := by
  have passed : before.findIdx? (fun other => other.id = id) = none := by
    simpa using addressed.first
  simp [positionOf, addressed.split, List.findIdx?_append, List.findIdx?_cons, passed,
    addressed.named]

theorem getElem?_addressed (addressed : Addressed configuration.wordings id before wording after) :
    configuration.wordings[before.length]? = some wording := by
  simp [addressed.split]

theorem update_addressed (addressed : Addressed configuration.wordings id before wording after)
    (label : Option String) (value : Option Binary64) (description : Option String) :
    configuration.update id label value description = .ok { configuration with
      wordings := before ++ revised wording label value description :: after
      threshold := followedThreshold configuration.threshold wording.value value
        (before ++ revised wording label value description :: after) } := by
  have replaced : configuration.wordings.set before.length
      (revised wording label value description) =
        before ++ revised wording label value description :: after := by
    simp [addressed.split]
  rw [update, positionOf_addressed addressed]
  simp only [bind, Except.bind, getElem?_addressed addressed, replaced]

theorem remove_addressed (addressed : Addressed configuration.wordings id before wording after) :
    configuration.remove id = .ok { configuration with
      wordings := DisplayOrder.renumber (before ++ after)
      threshold := configuration.threshold.filter fun threshold =>
        !(threshold.minAcceptableValue == wording.value) } := by
  have left : configuration.wordings.eraseIdx before.length = before ++ after := by
    simp [addressed.split, List.eraseIdx_append_of_length_le]
  rw [remove, positionOf_addressed addressed]
  simp only [bind, Except.bind, getElem?_addressed addressed, left]

theorem positionOf_unknown (unknown : ∀ wording ∈ configuration.wordings, wording.id ≠ id) :
    configuration.positionOf id = .error ⟨"Aspect wording", id⟩ := by
  have missed : configuration.wordings.findIdx? (fun wording => wording.id = id) = none := by
    simpa using unknown
  simp only [positionOf, missed]

theorem update_unknown (unknown : ∀ wording ∈ configuration.wordings, wording.id ≠ id)
    (label : Option String) (value : Option Binary64) (description : Option String) :
    configuration.update id label value description = .error ⟨"Aspect wording", id⟩ := by
  rw [update, positionOf_unknown unknown]
  rfl

theorem remove_unknown (unknown : ∀ wording ∈ configuration.wordings, wording.id ≠ id) :
    configuration.remove id = .error ⟨"Aspect wording", id⟩ := by
  rw [remove, positionOf_unknown unknown]
  rfl

theorem eraseP_addressed {wordings : List AspectWording}
    (addressed : Addressed wordings id before wording after) :
    (wordings.eraseP fun wording => wording.id = id) = before ++ after := by
  obtain ⟨rfl, rfl, first⟩ := addressed
  rw [List.eraseP_append_right _ (by simpa using first), List.eraseP_cons_of_pos (by simp)]

theorem known_or_unknown (wordings : List AspectWording) (id : String) :
    (∃ before wording after, Addressed wordings id before wording after) ∨
      ∀ wording ∈ wordings, wording.id ≠ id := by
  by_cases known : ∃ wording ∈ wordings, wording.id = id
  · exact .inl (exists_addressed known)
  · exact .inr fun wording listed named => known ⟨wording, listed, named⟩

theorem update_eq_ok {label : Option String} {value : Option Binary64}
    {description : Option String}
    (updated : configuration.update id label value description = .ok next) :
    ∃ before old after, Addressed configuration.wordings id before old after ∧
      next = { configuration with
        wordings := before ++ revised old label value description :: after
        threshold := followedThreshold configuration.threshold old.value value
          (before ++ revised old label value description :: after) } := by
  rcases known_or_unknown configuration.wordings id with ⟨before, old, after, addressed⟩ | unknown
  · rw [update_addressed addressed] at updated
    exact ⟨before, old, after, addressed, (Except.ok.inj updated).symm⟩
  · rw [update_unknown unknown] at updated
    cases updated

theorem remove_eq_ok (removed : configuration.remove id = .ok next) :
    ∃ before gone after, Addressed configuration.wordings id before gone after ∧
      next = { configuration with
        wordings := DisplayOrder.renumber (before ++ after)
        threshold := configuration.threshold.filter fun threshold =>
          !(threshold.minAcceptableValue == gone.value) } := by
  rcases known_or_unknown configuration.wordings id with ⟨before, gone, after, addressed⟩ | unknown
  · rw [remove_addressed addressed] at removed
    exact ⟨before, gone, after, addressed, (Except.ok.inj removed).symm⟩
  · rw [remove_unknown unknown] at removed
    cases removed

theorem Addressed.sublist {wordings : List AspectWording}
    (addressed : Addressed wordings id before wording after) :
    (before ++ after).Sublist wordings := by
  rw [addressed.split]
  exact (List.Sublist.refl before).append (List.sublist_cons_self wording after)

end CoffeeGrading.AspectConfiguration
