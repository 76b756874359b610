import CoffeeGrading.Amendment.Records
import Mathlib.Data.List.Basic

/-!
Amendments inside lists and region shares.  An amendment reaches one entry and leaves the others as
they were, so that amendments of two entries can be made in either order.
-/

namespace CoffeeGrading

namespace Amendable

variable {Value : Type} [Amendable Value] {values amended : List Value} {path otherPath : List Step}
  {leaf otherLeaf : Document}

theorem amendItem_eq_some_iff {position : Nat} :
    amendItem (.item position :: path) leaf values = some amended ↔
      ∃ value part, values[position]? = some value ∧ amend path leaf value = some part ∧
        amended = values.set position part := by
  simp only [amendItem, Option.bind_eq_bind, Option.bind_eq_some_iff, Option.some.injEq]
  constructor
  · rintro ⟨value, there, part, done, rfl⟩
    exact ⟨value, part, there, done, rfl⟩
  · rintro ⟨value, part, there, done, rfl⟩
    exact ⟨value, there, part, done, rfl⟩

structure OneEntryDiffers (position : Nat) (before after : List Value) : Prop where
  length : after.length = before.length
  others : ∀ other, other ≠ position → after[other]? = before[other]?

theorem oneEntryDiffers_of_amendItem (returned : amendItem path leaf values = some amended) :
    ∃ position rest, path = .item position :: rest ∧ OneEntryDiffers position values amended := by
  cases path with
  | nil => cases returned
  | cons step rest =>
      cases step with
      | field name => cases returned
      | item position =>
          obtain ⟨_, part, _, _, rfl⟩ := amendItem_eq_some_iff.1 returned
          refine ⟨position, rest, rfl, List.length_set, ?_⟩
          intro other apart
          exact List.getElem?_set_ne (Ne.symm apart)

theorem amendItem_twice {first second : Nat} (apart : first ≠ second) {once : List Value}
    (begun : amendItem (.item first :: path) leaf values = some once)
    (ended : amendItem (.item second :: otherPath) otherLeaf once = some amended) :
    ∃ other, amendItem (.item second :: otherPath) otherLeaf values = some other ∧
      amendItem (.item first :: path) leaf other = some amended := by
  obtain ⟨value, part, there, done, rfl⟩ := amendItem_eq_some_iff.1 begun
  obtain ⟨otherValue, otherPart, otherThere, otherDone, rfl⟩ := amendItem_eq_some_iff.1 ended
  rw [List.getElem?_set_ne apart] at otherThere
  refine ⟨values.set second otherPart,
    amendItem_eq_some_iff.2 ⟨otherValue, otherPart, otherThere, otherDone, rfl⟩,
    amendItem_eq_some_iff.2 ⟨value, part, ?_, done, List.set_comm _ _ apart⟩⟩
  rwa [List.getElem?_set_ne (Ne.symm apart)]

/-- Amendments of two entries of a list can be made in either order. -/
theorem amendItem_comm {first second : Nat} (apart : first ≠ second) :
    (amendItem (.item first :: path) leaf values).bind
        (amendItem (.item second :: otherPath) otherLeaf) = some amended ↔
      (amendItem (.item second :: otherPath) otherLeaf values).bind
        (amendItem (.item first :: path) leaf) = some amended := by
  simp only [Option.bind_eq_some_iff]
  constructor
  · rintro ⟨once, begun, ended⟩
    exact amendItem_twice apart begun ended
  · rintro ⟨once, begun, ended⟩
    exact amendItem_twice (Ne.symm apart) begun ended

end Amendable

namespace RegionShares

theorem keys_amendRegion {region : String} {path : List Step} {leaf : Document}
    {entries amended : List (String × RegionShare)}
    (returned : amendRegion region path leaf entries = some amended) :
    amended.map Prod.fst = entries.map Prod.fst := by
  induction entries generalizing amended with
  | nil => cases returned
  | cons entry others ih =>
      obtain ⟨name, share⟩ := entry
      rw [amendRegion] at returned
      split at returned
      · obtain ⟨part, _, rfl⟩ := Option.map_eq_some_iff.1 returned
        rfl
      · obtain ⟨rest, done, rfl⟩ := Option.map_eq_some_iff.1 returned
        rw [List.map_cons, List.map_cons, ih done]

/-- An amendment of one region leaves the shares of the others as they were. -/
theorem lookup_amendRegion {region other : String} (apart : other ≠ region) {path : List Step}
    {leaf : Document} {entries amended : List (String × RegionShare)}
    (returned : amendRegion region path leaf entries = some amended) :
    amended.lookup other = entries.lookup other := by
  induction entries generalizing amended with
  | nil => cases returned
  | cons entry others ih =>
      obtain ⟨name, share⟩ := entry
      rw [amendRegion] at returned
      split at returned
      · next same =>
          obtain ⟨part, _, rfl⟩ := Option.map_eq_some_iff.1 returned
          have unlike : (other == name) = false := by simpa [same] using apart
          rw [List.lookup_cons, List.lookup_cons, unlike]
      · obtain ⟨rest, done, rfl⟩ := Option.map_eq_some_iff.1 returned
        rw [List.lookup_cons, List.lookup_cons, ih done]

end RegionShares
end CoffeeGrading
