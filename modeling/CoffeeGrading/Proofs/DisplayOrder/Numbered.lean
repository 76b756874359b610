import CoffeeGrading.Aspect
import CoffeeGrading.Defect
import CoffeeGrading.OffFlavour
import CoffeeGrading.Proofs.DisplayOrder
import CoffeeGrading.ScreenSize
import Mathlib.Logic.Equiv.Basic

/-!
Edits of ordered lists, described without the way they are carried out.  Each of them makes the
change it was asked for among the entries, and leaves every entry at the place of its position,
whatever places the entries came with.
-/

namespace CoffeeGrading

open HasDisplayOrder

/-- An entry is at the place where it was put last, and nothing else of it depends on that. -/
class LawfulDisplayOrder (Entry : Type) [HasDisplayOrder Entry] : Prop where
  displayOrder_placedAt : ∀ (entry : Entry) place, displayOrder (placedAt entry place) = place
  placedAt_placedAt : ∀ (entry : Entry) first second,
    placedAt (placedAt entry first) second = placedAt entry second
  placedAt_displayOrder : ∀ entry : Entry, placedAt entry (displayOrder entry) = entry

instance : LawfulDisplayOrder WordingOption :=
  ⟨fun _ _ => rfl, fun _ _ _ => rfl, fun _ => rfl⟩

instance : LawfulDisplayOrder AspectWording :=
  ⟨fun _ _ => rfl, fun _ _ _ => rfl, fun _ => rfl⟩

instance : LawfulDisplayOrder DefectDefinition :=
  ⟨fun _ _ => rfl, fun _ _ _ => rfl, fun _ => rfl⟩

instance : LawfulDisplayOrder ScreenConstraint :=
  ⟨fun _ _ => rfl, fun _ _ _ => rfl, fun _ => rfl⟩

instance : LawfulDisplayOrder OffFlavourDefinition :=
  ⟨fun _ _ => rfl, fun _ _ _ => rfl, fun _ => rfl⟩

namespace DisplayOrder

variable {Entry : Type}

def Within (items : List Entry) (index : Int) : Prop :=
  0 ≤ index ∧ index < items.length

instance (items : List Entry) (index : Int) : Decidable (Within items index) :=
  inferInstanceAs (Decidable (_ ∧ _))

theorem Within.toNat_lt {items : List Entry} {index : Int} (within : Within items index) :
    index.toNat < items.length := by
  obtain ⟨above, below⟩ := within
  omega

theorem within_of_position {items : List Entry} {index : Int} {found : Nat}
    (known : position items.length index = .ok found) :
    Within items index ∧ found = index.toNat := by
  obtain ⟨rfl, bound⟩ := position_eq_ok known
  unfold Within
  omega

theorem getElem?_exchange {items : List Entry} {first second : Nat}
    (firstBound : first < items.length) (secondBound : second < items.length) (place : Nat) :
    (exchange items first second)[place]? = items[Equiv.swap first second place]? := by
  simp only [exchange, List.getElem?_eq_getElem firstBound, List.getElem?_eq_getElem secondBound,
    List.getElem?_set, List.length_set]
  by_cases atSecond : second = place
  · subst atSecond
    simp [firstBound, secondBound]
  · by_cases atFirst : first = place
    · subst atFirst
      simp [atSecond, firstBound, secondBound]
    · rw [Equiv.swap_apply_of_ne_of_ne (Ne.symm atFirst) (Ne.symm atSecond)]
      simp [atSecond, atFirst]

variable [HasDisplayOrder Entry]

/-- All that an entry says apart from its place. -/
def unplaced (entry : Entry) : Entry :=
  placedAt entry 0

/-- The entries that were asked for, each at the place of its position. -/
structure Numbered (asked result : List Entry) : Prop where
  places : isContiguous result = true
  entries : result.map unplaced = asked.map unplaced

/-- The entries at two positions exchanged, and every entry at the place of its position. -/
structure Swapped (first second : Int) (before after : List Entry) : Prop where
  first_within : Within before first
  second_within : Within before second
  places : isContiguous after = true
  entries : ∀ place, (after.map unplaced)[place]? =
    (before.map unplaced)[Equiv.swap first.toNat second.toNat place]?

/-- One entry exchanged with the one before or behind it, unless there is none. -/
structure Moved (index direction : Int) (before after : List Entry) : Prop where
  step : direction = -1 ∨ direction = 1
  onto : Within before (index + direction) → Swapped index (index + direction) before after
  off : ¬ Within before (index + direction) → Numbered before after

/-- The entry at one position taken out. -/
structure Removed (index : Int) (before after : List Entry) : Prop where
  within : Within before index
  numbered : Numbered (before.eraseIdx index.toNat) after

variable {items result : List Entry}

theorem Moved.places {index direction : Int} (moved : Moved index direction items result) :
    isContiguous result = true := by
  by_cases onto : Within items (index + direction)
  · exact (moved.onto onto).places
  · exact (moved.off onto).places

theorem Swapped.back {first second : Int} {before after last : List Entry}
    (there : Swapped first second before after)
    (back : Swapped second first after last) : Numbered before last := by
  refine ⟨back.places, ?_⟩
  apply List.ext_getElem?
  intro place
  rw [back.entries, there.entries, Equiv.swap_comm, Equiv.swap_apply_self]

variable [LawfulDisplayOrder Entry]

theorem isContiguous_renumber (items : List Entry) : isContiguous (renumber items) = true := by
  rw [isContiguous, beq_iff_eq]
  apply List.ext_getElem
  · simp
  · intro place bound _
    simp [renumber, LawfulDisplayOrder.displayOrder_placedAt]

theorem renumber_of_isContiguous (places : isContiguous items = true) : renumber items = items := by
  rw [isContiguous, beq_iff_eq] at places
  apply List.ext_getElem (by simp)
  intro place _ bound
  have here : displayOrder items[place] = place := by
    have listed := congrArg (·[place]?) places
    simpa [bound] using listed
  simp only [renumber, List.getElem_mapIdx]
  rw [← here, LawfulDisplayOrder.placedAt_displayOrder]

theorem numbered_renumber (items : List Entry) : Numbered items (renumber items) :=
  ⟨isContiguous_renumber items,
    map_renumber (fun entry place => LawfulDisplayOrder.placedAt_placedAt entry place 0) items⟩

theorem renumber_map_unplaced (items : List Entry) :
    renumber (items.map unplaced) = renumber items := by
  apply List.ext_getElem (by simp)
  intro place _ _
  simp [renumber, unplaced, LawfulDisplayOrder.placedAt_placedAt]

theorem Numbered.eq_renumber {asked : List Entry} (numbered : Numbered asked result) :
    result = renumber asked := by
  rw [← renumber_of_isContiguous numbered.places, ← renumber_map_unplaced, numbered.entries,
    renumber_map_unplaced]

theorem renumber_filter_renumber {kept : Entry → Bool}
    (placeless : ∀ entry place, kept (placedAt entry place) = kept entry) (items : List Entry) :
    renumber ((renumber items).filter kept) = renumber (items.filter kept) := by
  have unplaced_kept : kept ∘ unplaced = kept := funext fun entry => placeless entry 0
  have filtered (entries : List Entry) :
      (entries.filter kept).map unplaced = (entries.map unplaced).filter kept := by
    rw [List.filter_map, unplaced_kept]
  rw [← renumber_map_unplaced, filtered, (numbered_renumber items).entries, ← filtered,
    renumber_map_unplaced]

theorem sort_renumber (items : List Entry) : sort (renumber items) = renumber items := by
  apply List.mergeSort_of_pairwise
  rw [List.pairwise_iff_getElem]
  intro first second _ _ before
  simp only [renumber, List.getElem_mapIdx, LawfulDisplayOrder.displayOrder_placedAt,
    decide_eq_true_eq]
  omega

theorem numbered_append (items : List Entry) (item : Entry) :
    Numbered (items ++ [item]) (append items item) :=
  numbered_renumber _

theorem removed_of_removeAt {index : Int} (returned : removeAt items index = .ok result) :
    Removed index items result := by
  obtain ⟨gone, found, done⟩ := exists_of_bind_eq_ok returned
  obtain ⟨within, rfl⟩ := within_of_position found
  obtain rfl := Except.ok.inj done
  exact ⟨within, numbered_renumber _⟩

theorem swapped_of_swap {first second : Int} (returned : swap items first second = .ok result) :
    Swapped first second items result := by
  obtain ⟨left, leftFound, rest⟩ := exists_of_bind_eq_ok returned
  obtain ⟨right, rightFound, done⟩ := exists_of_bind_eq_ok rest
  obtain ⟨firstWithin, rfl⟩ := within_of_position leftFound
  obtain ⟨secondWithin, rfl⟩ := within_of_position rightFound
  obtain rfl := Except.ok.inj done
  obtain ⟨places, entries⟩ := numbered_renumber (exchange items first.toNat second.toNat)
  refine ⟨firstWithin, secondWithin, places, ?_⟩
  intro place
  rw [entries, List.getElem?_map, List.getElem?_map,
    getElem?_exchange firstWithin.toNat_lt secondWithin.toNat_lt]

theorem moved_of_move {index direction : Int} (returned : move items index direction = .ok result) :
    Moved index direction items result := by
  simp only [move] at returned
  split at returned
  · cases returned
  · split at returned
    · next onto =>
        exact ⟨by omega, fun _ => swapped_of_swap returned, fun off => absurd onto off⟩
    · next off =>
        obtain rfl := Except.ok.inj returned
        exact ⟨by omega, fun onto => absurd onto off, fun _ => numbered_renumber items⟩

end DisplayOrder
end CoffeeGrading
