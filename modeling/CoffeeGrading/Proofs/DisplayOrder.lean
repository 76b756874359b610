import CoffeeGrading.DisplayOrder
import CoffeeGrading.Proofs.EditSession
import Mathlib.Data.List.Perm.Subperm

/-!
Edits of ordered lists.  Every edit numbers anew some of the entries it finds, one less when it
removes one and all of them when it reorders, so that what does not depend on the place of an entry
is kept by every edit that brings in no entry without it.
-/

namespace CoffeeGrading.DisplayOrder

open HasDisplayOrder

variable {Entry : Type} {Fits : Entry → Prop} {items result : List Entry}

theorem exchange_perm (items : List Entry) (first second : Nat) :
    (exchange items first second).Perm items := by
  unfold exchange
  split
  · next left right leftFound rightFound =>
      obtain ⟨leftBound, rfl⟩ := List.getElem?_eq_some_iff.1 leftFound
      obtain ⟨rightBound, rfl⟩ := List.getElem?_eq_some_iff.1 rightFound
      exact List.set_set_perm leftBound rightBound
  · exact .refl items

theorem position_eq_ok {count : Nat} {index : Int} {position : Nat}
    (found : DisplayOrder.position count index = .ok position) :
    index = position ∧ position < count := by
  unfold DisplayOrder.position at found
  split at found
  · obtain rfl := Except.ok.inj found
    omega
  · cases found

theorem pairwise_of_subperm {Apart : Entry → Entry → Prop}
    (symmetric : ∀ left right, Apart left right → Apart right left) (chosen : result.Subperm items)
    (apart : items.Pairwise Apart) : result.Pairwise Apart := by
  obtain ⟨reordered, same, kept⟩ := chosen
  exact same.pairwise (apart.sublist kept) (symmetric _ _)

variable [HasDisplayOrder Entry]

theorem map_renumber {Value : Type} {read : Entry → Value}
    (placeless : ∀ entry place, read (placedAt entry place) = read entry) (items : List Entry) :
    (renumber items).map read = items.map read :=
  List.ext_getElem (by simp [renumber]) (by simp [renumber, placeless])

@[simp] theorem length_renumber (items : List Entry) : (renumber items).length = items.length :=
  List.length_mapIdx

theorem removeAt_eq_ok {index : Int} (removed : removeAt items index = .ok result) :
    ∃ gone : Nat, index = gone ∧ gone < items.length ∧
      result = renumber (items.eraseIdx gone) := by
  obtain ⟨gone, found, done⟩ := exists_of_bind_eq_ok removed
  obtain ⟨here, bound⟩ := position_eq_ok found
  exact ⟨gone, here, bound, (Except.ok.inj done).symm⟩

theorem swap_eq_ok {first second : Int} (swapped : swap items first second = .ok result) :
    ∃ reordered, reordered.Perm items ∧ result = renumber reordered := by
  obtain ⟨left, _, swapped⟩ := exists_of_bind_eq_ok swapped
  obtain ⟨right, _, done⟩ := exists_of_bind_eq_ok swapped
  exact ⟨_, exchange_perm items left right, (Except.ok.inj done).symm⟩

theorem move_eq_ok {index direction : Int} (moved : move items index direction = .ok result) :
    ∃ reordered, reordered.Perm items ∧ result = renumber reordered := by
  simp only [move] at moved
  split at moved
  · cases moved
  · split at moved
    · exact swap_eq_ok moved
    · exact ⟨items, .refl items, (Except.ok.inj moved).symm⟩

/-- A property that does not depend on the place of an entry. -/
def Placeless (Fits : Entry → Prop) : Prop :=
  ∀ entry place, Fits entry → Fits (placedAt entry place)

theorem Placeless.renumber (placeless : Placeless Fits) (fits : ∀ entry ∈ items, Fits entry) :
    ∀ entry ∈ renumber items, Fits entry := by
  intro entry listed
  obtain ⟨position, bound, rfl⟩ := List.mem_mapIdx.1 listed
  exact placeless _ _ (fits _ (List.getElem_mem bound))

theorem Placeless.chosen {chosen : List Entry} (placeless : Placeless Fits)
    (fits : ∀ entry ∈ items, Fits entry) (among : chosen.Subperm items) :
    ∀ entry ∈ DisplayOrder.renumber chosen, Fits entry :=
  placeless.renumber fun entry listed => fits entry (among.subset listed)

theorem Placeless.append {item : Entry} (placeless : Placeless Fits)
    (fits : ∀ entry ∈ items, Fits entry) (added : Fits item) :
    ∀ entry ∈ append items item, Fits entry :=
  placeless.renumber (List.forall_mem_append.2 ⟨fits, List.forall_mem_singleton.2 added⟩)

theorem forall_mem_sort (fits : ∀ entry ∈ items, Fits entry) : ∀ entry ∈ sort items, Fits entry :=
  fun entry listed => fits entry (List.mem_mergeSort.1 listed)

theorem Placeless.removeAt {index : Int} (placeless : Placeless Fits)
    (fits : ∀ entry ∈ items, Fits entry) (removed : removeAt items index = .ok result) :
    ∀ entry ∈ result, Fits entry := by
  obtain ⟨gone, _, _, rfl⟩ := removeAt_eq_ok removed
  exact placeless.chosen fits (List.eraseIdx_sublist items gone).subperm

theorem Placeless.move {index direction : Int} (placeless : Placeless Fits)
    (fits : ∀ entry ∈ items, Fits entry) (moved : move items index direction = .ok result) :
    ∀ entry ∈ result, Fits entry := by
  obtain ⟨reordered, same, rfl⟩ := move_eq_ok moved
  exact placeless.chosen fits same.subperm

end CoffeeGrading.DisplayOrder
