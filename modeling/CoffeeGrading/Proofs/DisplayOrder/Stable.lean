import CoffeeGrading.Proofs.DisplayOrder.Sorted

/-!
Stable sorting.  The entries in one place are a level of the list.  Sorting leaves every level as it
is, and a list that ascends is determined by its levels, so that there is one way to sort a list and
leave the entries in one place in their order.
-/

namespace CoffeeGrading.DisplayOrder

open HasDisplayOrder

variable {Entry : Type} [HasDisplayOrder Entry] {items result : List Entry}

def level (place : Int) (items : List Entry) : List Entry :=
  items.filter fun entry => displayOrder entry = place

theorem mem_level {place : Int} {entry : Entry} :
    entry ∈ level place items ↔ entry ∈ items ∧ displayOrder entry = place := by
  simp [level]

theorem level_cons_of_place {place : Int} {entry : Entry} (here : displayOrder entry = place) :
    level place (entry :: items) = entry :: level place items :=
  List.filter_cons_of_pos (decide_eq_true here)

theorem level_cons_of_elsewhere {place : Int} {entry : Entry}
    (elsewhere : displayOrder entry ≠ place) :
    level place (entry :: items) = level place items :=
  List.filter_cons_of_neg (by simpa using elsewhere)

/-- The entries of a list from the lowest place to the highest, those in one place in the order in
which they stood before. -/
structure SortedStably (items result : List Entry) : Prop where
  perm : result.Perm items
  ascending : Ascending result
  levels : ∀ place, level place result = level place items

theorem level_sort (place : Int) (items : List Entry) :
    level place (sort items) = level place items := by
  have even : Ascending (level place items) := by
    refine List.pairwise_of_forall_mem_list ?_
    intro left leftListed right rightListed
    exact Int.le_of_eq ((mem_level.1 leftListed).2.trans (mem_level.1 rightListed).2.symm)
  calc level place (sort items)
      = sort (level place items) := filter_sort _ items
    _ = level place items := (sort_eq_self_iff _).2 even

theorem sortedStably_sort (items : List Entry) : SortedStably items (sort items) :=
  ⟨List.mergeSort_perm items _, ascending_sort items, fun place => level_sort place items⟩

theorem mem_iff_of_levels (levels : ∀ place, level place items = level place result)
    {entry : Entry} : entry ∈ items ↔ entry ∈ result := by
  have here : entry ∈ level (displayOrder entry) items ↔
      entry ∈ level (displayOrder entry) result := by rw [levels]
  simpa [mem_level] using here

theorem Ascending.head_le {head entry : Entry} {rest : List Entry}
    (ascending : Ascending (head :: rest)) (listed : entry ∈ head :: rest) :
    displayOrder head ≤ displayOrder entry := by
  rcases List.mem_cons.1 listed with rfl | later
  · exact Int.le_refl _
  · exact (List.pairwise_cons.1 ascending).1 entry later

theorem Ascending.eq_of_levels (itemsAscending : Ascending items)
    (resultAscending : Ascending result)
    (levels : ∀ place, level place items = level place result) : items = result := by
  induction items generalizing result with
  | nil =>
      cases result with
      | nil => rfl
      | cons head rest =>
          exact absurd ((mem_iff_of_levels levels).2 List.mem_cons_self) List.not_mem_nil
  | cons item items ih =>
      cases result with
      | nil => exact absurd ((mem_iff_of_levels levels).1 List.mem_cons_self) List.not_mem_nil
      | cons head rest =>
          have samePlace : displayOrder head = displayOrder item := by
            have below := resultAscending.head_le ((mem_iff_of_levels levels).1 List.mem_cons_self)
            have above := itemsAscending.head_le ((mem_iff_of_levels levels).2 List.mem_cons_self)
            omega
          have heads := levels (displayOrder item)
          rw [level_cons_of_place rfl, level_cons_of_place samePlace] at heads
          obtain ⟨rfl, tails⟩ := List.cons.inj heads
          have rests : ∀ place, level place items = level place rest := by
            intro place
            by_cases here : displayOrder item = place
            · rwa [here] at tails
            · have behind := levels place
              rwa [level_cons_of_elsewhere here, level_cons_of_elsewhere here] at behind
          rw [ih (List.pairwise_cons.1 itemsAscending).2 (List.pairwise_cons.1 resultAscending).2
            rests]

theorem sortedStably_iff : SortedStably items result ↔ result = sort items := by
  constructor
  · intro sorted
    refine sorted.ascending.eq_of_levels (ascending_sort items) ?_
    intro place
    rw [sorted.levels, level_sort]
  · rintro rfl
    exact sortedStably_sort items

end CoffeeGrading.DisplayOrder
