import CoffeeGrading.Number.Descending
import CoffeeGrading.Proofs.Number.Order
import Mathlib.Order.Bounds.Defs

/-!
Numbers from the highest down.  Among values that are all numbers the order is total, so that sorting
gives the same values, and none of them above one in front of it.
-/

namespace CoffeeGrading.Binary64

def placeOf (value : Binary64) : Int :=
  value.place?.getD 0

theorem place?_of_number {value : Binary64} (number : value.isNan = false) :
    value.place? = some value.placeOf := by
  cases value with
  | nan => cases number
  | infinity negative => rfl
  | finite negative units representable => rfl

theorem le_iff_placeOf {left right : Binary64} (leftNumber : left.isNan = false)
    (rightNumber : right.isNan = false) : left ≤ right ↔ left.placeOf ≤ right.placeOf := by
  simp [le_iff_place, place?_of_number leftNumber, place?_of_number rightNumber]

theorem le_self_of_number {value : Binary64} (number : value.isNan = false) : value ≤ value :=
  (le_iff_placeOf number number).2 (Int.le_refl _)

theorem le_of_not_lt {left right : Binary64} (leftNumber : left.isNan = false)
    (rightNumber : right.isNan = false) (level : ¬ left < right) : right ≤ left :=
  (lt_or_le_of_place (by simp [place?_of_number leftNumber])
    (by simp [place?_of_number rightNumber])).resolve_left level

/-- The order of the places, from the highest down.  It is total, for the values without a place as
well. -/
def notBelow (left right : Binary64) : Bool :=
  right.placeOf ≤ left.placeOf

theorem notBelow_trans (left middle right : Binary64) (first : notBelow left middle = true)
    (second : notBelow middle right = true) : notBelow left right = true := by
  rw [notBelow, decide_eq_true_eq] at first second ⊢
  exact Int.le_trans second first

theorem notBelow_total (left right : Binary64) :
    (notBelow left right || notBelow right left) = true := by
  rw [Bool.or_eq_true, notBelow, notBelow, decide_eq_true_eq, decide_eq_true_eq]
  exact Int.le_total _ _

theorem beq_of_isGreatest {values : Set Binary64} {left right : Binary64}
    (leftGreatest : IsGreatest values left) (rightGreatest : IsGreatest values right) :
    (left == right) = true :=
  beq_of_le_of_le (rightGreatest.2 leftGreatest.1) (leftGreatest.2 rightGreatest.1)

theorem beq_of_isLeast {values : Set Binary64} {left right : Binary64}
    (leftLeast : IsLeast values left) (rightLeast : IsLeast values right) :
    (left == right) = true :=
  beq_of_le_of_le (leftLeast.2 rightLeast.1) (rightLeast.2 leftLeast.1)

theorem exists_head_of_pairwise {Value : Type} {Reaches : Value → Value → Prop}
    {values arranged : List Value} (perm : arranged.Perm values)
    (pairwise : arranged.Pairwise Reaches) (reflexive : ∀ value ∈ values, Reaches value value)
    (filled : values ≠ []) :
    ∃ first, arranged.head? = some first ∧ first ∈ values ∧
      ∀ value ∈ values, Reaches first value := by
  cases arranged with
  | nil => exact absurd (List.nil_perm.1 perm) filled
  | cons first rest =>
      have listed := perm.subset List.mem_cons_self
      refine ⟨first, rfl, listed, ?_⟩
      intro value member
      rcases List.mem_cons.1 (perm.symm.subset member) with rfl | later
      · exact reflexive value listed
      · exact (List.pairwise_cons.1 pairwise).1 value later

variable {values : List Binary64} (numbers : ∀ value ∈ values, value.isNan = false)

include numbers

theorem descending_eq_mergeSort :
    descending values = values.mergeSort fun left right => right ≤ left := by
  have placed : values.any isNan = false :=
    List.any_eq_false.2 fun value listed => by simp [numbers value listed]
  rw [descending, placed]
  rfl

theorem descending_perm : (descending values).Perm values := by
  rw [descending_eq_mergeSort numbers]
  exact List.mergeSort_perm _ _

theorem descending_eq_byPlace : descending values = values.mergeSort notBelow := by
  have same : ∀ left ∈ values, ∀ right ∈ values, notBelow left right = decide (right ≤ left) :=
    fun left leftListed right rightListed =>
      decide_eq_decide.2 (le_iff_placeOf (numbers right rightListed) (numbers left leftListed)).symm
  have mapped := List.map_mergeSort (f := id) (l := values) (r := notBelow)
    (s := fun left right => right ≤ left) same
  rwa [List.map_id, List.map_id, ← descending_eq_mergeSort numbers, eq_comm] at mapped

theorem pairwise_descending : (descending values).Pairwise fun left right => right ≤ left := by
  have perm := descending_perm numbers
  have sorted := List.pairwise_mergeSort notBelow_trans notBelow_total values
  rw [descending_eq_byPlace numbers] at perm ⊢
  refine sorted.imp_of_mem ?_
  intro left right leftListed rightListed ordered
  exact (le_iff_placeOf (numbers right (perm.subset rightListed))
    (numbers left (perm.subset leftListed))).2 (of_decide_eq_true ordered)

theorem exists_head_descending (filled : values ≠ []) :
    ∃ first, (descending values).head? = some first ∧
      IsGreatest {value | value ∈ values} first :=
  exists_head_of_pairwise (descending_perm numbers) (pairwise_descending numbers)
    (fun value listed => le_self_of_number (numbers value listed)) filled

theorem exists_getLast_descending (filled : values ≠ []) :
    ∃ last, (descending values).getLast? = some last ∧ IsLeast {value | value ∈ values} last := by
  rw [← List.head?_reverse]
  exact exists_head_of_pairwise ((List.reverse_perm _).trans (descending_perm numbers))
    (List.pairwise_reverse.2 (pairwise_descending numbers))
    (fun value listed => le_self_of_number (numbers value listed)) filled

end CoffeeGrading.Binary64
