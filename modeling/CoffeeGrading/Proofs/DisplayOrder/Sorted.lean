import CoffeeGrading.DisplayOrder
import Mathlib.Data.List.Nodup

/-!
Ordered lists as they are shown: sorted by the places of their entries, where equal places leave the
entries as they stand.  What is shown of a part of a list is that part of what is shown of the list.
-/

namespace CoffeeGrading.DisplayOrder

open HasDisplayOrder

variable {Entry : Type} [HasDisplayOrder Entry]

/-- No entry stands behind one with a higher place. -/
def Ascending (items : List Entry) : Prop :=
  items.Pairwise fun left right => displayOrder left ≤ displayOrder right

theorem ascending_trans (left middle right : Entry)
    (first : decide (displayOrder left ≤ displayOrder middle) = true)
    (second : decide (displayOrder middle ≤ displayOrder right) = true) :
    decide (displayOrder left ≤ displayOrder right) = true := by
  rw [decide_eq_true_eq] at first second ⊢
  exact Int.le_trans first second

theorem ascending_total (left right : Entry) :
    (decide (displayOrder left ≤ displayOrder right) ||
      decide (displayOrder right ≤ displayOrder left)) = true := by
  rw [Bool.or_eq_true, decide_eq_true_eq, decide_eq_true_eq]
  exact Int.le_total _ _

theorem ascending_sort (items : List Entry) : Ascending (sort items) :=
  (List.pairwise_mergeSort ascending_trans ascending_total items).imp of_decide_eq_true

theorem mem_sort {items : List Entry} {entry : Entry} : entry ∈ sort items ↔ entry ∈ items :=
  (List.mergeSort_perm items _).mem_iff

theorem sort_eq_self_iff (items : List Entry) : sort items = items ↔ Ascending items := by
  constructor
  · intro unchanged
    rw [← unchanged]
    exact ascending_sort items
  · intro ascending
    exact List.mergeSort_of_pairwise (ascending.imp decide_eq_true)

/-- A list split at a place: all entries before it are lower, and none behind it. -/
structure SplitAt (place : Int) (before after : List Entry) : Prop where
  lower : ∀ entry ∈ before, displayOrder entry < place
  upper : ∀ entry ∈ after, place ≤ displayOrder entry

theorem SplitAt.filter_lower {place : Int} {before after : List Entry}
    (split : SplitAt place before after) :
    (before ++ after).filter (fun entry => displayOrder entry < place) = before := by
  have kept : before.filter (fun entry => displayOrder entry < place) = before :=
    List.filter_eq_self.2 fun entry listed => decide_eq_true (split.lower entry listed)
  have dropped : after.filter (fun entry => displayOrder entry < place) = [] :=
    List.filter_eq_nil_iff.2 fun entry listed => by
      simpa using split.upper entry listed
  rw [List.filter_append, kept, dropped, List.append_nil]

theorem SplitAt.filter {place : Int} {before after : List Entry}
    (split : SplitAt place before after) (keep : Entry → Bool) :
    SplitAt place (before.filter keep) (after.filter keep) :=
  ⟨fun entry listed => split.lower entry (List.mem_filter.1 listed).1,
    fun entry listed => split.upper entry (List.mem_filter.1 listed).1⟩

theorem SplitAt.unique {place : Int} {before after front back : List Entry}
    (split : SplitAt place before after) (other : SplitAt place front back)
    (same : before ++ after = front ++ back) : before = front ∧ after = back := by
  have fronts : before = front := by rw [← split.filter_lower, same, other.filter_lower]
  subst fronts
  exact ⟨rfl, List.append_cancel_left same⟩

theorem sort_cons (item : Entry) (items : List Entry) :
    ∃ before after, SplitAt (displayOrder item) before after ∧
      sort (item :: items) = before ++ item :: after ∧ sort items = before ++ after := by
  obtain ⟨before, after, whole, rest, lower⟩ :=
    List.mergeSort_cons ascending_trans ascending_total item items
  have ascending := ascending_sort (item :: items)
  rw [sort, whole, Ascending, List.pairwise_append, List.pairwise_cons] at ascending
  refine ⟨before, after, ⟨?_, ascending.2.1.1⟩, whole, rest⟩
  intro entry listed
  simpa using lower entry listed

theorem filter_sort (keep : Entry → Bool) (items : List Entry) :
    (sort items).filter keep = sort (items.filter keep) := by
  induction items with
  | nil => simp [sort]
  | cons item items ih =>
      obtain ⟨before, after, split, whole, rest⟩ := sort_cons item items
      rw [rest, List.filter_append] at ih
      by_cases kept : keep item = true
      · obtain ⟨front, back, keptSplit, keptWhole, keptRest⟩ := sort_cons item (items.filter keep)
        obtain ⟨fronts, backs⟩ := (split.filter keep).unique keptSplit (ih.trans keptRest)
        rw [whole, List.filter_append, List.filter_cons_of_pos kept, fronts, backs,
          List.filter_cons_of_pos kept, keptWhole]
      · rw [whole, List.filter_append, List.filter_cons_of_neg kept, ih,
          List.filter_cons_of_neg kept]

/-! ### The first of a kind -/

section

variable {Chosen : Entry → Prop}

/-- Of the chosen entries of a list, one has the lowest place, and those in front of it all have
higher ones. -/
structure Foremost (Chosen : Entry → Prop) (before : List Entry) (entry : Entry)
    (after : List Entry) : Prop where
  chosen : Chosen entry
  ahead : ∀ other ∈ before, Chosen other → displayOrder entry < displayOrder other
  behind : ∀ other ∈ after, Chosen other → displayOrder entry ≤ displayOrder other

theorem Foremost.cons {item entry : Entry} {before after : List Entry}
    (foremost : Foremost Chosen before entry after)
    (higher : Chosen item → displayOrder entry < displayOrder item) :
    Foremost Chosen (item :: before) entry after := by
  refine ⟨foremost.chosen, ?_, foremost.behind⟩
  intro other listed chosen
  rcases List.mem_cons.1 listed with rfl | later
  · exact higher chosen
  · exact foremost.ahead other later chosen

theorem Foremost.not_behind {before between after : List Entry} {entry other : Entry}
    (foremost : Foremost Chosen before entry (between ++ other :: after)) :
    ¬ Foremost Chosen (before ++ entry :: between) other after := by
  intro also
  have behind := foremost.behind other (by simp) also.chosen
  have ahead := also.ahead entry (by simp) foremost.chosen
  omega

theorem Foremost.unique {before after front back : List Entry} {entry other : Entry}
    (foremost : Foremost Chosen before entry after) (also : Foremost Chosen front other back)
    (same : before ++ entry :: after = front ++ other :: back) : entry = other := by
  rcases List.append_eq_append_iff.1 same with ⟨between, rfl, rest⟩ | ⟨between, rfl, rest⟩
  · cases between with
    | nil => exact (List.cons.inj rest).1
    | cons first between =>
        obtain ⟨rfl, rfl⟩ := List.cons.inj rest
        exact absurd also foremost.not_behind
  · cases between with
    | nil => exact (List.cons.inj rest).1.symm
    | cons first between =>
        obtain ⟨rfl, rfl⟩ := List.cons.inj rest
        exact absurd foremost also.not_behind

variable [DecidablePred Chosen]

theorem foremost_of_find?_sort {items : List Entry} {entry : Entry}
    (found : (sort items).find? (fun item => Chosen item) = some entry) :
    ∃ before after, items = before ++ entry :: after ∧ Foremost Chosen before entry after := by
  induction items with
  | nil => simp [sort] at found
  | cons item items ih =>
      obtain ⟨lower, upper, split, whole, rest⟩ := sort_cons item items
      rw [whole, List.find?_append] at found
      rw [rest, List.find?_append] at ih
      cases earlier : lower.find? (fun item => Chosen item) with
      | some first =>
          rw [earlier, Option.some_or] at found ih
          obtain ⟨before, after, rfl, foremost⟩ := ih found
          obtain rfl := Option.some.inj found
          have below := split.lower first (List.mem_of_find?_eq_some earlier)
          exact ⟨item :: before, after, rfl, foremost.cons fun _ => below⟩
      | none =>
          rw [earlier, Option.none_or] at found ih
          by_cases chosen : Chosen item
          · rw [List.find?_cons_of_pos (by simpa using chosen)] at found
            obtain rfl := Option.some.inj found
            refine ⟨[], items, rfl, chosen, fun _ listed => absurd listed List.not_mem_nil, ?_⟩
            intro other listed otherChosen
            have shown : other ∈ lower ++ upper := by
              rw [← rest]
              exact mem_sort.2 listed
            rcases List.mem_append.1 shown with inLower | inUpper
            · exact absurd (decide_eq_true otherChosen) (List.find?_eq_none.1 earlier other inLower)
            · exact split.upper other inUpper
          · rw [List.find?_cons_of_neg (by simpa using chosen)] at found
            obtain ⟨before, after, rfl, foremost⟩ := ih found
            exact ⟨item :: before, after, rfl, foremost.cons fun also => absurd also chosen⟩

theorem find?_sort_eq_some_iff (items : List Entry) (entry : Entry) :
    (sort items).find? (fun item => Chosen item) = some entry ↔
      ∃ before after, items = before ++ entry :: after ∧ Foremost Chosen before entry after := by
  constructor
  · exact foremost_of_find?_sort
  · rintro ⟨before, after, rfl, foremost⟩
    cases found : (sort (before ++ entry :: after)).find? (fun item => Chosen item) with
    | none =>
        have shown : entry ∈ sort (before ++ entry :: after) := mem_sort.2 (by simp)
        exact absurd (decide_eq_true foremost.chosen) (List.find?_eq_none.1 found entry shown)
    | some other =>
        obtain ⟨front, back, same, also⟩ := foremost_of_find?_sort found
        rw [foremost.unique also same]

end

theorem map_sort_eq_iff {Value : Type} {read : Entry → Value} {items : List Entry}
    (apart : (items.map read).Nodup) :
    (sort items).map read = items.map read ↔ Ascending items := by
  rw [← sort_eq_self_iff]
  constructor
  · intro same
    have counted : (sort items).length = items.length := List.length_mergeSort items
    apply List.ext_getElem counted
    intro place shownBound bound
    have shown : (sort items)[place] ∈ items :=
      (List.mergeSort_perm items _).mem_iff.1 (List.getElem_mem shownBound)
    have here := congrArg (·[place]?) same
    simp only [List.getElem?_map, List.getElem?_eq_getElem shownBound,
      List.getElem?_eq_getElem bound, Option.map_some, Option.some.injEq] at here
    exact List.inj_on_of_nodup_map apart shown (List.getElem_mem bound) here
  · intro unchanged
    rw [unchanged]

end CoffeeGrading.DisplayOrder
