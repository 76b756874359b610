import CoffeeGrading.Distinct
import CoffeeGrading.Text.NameKey
import Mathlib.Data.List.Nodup
import Mathlib.Data.List.Perm.Subperm
import Mathlib.Data.List.TakeWhile

/-!
Lists of names, declaratively: none says nothing, and no two are the same name.  The executable
checks look at blanks and at repeated keys, in one pass or with a set of the keys already met.
-/

namespace CoffeeGrading

namespace Text

theorem trimmed_eq_nil_iff (dropped : Char → Bool) (text : List Char) :
    trimmed dropped text = [] ↔ ∀ character ∈ text, dropped character = true := by
  rw [trimmed, List.reverse_eq_nil_iff, List.dropWhile_eq_nil_iff]
  simp only [List.mem_reverse]
  constructor
  · intro rest character listed
    rw [← List.takeWhile_append_dropWhile (p := dropped) (l := text), List.mem_append] at listed
    rcases listed with front | back
    · exact List.mem_takeWhile_imp front
    · exact rest character back
  · intro every character listed
    exact every character ((List.dropWhile_sublist dropped).subset listed)

theorem blank_iff (name : String) :
    blank name = true ↔ ∀ character ∈ name.toList, isBlank character = true := by
  rw [blank, String.isEmpty_iff, trim, String.ofList_eq_empty_iff, trimmed_eq_nil_iff]

theorem lowerCharacter_ne_nil (character : Char) : lowerCharacter character ≠ [] := by
  simp only [lowerCharacter]
  repeat' split
  all_goals simp

theorem lowerAfter_eq_nil_iff (passed text : List Char) :
    lowerAfter passed text = [] ↔ text = [] := by
  cases text with
  | nil => simp [lowerAfter]
  | cons character rest =>
      by_cases sigma : character = 'Σ'
      · simp [lowerAfter, sigma]
      · simp [lowerAfter, sigma, lowerCharacter_ne_nil]

theorem nameKey_eq_empty_iff (name : String) : nameKey name = "" ↔ blank name = true := by
  rw [blank, String.isEmpty_iff, nameKey, lower, String.ofList_eq_empty_iff, lowerAfter_eq_nil_iff,
    String.toList_eq_nil_iff]

end Text

theorem distinct_iff_pairwise {Entry : Type} [BEq Entry] (entries : List Entry) :
    distinct entries = true ↔ entries.Pairwise fun left right => (left == right) = false := by
  induction entries with
  | nil => simp [distinct]
  | cons first rest ih =>
      simp [distinct, ih, List.contains_eq_any_beq]

theorem distinct_iff_nodup {Entry : Type} [BEq Entry] [LawfulBEq Entry] (entries : List Entry) :
    distinct entries = true ↔ entries.Nodup := by
  rw [distinct_iff_pairwise, List.nodup_iff_pairwise_ne]
  simp

theorem firstRepeat?_eq_none_iff {Entry Key : Type} [BEq Key] [LawfulBEq Key] (key : Entry → Key)
    (seen : List Key) (entries : List Entry) :
    firstRepeat? key seen entries = none ↔
      (entries.map key).Nodup ∧ ∀ entry ∈ entries, key entry ∉ seen := by
  induction entries generalizing seen with
  | nil => simp [firstRepeat?]
  | cons first rest ih =>
      by_cases met : key first ∈ seen
      · simp [firstRepeat?, met]
      · simp only [firstRepeat?, List.contains_iff_mem, met, if_false, ih, List.map_cons,
          List.nodup_cons, List.forall_mem_cons, not_false_eq_true, true_and]
        constructor
        · rintro ⟨apart, new⟩
          refine ⟨⟨?_, apart⟩, fun other member => List.not_mem_of_not_mem_cons (new other member)⟩
          intro repeated
          obtain ⟨other, member, same⟩ := List.mem_map.1 repeated
          exact List.ne_of_not_mem_cons (new other member) same
        · rintro ⟨⟨unlike, apart⟩, new⟩
          refine ⟨apart, fun other member => ?_⟩
          refine List.not_mem_cons_of_ne_of_not_mem ?_ (new other member)
          intro same
          exact unlike (List.mem_map.2 ⟨other, member, same⟩)

/-- No two of the names have the same key. -/
def Unrepeated (names : List String) : Prop :=
  (names.map Text.nameKey).Nodup

theorem Unrepeated.of_subperm {Entry : Type} {name : Entry → String} {entries fewer : List Entry}
    (apart : Unrepeated (entries.map name)) (among : fewer.Subperm entries) :
    Unrepeated (fewer.map name) := by
  obtain ⟨reordered, same, kept⟩ := among
  have sublist := (kept.map name).map Text.nameKey
  have perm := (same.map name).map Text.nameKey
  exact perm.nodup_iff.1 (sublist.nodup apart)

/-- Names that all say something and differ in their keys. -/
structure NamesApart (names : List String) : Prop where
  present : ∀ name ∈ names, Text.nameKey name ≠ ""
  apart : (names.map Text.nameKey).Nodup

theorem namesApart_iff (names : List String) :
    NamesApart names ↔
      names.any Text.blank = false ∧ distinct (names.map Text.nameKey) = true := by
  rw [distinct_iff_nodup]
  constructor
  · rintro ⟨present, apart⟩
    refine ⟨?_, apart⟩
    rw [List.any_eq_false]
    intro name member blank
    exact present name member ((Text.nameKey_eq_empty_iff name).2 blank)
  · rintro ⟨present, apart⟩
    refine ⟨?_, apart⟩
    intro name member empty
    exact List.any_eq_false.1 present name member ((Text.nameKey_eq_empty_iff name).1 empty)

theorem namesApart_map_iff {Entry : Type} (name : Entry → String) (entries : List Entry) :
    NamesApart (entries.map name) ↔
      (entries.any fun entry => Text.blank (name entry)) = false ∧
        distinct (entries.map fun entry => Text.nameKey (name entry)) = true := by
  rw [namesApart_iff, List.any_map, List.map_map]
  rfl

theorem NamesApart.nodup {names : List String} (names_apart : NamesApart names) : names.Nodup :=
  List.Nodup.of_map _ names_apart.apart

theorem key_ne_of_nodup {Entry Key : Type} {key : Entry → Key} {before after : List Entry}
    {entry : Entry} (apart : ((before ++ entry :: after).map key).Nodup) :
    ∀ other ∈ before ++ after, key other ≠ key entry := by
  rw [List.map_append, List.map_cons, List.nodup_middle, List.nodup_cons, ← List.map_append]
    at apart
  intro other listed same
  exact apart.1 (same ▸ List.mem_map_of_mem listed)

theorem find?_of_nodup {Entry Key : Type} [DecidableEq Key] {key : Entry → Key}
    {entries : List Entry} (apart : (entries.map key).Nodup) {entry : Entry}
    (listed : entry ∈ entries) :
    entries.find? (fun other => key other = key entry) = some entry := by
  cases found : entries.find? (fun other => key other = key entry) with
  | none => exact absurd (List.find?_eq_none.1 found entry listed) (by simp)
  | some other =>
      have same : key other = key entry := by simpa using List.find?_some found
      rw [List.inj_on_of_nodup_map apart (List.mem_of_find?_eq_some found) listed same]

theorem lookup_of_nodup {Entry Value : Type} {name : Entry → String} {value : Entry → Value}
    {entries : List Entry} (apart : (entries.map name).Nodup) {entry : Entry}
    (listed : entry ∈ entries) :
    (entries.map fun other => (name other, value other)).lookup (name entry) =
      some (value entry) := by
  induction entries with
  | nil => exact absurd listed List.not_mem_nil
  | cons first rest ih =>
      rw [List.map_cons, List.nodup_cons] at apart
      rw [List.map_cons, List.lookup_cons]
      rcases List.mem_cons.1 listed with rfl | later
      · simp
      · have unlike : name entry ≠ name first := by
          intro same
          exact apart.1 (same ▸ List.mem_map_of_mem later)
        rw [beq_eq_false_iff_ne.2 unlike]
        exact ih apart.2 later

end CoffeeGrading
