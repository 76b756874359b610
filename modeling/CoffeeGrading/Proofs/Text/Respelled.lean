import CoffeeGrading.Proofs.Names
import Mathlib.Data.List.Forall2

/-!
Names that are written in another way: with other blanks around them, and letter for letter in the
other case.  Blanks never change the key of a name.  Letters do not change it either, as long as
there is no capital sigma, whose small form depends on its place.
-/

namespace CoffeeGrading.Text

structure Tight (text : List Char) : Prop where
  front : ∀ character ∈ text.head?, isBlank character = false
  back : ∀ character ∈ text.getLast?, isBlank character = false

/-- The same letters one by one, each in any case: two letters go by the small form that they have
when they stand alone.  A letter that becomes two in capitals has no partner here. -/
def SameLetters (text other : List Char) : Prop :=
  List.Forall₂ (fun first second => lowerAfter [] [first] = lowerAfter [] [second]) text other

instance (text other : List Char) : Decidable (SameLetters text other) :=
  inferInstanceAs (Decidable (List.Forall₂ _ text other))

/-- A text of a name without the blanks around it. -/
def Padded (name : String) (text : List Char) : Prop :=
  Tight text ∧ ∃ front back, name.toList = front ++ (text ++ back) ∧
    (∀ character ∈ front, isBlank character = true) ∧
    ∀ character ∈ back, isBlank character = true

/-- Two names with the same letters, each in any case, between any blanks. -/
def Respelled (name other : String) : Prop :=
  ∃ text otherText, Padded name text ∧ Padded other otherText ∧ SameLetters text otherText

theorem dropWhile_of_head {dropped : Char → Bool} {text : List Char}
    (kept : ∀ character ∈ text.head?, dropped character = false) :
    text.dropWhile dropped = text := by
  cases text with
  | nil => rfl
  | cons character rest =>
      have first : dropped character = false := kept character (by simp)
      simp [first]

theorem dropWhile_append_of_all {dropped : Char → Bool} {front : List Char}
    (all : ∀ character ∈ front, dropped character = true) (rest : List Char) :
    (front ++ rest).dropWhile dropped = rest.dropWhile dropped := by
  rw [List.dropWhile_append, List.dropWhile_eq_nil_iff.2 all]
  rfl

theorem trimmed_padded {name : String} {text : List Char} (padded : Padded name text) :
    trimmed isBlank name.toList = text := by
  obtain ⟨tight, front, back, written, front_blank, back_blank⟩ := padded
  have reversed : ∀ character ∈ text.reverse.head?, isBlank character = false := by
    rw [List.head?_reverse]
    exact tight.back
  have back_reversed : ∀ character ∈ back.reverse, isBlank character = true := by
    simpa using back_blank
  rw [trimmed, written, dropWhile_append_of_all front_blank]
  cases text with
  | nil =>
      rw [List.nil_append, List.dropWhile_eq_nil_iff.2 back_blank]
      rfl
  | cons first rest =>
      have kept : ((first :: rest) ++ back).dropWhile isBlank = (first :: rest) ++ back :=
        dropWhile_of_head (by simpa using tight.front)
      rw [kept, List.reverse_append, dropWhile_append_of_all back_reversed,
        dropWhile_of_head reversed, List.reverse_reverse]

theorem dropWhile_head (dropped : Char → Bool) (text : List Char) :
    ∀ character ∈ (text.dropWhile dropped).head?, dropped character = false := by
  intro character first
  have kept := List.head?_dropWhile_not dropped text
  rw [Option.mem_def.1 first] at kept
  exact kept

theorem padded_trimmed (name : String) : Padded name (trimmed isBlank name.toList) := by
  let begun := name.toList.dropWhile isBlank
  let blanks := begun.reverse.takeWhile isBlank
  have written : begun = trimmed isBlank name.toList ++ blanks.reverse := by
    rw [trimmed, ← List.reverse_append, List.takeWhile_append_dropWhile, List.reverse_reverse]
  refine ⟨⟨?front, ?back⟩, name.toList.takeWhile isBlank, blanks.reverse, ?written, ?before,
    ?after⟩
  case front =>
    intro character first
    refine dropWhile_head isBlank name.toList character ?_
    change character ∈ begun.head?
    rw [written, List.head?_append, Option.mem_def.1 first]
    rfl
  case back =>
    rw [trimmed, List.getLast?_reverse]
    exact dropWhile_head isBlank begun.reverse
  case written => rw [← written, List.takeWhile_append_dropWhile]
  case before => exact fun _ => List.mem_takeWhile_imp
  case after => exact fun _ member => List.mem_takeWhile_imp (List.mem_reverse.1 member)

theorem respelled_iff (name other : String) :
    Respelled name other ↔
      SameLetters (trimmed isBlank name.toList) (trimmed isBlank other.toList) := by
  constructor
  · rintro ⟨text, otherText, padded, otherPadded, same⟩
    rwa [trimmed_padded padded, trimmed_padded otherPadded]
  · intro same
    exact ⟨_, _, padded_trimmed name, padded_trimmed other, same⟩

instance (name other : String) : Decidable (Respelled name other) :=
  decidable_of_iff' _ (respelled_iff name other)

theorem lowerAfter_of_no_sigma {text : List Char} (none_there : 'Σ' ∉ text) (passed : List Char) :
    lowerAfter passed text = text.flatMap lowerCharacter := by
  induction text generalizing passed with
  | nil => rfl
  | cons character rest ih =>
      obtain ⟨unlike, later⟩ := List.ne_and_not_mem_of_not_mem_cons none_there
      rw [lowerAfter, if_neg (Ne.symm unlike), ih later, List.flatMap_cons]

theorem SameLetters.lowerAfter_eq {text other : List Char} (same : SameLetters text other)
    (textPlain : 'Σ' ∉ text) (otherPlain : 'Σ' ∉ other) :
    lowerAfter [] text = lowerAfter [] other := by
  rw [lowerAfter_of_no_sigma textPlain, lowerAfter_of_no_sigma otherPlain]
  induction same with
  | nil => rfl
  | cons letter _ ih =>
      obtain ⟨unlike, later⟩ := List.ne_and_not_mem_of_not_mem_cons textPlain
      obtain ⟨otherUnlike, otherLater⟩ := List.ne_and_not_mem_of_not_mem_cons otherPlain
      rw [lowerAfter_of_no_sigma (by simpa using unlike),
        lowerAfter_of_no_sigma (by simpa using otherUnlike), List.flatMap_singleton,
        List.flatMap_singleton] at letter
      rw [List.flatMap_cons, List.flatMap_cons, letter, ih later otherLater]

theorem nameKey_of_padded {name : String} {text : List Char} (padded : Padded name text) :
    nameKey name = String.ofList (lowerAfter [] text) := by
  rw [nameKey, trim, trimmed_padded padded, lower, String.toList_ofList]

theorem Padded.not_mem {name : String} {text : List Char} (padded : Padded name text)
    {character : Char} (absent : character ∉ name.toList) : character ∉ text := by
  obtain ⟨_, front, back, written, _⟩ := padded
  intro present
  rw [written] at absent
  exact absent (by simp [present])

theorem Respelled.nameKey_eq {name other : String} (respelled : Respelled name other)
    (plain : 'Σ' ∉ name.toList) (otherPlain : 'Σ' ∉ other.toList) :
    nameKey name = nameKey other := by
  obtain ⟨text, otherText, padded, otherPadded, same⟩ := respelled
  rw [nameKey_of_padded padded, nameKey_of_padded otherPadded,
    same.lowerAfter_eq (padded.not_mem plain) (otherPadded.not_mem otherPlain)]

end CoffeeGrading.Text
