import CoffeeGrading.Identifier
import CoffeeGrading.Proofs.Number.Digits

/-!
An identifier reads back from its text.  The digits of the text hold no hyphen, so that it falls
into the groups that it was put together from, and they are worth the number that was written.
-/

namespace CoffeeGrading.Identifier

theorem hexValue?_digitChar : ∀ digit < 16, hexValue? (Nat.digitChar digit) = some digit := by
  decide

theorem mem_digits {identifier : Identifier} {character : Char}
    (listed : character ∈ identifier.digits) : isHexDigit character = true := by
  rw [digits, hexDigits_eq_lastDigits] at listed
  obtain ⟨digit, below, rfl⟩ := digit_of_mem_lastDigits (by decide) listed
  rw [isHexDigit, hexValue?_digitChar digit below]
  rfl

theorem length_digits (identifier : Identifier) : identifier.digits.length = 32 := by
  rw [digits, hexDigits_eq_lastDigits, length_lastDigits]

theorem hexNumber_digits (identifier : Identifier) :
    hexNumber identifier.digits = identifier.bits.toNat := by
  have worth : ∀ digit < 16, (hexValue? (Nat.digitChar digit)).getD 0 = digit :=
    fun digit below => congrArg (·.getD 0) (hexValue?_digitChar digit below)
  rw [hexNumber, digits, hexDigits_eq_lastDigits, foldl_lastDigits (by decide) worth]
  exact Nat.mod_eq_of_lt identifier.bits.isLt

theorem groups_of_unhyphenated {text : List Char} (unhyphenated : ∀ found ∈ text, found ≠ '-') :
    groups text = [text] := by
  induction text with
  | nil => rfl
  | cons first rest ih =>
      obtain ⟨here, later⟩ := List.forall_mem_cons.1 unhyphenated
      simp [groups, ih later]

theorem groups_append {group : List Char} (unhyphenated : ∀ found ∈ group, found ≠ '-')
    (rest : List Char) : groups (group ++ '-' :: rest) = group :: groups rest := by
  induction group with
  | nil => simp [groups]
  | cons first others ih =>
      obtain ⟨here, later⟩ := List.forall_mem_cons.1 unhyphenated
      simp [groups, ih later]

theorem unwrapped_of_isHexDigit {first : Char} (digit : isHexDigit first = true)
    (rest : List Char) : unwrapped (first :: rest) = (first :: rest, 0) := by
  have brace : first ≠ '\x7b' := by
    rintro rfl
    cases digit
  have letter : first ≠ 'u' := by
    rintro rfl
    cases digit
  simp [unwrapped, brace, Ne.symm letter]

theorem exists_groups (identifier : Identifier) : ∃ first second third fourth fifth,
    [first, second, third, fourth, fifth].map List.length = groupLengths ∧
      identifier.digits = first ++ second ++ third ++ fourth ++ fifth ∧
      identifier.text.toList =
        first ++ '-' :: (second ++ '-' :: (third ++ '-' :: (fourth ++ '-' :: fifth))) := by
  have length := identifier.length_digits
  have cut (start width : Nat) : (identifier.digits.drop start).take width ++
      identifier.digits.drop (start + width) = identifier.digits.drop start := by
    rw [← List.drop_drop, List.take_append_drop]
  refine ⟨identifier.digits.take 8, (identifier.digits.drop 8).take 4,
    (identifier.digits.drop 12).take 4, (identifier.digits.drop 16).take 4,
    identifier.digits.drop 20, ?_, ?_, ?_⟩
  · simp [length, groupLengths]
  · rw [List.append_assoc, List.append_assoc, List.append_assoc, cut 16 4, cut 12 4, cut 8 4,
      List.take_append_drop]
  · simp [text]

theorem groups_text (identifier : Identifier) :
    (groups identifier.text.toList).map List.length = groupLengths ∧
      (groups identifier.text.toList).flatten = identifier.digits := by
  obtain ⟨first, second, third, fourth, fifth, lengths, together, written⟩ :=
    identifier.exists_groups
  have unhyphenated : ∀ found ∈ first ++ second ++ third ++ fourth ++ fifth, found ≠ '-' := by
    rintro found listed rfl
    cases mem_digits (together ▸ listed)
  simp only [List.forall_mem_append] at unhyphenated
  obtain ⟨⟨⟨⟨inFirst, inSecond⟩, inThird⟩, inFourth⟩, inFifth⟩ := unhyphenated
  rw [written, groups_append inFirst, groups_append inSecond, groups_append inThird,
    groups_append inFourth, groups_of_unhyphenated inFifth, together]
  exact ⟨lengths, by simp⟩

theorem unwrapped_text (identifier : Identifier) :
    unwrapped identifier.text.toList = (identifier.text.toList, 0) := by
  obtain ⟨first, second, third, fourth, fifth, lengths, together, written⟩ :=
    identifier.exists_groups
  rw [written]
  cases first with
  | nil => cases lengths
  | cons leading others =>
      have listed : leading ∈ identifier.digits := by simp [together]
      exact unwrapped_of_isHexDigit (mem_digits listed) _

theorem length_text (identifier : Identifier) : identifier.text.toList.length = 36 := by
  simp [text, identifier.length_digits]

theorem read_text (identifier : Identifier) : read identifier.text = .ok identifier := by
  obtain ⟨lengths, flat⟩ := identifier.groups_text
  have hexadecimal : identifier.digits.all isHexDigit = true :=
    List.all_eq_true.2 fun _ listed => mem_digits listed
  have grouped : ofGroups? identifier.text.toList = some identifier := by
    simp [ofGroups?, lengths, flat, hexadecimal, identifier.hexNumber_digits]
  have spread : ofDigits? identifier.text.toList = none := by
    simp [ofDigits?, identifier.length_text]
  have parsed : ofText? identifier.text.toList = some identifier := by
    rw [ofText?, spread, unwrapped_text, grouped]
    rfl
  rw [read, parsed]

end CoffeeGrading.Identifier
