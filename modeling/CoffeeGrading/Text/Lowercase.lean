import CoffeeGrading.Text.CaseTable
import CoffeeGrading.Text.Range

/-!
Lower case of a whole text.  Every character has its own partner but two: the dotted capital i
becomes two characters, and the capital sigma at the end of a word becomes the final small sigma.
-/

namespace CoffeeGrading.Text

def isCased (character : Char) : Bool :=
  inRanges casedRanges character.toNat

def isCaseIgnorable (character : Char) : Bool :=
  inRanges caseIgnorableRanges character.toNat

def nextToLetter (neighbours : List Char) : Bool :=
  match neighbours.dropWhile isCaseIgnorable with
  | [] => false
  | neighbour :: _ => isCased neighbour

/-- The lower-case form of a character whose partner does not depend on its place. -/
def lowerCharacter (character : Char) : List Char :=
  let codePoint := character.toNat
  if codePoint < 0x80 then
    [if 0x41 ≤ codePoint ∧ codePoint ≤ 0x5A then Char.ofNat (codePoint + 32) else character]
  else if codePoint = 0x130 then ['i', '\u0307']
  else
    match lowercaseRuns.find? fun (first, last, step, _) =>
        first ≤ codePoint && codePoint ≤ last && (codePoint - first) % step == 0 with
    | some (_, _, _, distance) => [Char.ofNat ((codePoint : Int) + distance).toNat]
    | none => [character]

/-- Lower case of the rest of a text, with the characters already passed in reverse order. -/
def lowerAfter (passed : List Char) : List Char → List Char
  | [] => []
  | character :: rest =>
    let lowered :=
      if character = 'Σ' then
        [if nextToLetter passed && !nextToLetter rest then 'ς' else 'σ']
      else lowerCharacter character
    lowered ++ lowerAfter (character :: passed) rest

def lower (text : String) : String :=
  String.ofList (lowerAfter [] text.toList)

end CoffeeGrading.Text
