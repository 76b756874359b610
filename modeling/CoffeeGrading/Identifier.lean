import CoffeeGrading.Text.Quoted

/-!
Identifiers of 128 bits.  They are written as five hyphenated groups of hexadecimal digits, and
read from that form, from the 32 digits alone, and from the hyphenated form in braces or after
`urn:uuid:`.  Every text that is not an identifier has one stated fault.
-/

namespace CoffeeGrading

structure Identifier where
  bits : BitVec 128
deriving DecidableEq

inductive IdentifierFault where
  | character (found : Char) (position : Nat)
  | length (found : Nat)
  | groupCount (found : Nat)
  | groupLength (group expected found : Nat)
deriving DecidableEq

def IdentifierFault.message : IdentifierFault → String
  | character found position =>
    "invalid character: found \x60" ++ found.toString ++ "\x60 at " ++ toString position
  | length found => s!"invalid length: found {found}"
  | groupCount found => s!"invalid group count: expected 5, found {found}"
  | groupLength group expected found =>
    s!"invalid group length in group {group}: expected {expected}, found {found}"

namespace Identifier

def digits (identifier : Identifier) : List Char :=
  Text.hexDigits 32 identifier.bits.toNat

def compactText (identifier : Identifier) : String :=
  String.ofList identifier.digits

def text (identifier : Identifier) : String :=
  let digits := identifier.digits
  String.ofList (digits.take 8 ++ '-' :: (digits.drop 8).take 4 ++ '-' :: (digits.drop 12).take 4
    ++ '-' :: (digits.drop 16).take 4 ++ '-' :: digits.drop 20)

def hexValue? (character : Char) : Option Nat :=
  if '0' ≤ character ∧ character ≤ '9' then some (character.toNat - '0'.toNat)
  else if 'a' ≤ character ∧ character ≤ 'f' then some (character.toNat - 'a'.toNat + 10)
  else if 'A' ≤ character ∧ character ≤ 'F' then some (character.toNat - 'A'.toNat + 10)
  else none

def hexNumber (digits : List Char) : Nat :=
  digits.foldl (fun value digit => value * 16 + (hexValue? digit).getD 0) 0

def groups : List Char → List (List Char)
  | [] => [[]]
  | '-' :: rest => [] :: groups rest
  | character :: rest =>
    match groups rest with
    | [] => [[character]]
    | group :: later => (character :: group) :: later

/-- The part of a text inside braces or behind the label `urn:uuid:`, and where it starts; the text
itself where there is neither. -/
def unwrapped (text : List Char) : List Char × Nat :=
  let label := "urn:uuid:".toList
  if text.head? = some '\x7b' ∧ text.tail.getLast? = some '\x7d' then (text.tail.dropLast, 1)
  else if label.isPrefixOf text then (text.drop label.length, label.length)
  else (text, 0)

def groupLengths : List Nat := [8, 4, 4, 4, 12]

def isHexDigit (character : Char) : Bool :=
  (hexValue? character).isSome

def ofDigits? (text : List Char) : Option Identifier :=
  if text.length = 32 ∧ text.all isHexDigit then some ⟨BitVec.ofNat 128 (hexNumber text)⟩
  else none

def ofGroups? (text : List Char) : Option Identifier :=
  let parts := groups text
  if parts.map List.length = groupLengths ∧ parts.flatten.all isHexDigit then
    some ⟨BitVec.ofNat 128 (hexNumber parts.flatten)⟩
  else none

def ofText? (text : List Char) : Option Identifier :=
  (ofDigits? text).or (ofGroups? (unwrapped text).1)

/-! ### Faults

Lengths and positions count bytes of UTF-8.  Hyphens and digits are told by the low byte of their
code points, so a character above U+00FF can pass for one of them. -/

def byteLength (text : List Char) : Nat :=
  text.foldl (fun length character => length + character.utf8Size) 0

def positioned (start : Nat) : List Char → List (Nat × Char)
  | [] => []
  | character :: rest => (start, character) :: positioned (start + character.utf8Size) rest

def lowByte (character : Char) : Char :=
  Char.ofNat (character.toNat % 256)

/-- The first group whose hyphen stands elsewhere than expected, or else the last group, which is
held to reach to the end of the text. -/
def wrongGroup (length group start : Nat) : List Nat → List Nat → IdentifierFault
  | expected :: lengths, hyphen :: hyphens =>
    if hyphen = start + expected then
      wrongGroup length (group + 1) (hyphen + 1) lengths hyphens
    else .groupLength group expected (hyphen - start)
  | expected :: _, [] => .groupLength group expected (length - start)
  | [], _ => .length length

/-- What is wrong with a part of a text that starts at `offset`, where the whole text has a given
length: a foreign character, or else the number of groups, or else the length of one. -/
def faultOf (length offset : Nat) (part : List Char) : IdentifierFault :=
  let characters := positioned offset part
  let isHyphen (character : Nat × Char) : Bool := lowByte character.2 = '-'
  match characters.find? fun character =>
      !isHyphen character && !isHexDigit (lowByte character.2) with
  | some (position, character) => .character character position
  | none =>
    let hyphens := (characters.filter isHyphen).map fun (position, _) => position - offset
    if hyphens.isEmpty ∧ offset = 0 then .length length
    else if hyphens.length ≠ 4 then .groupCount (hyphens.length + 1)
    else wrongGroup length 0 0 groupLengths hyphens

def groupedLength : Nat := 36

def longestForm : Nat := 45

/-- What is wrong with a text that is not an identifier.  A text as long as the digits alone or the
groups alone is judged as it stands, and so is what a wrapping holds if it is as long as the
groups. -/
def fault (text : List Char) : IdentifierFault :=
  let length := byteLength text
  let (part, offset) := unwrapped text
  if longestForm < length then .length length
  else if length = 32 ∨ length = groupedLength then faultOf length 0 text
  else if byteLength part = groupedLength then faultOf groupedLength 0 part
  else faultOf length offset part

def read (text : String) : Except IdentifierFault Identifier :=
  match ofText? text.toList with
  | some identifier => .ok identifier
  | none => .error (fault text.toList)

end Identifier

structure Supply (Time : Type) where
  fresh : Nat → Identifier
  taken : Nat
  now : Time

namespace Supply

def next {Time : Type} (supply : Supply Time) : Identifier × Supply Time :=
  (supply.fresh supply.taken, { supply with taken := supply.taken + 1 })

end Supply
end CoffeeGrading
