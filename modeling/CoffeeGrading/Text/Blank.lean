import CoffeeGrading.Text.Range

/-!
Blank characters at the ends of a text.  Names are trimmed of every character that separates
words, lines or records; number texts only of white space in the narrower sense, which leaves the
four record separators U+001C to U+001F in place.
-/

namespace CoffeeGrading.Text

/-- White space: U+0009 to U+000D, the space, U+0085, and the Unicode space separators. -/
def whiteSpaceRanges : List (Nat × Nat) :=
  [(0x9, 0xD), (0x20, 0x20), (0x85, 0x85), (0xA0, 0xA0), (0x1680, 0x1680), (0x2000, 0x200A),
   (0x2028, 0x2029), (0x202F, 0x202F), (0x205F, 0x205F), (0x3000, 0x3000)]

def isWhiteSpace (character : Char) : Bool :=
  inRanges whiteSpaceRanges character.toNat

def isBlank (character : Char) : Bool :=
  isWhiteSpace character || (0x1C ≤ character.toNat && character.toNat ≤ 0x1F)

def trimmed (dropped : Char → Bool) (text : List Char) : List Char :=
  ((text.dropWhile dropped).reverse.dropWhile dropped).reverse

def trim (text : String) : String :=
  String.ofList (trimmed isBlank text.toList)

end CoffeeGrading.Text
