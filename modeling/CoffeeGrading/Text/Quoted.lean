import CoffeeGrading.Text.PrintableTable
import CoffeeGrading.Text.Range

/-!
Quoted display of a text.  The quotes are single ones unless the text holds a single quote and no
double one.  A backslash, the quote in use, and every character without a printed form are
escaped.
-/

namespace CoffeeGrading.Text

def hexDigits (width : Nat) (value : Nat) : List Char :=
  match width with
  | 0 => []
  | shorter + 1 => hexDigits shorter (value / 16) ++ [Nat.digitChar (value % 16)]

def isPrintable (character : Char) : Bool :=
  if character.toNat < 0x7F then 0x20 ≤ character.toNat
  else !inRanges unprintableRanges character.toNat

def quotedCharacter (quote character : Char) : List Char :=
  if character = quote ∨ character = '\\' then ['\\', character]
  else if character = '\n' then ['\\', 'n']
  else if character = '\r' then ['\\', 'r']
  else if character = '\t' then ['\\', 't']
  else if isPrintable character then [character]
  else if character.toNat < 0x100 then '\\' :: 'x' :: hexDigits 2 character.toNat
  else if character.toNat < 0x10000 then '\\' :: 'u' :: hexDigits 4 character.toNat
  else '\\' :: 'U' :: hexDigits 8 character.toNat

def quoteFor (characters : List Char) : Char :=
  if characters.contains '\'' && !characters.contains '"' then '"' else '\''

def quoted (text : String) : String :=
  let characters := text.toList
  let quote := quoteFor characters
  String.ofList (quote :: characters.flatMap (quotedCharacter quote) ++ [quote])

end CoffeeGrading.Text
