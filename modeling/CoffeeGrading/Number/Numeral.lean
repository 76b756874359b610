import CoffeeGrading.Number.Binary64
import CoffeeGrading.Text.Blank
import CoffeeGrading.Text.DecimalDigit

/-!
Numbers written as text: an optional sign, digits with an optional point and exponent, or one of
the words for infinity and for what is not a number.  White space may stand around a number.
Underscores may stand in it; the readers below differ in where they allow them.
-/

namespace CoffeeGrading.Numeral

def digitRun (afterDigit : Bool) : List Char → List Char × List Char
  | [] => ([], [])
  | character :: rest =>
    if character.isDigit then
      let (digits, rest) := digitRun true rest
      (character :: digits, rest)
    else if character = '_' ∧ afterDigit ∧ rest.head?.any Char.isDigit then
      digitRun true rest
    else ([], character :: rest)

def sign : List Char → Bool × List Char
  | '-' :: rest => (true, rest)
  | '+' :: rest => (false, rest)
  | text => (false, text)

def valueOf (digits : List Char) : Nat :=
  digits.foldl (fun value digit => value * 10 + (digit.toNat - '0'.toNat)) 0

def exponent? : List Char → Option Int
  | [] => some 0
  | mark :: rest =>
    if mark = 'e' ∨ mark = 'E' then
      let (negative, unsigned) := sign rest
      let (digits, left) := digitRun false unsigned
      if digits.isEmpty ∨ !left.isEmpty then none
      else
        let magnitude : Int := valueOf digits
        some (if negative then -magnitude else magnitude)
    else none

def decimal? (negative : Bool) (text : List Char) : Option Binary64 := do
  let (whole, rest) := digitRun false text
  let (places, rest) := match rest with
    | '.' :: later => digitRun false later
    | _ => ([], rest)
  if whole.isEmpty ∧ places.isEmpty then none
  else
    let power ← exponent? rest
    some (Binary64.ofDecimal negative (valueOf (whole ++ places)) (power - places.length))

def bare? (text : List Char) : Option Binary64 :=
  let (negative, unsigned) := sign text
  let word := String.ofList (unsigned.map Char.toLower)
  if word = "nan" then some .nan
  else if word = "inf" ∨ word = "infinity" then some (.infinity negative)
  else decimal? negative unsigned

def withoutUnderscores? (text : List Char) : Option (List Char) :=
  if text.head? = some '_' ∨ text.getLast? = some '_' ∨ (text.zip text.tail).contains ('_', '_')
  then none
  else some (text.filter (· ≠ '_'))

/-- A number with digits 0 to 9.  There may be white space around it, or single underscores
anywhere inside it, but not both. -/
def number? (text : String) : Option Binary64 :=
  let characters := text.toList
  if characters.contains '_' then (withoutUnderscores? characters).bind bare?
  else bare? (Text.trimmed Text.isWhiteSpace characters)

/-- A number with decimal digits of any script, and with single underscores between digits. -/
def anyScriptNumber? (text : String) : Option Binary64 :=
  bare? ((Text.trimmed Text.isWhiteSpace text.toList).map fun character =>
    match Text.decimalDigit? character with
    | some value => Nat.digitChar value
    | none => character)

/-! ### Whole numbers -/

inductive WholeFault where
  | malformed
  | tooLong
deriving DecidableEq

def longestWhole : Nat := 4300

/-- What follows leading zeros and the underscores among them.  Of zeros alone, and of those in
front of a point, the last character stays. -/
def afterZeros? (last : Char) : List Char → Option (List Char)
  | [] => some [last]
  | character :: rest =>
    if character = '0' ∨ character = '_' then afterZeros? character rest
    else if character.isDigit ∨ character = '-' then some (character :: rest)
    else if character = '.' then some (last :: character :: rest)
    else none

def withoutLeadingZeros? : List Char → Option (List Char)
  | '0' :: rest => afterZeros? '0' rest
  | character :: rest => if character.isDigit then some (character :: rest) else none
  | [] => none

def withoutZeroPlaces (text : List Char) : List Char :=
  let places := (text.dropWhile (· ≠ '.')).tail
  if !places.isEmpty && places.all (· == '0') then text.takeWhile (· ≠ '.') else text

def plainWhole (text : List Char) : Except WholeFault Int :=
  let negative := text.head? = some '-'
  let unsigned := if negative then text.tail else text
  let digits := unsigned.takeWhile Char.isDigit
  let length := digits.length + text.length - unsigned.length
  if digits.isEmpty then .error .malformed
  else if digits.head? = some '0' ∧ unsigned ≠ ['0'] then .error .malformed
  else if longestWhole < length then .error .tooLong
  else if digits.length < unsigned.length then .error .malformed
  else
    let magnitude : Int := valueOf digits
    .ok (if negative then -magnitude else magnitude)

/-- A whole number.  White space around it, leading zeros, a point with zeros behind it and single
underscores between the other characters change nothing. -/
def whole (text : String) : Except WholeFault Int :=
  let trimmed := Text.trimmed Text.isWhiteSpace text.toList
  let (negative, unsigned) := sign trimmed
  match withoutLeadingZeros? unsigned with
  | none => .error .malformed
  | some number =>
    let number := withoutZeroPlaces number
    match if number.contains '_' then withoutUnderscores? number else some number with
    | none => .error .malformed
    | some number => plainWhole (if negative then '-' :: number else number)

end CoffeeGrading.Numeral
