import CoffeeGrading.Number.Binary64

/-!
Decimal text of binary64 numbers.  A positive magnitude is first given as decimal digits with
the place of the last one: either a fixed number of significant digits (`significant`), or the
fewest digits that read back as the same magnitude (`shortest`).  A `Layout` then says when the
digits are written positionally and when with an exponent.
-/

namespace CoffeeGrading

open Rounding

structure Digits where
  digits : Nat
  place : Int
deriving DecidableEq

namespace Digits

def length (whole : Nat) : Nat :=
  if whole = 0 then 0 else (Nat.toDigits 10 whole).length

def leadingPlace (units : Nat) : Int :=
  if Binary64.unitsPerOne ≤ units then length (units / Binary64.unitsPerOne) - 1
  else -length ((Binary64.unitsPerOne - 1) / units)

def steps (units : Nat) : Int → Nat × Nat
  | .ofNat place => (units, Binary64.unitsPerOne * Nat.pow 10 place)
  | .negSucc place => (units * Nat.pow 10 (place + 1), Binary64.unitsPerOne)

def significant (count : Nat) (units : Nat) : Digits :=
  let place := leadingPlace units - (count - 1)
  let (numerator, denominator) := steps units place
  ⟨halfEven numerator denominator, place⟩

def readsBack (units : Nat) (decimal : Digits) : Bool :=
  match decimal.place with
  | .ofNat place => nearest (decimal.digits * Nat.pow 10 place * Binary64.unitsPerOne) 1 == units
  | .negSucc place =>
    nearest (decimal.digits * Binary64.unitsPerOne) (Nat.pow 10 (place + 1)) == units

def closest? (units : Nat) (count : Nat) : Option Digits :=
  let place := leadingPlace units - (count - 1)
  let (numerator, denominator) := steps units place
  let below : Digits := ⟨numerator / denominator, place⟩
  let above : Digits := ⟨numerator / denominator + 1, place⟩
  match readsBack units below, readsBack units above with
  | false, false => none
  | true, false => some below
  | false, true => some above
  | true, true => some ⟨halfEven numerator denominator, place⟩

def shortest (units : Nat) : Digits :=
  ((List.range 17).findSome? fun fewer => closest? units (fewer + 1)).getD
    (significant 17 units)

end Digits

structure Layout where
  /-- The least power of the leading digit that is still written positionally. -/
  positionalFrom : Int
  /-- The first power of the leading digit that is written with an exponent. -/
  exponentFrom : Int
  /-- Whether a whole number written positionally ends in `.0`. -/
  keepsPoint : Bool

namespace Layout

def withoutTrailingZeros (digits : List Char) : List Char :=
  (digits.reverse.dropWhile (· == '0')).reverse

def exponentText (power : Int) : String :=
  let magnitude := toString power.natAbs
  (if power < 0 then "e-" else "e+") ++ (if magnitude.length < 2 then "0" else "") ++ magnitude

def place (layout : Layout) (digits : List Char) (leading : Int) : String :=
  let count := digits.length
  if layout.positionalFrom ≤ leading ∧ leading < layout.exponentFrom then
    if leading < 0 then
      "0." ++ String.ofList (List.replicate (leading.natAbs - 1) '0' ++ digits)
    else if count ≤ leading.toNat + 1 then
      String.ofList (digits ++ List.replicate (leading.toNat + 1 - count) '0')
        ++ (if layout.keepsPoint then ".0" else "")
    else
      String.ofList (digits.take (leading.toNat + 1)) ++ "."
        ++ String.ofList (digits.drop (leading.toNat + 1))
  else
    match digits with
    | [] => "0"
    | first :: [] => first.toString ++ exponentText leading
    | first :: rest => first.toString ++ "." ++ String.ofList rest ++ exponentText leading

def digitsText (layout : Layout) (decimal : Digits) : String :=
  let all := Nat.toDigits 10 decimal.digits
  layout.place (withoutTrailingZeros all) (decimal.place + all.length - 1)

def text (layout : Layout) (choose : Nat → Digits) : Binary64 → String
  | .nan => "nan"
  | .infinity negative => if negative then "-inf" else "inf"
  | .finite negative units _ =>
    (if negative then "-" else "") ++
      (if units = 0 then (if layout.keepsPoint then "0.0" else "0")
       else layout.digitsText (choose units))

end Layout

namespace Binary64

/-- The fewest digits that read back, positional from 0.0001 to below 10¹⁶, with `.0` at the end
of a whole number. -/
def exactText : Binary64 → String :=
  Layout.text ⟨-4, 16, true⟩ Digits.shortest

def briefText : Binary64 → String :=
  Layout.text ⟨-4, 6, false⟩ (Digits.significant 6)

/-- A score with at least one decimal place: a whole number in full and with `.0`, any other
number as in `briefText`. -/
def scoreText (value : Binary64) : String :=
  match value with
  | finite negative units _ =>
    if value.isWhole then
      (if negative then "-" else "") ++ toString (units / unitsPerOne) ++ ".0"
    else value.briefText
  | other => other.briefText

end Binary64
end CoffeeGrading
