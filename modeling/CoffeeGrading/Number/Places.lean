import CoffeeGrading.Number.Binary64

/-!
Rounding of binary64 numbers to a number of decimal places, and to whole numbers.  Both start
from the exact value; a half goes to the even neighbour.  Only a finite number has a whole
number near it.
-/

namespace CoffeeGrading

open Rounding

inductive NoWholeNumber where
  | notANumber
  | infinite
deriving DecidableEq

def NoWholeNumber.message : NoWholeNumber → String
  | notANumber => "cannot convert float NaN to integer"
  | infinite => "cannot convert float infinity to integer"

namespace Binary64

def roundPlaces (places : Nat) : Binary64 → Binary64
  | finite negative units _ =>
    ofQuotient negative (halfEven (units * Nat.pow 10 places) unitsPerOne * unitsPerOne)
      (Nat.pow 10 places)
  | other => other

def round : Binary64 → Except NoWholeNumber Int
  | nan => .error .notANumber
  | infinity _ => .error .infinite
  | finite negative units _ => .ok (signed negative (halfEven units unitsPerOne))

def floor : Binary64 → Except NoWholeNumber Int
  | nan => .error .notANumber
  | infinity _ => .error .infinite
  | finite negative units _ => .ok (Int.fdiv (signed negative units) unitsPerOne)

end Binary64
end CoffeeGrading
