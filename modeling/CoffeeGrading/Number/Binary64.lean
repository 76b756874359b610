import CoffeeGrading.Number.Rounding

/-!
Numbers of the 64-bit binary floating-point format, held exactly.  A finite number is a sign
and a whole number of units of 2⁻¹⁰⁷⁴, the smallest positive number of the format, so the order
of the numbers is the order of the integers and every operation is an integer operation followed
by one rounding.
-/

namespace CoffeeGrading

open Rounding

namespace Binary64

/-- The number one, in units of 2⁻¹⁰⁷⁴. -/
def unitsPerOne : Nat := Nat.pow 2 1074

/-- The first magnitude, in units, that is too large for the format. -/
def overflow : Nat := Nat.pow 2 2098

theorem unitsPerOne_pos : 0 < unitsPerOne := by
  unfold unitsPerOne
  apply Nat.pow_pos
  decide

theorem overflow_pos : 0 < overflow := by
  unfold overflow
  apply Nat.pow_pos
  decide

/-- A magnitude the format can hold: 53 significant bits, and below `overflow`. -/
def Representable (units : Nat) : Prop :=
  units % spacing units = 0 ∧ units < overflow

instance (units : Nat) : Decidable (Representable units) :=
  inferInstanceAs (Decidable (_ ∧ _))

theorem representable_zero : Representable 0 :=
  ⟨Nat.zero_mod _, overflow_pos⟩

end Binary64

/-- A binary64 number.  Zero has two signs; there is one value that is not a number. -/
inductive Binary64 where
  | nan
  | infinity (negative : Bool)
  | finite (negative : Bool) (units : Nat) (representable : Binary64.Representable units)
deriving DecidableEq

namespace Binary64

/-- The quotient of two magnitudes, in units, rounded once to the nearest number. -/
def ofQuotient (negative : Bool) (numerator denominator : Nat) : Binary64 :=
  if small : nearest numerator denominator < overflow then
    finite negative (nearest numerator denominator) ⟨nearest_mod_spacing _ _, small⟩
  else
    infinity negative

def signedZero (negative : Bool) : Binary64 := finite negative 0 representable_zero

def ofInt (whole : Int) : Binary64 :=
  ofQuotient (whole < 0) (whole.natAbs * unitsPerOne) 1

/-- The number nearest to `digits` times ten to the power `exponent`.  Ten to the power of four
hundred is above every number and everything below 2⁻¹¹⁹⁰ rounds to zero, so only powers of a
moderate size are ever computed. -/
def ofDecimal (negative : Bool) (digits : Nat) (exponent : Int) : Binary64 :=
  if digits = 0 then signedZero negative
  else match exponent with
    | .ofNat places =>
      if 400 < places then infinity negative
      else ofQuotient negative (digits * Nat.pow 10 places * unitsPerOne) 1
    | .negSucc places =>
      if digits.log2 + 1200 < 3 * (places + 1) then signedZero negative
      else ofQuotient negative (digits * unitsPerOne) (Nat.pow 10 (places + 1))

instance : OfNat Binary64 whole := ⟨ofDecimal false whole 0⟩

instance : OfScientific Binary64 where
  ofScientific digits negativeExponent places :=
    ofDecimal false digits (if negativeExponent then -places else places)

instance : Inhabited Binary64 := ⟨signedZero false⟩

/-! ### Sign, finiteness, whole numbers -/

def neg : Binary64 → Binary64
  | nan => nan
  | infinity negative => infinity !negative
  | finite negative units representable => finite (!negative) units representable

def abs : Binary64 → Binary64
  | nan => nan
  | infinity _ => infinity false
  | finite _ units representable => finite false units representable

def isFinite : Binary64 → Bool
  | finite .. => true
  | _ => false

def isNan : Binary64 → Bool
  | nan => true
  | _ => false

def isWhole : Binary64 → Bool
  | finite _ units _ => units % unitsPerOne == 0
  | _ => false

/-! ### Order

Two numbers compare by their places on the number line.  What is not a number has no place, so
every comparison with it is false, and the two zeros share one place. -/

def signed (negative : Bool) (magnitude : Nat) : Int :=
  if negative then -magnitude else magnitude

/-- The place on the number line, in units; the infinities stand just beyond the last numbers. -/
def place? : Binary64 → Option Int
  | nan => none
  | infinity negative => some (signed negative overflow)
  | finite negative units _ => some (signed negative units)

def compare (related : Int → Int → Bool) (left right : Binary64) : Bool :=
  match left.place?, right.place? with
  | some leftPlace, some rightPlace => related leftPlace rightPlace
  | _, _ => false

instance : LT Binary64 := ⟨fun left right => compare (fun a b => a < b) left right = true⟩
instance : LE Binary64 := ⟨fun left right => compare (fun a b => a ≤ b) left right = true⟩

/-- Equality as numbers: the two zeros are equal, and what is not a number equals nothing. -/
instance : BEq Binary64 := ⟨compare (fun a b => a == b)⟩

instance (left right : Binary64) : Decidable (left < right) :=
  inferInstanceAs (Decidable (_ = true))

instance (left right : Binary64) : Decidable (left ≤ right) :=
  inferInstanceAs (Decidable (_ = true))

/-! ### Arithmetic -/

def add : Binary64 → Binary64 → Binary64
  | nan, _ => nan
  | _, nan => nan
  | infinity left, infinity right => if left = right then infinity left else nan
  | infinity negative, finite .. => infinity negative
  | finite .., infinity negative => infinity negative
  | finite leftNegative leftUnits _, finite rightNegative rightUnits _ =>
    let sum := signed leftNegative leftUnits + signed rightNegative rightUnits
    if sum = 0 then signedZero (leftNegative && rightNegative)
    else ofQuotient (sum < 0) sum.natAbs 1

def mul : Binary64 → Binary64 → Binary64
  | nan, _ => nan
  | _, nan => nan
  | infinity left, infinity right => infinity (left != right)
  | infinity left, finite right units _ => if units = 0 then nan else infinity (left != right)
  | finite left units _, infinity right => if units = 0 then nan else infinity (left != right)
  | finite left leftUnits _, finite right rightUnits _ =>
    ofQuotient (left != right) (leftUnits * rightUnits) unitsPerOne

def div : Binary64 → Binary64 → Binary64
  | nan, _ => nan
  | _, nan => nan
  | infinity _, infinity _ => nan
  | infinity left, finite right _ _ => infinity (left != right)
  | finite left _ _, infinity right => signedZero (left != right)
  | finite left leftUnits _, finite right rightUnits _ =>
    if rightUnits = 0 then (if leftUnits = 0 then nan else infinity (left != right))
    else ofQuotient (left != right) (leftUnits * unitsPerOne) rightUnits

instance : Neg Binary64 := ⟨neg⟩
instance : Add Binary64 := ⟨add⟩
instance : Sub Binary64 := ⟨fun left right => add left (neg right)⟩
instance : Mul Binary64 := ⟨mul⟩
instance : Div Binary64 := ⟨div⟩

def sum (terms : List Binary64) : Binary64 :=
  terms.foldl (· + ·) 0

end Binary64
end CoffeeGrading
