import CoffeeGrading.Document

/-!
Amendments: one part of a value, found by a path of field names and positions, is set to something
else.  Nothing but its type is checked, and no rule of the value around it is applied, so an
amendment can bring numbers that are not finite into a configuration.
-/

namespace CoffeeGrading

inductive Step where
  | field (name : String)
  | item (position : Nat)
deriving DecidableEq

class Plain (Value : Type) where
  ofDocument? : Document → Option Value

instance : Plain Binary64 where
  ofDocument?
    | .number value => some value
    | .whole value => some (.ofInt value)
    | _ => none

instance : Plain Int where
  ofDocument?
    | .whole value => some value
    | _ => none

instance : Plain Bool where
  ofDocument?
    | .flag value => some value
    | _ => none

instance : Plain String where
  ofDocument?
    | .text value => some value
    | _ => none

instance {Value : Type} [Plain Value] : Plain (Option Value) where
  ofDocument?
    | .null => some none
    | document => (Plain.ofDocument? document).map some

/-- Values whose parts can be set by path.  There is no result where the path leads nowhere or the
part cannot hold the new value. -/
class Amendable (Value : Type) where
  amend : List Step → Document → Value → Option Value

namespace Amendable

variable {Value Whole : Type}

instance [Plain Value] : Amendable Value where
  amend path leaf _ := if path.isEmpty then Plain.ofDocument? leaf else none

def amendItem [Amendable Value] (path : List Step) (leaf : Document) (values : List Value) :
    Option (List Value) :=
  match path with
  | .item position :: rest => do
    let value ← values[position]?
    let amended ← amend rest leaf value
    some (values.set position amended)
  | _ => none

instance [Amendable Value] : Amendable (List Value) where
  amend := amendItem

/-- A part that may be missing: it can be taken away as a whole, and amended where it is there. -/
def amendOptional [Amendable Value] (path : List Step) (leaf : Document) (value : Option Value) :
    Option (Option Value) :=
  match path, leaf, value with
  | [], .null, _ => some none
  | _, _, some value => (amend path leaf value).map some
  | _, _, none => none

end Amendable
end CoffeeGrading
