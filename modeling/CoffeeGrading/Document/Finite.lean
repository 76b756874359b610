import CoffeeGrading.Document.Fault
import CoffeeGrading.Number.Binary64

/-!
Values that are computed rather than read still have to be finite before they become part of a
record.
-/

namespace CoffeeGrading

def nonFiniteFaults (fields : List (String × Option Binary64)) : List Fault :=
  fields.filterMap fun (name, value) =>
    if value.all Binary64.isFinite then none else some ⟨[name], .notFinite⟩

def requireFinite {Value : Type} (fields : List (String × Option Binary64)) (value : Value) :
    Except (List Fault) Value :=
  match nonFiniteFaults fields with
  | [] => .ok value
  | faults => .error faults

end CoffeeGrading
