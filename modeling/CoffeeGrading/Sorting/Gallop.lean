/-!
Searching a sorted list from a hint.  The search first strides away from the hint in steps that
double, and then halves the stretch that the last step passed over.  No law of order is asked of
the test, so the place found is also settled where the values have none.
-/

namespace CoffeeGrading.Sorting

variable {α : Type}

/-- Strides on from `step` while `goesOn` holds: the last step at which it held, and the first at
which it did not, which is never beyond `bound`. -/
def strides (goesOn : Nat → Bool) (bound reached step : Nat) : Nat × Nat :=
  if step < bound then
    if goesOn step then strides goesOn bound step (2 * step + 1) else (reached, step)
  else (reached, bound)
termination_by bound - step

/-- The end of the front part of a stretch, found by halving: `inFront` holds at a place if that
place belongs to the front part. -/
def bisect (inFront : Nat → Bool) (low high : Nat) : Nat :=
  if low < high then
    let middle := low + (high - low) / 2
    if inFront middle then bisect inFront (middle + 1) high else bisect inFront low middle
  else low
termination_by high - low

/-- The number of values in the front part of a sorted list, found from the place `hint`. -/
def gallop (inFront : α → Bool) (sorted : List α) (hint : Nat) : Nat :=
  let test (place : Nat) : Bool := sorted[place]?.any inFront
  if test hint then
    let (reached, step) :=
      strides (fun step => test (hint + step)) (sorted.length - hint) 0 1
    bisect test (hint + reached + 1) (hint + step)
  else
    let (reached, step) := strides (fun step => !test (hint - step)) (hint + 1) 0 1
    bisect test (hint + 1 - step) (hint - reached)

end CoffeeGrading.Sorting
