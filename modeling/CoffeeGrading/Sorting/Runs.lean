import CoffeeGrading.Sorting.Merging

/-!
Sorting by runs, under a comparison that need not be an order.  The list is cut into runs that
are sorted already or made so by insertion; neighbouring runs are then merged, those first whose
boundary lies deepest in a tree of halvings.  Where the comparison is an order this is the stable
sort; where some values compare with nothing, it settles where they stay.
-/

namespace CoffeeGrading.Sorting

variable {α : Type}

/-! ### Runs -/

def risingLength (below : α → α → Bool) (previous : α) : List α → Nat
  | [] => 0
  | next :: rest => if below next previous then 0 else risingLength below next rest + 1

def fallingLength (below : α → α → Bool) (previous : α) : List α → Nat
  | [] => 0
  | next :: rest => if below next previous then fallingLength below next rest + 1 else 0

def frontRun (below : α → α → Bool) : List α → List α × List α
  | first :: second :: rest =>
    let values := first :: second :: rest
    if below second first then
      let length := fallingLength below first (second :: rest) + 1
      ((values.take length).reverse, values.drop length)
    else
      let length := risingLength below first (second :: rest) + 1
      (values.take length, values.drop length)
  | few => (few, [])

def insertInto (below : α → α → Bool) (sorted : List α) (value : α) : List α :=
  let place := bisect (fun place => !sorted[place]?.any (below value)) 0 sorted.length
  sorted.insertIdx place value

/-- The least length of a run: all of a list below 64 values, and otherwise its six leading
binary digits, rounded up. -/
def leastRun (length : Nat) (isInexact : Bool := false) : Nat :=
  if length < 64 then length + (if isInexact then 1 else 0)
  else leastRun (length / 2) (isInexact || length % 2 = 1)
termination_by length

/-- The runs of a list, each of the least length unless the list ends.  `fuel` bounds their
number. -/
def runs (below : α → α → Bool) (least : Nat) : (fuel : Nat) → List α → List (List α)
  | 0, _ => []
  | _, [] => []
  | fuel + 1, values =>
    let (run, rest) := frontRun below values
    let missing := least - run.length
    (rest.take missing).foldl (insertInto below) run :: runs below least fuel (rest.drop missing)

/-! ### The order of merges -/

/-- The depth, in halvings of the whole length, at which two midpoints part.  The midpoints are
given twice over, and `fuel` bounds the depth. -/
def partingDepth (whole : Nat) : (fuel left right : Nat) → Nat
  | 0, _, _ => 1
  | fuel + 1, left, right =>
    if whole ≤ left then
      partingDepth whole fuel (2 * (left - whole)) (2 * (right - whole)) + 1
    else if whole ≤ right then 1
    else partingDepth whole fuel (2 * left) (2 * right) + 1

structure Waiting (α : Type) where
  start : Nat
  values : List α
  depth : Nat

structure Schedule (α : Type) where
  waiting : List (Waiting α)
  patience : Nat

namespace Schedule

/-- Merges the last runs while the boundary in front of the last one lies deeper than `depth`. -/
def settle (below : α → α → Bool) (depth : Nat) : List (Waiting α) → Nat → Schedule α
  | last :: previous :: others, patience =>
    if depth < previous.depth then
      let (values, patience) := mergeRuns below patience previous.values last.values
      settle below depth ({ previous with values } :: others) patience
    else ⟨last :: previous :: others, patience⟩
  | waiting, patience => ⟨waiting, patience⟩
termination_by waiting => waiting.length

def push (below : α → α → Bool) (whole : Nat) (schedule : Schedule α) (run : List α) :
    Schedule α :=
  match schedule.waiting with
  | [] => { schedule with waiting := [⟨0, run, 0⟩] }
  | last :: _ =>
    let middle := 2 * last.start + last.values.length
    let depth :=
      partingDepth whole whole middle (middle + last.values.length + run.length)
    let settled := settle below depth schedule.waiting schedule.patience
    match settled.waiting with
    | [] => settled
    | last :: others =>
      { settled with
        waiting := ⟨last.start + last.values.length, run, 0⟩ :: { last with depth } :: others }

/-- Merges all runs that still wait.  Of the last three the two in front are merged first if the
foremost is shorter than the last. -/
def finish (below : α → α → Bool) : List (Waiting α) → Nat → List α
  | last :: previous :: foremost :: others, patience =>
    if foremost.values.length < last.values.length then
      let (values, patience) := mergeRuns below patience foremost.values previous.values
      finish below (last :: { foremost with values } :: others) patience
    else
      let (values, patience) := mergeRuns below patience previous.values last.values
      finish below ({ previous with values } :: foremost :: others) patience
  | [last, previous], patience => (mergeRuns below patience previous.values last.values).1
  | [only], _ => only.values
  | [], _ => []
termination_by waiting => waiting.length

end Schedule

def sortByRuns (below : α → α → Bool) (values : List α) : List α :=
  let whole := values.length
  let schedule := (runs below (leastRun whole) whole values).foldl (Schedule.push below whole)
    ⟨[], Merging.worthLeaping⟩
  Schedule.finish below schedule.waiting schedule.patience

end CoffeeGrading.Sorting
