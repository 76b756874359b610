import CoffeeGrading.Sorting.Gallop

/-!
Merging two neighbouring runs.  The merge walks from the end where the shorter run has to make
room, takes one value at a time, and leaps as soon as one run has won often enough in a row.
Leaps and steps agree wherever the comparison is an order.
-/

namespace CoffeeGrading.Sorting

variable {α : Type}

inductive Direction where
  | upwards
  | downwards
deriving DecidableEq

/-- Two runs that are partly merged.  Both are listed in the direction of the walk, and `taken`
begins with the value taken last. -/
structure Merging (α : Type) where
  direction : Direction
  first : List α
  second : List α
  taken : List α
  /-- How often a run has to win in a row before leaps begin. -/
  patience : Nat

namespace Merging

/-- The merge is done once nothing is left to compare, or one value of the run that makes room. -/
def isDone (merging : Merging α) : Bool :=
  match merging.direction with
  | .upwards => merging.first.length ≤ 1 || merging.second.isEmpty
  | .downwards => merging.first.isEmpty || merging.second.length ≤ 1

def takeFirst (count : Nat) (merging : Merging α) : Merging α :=
  { merging with
    first := merging.first.drop count
    taken := (merging.first.take count).reverse ++ merging.taken }

def takeSecond (count : Nat) (merging : Merging α) : Merging α :=
  { merging with
    second := merging.second.drop count
    taken := (merging.second.take count).reverse ++ merging.taken }

def lead (direction : Direction) (inFront : α → Bool) (run : List α) : Nat :=
  match direction with
  | .upwards => gallop inFront run 0
  | .downwards => run.length - gallop inFront run.reverse (run.length - 1)

def worthLeaping : Nat := 7

mutual

/-- Takes one value at a time until a run has won as often in a row as patience lasts.  `fuel` is
the number of values left. -/
def walk (below : α → α → Bool) : (fuel firstWins secondWins : Nat) → Merging α → Merging α
  | 0, _, _, merging => merging
  | fuel + 1, firstWins, secondWins, merging =>
    match merging.first, merging.second with
    | first :: _, second :: _ =>
      if merging.isDone then merging
      else if below second first == (merging.direction == .downwards) then
        let merging := merging.takeFirst 1
        if merging.patience ≤ firstWins + 1 && !merging.isDone then leap below fuel merging
        else walk below fuel (firstWins + 1) 0 merging
      else
        let merging := merging.takeSecond 1
        if merging.patience ≤ secondWins + 1 && !merging.isDone then leap below fuel merging
        else walk below fuel 0 (secondWins + 1) merging
    | _, _ => merging

def leap (below : α → α → Bool) : (fuel : Nat) → Merging α → Merging α
  | 0, merging => merging
  | fuel + 1, merging =>
    match merging.second with
    | [] => merging
    | second :: _ =>
      let firstLead :=
        lead merging.direction (fun value => !below second value) merging.first
      let merging := merging.takeFirst firstLead
      if merging.isDone then merging
      else
        let merging := merging.takeSecond 1
        if merging.isDone then merging
        else
          match merging.first with
          | [] => merging
          | first :: _ =>
            let secondLead :=
              lead merging.direction (fun value => below value first) merging.second
            let merging := merging.takeSecond secondLead
            if merging.isDone then merging
            else
              let merging := merging.takeFirst 1
              if merging.isDone then merging
              else if worthLeaping ≤ firstLead ∨ worthLeaping ≤ secondLead then
                leap below fuel { merging with patience := max 1 (merging.patience - 1) }
              else walk below fuel 0 0 { merging with patience := merging.patience + 1 }

end

def result (merging : Merging α) : List α :=
  match merging.direction with
  | .upwards => merging.taken.reverse ++ merging.second ++ merging.first
  | .downwards => (merging.taken.reverse ++ merging.first ++ merging.second).reverse

end Merging

/-- Two neighbouring runs as one, and the patience that is left.  What is in place already at
either end takes no part. -/
def mergeRuns (below : α → α → Bool) (patience : Nat) (first second : List α) : List α × Nat :=
  let settled := match second with
    | [] => first.length
    | lowest :: _ => gallop (fun value => !below lowest value) first 0
  let moving := first.drop settled
  match moving.getLast? with
  | none => (first ++ second, patience)
  | some highest =>
    let crossing := gallop (fun value => below value highest) second (second.length - 1)
    if crossing = 0 then (first ++ second, patience)
    else
      let partner := second.take crossing
      let start : Merging α :=
        if moving.length ≤ partner.length then
          Merging.takeSecond 1 ⟨.upwards, moving, partner, [], patience⟩
        else
          Merging.takeFirst 1 ⟨.downwards, moving.reverse, partner.reverse, [], patience⟩
      let merged := Merging.walk below (moving.length + partner.length) 0 0 start
      (first.take settled ++ merged.result ++ second.drop crossing, merged.patience)

end CoffeeGrading.Sorting
