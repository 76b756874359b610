/-!
Lists whose entries carry their own place.  Every edit of such a list ends by numbering the
entries from zero, so that the place an entry carries is its position, whatever places the
entries came with.
-/

namespace CoffeeGrading

class HasDisplayOrder (Entry : Type) where
  displayOrder : Entry → Int
  placedAt : Entry → Int → Entry

inductive OrderFault where
  | outOfRange (index : Int) (count : Nat)
  | notAStep (direction : Int)
deriving DecidableEq

def OrderFault.message : OrderFault → String
  | outOfRange index count => s!"Index {index} out of range for {count} item(s)."
  | notAStep direction => s!"direction must be -1 or 1, got {direction}."

namespace DisplayOrder

open HasDisplayOrder

variable {Entry : Type} [HasDisplayOrder Entry]

def renumber (items : List Entry) : List Entry :=
  items.mapIdx fun position item => placedAt item position

/-- The entries in ascending order of their places; equal places keep their order. -/
def sort (items : List Entry) : List Entry :=
  items.mergeSort fun left right => displayOrder left ≤ displayOrder right

def append (items : List Entry) (item : Entry) : List Entry :=
  renumber (items ++ [item])

def position (count : Nat) (index : Int) : Except OrderFault Nat :=
  if 0 ≤ index ∧ index < count then .ok index.toNat else .error (.outOfRange index count)

def removeAt (items : List Entry) (index : Int) : Except OrderFault (List Entry) := do
  let gone ← position items.length index
  .ok (renumber (items.eraseIdx gone))

def exchange (items : List Entry) (first second : Nat) : List Entry :=
  match items[first]?, items[second]? with
  | some left, some right => (items.set first right).set second left
  | _, _ => items

def swap (items : List Entry) (first second : Int) : Except OrderFault (List Entry) := do
  let left ← position items.length first
  let right ← position items.length second
  .ok (renumber (exchange items left right))

/-- The entries with one of them a step nearer to the start (-1) or to the end (1).  A step off
the list changes nothing but the places. -/
def move (items : List Entry) (index direction : Int) : Except OrderFault (List Entry) :=
  if direction ≠ -1 ∧ direction ≠ 1 then .error (.notAStep direction)
  else
    let target := index + direction
    if 0 ≤ target ∧ target < items.length then swap items index target
    else .ok (renumber items)

def isContiguous (items : List Entry) : Bool :=
  items.map displayOrder == (List.range items.length).map Int.ofNat

end DisplayOrder
end CoffeeGrading
