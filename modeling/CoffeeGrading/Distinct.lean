/-!
Lists without repetition, for any notion of equality.
-/

namespace CoffeeGrading

def distinct {Entry : Type} [BEq Entry] : List Entry → Bool
  | [] => true
  | first :: rest => !rest.contains first && distinct rest

/-- The first entry whose key was met before, among the keys already seen and those of the
entries in front of it. -/
def firstRepeat? {Entry Key : Type} [BEq Key] (key : Entry → Key) (seen : List Key) :
    List Entry → Option Entry
  | [] => none
  | first :: rest =>
    if seen.contains (key first) then some first else firstRepeat? key (key first :: seen) rest

end CoffeeGrading
