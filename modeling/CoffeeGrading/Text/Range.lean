/-!
Sets of characters given as ascending ranges of code points, both ends included.
-/

namespace CoffeeGrading.Text

def inRanges (ranges : List (Nat × Nat)) (codePoint : Nat) : Bool :=
  ranges.any fun (first, last) => first ≤ codePoint && codePoint ≤ last

end CoffeeGrading.Text
