import CoffeeGrading.Number.Binary64
import CoffeeGrading.Sorting.Runs

/-!
Sorting numbers from the highest down.  Equal numbers keep their order.  Where one of the values is
not a number, the reversed list is sorted upwards by its runs and turned round, so such values
stay where the merging of runs leaves them.
-/

namespace CoffeeGrading.Binary64

def descending (values : List Binary64) : List Binary64 :=
  if values.any isNan then
    (Sorting.sortByRuns (fun left right => left < right) values.reverse).reverse
  else values.mergeSort fun left right => right ≤ left

end CoffeeGrading.Binary64
