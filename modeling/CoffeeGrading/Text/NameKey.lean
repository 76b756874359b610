import CoffeeGrading.Text.Blank
import CoffeeGrading.Text.Lowercase

/-!
When two names count as the same name.  Every check for duplicates and every lookup that ignores
letter case compares name keys.
-/

namespace CoffeeGrading.Text

/-- What is compared of a name: the text without blanks at its ends, in lower case. -/
def nameKey (name : String) : String :=
  lower (trim name)

def blank (name : String) : Bool :=
  (trim name).isEmpty

end CoffeeGrading.Text
