import CoffeeGrading.Defect
import CoffeeGrading.Document.Finite

/-!
Editing defect configurations.  An edit addresses one category by the positions its defects are
displayed at, numbers that category anew and puts the primary defects before the secondary ones;
the other category keeps its defects and their order.
-/

namespace CoffeeGrading.DefectConfiguration

def replaceCategory (configuration : DefectConfiguration) (category : DefectCategory)
    (members : List DefectDefinition) : DefectConfiguration :=
  let others := configuration.defects.filter fun definition => definition.category ≠ category
  let members := DisplayOrder.renumber members
  { configuration with
    defects := match category with
      | .primary => members ++ others
      | .secondary => others ++ members }

def add (configuration : DefectConfiguration) (name : String) (category : DefectCategory)
    (weight : Binary64) (description : Option String) :
    Except (List Fault) DefectConfiguration := do
  let members := defectsByCategory category configuration.defects
  let definition ← requireFinite [("weight", some weight)]
    ({ name, category, weight, displayOrder := members.length, description } : DefectDefinition)
  .ok (configuration.replaceCategory category (members ++ [definition]))

def remove (configuration : DefectConfiguration) (category : DefectCategory) (index : Int) :
    Except OrderFault DefectConfiguration := do
  let members ← DisplayOrder.removeAt (defectsByCategory category configuration.defects) index
  .ok (configuration.replaceCategory category members)

def move (configuration : DefectConfiguration) (category : DefectCategory)
    (index direction : Int) : Except OrderFault DefectConfiguration := do
  let members ←
    DisplayOrder.move (defectsByCategory category configuration.defects) index direction
  .ok (configuration.replaceCategory category members)

end DefectConfiguration

def DefectThresholds.make (maxPrimary maxSecondary maxTotal : Option Binary64) :
    Except (List Fault) DefectThresholds :=
  requireFinite
    [("max_primary", maxPrimary), ("max_secondary", maxSecondary), ("max_total", maxTotal)]
    { maxPrimary, maxSecondary, maxTotal }

def DefectConfiguration.setThresholds (configuration : DefectConfiguration)
    (maxPrimary maxSecondary maxTotal : Option Binary64) :
    Except (List Fault) DefectConfiguration := do
  let thresholds ← DefectThresholds.make maxPrimary maxSecondary maxTotal
  .ok { configuration with thresholds }

end CoffeeGrading
