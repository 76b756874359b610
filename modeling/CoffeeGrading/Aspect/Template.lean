import CoffeeGrading.Aspect.Record
import CoffeeGrading.Catalogue

/-!
The predefined aspect configurations, two for green beans and two for roasted ones.  Loading one
gives every wording a new identifier.
-/

namespace CoffeeGrading

structure AspectTemplate where
  id : String
  name : String
  description : String
  configuration : AspectConfiguration
deriving BEq

namespace AspectTemplate

def fields : Fields AspectTemplate :=
  AspectTemplate.mk <$> .required "id" Reading.text
    <*> .required "name" Reading.text
    <*> .required "description" Reading.text
    <*> .required "configuration" AspectConfiguration.read

def read : Document → Reading AspectTemplate :=
  Reading.record "AspectConfigTemplate" fields

def document (template : AspectTemplate) : Document :=
  .ofFields [
    ("id", some (.text template.id)),
    ("name", some (.text template.name)),
    ("description", some (.text template.description)),
    ("configuration", some template.configuration.document)]

def wordings (levels : List (String × Binary64 × String)) : List AspectWording :=
  levels.mapIdx fun position (label, value, description) =>
    { id := s!"preset-{position}"
      label
      value
      displayOrder := position
      description := some description }

def green : List AspectTemplate := [
  { id := "green-standard"
    name := "Standard Green Aspect"
    description := "Industry standard green bean appearance scale"
    configuration := {
      wordings := wordings [
        ("Uneven", 1, "Inconsistent color and appearance"),
        ("Brownish", 2, "Brown-tinted beans"),
        ("Yellowish", 3, "Yellow-tinted beans"),
        ("Yellow", 4, "Yellow colored beans"),
        ("Yellow-Green", 5, "Yellow-green transition"),
        ("Greenish", 6, "Light green beans"),
        ("Green", 7, "Green colored beans"),
        ("Bluish-Green", 8, "Blue-green tinted beans"),
        ("Blue-Green", 9, "Premium blue-green beans")]
      notes := some "Higher quality beans typically show greener to blue-green colors" } },
  { id := "green-simplified"
    name := "Simplified Green Aspect"
    description := "Basic 3-level green bean appearance scale"
    configuration := {
      wordings := wordings [
        ("Poor", 1, "Low quality appearance"),
        ("Good", 5, "Acceptable appearance"),
        ("Excellent", 9, "Premium appearance")]
      notes := some "Simple classification for quick assessment" } }]

def roast : List AspectTemplate := [
  { id := "roast-standard"
    name := "Standard Roast Aspect"
    description := "Industry standard roasted bean appearance scale"
    configuration := {
      wordings := wordings [
        ("Uneven", 1, "Inconsistent roast, mixed colors"),
        ("Good", 4, "Acceptable roast appearance"),
        ("Good to Fine", 7, "Above average appearance"),
        ("Fine", 10, "Excellent roast appearance")]
      notes := some
        "Even coloration indicates consistent roasting. Equal quartile scale (1, 4, 7, 10)." } },
  { id := "roast-detailed"
    name := "Detailed Roast Aspect"
    description := "Detailed roasted bean appearance scale with more granularity"
    configuration := {
      wordings := wordings [
        ("Very Uneven", 1, "Highly inconsistent appearance"),
        ("Uneven", 2.5, "Inconsistent roast"),
        ("Fair", 4, "Somewhat even"),
        ("Good", 5.5, "Acceptable appearance"),
        ("Good to Fine", 7, "Above average"),
        ("Fine", 8.5, "Very good appearance"),
        ("Excellent", 10, "Outstanding appearance")]
      notes := some <|
        "More granular scale for detailed quality grading "
          ++ "(1-10 range with 1.5 point increments)" } }]

def renewed (fresh : Nat → Identifier) (wordings : List AspectWording) : List AspectWording :=
  wordings.mapIdx fun position wording => { wording with id := (fresh position).text }

def load (fresh : Nat → Identifier) (id : String) : Except NotFound AspectConfiguration := do
  let template ← findById "Aspect template" AspectTemplate.id (green ++ roast) id
  .ok { template.configuration with wordings := renewed fresh template.configuration.wordings }

end AspectTemplate
end CoffeeGrading
