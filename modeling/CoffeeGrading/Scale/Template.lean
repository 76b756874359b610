import CoffeeGrading.Catalogue
import CoffeeGrading.Scale.Record

/-!
Named scales that can be used for many attributes, and the predefined ones among them.
-/

namespace CoffeeGrading

inductive ScaleOrigin where
  | standard
  | regional
  | custom
deriving DecidableEq

namespace ScaleOrigin

def choices : List (String × ScaleOrigin) :=
  [("standard", standard), ("regional", regional), ("custom", custom)]

def name : ScaleOrigin → String
  | standard => "standard"
  | regional => "regional"
  | custom => "custom"

end ScaleOrigin

structure ScaleTemplate where
  id : String
  name : String
  description : String
  scale : Scale
  category : ScaleOrigin
  isSystem : Bool := false
deriving BEq

namespace ScaleTemplate

def fields : Fields ScaleTemplate :=
  ScaleTemplate.mk <$> .required "id" Reading.text
    <*> .required "name" Reading.text
    <*> .required "description" Reading.text
    <*> .required "scale" Scale.read
    <*> .required "category" (Reading.choice ScaleOrigin.choices)
    <*> .withDefault "is_system" (pure false) Reading.flag

def read : Document → Reading ScaleTemplate :=
  Reading.record "ScaleTemplate" fields

def document (template : ScaleTemplate) : Document :=
  .ofFields [
    ("id", some (.text template.id)),
    ("name", some (.text template.name)),
    ("description", some (.text template.description)),
    ("scale", some template.scale.document),
    ("category", some (.text template.category.name)),
    ("is_system", some (.flag template.isSystem))]

def wordings (levels : List (String × Binary64)) : Scale :=
  .wording (levels.mapIdx fun position (label, value) => ⟨label, value, position⟩)

def brazilFlavor : Scale :=
  wordings [
    ("Special", 10), ("S.Soft", 9), ("Soft", 8), ("Softish", 7), ("Hard", 6), ("Hardish", 5),
    ("Rioy", 4), ("Rioy/Rio", 3), ("Rio", 2), ("Strong Rio", 1)]

def catalogue : List ScaleTemplate := [
  { id := "sca-numeric-10"
    name := "SCA Numeric (1-10)"
    description := "Standard SCA 10-point numeric scale with 0.25 increments"
    scale := .numeric ⟨1, 10, 0.25⟩
    category := .standard
    isSystem := true },
  { id := "sca-wording-7"
    name := "SCA 7-Level Wording"
    description := "7-level wording scale used for Fragrance/Aroma, Acidity, Body, Sweetness"
    scale := wordings [
      ("Outstanding", 10), ("Special", 9), ("Good", 7), ("Notable", 6), ("Medium", 5),
      ("Not Notable", 3), ("Poor/Flat", 1)]
    category := .standard
    isSystem := true },
  { id := "brazil-flavor-10"
    name := "Brazil Flavor (10-Level)"
    description := "Traditional Brazilian 10-level flavor classification"
    scale := brazilFlavor
    category := .regional
    isSystem := true },
  { id := "coe-numeric-5"
    name := "COE Numeric (1-5)"
    description := "Cup of Excellence 5-point numeric scale"
    scale := .numeric ⟨1, 5, 0.25⟩
    category := .standard
    isSystem := true },
  { id := "numeric-7"
    name := "Numeric (1-7)"
    description := "7-point numeric scale with 0.25 increments"
    scale := .numeric ⟨1, 7, 0.25⟩
    category := .standard
    isSystem := true },
  { id := "numeric-5"
    name := "Numeric (1-5)"
    description := "5-point numeric scale with 0.25 increments"
    scale := .numeric ⟨1, 5, 0.25⟩
    category := .standard
    isSystem := true }]

def find (id : String) : Except NotFound ScaleTemplate :=
  findById "Scale template" ScaleTemplate.id catalogue id

/-- A copy of a template for a user to change.  An empty description counts as none. -/
def clone (template : ScaleTemplate) (identifier : Identifier) (newName : String)
    (newDescription : Option String) : ScaleTemplate where
  id := "custom-" ++ identifier.text
  name := newName
  description := (newDescription.filter fun text => !text.isEmpty).getD template.description
  scale := template.scale
  category := .custom
  isSystem := false

end ScaleTemplate
end CoffeeGrading
