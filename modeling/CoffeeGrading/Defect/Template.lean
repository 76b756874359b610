import CoffeeGrading.Catalogue
import CoffeeGrading.Defect.Record

/-!
Named defect configurations, and the predefined ones among them, usually one per origin.
-/

namespace CoffeeGrading

inductive DefectTemplateCategory where
  | origin
  | client
  | custom
deriving DecidableEq

namespace DefectTemplateCategory

def choices : List (String × DefectTemplateCategory) :=
  [("origin", origin), ("client", client), ("custom", custom)]

def name : DefectTemplateCategory → String
  | origin => "origin"
  | client => "client"
  | custom => "custom"

end DefectTemplateCategory

structure DefectTemplate where
  id : String
  name : String
  description : String
  origin : Option String := none
  category : DefectTemplateCategory
  configuration : DefectConfiguration
  isSystem : Bool := false
deriving BEq

namespace DefectTemplate

def fields : Fields DefectTemplate :=
  DefectTemplate.mk <$> .required "id" Reading.text
    <*> .required "name" Reading.text
    <*> .required "description" Reading.text
    <*> .optional "origin" Reading.text
    <*> .required "category" (Reading.choice DefectTemplateCategory.choices)
    <*> .required "configuration" DefectConfiguration.read
    <*> .withDefault "is_system" (pure false) Reading.flag

def read : Document → Reading DefectTemplate :=
  Reading.record "DefectTemplate" fields

def document (template : DefectTemplate) : Document :=
  .ofFields [
    ("id", some (.text template.id)),
    ("name", some (.text template.name)),
    ("description", some (.text template.description)),
    ("origin", template.origin.map .text),
    ("category", some (.text template.category.name)),
    ("configuration", some template.configuration.document),
    ("is_system", some (.flag template.isSystem))]

def listed (category : DefectCategory) (weights : List (String × Binary64)) :
    List DefectDefinition :=
  weights.mapIdx fun position (name, weight) =>
    { name, category, weight, displayOrder := position }

def described (category : DefectCategory) (entries : List (String × Binary64 × String)) :
    List DefectDefinition :=
  entries.mapIdx fun position (name, weight, description) =>
    { name, category, weight, displayOrder := position, description := some description }

def catalogue : List DefectTemplate := [
  { id := "brazil-sca-standard"
    name := "Brazil SCA Standard"
    description := "Standard Brazilian coffee defect classification per SCA guidelines"
    origin := some "Brazil"
    category := .origin
    configuration := {
      defects :=
        described .primary [
          ("Full Black", 1, "Completely black bean"),
          ("Full Sour", 1, "Completely sour bean"),
          ("Pod/Cherry", 1, "Dried cherry or pod"),
          ("Stone/Stick", 1, "Foreign material (stone, stick)"),
          ("Foreign Material", 1, "Other foreign matter"),
          ("Large Husk", 1, "Large pieces of parchment/husk")]
        ++ described .secondary [
          ("Severe Broca", 0.2, "Severely insect-damaged"),
          ("Minor Broca", 0.1, "Minor insect damage"),
          ("Broken", 0.2, "Broken or chipped beans"),
          ("Unripe/Immature", 0.2, "Underdeveloped beans"),
          ("Bad Formed", 0.2, "Malformed beans"),
          ("Shells", 0.34, "Shell beans"),
          ("Partial Husk", 0.5, "Partial parchment"),
          ("Partial Sour", 0.5, "Partially sour bean"),
          ("Partial Black", 0.5, "Partially black bean")]
      thresholds := ⟨some 5, some 86, some 91⟩
      notes := some <|
        "Standard Brazilian defect classification for 300g sample. "
          ++ "Adjust proportionally for different sample sizes." }
    isSystem := true },
  { id := "colombia-standard"
    name := "Colombia Standard"
    description := "Colombian coffee defect classification"
    origin := some "Colombia"
    category := .origin
    configuration := {
      defects :=
        listed .primary [
          ("Full Black", 1), ("Full Sour", 1), ("Dried Cherry", 1), ("Foreign Matter", 1),
          ("Severe Insect Damage", 1)]
        ++ listed .secondary [
          ("Partial Black", 0.33), ("Partial Sour", 0.33), ("Parchment", 0.2),
          ("Floater", 0.2), ("Immature", 0.2), ("Withered", 0.2), ("Shell", 0.2),
          ("Broken/Chipped", 0.2), ("Hull/Husk", 0.2)]
      thresholds := ⟨some 8, some 46, some 54⟩
      notes := some "Colombian defect standards for 300g sample" }
    isSystem := true },
  { id := "guatemala-standard"
    name := "Guatemala Standard"
    description := "Guatemalan coffee defect classification"
    origin := some "Guatemala"
    category := .origin
    configuration := {
      defects :=
        listed .primary [
          ("Full Black", 1), ("Full Sour", 1), ("Dried Cherry", 1), ("Fungus Damage", 1),
          ("Foreign Matter", 1), ("Severe Insect Damage", 1)]
        ++ listed .secondary [
          ("Partial Black", 0.5), ("Partial Sour", 0.5), ("Parchment", 0.25),
          ("Floater", 0.25), ("Immature/Unripe", 0.25), ("Withered", 0.25), ("Shell", 0.25),
          ("Broken/Chipped", 0.25), ("Hull/Husk", 0.25), ("Minor Insect Damage", 0.2)]
      thresholds := ⟨some 8, some 50, some 58⟩
      notes := some "Guatemalan defect standards for 300g sample" }
    isSystem := true },
  { id := "sca-standard"
    name := "SCA Standard"
    description := "Generic SCA (Specialty Coffee Association) defect classification"
    category := .origin
    configuration := {
      defects :=
        listed .primary [
          ("Full Black", 1), ("Full Sour", 1), ("Dried Cherry/Pod", 1), ("Fungus Damaged", 1),
          ("Foreign Matter", 1), ("Severe Insect Damage", 1)]
        ++ listed .secondary [
          ("Partial Black", 0.33), ("Partial Sour", 0.33), ("Parchment", 0.2),
          ("Floater", 0.2), ("Immature/Unripe", 0.2), ("Withered", 0.2), ("Shell", 0.2),
          ("Broken/Chipped/Cut", 0.2), ("Hull/Husk", 0.2), ("Minor Insect Damage", 0.2)]
      thresholds := ⟨some 5, some 45, some 50⟩
      notes := some "Generic SCA defect classification for 300g sample" }
    isSystem := true }]

def find (id : String) : Except NotFound DefectTemplate :=
  findById "Defect template" DefectTemplate.id catalogue id

def load (id : String) : Except NotFound DefectConfiguration := do
  let template ← find id
  .ok template.configuration

/-- A copy of a template for a user to change.  An empty description counts as none. -/
def clone (template : DefectTemplate) (identifier : Identifier) (newName : String)
    (newDescription : Option String) : DefectTemplate where
  id := "custom-" ++ identifier.text
  name := newName
  description := (newDescription.filter fun text => !text.isEmpty).getD template.description
  origin := template.origin
  category := .custom
  configuration := template.configuration
  isSystem := false

end DefectTemplate
end CoffeeGrading
