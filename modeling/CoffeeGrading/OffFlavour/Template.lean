import CoffeeGrading.Catalogue
import CoffeeGrading.OffFlavour.Editing
import CoffeeGrading.OffFlavour.Record

/-!
The predefined configurations of off-flavours.  Loading one gives every definition a new
identifier.
-/

namespace CoffeeGrading

structure OffFlavourTemplate where
  id : String
  name : String
  description : String
  configuration : OffFlavourConfiguration
deriving BEq

namespace OffFlavourTemplate

def document (template : OffFlavourTemplate) : Document :=
  .ofFields [
    ("id", some (.text template.id)),
    ("name", some (.text template.name)),
    ("description", some (.text template.description)),
    ("configuration", some template.configuration.document)]

def definitions (category : OffFlavourCategory) (scale : NumericScale) (names : List String) :
    List OffFlavourDefinition :=
  names.mapIdx fun position name =>
    { id := s!"{category.name}-{position}"
      name
      category
      scale := .numeric scale
      displayOrder := position }

def toThree : NumericScale := ⟨1, 3, 0.5⟩
def toFive : NumericScale := ⟨1, 5, 0.5⟩
def toTen : NumericScale := ⟨1, 10, 1⟩

def catalogue : List OffFlavourTemplate := [
  { id := "sca-standard"
    name := "SCA Standard"
    description := "Specialty Coffee Association standard taint and fault definitions "
      ++ "with 1-5 intensity scale"
    configuration := {
      taints := definitions .taint toFive
        ["Fermented", "Earthy", "Phenolic", "Chemical", "Musty", "Woody"]
      faults := definitions .fault toFive ["Rancid", "Moldy", "Sour", "Stinker"]
      rules := {
        maxTaints := some 2
        maxFaults := some 1
        maxTaintIntensity := some 3
        validationMessage := some "SCA standard: Max 2 taints (intensity ≤3), max 1 fault" }
      notes := some "Standard SCA cupping protocol for specialty grade coffee" } },
  { id := "specialty-grade"
    name := "Specialty Grade"
    description := "Strict requirements for specialty grade coffee with minimal tolerance"
    configuration := {
      taints := definitions .taint toThree ["Fermented", "Earthy", "Musty"]
      faults := definitions .fault toThree ["Rancid", "Moldy"]
      rules := {
        maxTaints := some 1
        maxFaults := some 0
        maxTaintIntensity := some 2
        validationMessage := some
          "Specialty grade: Max 1 light taint (intensity ≤2), no faults" }
      notes := some "High quality specialty coffee with strict taint/fault requirements" } },
  { id := "commercial-grade"
    name := "Commercial Grade"
    description := "Standard commercial coffee with moderate tolerance for defects"
    configuration := {
      taints := definitions .taint toTen ["Fermented", "Earthy", "Phenolic", "Woody", "Musty"]
      faults := definitions .fault toTen ["Rancid", "Moldy", "Sour"]
      rules := {
        maxCombined := some 5
        maxTaintIntensity := some 7
        maxFaultIntensity := some 5
        validationMessage := some <|
          "Commercial grade: Max 5 combined defects, taint intensity ≤7, "
            ++ "fault intensity ≤5" }
      notes := some "Standard commercial coffee with moderate defect tolerance" } },
  { id := "zero-tolerance"
    name := "Zero Tolerance"
    description := "Premium quality with no taints or faults acceptable"
    configuration := {
      taints := definitions .taint toFive ["Fermented", "Earthy", "Phenolic"]
      faults := definitions .fault toFive ["Rancid", "Moldy"]
      rules := {
        zeroTolerance := some true
        validationMessage := some "Zero tolerance: No taints or faults acceptable" }
      notes := some "Premium quality coffee with zero tolerance for any sensory defects" } },
  { id := "brazil-traditional"
    name := "Brazil Traditional"
    description := "Traditional Brazilian classification with specific taint/fault terminology"
    configuration := {
      taints := definitions .taint toFive ["Riado", "Rio", "Fermented", "Earthy"]
      faults := definitions .fault toFive ["Hard Riado", "Phenol Rio", "Moldy"]
      rules := {
        maxTaints := some 2
        maxFaults := some 1
        maxTaintIntensity := some 4
        validationMessage := some
          "Brazil traditional: Max 2 taints (intensity ≤4), max 1 fault" }
      notes := some
        "Traditional Brazilian coffee classification with country-specific terminology" } }]

def find (id : String) : Except NotFound OffFlavourTemplate :=
  findById "Taint/fault template" OffFlavourTemplate.id catalogue id

def renewed (fresh : Nat → Identifier) (start : Nat)
    (definitions : List OffFlavourDefinition) : List OffFlavourDefinition :=
  definitions.mapIdx fun position definition =>
    { definition with
      id := OffFlavourDefinition.newId definition.category (fresh (start + position)) }

def load (fresh : Nat → Identifier) (id : String) :
    Except NotFound OffFlavourConfiguration := do
  let template ← find id
  let source := template.configuration
  .ok { source with
    taints := renewed fresh 0 source.taints
    faults := renewed fresh source.taints.length source.faults }

end OffFlavourTemplate
end CoffeeGrading
