import CoffeeGrading.Catalogue
import CoffeeGrading.Cupping.Record
import CoffeeGrading.Scale.Template

/-!
The predefined cupping protocols, each a complete form for one region.
-/

namespace CoffeeGrading

structure CuppingProtocol where
  id : String
  name : String
  description : String
  attributes : List CuppingAttribute
deriving BEq

namespace CuppingProtocol

def fields : Fields CuppingProtocol :=
  CuppingProtocol.mk <$> .required "id" Reading.text
    <*> .required "name" Reading.text
    <*> .required "description" Reading.text
    <*> .required "attributes" (Reading.tuple CuppingAttribute.read)

def read : Document → Reading CuppingProtocol :=
  Reading.record "CuppingAttributeTemplate" fields

def document (protocol : CuppingProtocol) : Document :=
  .ofFields [
    ("id", some (.text protocol.id)),
    ("name", some (.text protocol.name)),
    ("description", some (.text protocol.description)),
    ("attributes", some (.list (protocol.attributes.map CuppingAttribute.document)))]

def numeric (scale : NumericScale) (names : List String) : List CuppingAttribute :=
  names.map fun name => { name, scale := .numeric scale }

def scored (scale : Scale) (names : List String) : List CuppingAttribute :=
  names.map fun name => { name, scale }

def sevenLevels : Scale :=
  ScaleTemplate.wordings [
    ("Outstanding", 7), ("Excellent", 6), ("Very Good", 5), ("Good", 4), ("Fair", 3),
    ("Below Average", 2), ("Poor", 1)]

def beverageLevels : Scale :=
  ScaleTemplate.wordings [
    ("Strictly Soft", 10), ("Soft", 9), ("Softish", 8), ("Hard", 7), ("Rioy", 6), ("Rio", 5)]

def catalogue : List CuppingProtocol := [
  { id := "sca-standard"
    name := "SCA Standard"
    description := "Specialty Coffee Association cupping protocol"
    attributes :=
      numeric ⟨6, 10, 0.25⟩
        ["Fragrance/Aroma", "Flavor", "Aftertaste", "Acidity", "Body", "Balance"]
      ++ numeric ⟨0, 10, 2⟩ ["Uniformity", "Clean Cup", "Sweetness"]
      ++ numeric ⟨6, 10, 0.25⟩ ["Overall"] },
  { id := "coe-standard"
    name := "COE Standard"
    description := "Cup of Excellence cupping protocol"
    attributes :=
      numeric ⟨0, 8, 2⟩ ["Clean Cup", "Sweetness"]
      ++ numeric ⟨0, 8, 0.25⟩
        ["Acidity", "Mouthfeel", "Flavor", "Aftertaste", "Balance", "Overall"] },
  { id := "brazil-traditional"
    name := "Brazil Traditional (Numeric)"
    description := "Classic Brazilian coffee cupping with numeric scales"
    attributes :=
      scored beverageLevels ["Bebida (Beverage)"]
      ++ numeric ⟨1, 7, 0.5⟩ ["Fragrance/Aroma", "Flavor", "Acidity", "Body", "Balance"] },
  { id := "brazil-wording"
    name := "Brazil Wording"
    description := "Brazilian coffee cupping with wording-based scales "
      ++ "(7-level for attributes, 10-level for Flavor)"
    attributes :=
      scored sevenLevels ["Fragrance/Aroma"]
      ++ scored ScaleTemplate.brazilFlavor ["Flavor"]
      ++ scored sevenLevels ["Aftertaste", "Acidity", "Body", "Balance", "Overall"] },
  { id := "simple-5-point"
    name := "Simple 5-Point"
    description := "Basic 5-point scale for quick evaluations"
    attributes := numeric ⟨1, 5, 0.5⟩ ["Aroma", "Flavor", "Acidity", "Body", "Overall"] }]

def find (id : String) : Except NotFound CuppingProtocol :=
  findById "Cupping template" CuppingProtocol.id catalogue id

def load (id : String) (isRequired : Bool) : Except NotFound (List CuppingAttribute) := do
  let protocol ← find id
  .ok (protocol.attributes.map fun item => { item with isRequired })

end CuppingProtocol
end CoffeeGrading
