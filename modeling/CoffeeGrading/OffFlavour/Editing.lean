import CoffeeGrading.Identifier
import CoffeeGrading.OffFlavour

/-!
Editing configurations of off-flavours.  A new definition goes to the list of its own category,
and edits of one list leave the other one alone.
-/

namespace CoffeeGrading

namespace OffFlavourDefinition

def newId (category : OffFlavourCategory) (identifier : Identifier) : String :=
  category.name ++ "_" ++ identifier.compactText

def defaultScale : Scale := .numeric ⟨1, 5, 0.5⟩

def create (category : OffFlavourCategory) (identifier : Identifier) (name : String)
    (displayOrder : Int) (scale : Option Scale) : OffFlavourDefinition where
  id := newId category identifier
  name
  category
  scale := scale.getD defaultScale
  displayOrder

def clone (definition : OffFlavourDefinition) (identifier : Identifier) :
    OffFlavourDefinition :=
  { definition with
    id := newId definition.category identifier
    name := definition.name ++ " (copy)" }

end OffFlavourDefinition

inductive NoItem where
  | noItem
deriving DecidableEq

def NoItem.message : NoItem → String
  | noItem => "list index out of range"

namespace OffFlavourConfiguration

def withList (configuration : OffFlavourConfiguration) (category : OffFlavourCategory)
    (definitions : List OffFlavourDefinition) : OffFlavourConfiguration :=
  match category with
  | .taint => { configuration with taints := definitions }
  | .fault => { configuration with faults := definitions }

def item (configuration : OffFlavourConfiguration) (category : OffFlavourCategory)
    (index : Int) : Except NoItem OffFlavourDefinition :=
  let definitions := configuration.list category
  let position := if index < 0 then index + definitions.length else index
  if position < 0 then .error .noItem
  else
    match definitions[position.toNat]? with
    | some definition => .ok definition
    | none => .error .noItem

def add (configuration : OffFlavourConfiguration) (definition : OffFlavourDefinition) :
    OffFlavourConfiguration :=
  configuration.withList definition.category
    (DisplayOrder.append (configuration.list definition.category) definition)

def remove (configuration : OffFlavourConfiguration) (category : OffFlavourCategory)
    (index : Int) : Except OrderFault OffFlavourConfiguration := do
  let definitions ← DisplayOrder.removeAt (configuration.list category) index
  .ok (configuration.withList category definitions)

def move (configuration : OffFlavourConfiguration) (category : OffFlavourCategory)
    (index direction : Int) : Except OrderFault OffFlavourConfiguration := do
  let definitions ← DisplayOrder.move (configuration.list category) index direction
  .ok (configuration.withList category definitions)

def setRules (configuration : OffFlavourConfiguration) (rules : OffFlavourRules) :
    OffFlavourConfiguration :=
  { configuration with rules }

end OffFlavourConfiguration
end CoffeeGrading
