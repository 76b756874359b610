import CoffeeGrading.DisplayOrder
import CoffeeGrading.Distinct
import CoffeeGrading.Limits
import CoffeeGrading.Text.NameKey

/-!
Defect configurations: the defects that are counted in a sample, each with its weight in full
defects, and limits on the totals.  Primary and secondary defects are two ordered lists kept in
one.  A configuration is sound when `DefectConfiguration.flaw?` finds nothing.
-/

namespace CoffeeGrading

inductive DefectCategory where
  | primary
  | secondary
deriving DecidableEq

namespace DefectCategory

def choices : List (String × DefectCategory) :=
  [("primary", primary), ("secondary", secondary)]

def name : DefectCategory → String
  | primary => "primary"
  | secondary => "secondary"

end DefectCategory

structure DefectDefinition where
  name : String
  category : DefectCategory
  weight : Binary64
  displayOrder : Int := 0
  description : Option String := none
deriving BEq

instance : HasDisplayOrder DefectDefinition where
  displayOrder := DefectDefinition.displayOrder
  placedAt definition place := { definition with displayOrder := place }

structure DefectThresholds where
  maxPrimary : Option Binary64 := none
  maxSecondary : Option Binary64 := none
  maxTotal : Option Binary64 := none
deriving BEq

def DefectThresholds.isEmpty (thresholds : DefectThresholds) : Bool :=
  thresholds.maxPrimary.isNone && thresholds.maxSecondary.isNone && thresholds.maxTotal.isNone

structure DefectConfiguration where
  defects : List DefectDefinition := []
  thresholds : DefectThresholds := {}
  notes : Option String := none
deriving BEq

inductive DefectFlaw where
  | noDefects
  | blankName
  | repeatedName (category : DefectCategory)
  | weightless (name : String)
  | overweight (name : String) (limit : Binary64)
  | negativePrimary
  | negativeSecondary
  | negativeTotal

def DefectFlaw.message : DefectFlaw → String
  | noDefects => "At least one defect is required"
  | blankName => "Defect names cannot be empty"
  | repeatedName category => s!"Duplicate {category.name} defect names are not allowed"
  | weightless name => s!"Defect \"{name}\" must have a weight greater than 0"
  | overweight name limit =>
    s!"Defect \"{name}\" weight seems unusually high (>{limit.briefText})"
  | negativePrimary => "Max primary defects cannot be negative"
  | negativeSecondary => "Max secondary defects cannot be negative"
  | negativeTotal => "Max total defects cannot be negative"

def ofCategory (category : DefectCategory) (defects : List DefectDefinition) :
    List DefectDefinition :=
  defects.filter fun definition => definition.category = category

def defectsByCategory (category : DefectCategory) (defects : List DefectDefinition) :
    List DefectDefinition :=
  DisplayOrder.sort (ofCategory category defects)

namespace DefectConfiguration

def isEmpty (configuration : DefectConfiguration) : Bool :=
  configuration.defects.isEmpty && configuration.thresholds.isEmpty

def nameFlaw? (defects : List DefectDefinition) (category : DefectCategory) :
    Option DefectFlaw :=
  let members := ofCategory category defects
  if members.any fun definition => Text.blank definition.name then some .blankName
  else if !distinct (members.map fun definition => Text.nameKey definition.name) then
    some (.repeatedName category)
  else none

def weightFlaw? (limits : Limits) (definition : DefectDefinition) : Option DefectFlaw :=
  if ¬ 0 < definition.weight then some (.weightless definition.name)
  else if limits.maxDefectWeight < definition.weight then
    some (.overweight definition.name limits.maxDefectWeight)
  else none

def thresholdFlaw? (thresholds : DefectThresholds) : Option DefectFlaw :=
  let negative (limit : Option Binary64) : Bool := limit.any fun value => ¬ 0 ≤ value
  if negative thresholds.maxPrimary then some .negativePrimary
  else if negative thresholds.maxSecondary then some .negativeSecondary
  else if negative thresholds.maxTotal then some .negativeTotal
  else none

def flaw? (limits : Limits) (configuration : DefectConfiguration) : Option DefectFlaw :=
  let defects := configuration.defects
  if defects.isEmpty then some .noDefects
  else
    (nameFlaw? defects .primary).or <|
      (nameFlaw? defects .secondary).or <|
        (defects.findSome? (weightFlaw? limits)).or (thresholdFlaw? configuration.thresholds)

end DefectConfiguration

namespace DefectThresholds

def tighterTotal? (total : Binary64) (name : String) (limit : Option Binary64) :
    Option String :=
  match limit with
  | some value =>
    if total < value then
      some (s!"max_total ({total.briefText}) is lower than {name} ({value.briefText})")
    else none
  | none => none

def warnings (thresholds : DefectThresholds) : List String :=
  match thresholds.maxTotal with
  | none => []
  | some total =>
    (tighterTotal? total "max_primary" thresholds.maxPrimary).toList
      ++ (tighterTotal? total "max_secondary" thresholds.maxSecondary).toList

end DefectThresholds
end CoffeeGrading
