import CoffeeGrading.Scale.Score

/-!
Off-flavours, the taints and faults found in cupping.  Both kinds are listed with a scale for
their intensity, each in a list of its own; one set of rules says how many of them, and how strong
ones, are acceptable.  A configuration is sound when `OffFlavourConfiguration.flaw?` finds nothing.
-/

namespace CoffeeGrading

inductive OffFlavourCategory where
  | taint
  | fault
deriving DecidableEq

namespace OffFlavourCategory

def choices : List (String × OffFlavourCategory) :=
  [("taint", taint), ("fault", fault)]

def name : OffFlavourCategory → String
  | taint => "taint"
  | fault => "fault"

def title : OffFlavourCategory → String
  | taint => "Taint"
  | fault => "Fault"

end OffFlavourCategory

structure OffFlavourDefinition where
  id : String
  name : String
  category : OffFlavourCategory
  scale : Scale
  description : Option String := none
  displayOrder : Int := 0
deriving BEq

instance : HasDisplayOrder OffFlavourDefinition where
  displayOrder := OffFlavourDefinition.displayOrder
  placedAt definition place := { definition with displayOrder := place }

/-- What is acceptable; a limit that is not set does not bind.  With zero tolerance no off-flavour
of any intensity is acceptable. -/
structure OffFlavourRules where
  zeroTolerance : Option Bool := none
  maxTaints : Option Int := none
  maxFaults : Option Int := none
  maxCombined : Option Int := none
  maxTaintIntensity : Option Binary64 := none
  maxFaultIntensity : Option Binary64 := none
  validationMessage : Option String := none
deriving BEq

namespace OffFlavourRules

def isZeroTolerance (rules : OffFlavourRules) : Bool :=
  rules.zeroTolerance.getD false

def hasLimits (rules : OffFlavourRules) : Bool :=
  rules.maxTaints.isSome || rules.maxFaults.isSome || rules.maxCombined.isSome
    || rules.maxTaintIntensity.isSome || rules.maxFaultIntensity.isSome

def isActive (rules : OffFlavourRules) : Bool :=
  rules.isZeroTolerance || rules.hasLimits

/-- The rules after zero tolerance is switched on, which keeps only the message, or off, which
keeps nothing. -/
def setZeroTolerance (rules : OffFlavourRules) (enabled : Bool) : OffFlavourRules :=
  if enabled then { zeroTolerance := some true, validationMessage := rules.validationMessage }
  else {}

end OffFlavourRules

structure OffFlavourConfiguration where
  taints : List OffFlavourDefinition := []
  faults : List OffFlavourDefinition := []
  rules : OffFlavourRules := {}
  notes : Option String := none
deriving BEq

structure OffFlavourStats where
  totalDefinitions : Nat
  taintCount : Nat
  faultCount : Nat
  hasValidationRules : Bool
  zeroTolerance : Bool

inductive OffFlavourFlaw where
  | misplaced (list : OffFlavourCategory) (name : String) (category : OffFlavourCategory)
  | blankName (list : OffFlavourCategory)
  | repeatedName (list : OffFlavourCategory)
  | scale (list : OffFlavourCategory) (name : String) (flaw : ScaleFlaw)
  | limitsUnderZeroTolerance
  | negativeTaints
  | negativeFaults
  | negativeCombined
  | noTaintIntensity
  | noFaultIntensity

def OffFlavourFlaw.message : OffFlavourFlaw → String
  | misplaced list name category =>
    s!"{list.title} list contains \"{name}\" of category {category.name}"
  | blankName list => s!"{list.title} names cannot be empty"
  | repeatedName list => s!"Duplicate {list.name} names found"
  | scale list name flaw => s!"{list.title} \"{name}\": {flaw.message}"
  | limitsUnderZeroTolerance => "Zero tolerance cannot be combined with numeric limits"
  | negativeTaints => "Max taints must be non-negative"
  | negativeFaults => "Max faults must be non-negative"
  | negativeCombined => "Max combined must be non-negative"
  | noTaintIntensity => "Max taint intensity must be positive"
  | noFaultIntensity => "Max fault intensity must be positive"

namespace OffFlavourRules

def flaw? (rules : OffFlavourRules) : Option OffFlavourFlaw :=
  let negative (limit : Option Int) : Bool := limit.any fun value => ¬ 0 ≤ value
  let vanishing (limit : Option Binary64) : Bool := limit.any fun value => ¬ 0 < value
  if rules.isZeroTolerance && rules.hasLimits then some .limitsUnderZeroTolerance
  else if negative rules.maxTaints then some .negativeTaints
  else if negative rules.maxFaults then some .negativeFaults
  else if negative rules.maxCombined then some .negativeCombined
  else if vanishing rules.maxTaintIntensity then some .noTaintIntensity
  else if vanishing rules.maxFaultIntensity then some .noFaultIntensity
  else none

end OffFlavourRules

namespace OffFlavourConfiguration

def isEmpty (configuration : OffFlavourConfiguration) : Bool :=
  configuration.taints.isEmpty && configuration.faults.isEmpty && !configuration.rules.isActive

def list (configuration : OffFlavourConfiguration) : OffFlavourCategory →
    List OffFlavourDefinition
  | .taint => configuration.taints
  | .fault => configuration.faults

/-- The first flaw of one list: definitions of the other category, names that are blank or the
same, scales. -/
def listFlaw? (list : OffFlavourCategory) (definitions : List OffFlavourDefinition) :
    Option OffFlavourFlaw :=
  match definitions.find? fun definition => definition.category ≠ list with
  | some definition => some (.misplaced list definition.name definition.category)
  | none =>
    if definitions.any fun definition => Text.blank definition.name then some (.blankName list)
    else if !distinct (definitions.map fun definition => Text.nameKey definition.name) then
      some (.repeatedName list)
    else
      definitions.findSome? fun definition =>
        definition.scale.flaw?.map (.scale list definition.name)

def flaw? (configuration : OffFlavourConfiguration) : Option OffFlavourFlaw :=
  (listFlaw? .taint configuration.taints).or <|
    (listFlaw? .fault configuration.faults).or configuration.rules.flaw?

def stats (configuration : OffFlavourConfiguration) : OffFlavourStats where
  totalDefinitions := configuration.taints.length + configuration.faults.length
  taintCount := configuration.taints.length
  faultCount := configuration.faults.length
  hasValidationRules := configuration.rules.isActive
  zeroTolerance := configuration.rules.isZeroTolerance

end OffFlavourConfiguration
end CoffeeGrading
