import CoffeeGrading.Document.Finite
import CoffeeGrading.ScreenSize

/-!
Micro-region requirements: which regions of a country of origin a lot may come from, and in which
shares.  A configuration is sound when `MicroRegionConfiguration.flaw?` finds nothing.
-/

namespace CoffeeGrading

def popularOrigins : List String :=
  ["Brazil", "Peru", "Colombia", "Guatemala", "Mexico", "El Salvador", "Nicaragua", "Honduras"]

structure RegionShare where
  min : Option Binary64 := none
  max : Option Binary64 := none
deriving BEq

/-- The shares of regions by name, in the order in which they were given.  The order does not
count when two of them are compared. -/
structure RegionShares where
  entries : List (String × RegionShare)

instance : BEq RegionShares where
  beq left right :=
    left.entries.length == right.entries.length &&
      left.entries.all fun (region, share) => right.entries.lookup region == some share

structure MicroRegionRequirement where
  origin : String
  requiredMicroRegions : List String := []
  percentagePerRegion : Option RegionShares := none
  allowMix : Bool := true
  notes : Option String := none
deriving BEq

structure MicroRegionConfiguration where
  requirements : List MicroRegionRequirement := []
deriving BEq

structure ShareTotals where
  min : Binary64
  max : Binary64

inductive MicroRegionFlaw where
  | noOrigin
  | repeatedOrigin (origin : String)
  | minimumOutside (region : String) (low high : Binary64)
  | maximumOutside (region : String) (low high : Binary64)
  | minimumAboveMaximum (region : String)

def MicroRegionFlaw.message : MicroRegionFlaw → String
  | noOrigin => "Origin is required for each requirement"
  | repeatedOrigin origin => s!"Duplicate micro-region requirement for origin \"{origin}\""
  | minimumOutside region low high =>
    s!"Minimum percentage for \"{region}\" must be between {low.briefText} and {high.briefText}"
  | maximumOutside region low high =>
    s!"Maximum percentage for \"{region}\" must be between {low.briefText} and {high.briefText}"
  | minimumAboveMaximum region => s!"Minimum percentage cannot exceed maximum for \"{region}\""

def RegionShare.isReversed (share : RegionShare) : Bool :=
  match share.min, share.max with
  | some min, some max => max < min
  | _, _ => false

namespace MicroRegionRequirement

def shares (requirement : MicroRegionRequirement) : List (String × RegionShare) :=
  (requirement.percentagePerRegion.map (·.entries)).getD []

def shareFlaw? (limits : Limits) (region : String) (share : RegionShare) :
    Option MicroRegionFlaw :=
  let outside (value : Option Binary64) : Bool := value.any fun value =>
    !limits.allowsPercentage value
  if outside share.min then
    some (.minimumOutside region limits.percentageMin limits.percentageMax)
  else if outside share.max then
    some (.maximumOutside region limits.percentageMin limits.percentageMax)
  else if share.isReversed then some (.minimumAboveMaximum region)
  else none

def sharesFlaw? (limits : Limits) (requirement : MicroRegionRequirement) :
    Option MicroRegionFlaw :=
  requirement.shares.findSome? fun (region, share) => shareFlaw? limits region share

def displayText (requirement : MicroRegionRequirement) : String :=
  if requirement.requiredMicroRegions.isEmpty then "Any micro-region"
  else
    ", ".intercalate requirement.requiredMicroRegions
      ++ (if requirement.allowMix then " (mix allowed)" else " (single region only)")

/-- The sums of the shares, from zero to a hundred where none are set.  The sums have to be
finite. -/
def totals (requirement : MicroRegionRequirement) : Except (List Fault) ShareTotals :=
  match requirement.percentagePerRegion with
  | none => .ok ⟨0, 100⟩
  | some shares =>
    let min := Binary64.sum (shares.entries.filterMap fun (_, share) => share.min)
    let max := Binary64.sum (shares.entries.filterMap fun (_, share) => share.max)
    requireFinite [("min", some min), ("max", some max)] ⟨min, max⟩

def create (origin : String) (allowMix : Bool) : MicroRegionRequirement :=
  { origin, percentagePerRegion := some ⟨[]⟩, allowMix }

end MicroRegionRequirement

namespace MicroRegionConfiguration

def isEmpty (configuration : MicroRegionConfiguration) : Bool :=
  configuration.requirements.isEmpty

def flawAfter? (limits : Limits) (seen : List String) :
    List MicroRegionRequirement → Option MicroRegionFlaw
  | [] => none
  | requirement :: rest =>
    let key := Text.nameKey requirement.origin
    if Text.blank requirement.origin then some .noOrigin
    else if seen.contains key then some (.repeatedOrigin (Text.trim requirement.origin))
    else (requirement.sharesFlaw? limits).or (flawAfter? limits (key :: seen) rest)

/-- The first flaw: origins that are blank or the same, shares outside the limits or with the
lowest above the highest. -/
def flaw? (limits : Limits) (configuration : MicroRegionConfiguration) :
    Option MicroRegionFlaw :=
  flawAfter? limits [] configuration.requirements

end MicroRegionConfiguration
end CoffeeGrading
