import CoffeeGrading.MicroRegion

/-!
Micro-region requirements as documents.
-/

namespace CoffeeGrading

namespace RegionShare

def fields : Fields RegionShare :=
  RegionShare.mk <$> .optional "min" Reading.number <*> .optional "max" Reading.number

def read : Document → Reading RegionShare :=
  Reading.record "MicroRegionPercentageConstraint" fields

def document (share : RegionShare) : Document :=
  .ofFields [("min", share.min.map .number), ("max", share.max.map .number)]

end RegionShare

namespace RegionShares

def read (document : Document) : Reading RegionShares :=
  RegionShares.mk <$> Reading.dictionary RegionShare.read document

def document (shares : RegionShares) : Document :=
  .object (shares.entries.map fun (region, share) => (region, share.document))

end RegionShares

namespace MicroRegionRequirement

def fields : Fields MicroRegionRequirement :=
  MicroRegionRequirement.mk <$> .required "origin" Reading.text
    <*> .withDefault "required_micro_regions" (pure []) (Reading.list Reading.text)
    <*> .optional "percentage_per_region" RegionShares.read
    <*> .withDefault "allow_mix" (pure true) Reading.flag
    <*> .optional "notes" Reading.text

def read : Document → Reading MicroRegionRequirement :=
  Reading.record "MicroRegionRequirement" fields

def document (requirement : MicroRegionRequirement) : Document :=
  .ofFields [
    ("origin", some (.text requirement.origin)),
    ("required_micro_regions", some (.list (requirement.requiredMicroRegions.map .text))),
    ("percentage_per_region", requirement.percentagePerRegion.map RegionShares.document),
    ("allow_mix", some (.flag requirement.allowMix)),
    ("notes", requirement.notes.map .text)]

end MicroRegionRequirement

namespace MicroRegionConfiguration

def fields : Fields MicroRegionConfiguration :=
  MicroRegionConfiguration.mk
    <$> .withDefault "requirements" (pure []) (Reading.list MicroRegionRequirement.read)

def read : Document → Reading MicroRegionConfiguration :=
  Reading.record "MicroRegionConfiguration" fields

def document (configuration : MicroRegionConfiguration) : Document :=
  .ofFields [
    ("requirements",
      some (.list (configuration.requirements.map MicroRegionRequirement.document)))]

end MicroRegionConfiguration

def ShareTotals.document (totals : ShareTotals) : Document :=
  .ofFields [("min", some (.number totals.min)), ("max", some (.number totals.max))]

end CoffeeGrading
