import CoffeeGrading.Amendment
import CoffeeGrading.Template

/-!
Amendments of scales, configurations and templates.  The names of fields are those of the
documents.
-/

namespace CoffeeGrading

open Amendable

/-! ### Scales -/

instance : Amendable NumericScale where
  amend path leaf range := match path with
    | .field "min" :: rest => (amend rest leaf range.min).map ({ range with min := · })
    | .field "max" :: rest => (amend rest leaf range.max).map ({ range with max := · })
    | .field "increment" :: rest =>
      (amend rest leaf range.increment).map ({ range with increment := · })
    | _ => none

instance : Amendable WordingOption where
  amend path leaf option := match path with
    | .field "label" :: rest => (amend rest leaf option.label).map ({ option with label := · })
    | .field "value" :: rest => (amend rest leaf option.value).map ({ option with value := · })
    | .field "display_order" :: rest =>
      (amend rest leaf option.displayOrder).map ({ option with displayOrder := · })
    | _ => none

instance : Amendable Scale where
  amend path leaf scale := match scale, path with
    | .numeric range, path => (amend path leaf range).map .numeric
    | .wording options, .field "options" :: rest => (amend rest leaf options).map .wording
    | _, _ => none

instance : Amendable ScoreRule where
  amend path leaf rule := match path with
    | .field "min_value" :: rest =>
      (amend rest leaf rule.minValue).map ({ rule with minValue := · })
    | .field "validation_message" :: rest =>
      (amend rest leaf rule.validationMessage).map ({ rule with validationMessage := · })
    | _ => none

/-! ### Screen sizes -/

instance : Amendable ScreenConstraint where
  amend path leaf constraint := match path with
    | .field "screen_size" :: rest =>
      (amend rest leaf constraint.screenSize).map ({ constraint with screenSize := · })
    | .field "min_value" :: rest =>
      (amend rest leaf constraint.minValue).map ({ constraint with minValue := · })
    | .field "max_value" :: rest =>
      (amend rest leaf constraint.maxValue).map ({ constraint with maxValue := · })
    | .field "display_order" :: rest =>
      (amend rest leaf constraint.displayOrder).map ({ constraint with displayOrder := · })
    | _ => none

instance : Amendable ScreenRequirements where
  amend path leaf requirements := match path with
    | .field "constraints" :: rest =>
      (amend rest leaf requirements.constraints).map ({ requirements with constraints := · })
    | .field "notes" :: rest =>
      (amend rest leaf requirements.notes).map ({ requirements with notes := · })
    | _ => none

/-! ### Aspects -/

instance : Amendable AspectWording where
  amend path leaf wording := match path with
    | .field "id" :: rest => (amend rest leaf wording.id).map ({ wording with id := · })
    | .field "label" :: rest => (amend rest leaf wording.label).map ({ wording with label := · })
    | .field "value" :: rest => (amend rest leaf wording.value).map ({ wording with value := · })
    | .field "display_order" :: rest =>
      (amend rest leaf wording.displayOrder).map ({ wording with displayOrder := · })
    | .field "description" :: rest =>
      (amend rest leaf wording.description).map ({ wording with description := · })
    | _ => none

instance : Amendable AspectThreshold where
  amend path leaf threshold := match path with
    | .field "min_acceptable_value" :: rest =>
      (amend rest leaf threshold.minAcceptableValue).map
        ({ threshold with minAcceptableValue := · })
    | .field "validation_message" :: rest =>
      (amend rest leaf threshold.validationMessage).map
        ({ threshold with validationMessage := · })
    | _ => none

instance : Amendable AspectConfiguration where
  amend path leaf configuration := match path with
    | .field "wordings" :: rest =>
      (amend rest leaf configuration.wordings).map ({ configuration with wordings := · })
    | .field "validation" :: rest =>
      (amendOptional rest leaf configuration.threshold).map
        ({ configuration with threshold := · })
    | .field "notes" :: rest =>
      (amend rest leaf configuration.notes).map ({ configuration with notes := · })
    | _ => none

/-! ### Defects -/

instance : Amendable DefectDefinition where
  amend path leaf definition := match path with
    | .field "name" :: rest =>
      (amend rest leaf definition.name).map ({ definition with name := · })
    | .field "weight" :: rest =>
      (amend rest leaf definition.weight).map ({ definition with weight := · })
    | .field "display_order" :: rest =>
      (amend rest leaf definition.displayOrder).map ({ definition with displayOrder := · })
    | .field "description" :: rest =>
      (amend rest leaf definition.description).map ({ definition with description := · })
    | _ => none

instance : Amendable DefectThresholds where
  amend path leaf thresholds := match path with
    | .field "max_primary" :: rest =>
      (amend rest leaf thresholds.maxPrimary).map ({ thresholds with maxPrimary := · })
    | .field "max_secondary" :: rest =>
      (amend rest leaf thresholds.maxSecondary).map ({ thresholds with maxSecondary := · })
    | .field "max_total" :: rest =>
      (amend rest leaf thresholds.maxTotal).map ({ thresholds with maxTotal := · })
    | _ => none

instance : Amendable DefectConfiguration where
  amend path leaf configuration := match path with
    | .field "defects" :: rest =>
      (amend rest leaf configuration.defects).map ({ configuration with defects := · })
    | .field "thresholds" :: rest =>
      (amend rest leaf configuration.thresholds).map ({ configuration with thresholds := · })
    | .field "notes" :: rest =>
      (amend rest leaf configuration.notes).map ({ configuration with notes := · })
    | _ => none

/-! ### Off-flavours -/

instance : Amendable OffFlavourDefinition where
  amend path leaf definition := match path with
    | .field "id" :: rest => (amend rest leaf definition.id).map ({ definition with id := · })
    | .field "name" :: rest =>
      (amend rest leaf definition.name).map ({ definition with name := · })
    | .field "scale" :: rest =>
      (amend rest leaf definition.scale).map ({ definition with scale := · })
    | .field "description" :: rest =>
      (amend rest leaf definition.description).map ({ definition with description := · })
    | .field "display_order" :: rest =>
      (amend rest leaf definition.displayOrder).map ({ definition with displayOrder := · })
    | _ => none

instance : Amendable OffFlavourRules where
  amend path leaf rules := match path with
    | .field "zero_tolerance" :: rest =>
      (amend rest leaf rules.zeroTolerance).map ({ rules with zeroTolerance := · })
    | .field "max_taints" :: rest =>
      (amend rest leaf rules.maxTaints).map ({ rules with maxTaints := · })
    | .field "max_faults" :: rest =>
      (amend rest leaf rules.maxFaults).map ({ rules with maxFaults := · })
    | .field "max_combined" :: rest =>
      (amend rest leaf rules.maxCombined).map ({ rules with maxCombined := · })
    | .field "max_taint_intensity" :: rest =>
      (amend rest leaf rules.maxTaintIntensity).map ({ rules with maxTaintIntensity := · })
    | .field "max_fault_intensity" :: rest =>
      (amend rest leaf rules.maxFaultIntensity).map ({ rules with maxFaultIntensity := · })
    | .field "validation_message" :: rest =>
      (amend rest leaf rules.validationMessage).map ({ rules with validationMessage := · })
    | _ => none

instance : Amendable OffFlavourConfiguration where
  amend path leaf configuration := match path with
    | .field "taints" :: rest =>
      (amend rest leaf configuration.taints).map ({ configuration with taints := · })
    | .field "faults" :: rest =>
      (amend rest leaf configuration.faults).map ({ configuration with faults := · })
    | .field "rules" :: rest =>
      (amend rest leaf configuration.rules).map ({ configuration with rules := · })
    | .field "notes" :: rest =>
      (amend rest leaf configuration.notes).map ({ configuration with notes := · })
    | _ => none

/-! ### Cupping and micro-regions -/

instance : Amendable CuppingAttribute where
  amend path leaf item := match path with
    | .field "attribute" :: rest => (amend rest leaf item.name).map ({ item with name := · })
    | .field "scale" :: rest => (amend rest leaf item.scale).map ({ item with scale := · })
    | .field "is_required" :: rest =>
      (amend rest leaf item.isRequired).map ({ item with isRequired := · })
    | .field "validation_rule" :: rest =>
      (amendOptional rest leaf item.rule).map ({ item with rule := · })
    | _ => none

instance : Amendable RegionShare where
  amend path leaf share := match path with
    | .field "min" :: rest => (amend rest leaf share.min).map ({ share with min := · })
    | .field "max" :: rest => (amend rest leaf share.max).map ({ share with max := · })
    | _ => none

def RegionShares.amendRegion (region : String) (path : List Step) (leaf : Document) :
    List (String × RegionShare) → Option (List (String × RegionShare))
  | [] => none
  | (name, share) :: others =>
    if name = region then (amend path leaf share).map fun share => (name, share) :: others
    else (amendRegion region path leaf others).map ((name, share) :: ·)

instance : Amendable RegionShares where
  amend path leaf shares := match path with
    | .field region :: rest =>
      (RegionShares.amendRegion region rest leaf shares.entries).map RegionShares.mk
    | _ => none

instance : Amendable MicroRegionRequirement where
  amend path leaf requirement := match path with
    | .field "origin" :: rest =>
      (amend rest leaf requirement.origin).map ({ requirement with origin := · })
    | .field "required_micro_regions" :: rest =>
      (amend rest leaf requirement.requiredMicroRegions).map
        ({ requirement with requiredMicroRegions := · })
    | .field "percentage_per_region" :: rest =>
      (amendOptional rest leaf requirement.percentagePerRegion).map
        ({ requirement with percentagePerRegion := · })
    | .field "allow_mix" :: rest =>
      (amend rest leaf requirement.allowMix).map ({ requirement with allowMix := · })
    | .field "notes" :: rest =>
      (amend rest leaf requirement.notes).map ({ requirement with notes := · })
    | _ => none

instance : Amendable MicroRegionConfiguration where
  amend path leaf configuration := match path with
    | .field "requirements" :: rest =>
      (amend rest leaf configuration.requirements).map
        ({ configuration with requirements := · })
    | _ => none

/-! ### Templates -/

instance : Amendable LocalizedText where
  amend path leaf text := match path with
    | .field "en" :: rest => (amend rest leaf text.en).map ({ text with en := · })
    | .field "pt" :: rest => (amend rest leaf text.pt).map ({ text with pt := · })
    | .field "es" :: rest => (amend rest leaf text.es).map ({ text with es := · })
    | _ => none

instance : Amendable TemplateParameters where
  amend path leaf parameters := match path with
    | .field "sample_size_grams" :: rest =>
      (amend rest leaf parameters.sampleSizeGrams).map
        ({ parameters with sampleSizeGrams := · })
    | .field "screen_size_requirements" :: rest =>
      (amend rest leaf parameters.screenSizeRequirements).map
        ({ parameters with screenSizeRequirements := · })
    | .field "green_aspect_configuration" :: rest =>
      (amendOptional rest leaf parameters.greenAspectConfiguration).map
        ({ parameters with greenAspectConfiguration := · })
    | .field "defect_configuration" :: rest =>
      (amendOptional rest leaf parameters.defectConfiguration).map
        ({ parameters with defectConfiguration := · })
    | .field "moisture_min" :: rest =>
      (amend rest leaf parameters.moistureMin).map ({ parameters with moistureMin := · })
    | .field "moisture_max" :: rest =>
      (amend rest leaf parameters.moistureMax).map ({ parameters with moistureMax := · })
    | .field "roast_aspect_configuration" :: rest =>
      (amendOptional rest leaf parameters.roastAspectConfiguration).map
        ({ parameters with roastAspectConfiguration := · })
    | .field "roast_sample_size_grams" :: rest =>
      (amend rest leaf parameters.roastSampleSizeGrams).map
        ({ parameters with roastSampleSizeGrams := · })
    | .field "max_quakers" :: rest =>
      (amend rest leaf parameters.maxQuakers).map ({ parameters with maxQuakers := · })
    | .field "cupping_attributes" :: rest =>
      (amend rest leaf parameters.cuppingAttributes).map
        ({ parameters with cuppingAttributes := · })
    | .field "taint_fault_configuration" :: rest =>
      (amendOptional rest leaf parameters.taintFaultConfiguration).map
        ({ parameters with taintFaultConfiguration := · })
    | .field "micro_region_configuration" :: rest =>
      (amendOptional rest leaf parameters.microRegionConfiguration).map
        ({ parameters with microRegionConfiguration := · })
    | _ => none

instance : Amendable QualityTemplate where
  amend path leaf template := match path with
    | .field "name" :: rest => (amend rest leaf template.name).map ({ template with name := · })
    | .field "description" :: rest =>
      (amendOptional rest leaf template.description).map ({ template with description := · })
    | .field "origin" :: rest =>
      (amend rest leaf template.origin).map ({ template with origin := · })
    | .field "version" :: rest =>
      (amend rest leaf template.version).map ({ template with version := · })
    | .field "parameters" :: rest =>
      (amend rest leaf template.parameters).map ({ template with parameters := · })
    | .field "is_active" :: rest =>
      (amend rest leaf template.isActive).map ({ template with isActive := · })
    | _ => none

end CoffeeGrading
