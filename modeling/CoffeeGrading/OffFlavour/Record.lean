import CoffeeGrading.OffFlavour.Observation
import CoffeeGrading.Scale.Record

/-!
Configurations of off-flavours, observations and evaluations as documents.  Rules that switch zero
tolerance on are read without their numeric limits, whatever stands there.
-/

namespace CoffeeGrading

namespace OffFlavourDefinition

def fields : Fields OffFlavourDefinition :=
  OffFlavourDefinition.mk <$> .required "id" Reading.text
    <*> .required "name" Reading.text
    <*> .required "category" (Reading.choice OffFlavourCategory.choices)
    <*> .required "scale" Scale.read
    <*> .optional "description" Reading.text
    <*> .withDefault "display_order" (pure 0) Reading.whole

def read : Document → Reading OffFlavourDefinition :=
  Reading.record "TaintFaultDefinition" fields

def document (definition : OffFlavourDefinition) : Document :=
  .ofFields [
    ("id", some (.text definition.id)),
    ("name", some (.text definition.name)),
    ("category", some (.text definition.category.name)),
    ("scale", some definition.scale.document),
    ("description", definition.description.map .text),
    ("display_order", some (.whole definition.displayOrder))]

end OffFlavourDefinition

namespace OffFlavourRules

def limitKeys : List String :=
  ["max_taints", "max_faults", "max_combined", "max_taint_intensity", "max_fault_intensity"]

def fields : Fields OffFlavourRules :=
  OffFlavourRules.mk <$> .optional "zero_tolerance" Reading.flag
    <*> .optional "max_taints" Reading.whole
    <*> .optional "max_faults" Reading.whole
    <*> .optional "max_combined" Reading.whole
    <*> .optional "max_taint_intensity" Reading.number
    <*> .optional "max_fault_intensity" Reading.number
    <*> .optional "validation_message" Reading.text

def switchesOn (entries : List (String × Document)) : Bool :=
  match Document.lookup? "zero_tolerance" entries with
  | none => false
  | some value =>
    match Reading.flagOf value with
    | .good enabled => enabled
    | .faulty _ => false

def withoutOverruled (entries : List (String × Document)) : List (String × Document) :=
  if switchesOn entries then entries.filter fun (key, _) => !limitKeys.contains key
  else entries

def read : Document → Reading OffFlavourRules
  | .object entries => fields.readEntries (withoutOverruled entries)
  | _ => Reading.fault (.notRecord "TaintFaultValidationRules")

def document (rules : OffFlavourRules) : Document :=
  .ofFields [
    ("zero_tolerance", rules.zeroTolerance.map .flag),
    ("max_taints", rules.maxTaints.map .whole),
    ("max_faults", rules.maxFaults.map .whole),
    ("max_combined", rules.maxCombined.map .whole),
    ("max_taint_intensity", rules.maxTaintIntensity.map .number),
    ("max_fault_intensity", rules.maxFaultIntensity.map .number),
    ("validation_message", rules.validationMessage.map .text)]

end OffFlavourRules

namespace OffFlavourConfiguration

def fields : Fields OffFlavourConfiguration :=
  OffFlavourConfiguration.mk
    <$> .withDefault "taints" (pure []) (Reading.list OffFlavourDefinition.read)
    <*> .withDefault "faults" (pure []) (Reading.list OffFlavourDefinition.read)
    <*> .withDefault "rules" (pure {}) OffFlavourRules.read
    <*> .optional "notes" Reading.text

def read : Document → Reading OffFlavourConfiguration :=
  Reading.record "TaintFaultConfiguration" fields

def document (configuration : OffFlavourConfiguration) : Document :=
  .ofFields [
    ("taints", some (.list (configuration.taints.map OffFlavourDefinition.document))),
    ("faults", some (.list (configuration.faults.map OffFlavourDefinition.document))),
    ("rules", some configuration.rules.document),
    ("notes", configuration.notes.map .text)]

end OffFlavourConfiguration

namespace OffFlavourObservation

def fields : Fields OffFlavourObservation :=
  OffFlavourObservation.mk <$> .required "name" Reading.text
    <*> .required "category" (Reading.choice OffFlavourCategory.choices)
    <*> .required "intensity" Reading.number

def read : Document → Reading OffFlavourObservation :=
  Reading.record "TaintFaultObservation" fields

def document (observation : OffFlavourObservation) : Document :=
  .ofFields [
    ("name", some (.text observation.name)),
    ("category", some (.text observation.category.name)),
    ("intensity", some (.number observation.intensity))]

end OffFlavourObservation

def OffFlavourStats.document (stats : OffFlavourStats) : Document :=
  .ofFields [
    ("total_definitions", some (.whole stats.totalDefinitions)),
    ("taint_count", some (.whole stats.taintCount)),
    ("fault_count", some (.whole stats.faultCount)),
    ("has_validation_rules", some (.flag stats.hasValidationRules)),
    ("zero_tolerance", some (.flag stats.zeroTolerance))]

def OffFlavourEvaluation.document (evaluation : OffFlavourEvaluation) : Document :=
  .ofFields [
    ("valid", some (.flag evaluation.complaints.isEmpty)),
    ("taint_count", some (.whole evaluation.taintCount)),
    ("fault_count", some (.whole evaluation.faultCount)),
    ("errors", some (.list (evaluation.complaints.map .text)))]

end CoffeeGrading
