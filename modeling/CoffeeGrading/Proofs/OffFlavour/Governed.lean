import CoffeeGrading.Proofs.Document.Given
import CoffeeGrading.Template

/-!
What zero tolerance does to the rules that are read.  The entries are searched for a flag before
they are read, to leave out the limits that it overrules, and the flag is read with them: both times
the same entry is found and taken for the same, so that zero tolerance never meets a limit, and
without it no limit is lost.  So it is wherever rules stand in the document of a template.
-/

namespace CoffeeGrading

open Document (lookup?)
open Reading (Given)

namespace OffFlavourRules

variable {entries : List (String × Document)}

structure LimitsGiven (entries : List (String × Document)) (rules : OffFlavourRules) : Prop where
  taints : Given Reading.whole (lookup? "max_taints" entries) rules.maxTaints
  faults : Given Reading.whole (lookup? "max_faults" entries) rules.maxFaults
  combined : Given Reading.whole (lookup? "max_combined" entries) rules.maxCombined
  taintIntensity :
    Given Reading.number (lookup? "max_taint_intensity" entries) rules.maxTaintIntensity
  faultIntensity :
    Given Reading.number (lookup? "max_fault_intensity" entries) rules.maxFaultIntensity

/-- Rules that the entries give: the flag as its entry reads, and under zero tolerance no limit,
otherwise the limits as they are. -/
structure Governed (entries : List (String × Document)) (rules : OffFlavourRules) : Prop where
  flag : Given Reading.flag (lookup? "zero_tolerance" entries) rules.zeroTolerance
  overruled : rules.zeroTolerance = some true → rules.hasLimits = false
  kept : rules.zeroTolerance ≠ some true → LimitsGiven entries rules

theorem switchesOn_iff {zeroTolerance : Option Bool}
    (given : Given Reading.flag (lookup? "zero_tolerance" entries) zeroTolerance) :
    switchesOn entries = true ↔ zeroTolerance = some true := by
  rw [switchesOn]
  cases entry : lookup? "zero_tolerance" entries with
  | none =>
      rw [entry] at given
      cases given with
      | absent => simp
  | some document =>
      rw [entry] at given
      cases given with
      | null => simp [Reading.flagOf]
      | read _ good =>
          have read : Reading.flagOf document = .good _ := good
          simp [read]

theorem lookup?_zeroTolerance (entries : List (String × Document)) :
    lookup? "zero_tolerance" (withoutOverruled entries) = lookup? "zero_tolerance" entries := by
  rw [withoutOverruled]
  split
  · exact Document.lookup?_filter_of_kept (fun _ => by simp [limitKeys]) entries
  · rfl

theorem flag_yields (entries : List (String × Document)) :
    ((Fields.optional "zero_tolerance" Reading.flag).read (withoutOverruled entries)).Yields
      (Given Reading.flag (lookup? "zero_tolerance" entries)) := by
  rw [← lookup?_zeroTolerance]
  exact Fields.optional_given _ _ _

def LimitTaken {Value : Type} (entries : List (String × Document)) (key : String)
    (readLimit : Document → Reading Value) (limit : Option Value) : Prop :=
  (switchesOn entries = true → limit = none) ∧
    (switchesOn entries = false → Given readLimit (lookup? key entries) limit)

theorem limit_yields {key : String} (limiting : key ∈ limitKeys) {Value : Type}
    (readLimit : Document → Reading Value) :
    ((Fields.optional key readLimit).read (withoutOverruled entries)).Yields
      (LimitTaken entries key readLimit) := by
  cases switched : switchesOn entries with
  | true =>
      have dropped : lookup? key (withoutOverruled entries) = none := by
        rw [withoutOverruled, if_pos switched]
        exact Document.lookup?_filter_of_dropped (fun _ => by simp [limiting]) entries
      rw [Fields.optional_read_of_none dropped]
      exact .pure ⟨fun _ => rfl, fun off => by simp [switched] at off⟩
  | false =>
      have all : withoutOverruled entries = entries := by simp [withoutOverruled, switched]
      rw [all]
      refine .imp ?_ (Fields.optional_given key readLimit entries)
      intro limit given
      exact ⟨fun on => by simp [switched] at on, fun _ => given⟩

theorem fields_yield_governed (entries : List (String × Document)) :
    (fields.read (withoutOverruled entries)).Yields (Governed entries) := by
  refine .seq (.seq (.seq (.seq (.seq (.seq (.map ?_ (flag_yields entries))
    (limit_yields (by decide) _)) (limit_yields (by decide) _)) (limit_yields (by decide) _))
    (limit_yields (by decide) _)) (limit_yields (by decide) _)) .anything
  intro zeroTolerance flag maxTaints taints maxFaults faults maxCombined combined
    maxTaintIntensity taintIntensity maxFaultIntensity faultIntensity message _
  have agree := switchesOn_iff flag
  refine ⟨flag, ?_, ?_⟩
  · intro on
    have switched := agree.2 on
    simp [hasLimits, taints.1 switched, faults.1 switched, combined.1 switched,
      taintIntensity.1 switched, faultIntensity.1 switched]
  · intro off
    have switched : switchesOn entries = false := by simpa using mt agree.1 off
    exact ⟨taints.2 switched, faults.2 switched, combined.2 switched,
      taintIntensity.2 switched, faultIntensity.2 switched⟩

/-- Rules with the document that they are read from, if there is one. -/
inductive ReadFrom : Option Document → OffFlavourRules → Prop
  | absent : ReadFrom none {}
  | object {entries : List (String × Document)} {rules : OffFlavourRules} :
      Governed entries rules → ReadFrom (some (.object entries)) rules

theorem read_yields_from (document : Document) :
    (read document).Yields (ReadFrom (some document)) := by
  cases document with
  | object entries =>
      exact .imp (fun _ governed => .object governed)
        (Fields.readEntries_yields (fields_yield_governed entries))
  | _ => exact .fault _

end OffFlavourRules

theorem OffFlavourConfiguration.rules_read_from (document : Document) :
    (read document).Yields fun configuration =>
      OffFlavourRules.ReadFrom (document.at? ["rules"]) configuration.rules := by
  cases document with
  | object entries =>
      apply Fields.readEntries_yields
      refine .seq (.seq (.seq (.map ?_ .anything) .anything)
        (Fields.withDefault_yields_from _ entries OffFlavourRules.ReadFrom (.pure .absent)
          OffFlavourRules.read_yields_from)) .anything
      intro _ _ _ _ rules source _ _
      simpa [Document.at?] using source
  | _ => exact .fault _

/-! ### Templates -/

def RulesReadFrom (entry : Option Document) (configuration : Option OffFlavourConfiguration) :
    Prop :=
  ∀ set, configuration = some set → OffFlavourRules.ReadFrom entry set.rules

theorem RulesReadFrom.unset (entry : Option Document) : RulesReadFrom entry none := by
  intro set given
  cases given

theorem OffFlavourConfiguration.optional_rules_read_from (key : String)
    (entries : List (String × Document)) :
    ((Fields.optional key read).read entries).Yields
      (RulesReadFrom ((Document.lookup? key entries).bind (Document.at? ["rules"]))) := by
  refine Fields.optional_yields_from
    (fun entry => RulesReadFrom (entry.bind (Document.at? ["rules"]))) (.unset _) (.unset _) ?_
  intro document _
  refine .imp ?_ (rules_read_from document)
  intro configuration source set same
  obtain rfl := Option.some.inj same
  exact source

theorem TemplateParameters.rules_read_from (document : Document) :
    (read document).Yields fun parameters =>
      RulesReadFrom (document.at? ["taint_fault_configuration", "rules"])
        parameters.taintFaultConfiguration := by
  cases document with
  | object entries =>
      apply Fields.readEntries_yields
      refine .seq (.seq (.seq (.seq (.seq (.seq (.seq (.seq (.seq (.seq (.seq (.seq (.map ?_
        .anything) .anything) .anything) .anything) .anything) .anything) .anything) .anything)
        .anything) .anything) .anything)
        (OffFlavourConfiguration.optional_rules_read_from _ entries)) .anything
      intro _ _ _ _ _ _ _ _ _ _ _ _ _ _ _ _ _ _ _ _ _ _ offFlavours source _ _
      exact source
  | _ => exact .fault _

theorem QualityTemplate.rules_read_from (document : Document) :
    (read document).Yields fun template =>
      RulesReadFrom (document.at? ["parameters", "taint_fault_configuration", "rules"])
        template.parameters.taintFaultConfiguration := by
  cases document with
  | object entries =>
      apply Fields.readEntries_yields
      have default_unset : (pure {} : Reading TemplateParameters).Yields fun parameters =>
          RulesReadFrom none parameters.taintFaultConfiguration := .pure (.unset _)
      have parameters_from := Fields.withDefault_yields_from "parameters" entries
        (fun entry parameters =>
          RulesReadFrom (entry.bind (Document.at? ["taint_fault_configuration", "rules"]))
            (TemplateParameters.taintFaultConfiguration parameters))
        default_unset TemplateParameters.rules_read_from
      refine .seq (.seq (.seq (.seq (.seq (.seq (.seq (.seq (.seq (.seq (.seq (.map ?_ .anything)
        .anything) .anything) .anything) .anything) parameters_from)
        .anything) .anything) .anything) .anything) .anything) .anything
      intro _ _ _ _ _ _ _ _ _ _ parameters source _ _ _ _ _ _ _ _ _ _ _ _
      exact source
  | _ => exact .fault _

end CoffeeGrading
