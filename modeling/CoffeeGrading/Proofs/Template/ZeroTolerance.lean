import CoffeeGrading.Proofs.OffFlavour.Editing
import CoffeeGrading.Proofs.Template.Judgeable
import CoffeeGrading.Proofs.Template.Messages

/-!
Zero tolerance in templates.  Wherever rules come from, zero tolerance that is switched on stands
alone in them, so that no payload is ever told of limits beside it: the template that is judged has
no such rules, and no other message of a report has that text.
-/

namespace CoffeeGrading

open OffFlavourRules (ReadFrom)

/-! ### Reports -/

theorem OffFlavourRules.Settled.flaw?_ne {rules : OffFlavourRules} (settled : rules.Settled) :
    rules.flaw? ≠ some .limitsUnderZeroTolerance := by
  have apart : (rules.isZeroTolerance && rules.hasLimits) = false := by
    cases zero : rules.isZeroTolerance with
    | true => simp [settled zero]
    | false => rfl
  simp only [flaw?, apart, Bool.false_eq_true, if_false]
  repeat' split
  all_goals simp

theorem OffFlavourConfiguration.listFlaw?_ne (list : OffFlavourCategory)
    (definitions : List OffFlavourDefinition) :
    listFlaw? list definitions ≠ some .limitsUnderZeroTolerance := by
  simp only [listFlaw?]
  split
  · simp
  · split
    · simp
    · split
      · simp
      · intro found
        obtain ⟨definition, _, flawed⟩ := List.exists_of_findSome?_eq_some found
        obtain ⟨_, _, same⟩ := Option.map_eq_some_iff.1 flawed
        cases same

theorem OffFlavourConfiguration.flaw?_ne {configuration : OffFlavourConfiguration}
    (settled : configuration.rules.Settled) :
    configuration.flaw? ≠ some .limitsUnderZeroTolerance := by
  intro found
  simp only [flaw?, Option.or_eq_some_iff] at found
  rcases found with taints | ⟨_, faults | ⟨_, rules⟩⟩
  · exact listFlaw?_ne _ _ taints
  · exact listFlaw?_ne _ _ faults
  · exact settled.flaw?_ne rules

theorem QualityTemplate.not_mem_flaws {limits : Limits} {template : QualityTemplate}
    {flaws : List TemplateFlaw}
    (settled : ∀ configuration, template.parameters.taintFaultConfiguration = some configuration →
      configuration.rules.Settled)
    (answer : template.flaws limits = .ok flaws) :
    .offFlavours .limitsUnderZeroTolerance ∉ flaws := by
  intro listed
  obtain ⟨searched, rfl⟩ := flaws_eq_found answer
  obtain ⟨part, _, found⟩ := List.mem_filterMap.1 listed
  obtain ⟨flaw, partAnswer⟩ := searched part
  simp only [found?, partAnswer] at found
  subst found
  obtain rfl : .offFlavours = part := part_of_partFlaw partAnswer
  obtain ⟨flaw, flawed, same⟩ := Option.map_eq_some_iff.1 (Except.ok.inj partAnswer)
  obtain rfl := TemplateFlaw.offFlavours.inj same
  obtain ⟨configuration, filled, flawed⟩ := Option.bind_eq_some_iff.1 flawed
  obtain ⟨given, _⟩ := Option.filter_eq_some_iff.1 filled
  exact OffFlavourConfiguration.flaw?_ne (settled configuration given) flawed

namespace Payload

def contradictionTexts : List String :=
  [OffFlavourFlaw.limitsUnderZeroTolerance.message,
    (TemplateFlaw.offFlavours .limitsUnderZeroTolerance).message]

theorem initial_not_mem {text : String} (listed : text ∈ contradictionTexts) (cause : Cause) :
    cause.initial ∉ text.toList := by
  have among : cause.initial ∈ ['E', 'F', 'I', 'L', 'U'] := by
    cases cause <;> simp [Cause.initial]
  have bare : cause.initial ∉ OffFlavourFlaw.limitsUnderZeroTolerance.message.toList :=
    not_mem_ofList (by decide) among
  have heading : cause.initial ∉ "Taints/faults: ".toList :=
    not_mem_ofList (by decide) among
  rcases List.mem_cons.1 listed with rfl | listed
  · exact bare
  · have headed : text = "Taints/faults: " ++ OffFlavourFlaw.limitsUnderZeroTolerance.message :=
      List.mem_singleton.1 listed
    rw [headed, String.toList_append, List.mem_append]
    exact not_or.2 ⟨heading, bare⟩

theorem fault_message_not_mem (fault : Fault) : fault.message ∉ contradictionTexts :=
  fun listed => initial_not_mem listed fault.cause fault.initial_mem_message

theorem flag_messages_apart (fault : FlagFault) :
    ∀ text ∈ fault.messages, text ∉ contradictionTexts := by
  intro text told
  cases fault with
  | besideSharing =>
      obtain rfl := List.mem_singleton.1 told
      decide
  | invalid faults =>
      obtain ⟨fault, _, rfl⟩ := List.mem_map.1 told
      exact fault_message_not_mem fault
  | conflict reason =>
      cases reason
      obtain rfl := List.mem_singleton.1 told
      decide

theorem validate_apart {limits : Limits} {template : QualityTemplate} {report : TemplateReport}
    (settled : ∀ configuration, template.parameters.taintFaultConfiguration = some configuration →
      configuration.rules.Settled)
    (returned : template.validate limits = .ok report) :
    ∀ text ∈ report.errors, text ∉ contradictionTexts := by
  obtain ⟨flaws, answer, errors⟩ := QualityTemplate.flaws_of_validate returned
  rw [errors, List.forall_mem_map]
  intro flaw found listed
  rcases List.mem_cons.1 listed with bare | listed
  · exact flaw.message_ne bare
  · have same : flaw.message = (TemplateFlaw.offFlavours .limitsUnderZeroTolerance).message :=
      List.mem_singleton.1 listed
    obtain rfl := TemplateFlaw.eq_of_message same
    exact QualityTemplate.not_mem_flaws settled answer found

theorem errors_apart {limits : Limits} {entries : List (String × Document)}
    {supply : Supply Timestamp} {report : TemplateReport}
    (returned : validate limits entries supply = .ok report) :
    ∀ text ∈ report.errors, text ∉ contradictionTexts := by
  simp only [validate] at returned
  obtain ⟨judged, judgement, done⟩ := exists_of_bind_eq_ok returned
  obtain rfl := Except.ok.inj done
  have judged_apart : ∀ text ∈ judged.errors, text ∉ contradictionTexts := by
    unfold judge at judgement
    split at judgement
    · obtain rfl := Except.ok.inj judgement
      exact List.forall_mem_map.2 fun fault _ => fault_message_not_mem fault
    · next template good =>
        have writable := QualityTemplate.read_writable (.object _) supply template good
        exact validate_apart writable.parameters.settled judgement
  refine List.forall_mem_append.2 ⟨?_, judged_apart⟩
  cases (settle entries supply).1 with
  | none => exact fun text told => absurd told List.not_mem_nil
  | some fault => exact flag_messages_apart fault

end Payload

/-! ### Everywhere -/

/-- Configurations to start from: read from a document, or predefined, with the identifiers of the
definitions as they are or renewed. -/
inductive OffFlavourConfiguration.Offered : OffFlavourConfiguration → Prop
  | parsed (parsed : Parsed OffFlavourConfiguration.read) : Offered parsed.value
  | preset {template : OffFlavourTemplate} :
      template ∈ OffFlavourTemplate.catalogue → Offered template.configuration
  | loaded {fresh : Nat → Identifier} {id : String} {configuration : OffFlavourConfiguration} :
      OffFlavourTemplate.load fresh id = .ok configuration → Offered configuration

theorem OffFlavourConfiguration.Offered.writable {configuration : OffFlavourConfiguration}
    (offered : configuration.Offered) : configuration.Writable := by
  cases offered with
  | parsed parsed => exact parsed.fits read_writable
  | preset listed => exact OffFlavourTemplate.catalogue_writable _ listed
  | loaded loaded => exact OffFlavourTemplate.load_writable loaded

/-- Zero tolerance and limits never meet: not in rules that are read, where the limits are otherwise
left as they are given, not in configurations that are edited, and in no report. -/
theorem zero_tolerance_stands_alone :
    (∀ document, (OffFlavourRules.read document).Yields (ReadFrom (some document))) ∧
    (∀ document, (OffFlavourConfiguration.read document).Yields fun configuration =>
      ReadFrom (document.at? ["rules"]) configuration.rules) ∧
    (∀ document, (QualityTemplate.read document).Yields fun template =>
      RulesReadFrom (document.at? ["parameters", "taint_fault_configuration", "rules"])
        template.parameters.taintFaultConfiguration) ∧
    (∀ start : OffFlavourConfiguration, start.Offered → start.rules.Settled ∧
      ∀ edits, ∀ outcome ∈ carriedOut OffFlavourConfiguration.perform start edits,
        outcome.2.rules.Settled) ∧
    ∀ limits entries supply report, Payload.validate limits entries supply = .ok report →
      ∀ text ∈ report.errors, text ∉ Payload.contradictionTexts := by
  refine ⟨OffFlavourRules.read_yields_from, OffFlavourConfiguration.rules_read_from,
    QualityTemplate.rules_read_from, ?_, fun _ _ _ _ => Payload.errors_apart⟩
  intro start offered
  refine ⟨offered.writable.settled, fun edits outcome listed => ?_⟩
  have step : ∀ configuration edit next, OffFlavourConfiguration.Writable configuration →
      configuration.perform edit = some next → next.Writable :=
    fun _ _ _ writable performed => writable.perform performed
  exact (forall_carriedOut step offered.writable edits outcome listed).settled

def strictRules : List (String × Document) := [
  ("max_taints", .whole 2), ("zero_tolerance", .text "ON"), ("max_fault_intensity", .text "1.5")]

def lenientRules : List (String × Document) := [
  ("zero_tolerance", .whole 0), ("max_taints", .text "2")]

def strictPayload : List (String × Document) := [
  ("name", .object [("en", .text "Strict")]),
  ("origin", .text "Brazil"),
  ("created_by", .text "00000000-0000-0000-0000-000000000001"),
  ("parameters", .object [
    ("taint_fault_configuration", .object [("rules", .object strictRules)])])]

def strictReport : TemplateReport where
  errors := ["At least one screen size constraint is required",
    "At least one cupping attribute is required"]
  warnings := []

def strictEdits : List OffFlavourEdit := [
  .setRules ⟨_, .object lenientRules, Payload.newYearSupply, rfl⟩,
  .setZeroTolerance true,
  .setRules ⟨_, .object strictRules, Payload.newYearSupply, rfl⟩]

theorem strict_rules_stand_alone :
    (OffFlavourRules.read (.object strictRules) Payload.newYearSupply).1 =
        .good { zeroTolerance := some true } ∧
      ReadFrom (some (.object strictRules)) { zeroTolerance := some true } ∧
    (OffFlavourRules.read (.object lenientRules) Payload.newYearSupply).1 =
        .good { zeroTolerance := some false, maxTaints := some 2 } ∧
      ReadFrom (some (.object lenientRules)) { zeroTolerance := some false, maxTaints := some 2 } ∧
    OffFlavourConfiguration.Offered {} ∧
      (∀ outcome ∈ carriedOut OffFlavourConfiguration.perform {} strictEdits,
        outcome.2.rules.Settled) ∧
    Payload.validate {} strictPayload Payload.newYearSupply = .ok strictReport ∧
      ∀ text ∈ strictReport.errors, text ∉ Payload.contradictionTexts := by
  obtain ⟨rules, _, _, sessions, reports⟩ := zero_tolerance_stands_alone
  have offered : OffFlavourConfiguration.Offered {} :=
    .parsed ⟨_, .object [], Payload.newYearSupply, rfl⟩
  exact ⟨rfl, rules _ Payload.newYearSupply _ rfl, rfl, rules _ Payload.newYearSupply _ rfl,
    offered, (sessions _ offered).2 strictEdits, rfl,
    reports {} strictPayload Payload.newYearSupply strictReport rfl⟩

end CoffeeGrading
