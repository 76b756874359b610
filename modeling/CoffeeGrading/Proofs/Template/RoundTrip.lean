import CoffeeGrading.Proofs.Registry.Preflight
import CoffeeGrading.Proofs.Template.Written

/-!
What was read is written without loss.  The document of parameters or of a template that came from
a reading reads back as the same value, with every field in its place, so that nothing new is
taken from the supply; a template is judged alike in both forms.
-/

namespace CoffeeGrading

namespace TemplateParameters

/-- Writing parameters that were read is a normal form: reading them back gives the same parameters,
which are written as before. -/
theorem read_written_parameters {document : Document} {supply : Supply Timestamp}
    {parameters : TemplateParameters}
    (parsed : (read document supply).1 = .good parameters) (other : Supply Timestamp) :
    read parameters.document other = (.good parameters, other) ∧
      ∀ again, (read parameters.document other).1 = .good again →
        again.document = parameters.document := by
  have restored : read parameters.document other = (.good parameters, other) :=
    congrFun (read_document (read_writable document supply parameters parsed)) other
  refine ⟨restored, ?_⟩
  intro again same
  rw [restored] at same
  rw [Checked.good.inj same]

def unsettledEntries : Document := .object [
  ("moisture_max", .text " 12.5 "),
  ("max_quakers", .null),
  ("cupping_attributes", .list [.object [
    ("attribute", .text "Body"),
    ("scale", .object [("type", .text "wording"), ("options", .list [.object [
      ("label", .text "Full"), ("value", .whole 8)]])]),
    ("validation_rule", .object [("min_value", .flag true)])]]),
  ("taint_fault_configuration", .object [
    ("taints", .list [.object [
      ("id", .text "t"), ("name", .text "Earthy"), ("category", .text "taint"),
      ("scale", .object [("type", .text "numeric"),
        ("min", .whole 1), ("max", .whole 5), ("increment", .number 0.5)])]]),
    ("rules", .object [("zero_tolerance", .text "yes"), ("max_taints", .text "several")])]),
  ("micro_region_configuration", .object [("requirements", .list [.object [
    ("origin", .text "Peru"),
    ("percentage_per_region", .object [("Cusco", .object []),
      ("Puno", .object [("min", .whole 10), ("max", .null)])])]])])]

theorem unsettledEntries_read :
    ∃ parameters, (read unsettledEntries Payload.newYearSupply).1 = .good parameters :=
  Checked.exists_good (by decide +kernel)

theorem unsettledEntries_settled :
    ∃ parameters, (read unsettledEntries Payload.newYearSupply).1 = .good parameters ∧
      read parameters.document Registry.laterSupply = (.good parameters, Registry.laterSupply) ∧
      ∀ again, (read parameters.document Registry.laterSupply).1 = .good again →
        again.document = parameters.document := by
  obtain ⟨parameters, parsed⟩ := unsettledEntries_read
  exact ⟨parameters, parsed, read_written_parameters parsed Registry.laterSupply⟩

end TemplateParameters

namespace QualityTemplate

open TemplateParameters (unsettledEntries)

theorem unflagged_of_known (entry : String × Document) (known : entry.1 ∈ fields.keys) :
    Payload.isFlag entry = false := by
  have apart : ∀ key ∈ fields.keys, SharingFlags.keys.contains key = false := by decide
  exact apart entry.1 known

/-- Writing a template asks nothing of the supply when it is read back, and leaves nothing for the
judgement of payloads to settle. -/
theorem read_written_template {document : Document} {supply : Supply Timestamp}
    {template : QualityTemplate} (parsed : (read document supply).1 = .good template) :
    (∀ other, read template.document other = (.good template, other)) ∧
      ∃ entries, template.document = .object entries ∧
        ∀ limits other, Payload.validate limits entries other = template.validate limits := by
  have restored := read_document (read_writable document supply template parsed)
  refine ⟨congrFun restored, _, rfl, ?_⟩
  intro limits other
  refine Payload.validate_of_parsed ?_ (congrArg Prod.fst (congrFun restored other)) limits other
  intro entry listed
  have known : entry.1 ∈ fields.keys := Document.key_mem_of_mem_entriesOf listed
  exact unflagged_of_known entry known

def sharedLot : Document := .object [
  ("name", .object [("en", .text "Washed"), ("es", .text "Lavado"), ("pt", .null)]),
  ("origin", .text "Peru"),
  ("version", .text "2"),
  ("sharing", .object [("kind", .text "laboratories"),
    ("laboratory_ids", .list [.text "urn:uuid:00000000-0000-0000-0000-0000000000ab",
      .text "\x7b00000000-0000-0000-0000-0000000000AB\x7d"])]),
  ("created_by", .text "00000000000000000000000000000002"),
  ("created_at", .text "2024-02-29 23:59:59,5-0530"),
  ("parameters", unsettledEntries)]

theorem sharedLot_restored :
    ∃ template, (read sharedLot Payload.newYearSupply).1 = .good template ∧
      (∀ other, read template.document other = (.good template, other)) ∧
      ∃ entries, template.document = .object entries ∧
        ∀ limits other, Payload.validate limits entries other = template.validate limits := by
  have accepted : ((read sharedLot Payload.newYearSupply).1.toExcept.isOk) = true := by
    decide +kernel
  obtain ⟨template, parsed⟩ := Checked.exists_good accepted
  exact ⟨template, parsed, read_written_template parsed⟩

end QualityTemplate
end CoffeeGrading
