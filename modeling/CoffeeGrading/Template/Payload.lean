import CoffeeGrading.Template.Validation

/-!
Validation of templates that arrive as documents.  A payload may state its sharing scope as an
object or as a flag and a list of laboratories; the flags are turned into the object before the
template is read.  Whatever is wrong with the document is part of the report, and a payload whose
flags make no sense is still read without them, so that one pass reports everything.
-/

namespace CoffeeGrading.Payload

inductive FlagFault where
  | besideSharing
  | invalid (faults : List Fault)
  | conflict (reason : SharingConflict)

def FlagFault.messages : FlagFault → List String
  | besideSharing => ["Provide either sharing or is_global/laboratory_ids, not both"]
  | invalid faults => faults.map Fault.message
  | conflict .globalWithLaboratories =>
    ["A global template cannot also be assigned to specific laboratories"]

def isFlag (entry : String × Document) : Bool :=
  SharingFlags.keys.contains entry.1

def scopeOfFlags (entries : List (String × Document)) (supply : Supply Timestamp) :
    Except FlagFault SharingScope := do
  let flags ← (SharingFlags.fields.readEntries entries supply).1.toExcept.mapError .invalid
  flags.scope.mapError .conflict

/-- The entries with a sharing object in place of the flags, and without either where the flags
are faulty. -/
def settle (entries : List (String × Document)) (supply : Supply Timestamp) :
    Option FlagFault × List (String × Document) :=
  let flags := entries.filter isFlag
  let others := entries.filter fun entry => !isFlag entry
  if flags.isEmpty then (none, entries)
  else if (Document.lookup? "sharing" others).isSome then
    (some .besideSharing, Document.erase "sharing" others)
  else
    match scopeOfFlags flags supply with
    | .ok scope => (none, others ++ [("sharing", scope.document)])
    | .error fault => (some fault, others)

/-- Judges the template that settled entries describe.  Faults of the document are the errors of
the report. -/
def judge (limits : Limits) (entries : List (String × Document)) (supply : Supply Timestamp) :
    Except ValidationFault TemplateReport :=
  match (QualityTemplate.fields.readEntries entries supply).1 with
  | .faulty faults => .ok { errors := faults.map Fault.message, warnings := [] }
  | .good template => template.validate limits

def validate (limits : Limits) (entries : List (String × Document))
    (supply : Supply Timestamp) : Except ValidationFault TemplateReport := do
  let (fault, entries) := settle entries supply
  let report ← judge limits entries supply
  let flagErrors := (fault.map FlagFault.messages).getD []
  .ok { report with errors := flagErrors ++ report.errors }

end CoffeeGrading.Payload
