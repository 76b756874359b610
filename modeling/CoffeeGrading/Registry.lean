import CoffeeGrading.Keyed
import CoffeeGrading.Template.Validation
import CoffeeGrading.Template.Version

/-!
The registry of templates: the current revision of each template, and a history of versions for
each, to which records are only ever added.  A revision is stored only if it is valid; a version is
recorded whenever the parameters of a template are new.  The revision is stored first and the
version after it, so an operation that failed between the two would leave its trace.
-/

namespace CoffeeGrading

inductive RegistryFault where
  | unknown (id : Identifier)
  | taken (id : Identifier)
  | invalid (id : Identifier) (errors : List String)
  | unjudged (reason : ValidationFault)
  | unrecorded (faults : List Fault)

def RegistryFault.message : RegistryFault → String
  | unknown id => s!"Template {id.text} not found."
  | taken id => s!"Template {id.text} is already registered."
  | invalid id errors => s!"Template {id.text} is invalid: " ++ "; ".intercalate errors
  | unjudged reason => reason.message
  | unrecorded faults => Fault.messages faults

/-- The templates of one installation.  Revisions stand in the order in which their templates were
registered. -/
structure Registry where
  limits : Limits := {}
  defaultSampleSize : Binary64
  revisions : List (Identifier × QualityTemplate) := []
  histories : List (Identifier × List TemplateVersion) := []

/-- Changes to a template; what is not given stays as it is. -/
structure TemplateEdit where
  name : Option LocalizedText := none
  description : Option LocalizedText := none
  origin : Option String := none
  parameters : Option TemplateParameters := none
  isActive : Option Bool := none
  sharing : Option SharingScope := none

namespace LocalizedText

def suffixed (suffix : String) (name : Option String) : Option String :=
  (name.filter fun text => !text.isEmpty).map (· ++ suffix)

def copied (name : LocalizedText) : LocalizedText where
  en := name.en ++ " (Copy)"
  pt := suffixed " (Cópia)" name.pt
  es := suffixed " (Copia)" name.es

end LocalizedText

namespace TemplateEdit

def newParameters? (edit : TemplateEdit) (current : QualityTemplate) :
    Option TemplateParameters :=
  edit.parameters.filter fun parameters => !(parameters == current.parameters)

/-- The edited template.  New parameters make a new version. -/
def apply (edit : TemplateEdit) (current : QualityTemplate) (now : Timestamp) :
    QualityTemplate :=
  let edited := { current with
    name := edit.name.getD current.name
    description := edit.description.or current.description
    origin := edit.origin.getD current.origin
    isActive := edit.isActive.getD current.isActive
    sharing := edit.sharing.getD current.sharing
    updatedAt := now }
  match edit.newParameters? current with
  | none => edited
  | some parameters => { edited with parameters, version := current.version + 1 }

end TemplateEdit

namespace QualityTemplate

def asFirstVersion (template : QualityTemplate) (defaultSampleSize : Binary64) :
    QualityTemplate :=
  { template with
    version := 1
    parameters := { template.parameters with
      sampleSizeGrams := some (template.parameters.sampleSizeGrams.getD defaultSampleSize) } }

/-- A copy of a template for another author.  It is active, and private unless it is shared
explicitly. -/
def clone (source : QualityTemplate) (id actor : Identifier) (name : Option LocalizedText)
    (sharing : Option SharingScope) (now : Timestamp) : QualityTemplate :=
  { source with
    templateId := id
    name := name.getD source.name.copied
    version := 1
    isActive := true
    sharing := sharing.getD .authorOnly
    createdBy := actor
    templateParentId := some source.templateId
    createdAt := now
    updatedAt := now }

def recorded (template : QualityTemplate) (templateId versionId author : Identifier)
    (description : String) (now : Timestamp) : TemplateVersion where
  versionId
  templateId
  versionNumber := template.version
  parameters := template.parameters
  changesDescription := description
  createdBy := author
  createdAt := now

end QualityTemplate

namespace Registry

def latest? (registry : Registry) (id : Identifier) : Option QualityTemplate :=
  registry.revisions.lookup id

def latest (registry : Registry) (id : Identifier) : Except RegistryFault QualityTemplate :=
  match registry.latest? id with
  | some template => .ok template
  | none => .error (.unknown id)

/-- The recorded versions of a template, oldest first; none of an unknown one. -/
def history (registry : Registry) (id : Identifier) : List TemplateVersion :=
  (registry.histories.lookup id).getD []

def versions (registry : Registry) (id : Identifier) :
    Except RegistryFault (List TemplateVersion) := do
  let _ ← registry.latest id
  .ok (registry.history id)

def requireValid (registry : Registry) (template : QualityTemplate) :
    Except RegistryFault Unit :=
  match template.validate registry.limits with
  | .error reason => .error (.unjudged reason)
  | .ok report =>
    if report.isValid then .ok () else .error (.invalid template.templateId report.errors)

def withRevision (registry : Registry) (id : Identifier) (template : QualityTemplate) : Registry :=
  { registry with revisions := alter id (fun _ => template) registry.revisions }

def withVersion (registry : Registry) (version : TemplateVersion) : Registry :=
  { registry with
    histories := alter version.templateId (fun versions => versions.getD [] ++ [version])
      registry.histories }

def initialDescription : String := "Initial version"

def editDescription (description : Option String) (version : Int) : String :=
  (description.filter fun text => !text.isEmpty).getD s!"Updated to version {version}"

end Registry

/-- An operation on a registry.  It ends with a result or a fault, and leaves a registry behind in
either case: what it stored before it failed stays stored. -/
abbrev RegistryAction := ExceptT RegistryFault (StateM Registry)

namespace RegistryAction

def perform {Value : Type} (action : RegistryAction Value) (registry : Registry) :
    Except RegistryFault Value × Registry :=
  action.run.run registry

def storeRevision (id : Identifier) (template : QualityTemplate) : RegistryAction Unit :=
  modify fun registry => registry.withRevision id template

/-- Appends a version to the history of its template, unless no record can carry its number. -/
def appendVersion (version : TemplateVersion) : RegistryAction Unit :=
  match version.checked with
  | .ok version => modify fun registry => registry.withVersion version
  | .error faults => throw (.unrecorded faults)

def register (template : QualityTemplate) (description : String) (versionId : Identifier)
    (now : Timestamp) : RegistryAction QualityTemplate := do
  let registry ← get
  if (registry.latest? template.templateId).isSome then
    throw (.taken template.templateId)
  else
    let first := template.asFirstVersion registry.defaultSampleSize
    registry.requireValid first
    storeRevision first.templateId first
    appendVersion (first.recorded first.templateId versionId first.createdBy description now)
    return first

/-- Edits a template.  A version is recorded only if the parameters are new. -/
def save (id actor : Identifier) (edit : TemplateEdit) (description : Option String)
    (versionId : Identifier) (now : Timestamp) : RegistryAction QualityTemplate := do
  let registry ← get
  let current ← registry.latest id
  let edited := edit.apply current now
  registry.requireValid edited
  storeRevision id edited
  if (edit.newParameters? current).isSome then
    appendVersion (edited.recorded id versionId actor
      (Registry.editDescription description edited.version) now)
    return edited
  else
    return edited

def clone (id actor : Identifier) (name : Option LocalizedText) (sharing : Option SharingScope)
    (templateId versionId : Identifier) (now : Timestamp) : RegistryAction QualityTemplate := do
  let registry ← get
  let source ← registry.latest id
  register (source.clone templateId actor name sharing now)
    s!"Cloned from template: {source.name.en}" versionId now

def outcome {Value : Type} (action : RegistryAction Value) (registry : Registry) :
    Except RegistryFault (Value × Registry) :=
  match action.perform registry with
  | (.ok value, next) => .ok (value, next)
  | (.error fault, _) => .error fault

end RegistryAction

namespace Registry

def register (registry : Registry) (template : QualityTemplate) (description : String)
    (versionId : Identifier) (now : Timestamp) :
    Except RegistryFault (QualityTemplate × Registry) :=
  (RegistryAction.register template description versionId now).outcome registry

def save (registry : Registry) (id actor : Identifier) (edit : TemplateEdit)
    (description : Option String) (versionId : Identifier) (now : Timestamp) :
    Except RegistryFault (QualityTemplate × Registry) :=
  (RegistryAction.save id actor edit description versionId now).outcome registry

def clone (registry : Registry) (id actor : Identifier) (name : Option LocalizedText)
    (sharing : Option SharingScope) (templateId versionId : Identifier) (now : Timestamp) :
    Except RegistryFault (QualityTemplate × Registry) :=
  (RegistryAction.clone id actor name sharing templateId versionId now).outcome registry

end Registry
end CoffeeGrading
