import CoffeeGrading.Template

/-!
Versions of a template: the parameters as they stood when they were recorded, with who changed
them, when and why.
-/

namespace CoffeeGrading

structure TemplateVersion where
  versionId : Identifier
  templateId : Identifier
  versionNumber : Int
  parameters : TemplateParameters
  changesDescription : String
  createdBy : Identifier
  createdAt : Timestamp
deriving BEq

namespace TemplateVersion

def fields : Fields TemplateVersion :=
  TemplateVersion.mk
    <$> .withDefault "version_id" Reading.freshIdentifier Reading.identifier
    <*> .required "template_id" Reading.identifier
    <*> .required "version_number" Reading.positiveWhole
    <*> .required "parameters" TemplateParameters.read
    <*> .required "changes_description" Reading.text
    <*> .required "created_by" Reading.identifier
    <*> .withDefault "created_at" Reading.currentTime Reading.timestamp

def read : Document → Reading TemplateVersion :=
  Reading.record "TemplateVersion" fields

def document (version : TemplateVersion) : Document :=
  .ofFields [
    ("version_id", some (.text version.versionId.text)),
    ("template_id", some (.text version.templateId.text)),
    ("version_number", some (.whole version.versionNumber)),
    ("parameters", some version.parameters.document),
    ("changes_description", some (.text version.changesDescription)),
    ("created_by", some (.text version.createdBy.text)),
    ("created_at", some (.text version.createdAt.text))]

def checked (version : TemplateVersion) : Except (List Fault) TemplateVersion :=
  if 1 ≤ version.versionNumber then .ok version
  else .error [⟨["version_number"], .belowOne⟩]

end TemplateVersion
end CoffeeGrading
