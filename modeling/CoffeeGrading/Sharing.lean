import CoffeeGrading.Document.Primitive

/-!
Who may see a template: everyone, the laboratories of a list, or its author alone.  Older
payloads state the same with a flag and a list, which may contradict each other.
-/

namespace CoffeeGrading

/-- The circle a template is shared with; a list of laboratories is never empty. -/
inductive SharingScope where
  | everyone
  | laboratories (first : Identifier) (others : List Identifier)
  | authorOnly
deriving DecidableEq

inductive SharingConflict where
  | globalWithLaboratories
deriving DecidableEq

def SharingConflict.message : SharingConflict → String
  | globalWithLaboratories =>
    "A global template cannot also be assigned to specific laboratories."

namespace SharingScope

def laboratoryIds : SharingScope → List Identifier
  | laboratories first others => first :: others
  | _ => []

def ofFlags (isGlobal : Bool) (laboratoryIds : List Identifier) :
    Except SharingConflict SharingScope :=
  match isGlobal, laboratoryIds with
  | true, [] => .ok everyone
  | true, _ :: _ => .error .globalWithLaboratories
  | false, [] => .ok authorOnly
  | false, first :: others => .ok (laboratories first others)

def toFlags (scope : SharingScope) : Bool × List Identifier :=
  (scope matches everyone, scope.laboratoryIds)

/-- Whether a user, who may act for a laboratory, sees a template.  Authors always see their
own. -/
def isVisibleTo (scope : SharingScope) (createdBy userId : Identifier)
    (laboratoryId : Option Identifier) : Bool :=
  userId = createdBy ||
    match scope with
    | everyone => true
    | laboratories first others => laboratoryId.any fun id => (first :: others).contains id
    | authorOnly => false

/-! ### As documents -/

def variants : List (String × Fields SharingScope) := [
  ("global", (fun _ => everyone) <$> .known "kind"),
  ("laboratories", (fun _ (first, others) => laboratories first others) <$> .known "kind"
    <*> .required "laboratory_ids" (Reading.nonemptyList Reading.identifier)),
  ("private", (fun _ => authorOnly) <$> .known "kind")]

def read : Document → Reading SharingScope :=
  Reading.tagged "kind" variants

def document : SharingScope → Document
  | everyone => .ofFields [("kind", some (.text "global"))]
  | laboratories first others => .ofFields [
      ("kind", some (.text "laboratories")),
      ("laboratory_ids",
        some (.list ((first :: others).map fun id => .text id.text)))]
  | authorOnly => .ofFields [("kind", some (.text "private"))]

end SharingScope

structure SharingFlags where
  isGlobal : Option Bool := none
  laboratoryIds : Option (List Identifier) := none

namespace SharingFlags

def keys : List String := ["is_global", "laboratory_ids"]

def fields : Fields SharingFlags :=
  SharingFlags.mk <$> .optional "is_global" Reading.flag
    <*> .optional "laboratory_ids" (Reading.list Reading.identifier)

def scope (flags : SharingFlags) : Except SharingConflict SharingScope :=
  SharingScope.ofFlags (flags.isGlobal.getD false) (flags.laboratoryIds.getD [])

end SharingFlags
end CoffeeGrading
