import CoffeeGrading.Proofs.Aspect.Editing
import CoffeeGrading.Proofs.Defect.Editing
import CoffeeGrading.Proofs.OffFlavour.Editing
import CoffeeGrading.Proofs.ScreenSize.Editing

/-!
Sessions of edits from configurations that were read.  What they lead to is written without loss,
with one exception: an update of a wording takes any number, and what it leads to reads back
exactly as long as no update that was carried out wrote an infinity or what is not a number.
-/

namespace CoffeeGrading

theorem AspectConfiguration.finite_iff_restored (configuration : AspectConfiguration) :
    configuration.Finite ↔
      configuration.Finite ∧ read configuration.document = pure configuration :=
  ⟨fun finite => ⟨finite, read_document finite⟩, And.left⟩

/-- Every configuration that a session of edits leads to holds finite numbers only and reads back
from what it is written as; with aspects, where updates write what they are given, exactly if every
update that was carried out was given a finite number or none. -/
theorem edited_configurations_read_back
    (aspect : Parsed AspectConfiguration.read) (aspectEdits : List AspectEdit)
    (defects : Parsed DefectConfiguration.read) (defectEdits : List DefectEdit)
    (offFlavours : Parsed OffFlavourConfiguration.read) (offFlavourEdits : List OffFlavourEdit)
    (screens : Parsed ScreenRequirements.read) (screenEdits : List ScreenEdit) :
    ((∀ outcome ∈ carriedOut AspectConfiguration.perform aspect.value aspectEdits,
        outcome.2.Finite ∧ AspectConfiguration.read outcome.2.document = pure outcome.2) ↔
      ∀ outcome ∈ carriedOut AspectConfiguration.perform aspect.value aspectEdits,
        FiniteIfSet outcome.1.uncheckedValue) ∧
    (∀ outcome ∈ carriedOut DefectConfiguration.perform defects.value defectEdits,
      outcome.2.Finite ∧ DefectConfiguration.read outcome.2.document = pure outcome.2) ∧
    (∀ outcome ∈ carriedOut OffFlavourConfiguration.perform offFlavours.value offFlavourEdits,
      outcome.2.Finite ∧ OffFlavourConfiguration.read outcome.2.document = pure outcome.2) ∧
    ∀ outcome ∈ carriedOut ScreenRequirements.perform screens.value screenEdits,
      outcome.2.Finite ∧ ScreenRequirements.read outcome.2.document = pure outcome.2 := by
  refine ⟨?_, ?_, ?_, ?_⟩
  · simp only [← AspectConfiguration.finite_iff_restored]
    exact forall_carriedOut_iff (fun _ _ _ finite performed => finite.perform_iff performed)
      (aspect.fits AspectConfiguration.read_yields) aspectEdits
  · intro outcome carried
    have finite := forall_carriedOut (fun _ _ _ finite performed => finite.perform performed)
      (defects.fits DefectConfiguration.read_yields) defectEdits outcome carried
    exact ⟨finite, DefectConfiguration.read_document finite⟩
  · intro outcome carried
    have writable := forall_carriedOut
      (fun _ _ _ writable performed => writable.perform performed)
      (offFlavours.fits OffFlavourConfiguration.read_writable) offFlavourEdits outcome carried
    exact ⟨writable.finite, OffFlavourConfiguration.read_document writable⟩
  · intro outcome carried
    have initial : screens.value.Finite := screens.fits ScreenRequirements.read_yields
    have finite := forall_carriedOut (fun _ _ _ finite performed => finite.perform performed)
      initial screenEdits outcome carried
    exact ⟨finite, ScreenRequirements.read_document finite⟩

example (supply : Supply Timestamp) :
    (AspectConfiguration.read (.object []) supply).1 = .good {} := by
  rfl

def oneWording : AspectConfiguration where
  wordings := [{ id := "w", label := "Good", value := 7 }]

theorem oneWording_read (supply : Supply Timestamp) :
    (AspectConfiguration.read oneWording.document supply).1 = .good oneWording :=
  congrArg Prod.fst (congrFun (AspectConfiguration.read_document (by decide +kernel)) supply)

/-- The configuration was read, the update is carried out, and its result is refused by every
reading. -/
theorem infinite_update_is_unreadable :
    (∀ supply, (AspectConfiguration.read oneWording.document supply).1 = .good oneWording) ∧
      ∃ next, oneWording.perform (.update "w" none (some (.infinity false)) none) = some next ∧
        ¬ next.Finite ∧ ∀ supply, (AspectConfiguration.read next.document supply).1 =
          .faulty [⟨["wordings", "0", "value"], .notFinite⟩] := by
  refine ⟨oneWording_read, _, rfl, ?_, fun supply => rfl⟩
  decide

end CoffeeGrading
