import CoffeeGrading.Document.Reading

/-!
Sessions of edits.  Every edit is tried on what the edits before it have left; an edit that is
refused leaves everything as it was.
-/

namespace CoffeeGrading

theorem exists_of_bind_eq_ok {Reason First Last : Type} {first : Except Reason First}
    {next : First → Except Reason Last} {last : Last} (done : first >>= next = .ok last) :
    ∃ value, first = .ok value ∧ next value = .ok last := by
  cases first with
  | error reason => cases done
  | ok value => exact ⟨value, rfl, done⟩

theorem bind_ok_eq_map {Reason First Last : Type} (first : Except Reason First)
    (next : First → Last) : (first >>= fun value => .ok (next value)) = first.map next := by
  cases first with
  | error reason => rfl
  | ok value => rfl

theorem eq_ok_of_mapError {Reason Other Value : Type} {outcome : Except Reason Value}
    {change : Reason → Other} {value : Value} (done : outcome.mapError change = .ok value) :
    outcome = .ok value := by
  cases outcome with
  | error reason => cases done
  | ok result => rw [Except.ok.inj done]

theorem toOption_eq_some_iff {Reason Value : Type} {outcome : Except Reason Value} {value : Value} :
    outcome.toOption = some value ↔ outcome = .ok value := by
  cases outcome with
  | error reason => simp [Except.toOption]
  | ok result => simp [Except.toOption]

variable {Configuration Edit : Type}

/-- The edits that are carried out, each with the configuration it leads to. -/
def carriedOut (perform : Configuration → Edit → Option Configuration) :
    Configuration → List Edit → List (Edit × Configuration)
  | _, [] => []
  | configuration, edit :: later =>
    match perform configuration edit with
    | some next => (edit, next) :: carriedOut perform next later
    | none => carriedOut perform configuration later

theorem forall_carriedOut_iff {perform : Configuration → Edit → Option Configuration}
    {Inside : Configuration → Prop} {Allowed : Edit → Prop}
    (step : ∀ configuration edit next, Inside configuration →
      perform configuration edit = some next → (Inside next ↔ Allowed edit))
    {configuration : Configuration} (inside : Inside configuration) (edits : List Edit) :
    (∀ outcome ∈ carriedOut perform configuration edits, Inside outcome.2) ↔
      ∀ outcome ∈ carriedOut perform configuration edits, Allowed outcome.1 := by
  induction edits generalizing configuration with
  | nil => simp [carriedOut]
  | cons edit later ih =>
      cases performed : perform configuration edit with
      | none => simpa [carriedOut, performed] using ih inside
      | some next =>
          have first := step configuration edit next inside performed
          simp only [carriedOut, performed, List.forall_mem_cons, first]
          exact and_congr_right fun allowed => ih (first.2 allowed)

theorem forall_carriedOut {perform : Configuration → Edit → Option Configuration}
    {Inside : Configuration → Prop}
    (step : ∀ configuration edit next, Inside configuration →
      perform configuration edit = some next → Inside next)
    {configuration : Configuration} (inside : Inside configuration) (edits : List Edit) :
    ∀ outcome ∈ carriedOut perform configuration edits, Inside outcome.2 := by
  have allowed : ∀ configuration edit next, Inside configuration →
      perform configuration edit = some next → (Inside next ↔ True) :=
    fun configuration edit next inside performed =>
      iff_true_intro (step configuration edit next inside performed)
  exact (forall_carriedOut_iff allowed inside edits).2 fun _ _ => trivial

def edited (perform : Configuration → Edit → Option Configuration) (configuration : Configuration)
    (edits : List Edit) : Configuration :=
  edits.foldl (fun current edit => (perform current edit).getD current) configuration

theorem edited_induction {perform : Configuration → Edit → Option Configuration}
    {Inside : Configuration → Prop} {Allowed : Edit → Prop}
    (step : ∀ configuration edit next, Inside configuration → Allowed edit →
      perform configuration edit = some next → Inside next)
    {configuration : Configuration} (inside : Inside configuration) {edits : List Edit}
    (allowed : ∀ edit ∈ edits, Allowed edit) : Inside (edited perform configuration edits) := by
  induction edits generalizing configuration with
  | nil => exact inside
  | cons edit later ih =>
      obtain ⟨first, others⟩ := List.forall_mem_cons.1 allowed
      cases performed : perform configuration edit with
      | none => simpa [edited, performed] using ih inside others
      | some next =>
          simpa [edited, performed] using ih (step configuration edit next inside first performed)
            others

end CoffeeGrading
