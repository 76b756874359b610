import CoffeeGrading.Proofs.Document.LookUp

/-!
Objects put together from two others.  The entries of either keep their order and stand anywhere
among those of the other.
-/

namespace CoffeeGrading

inductive Interleaved {Entry : Type} : List Entry → List Entry → List Entry → Prop
  | none : Interleaved [] [] []
  | left {first second whole : List Entry} (entry : Entry) :
      Interleaved first second whole → Interleaved (entry :: first) second (entry :: whole)
  | right {first second whole : List Entry} (entry : Entry) :
      Interleaved first second whole → Interleaved first (entry :: second) (entry :: whole)

namespace Interleaved

variable {Entry : Type} {first second whole : List Entry}

theorem eq_left (interleaved : Interleaved first [] whole) : whole = first := by
  induction first generalizing whole with
  | nil => cases interleaved; rfl
  | cons entry rest ih =>
      cases interleaved with
      | left _ later => rw [ih later]

theorem eq_right (interleaved : Interleaved [] second whole) : whole = second := by
  induction second generalizing whole with
  | nil => cases interleaved; rfl
  | cons entry rest ih =>
      cases interleaved with
      | right _ later => rw [ih later]

theorem append (first second : List Entry) : Interleaved first second (first ++ second) := by
  induction first with
  | nil =>
      induction second with
      | nil => exact .none
      | cons entry rest ih => exact .right entry ih
  | cons entry rest ih => exact .left entry ih

theorem mem_iff (interleaved : Interleaved first second whole) {entry : Entry} :
    entry ∈ whole ↔ entry ∈ first ∨ entry ∈ second := by
  induction interleaved with
  | none => simp
  | left other _ ih => simp [ih, or_assoc]
  | right other _ ih => simp [ih, or_left_comm]

theorem filter (keep : Entry → Bool) (interleaved : Interleaved first second whole) :
    Interleaved (first.filter keep) (second.filter keep) (whole.filter keep) := by
  induction interleaved with
  | none => exact .none
  | left entry _ ih =>
      cases kept : keep entry with
      | true => simpa [kept] using ih.left entry
      | false => simpa [kept] using ih
  | right entry _ ih =>
      cases kept : keep entry with
      | true => simpa [kept] using ih.right entry
      | false => simpa [kept] using ih

theorem filter_eq_left {keep : Entry → Bool} (interleaved : Interleaved first second whole)
    (kept : ∀ entry ∈ first, keep entry = true) (dropped : ∀ entry ∈ second, keep entry = false) :
    whole.filter keep = first := by
  have parts := interleaved.filter keep
  rw [List.filter_eq_self.2 kept, List.filter_eq_nil_iff.2 (by simpa using dropped)] at parts
  exact parts.eq_left

theorem filter_eq_right {keep : Entry → Bool} (interleaved : Interleaved first second whole)
    (dropped : ∀ entry ∈ first, keep entry = false) (kept : ∀ entry ∈ second, keep entry = true) :
    whole.filter keep = second := by
  have parts := interleaved.filter keep
  rw [List.filter_eq_self.2 kept, List.filter_eq_nil_iff.2 (by simpa using dropped)] at parts
  exact parts.eq_right

end Interleaved

open Document (lookup?)

variable {Value : Type} {payload whole other : List (String × Document)} {key : String}
  {document : Document}

theorem Interleaved.lookup?_eq (interleaved : Interleaved payload [(key, document)] whole)
    (absent : ∀ entry ∈ payload, entry.1 ≠ key) (asked : String) :
    lookup? asked whole = if asked = key then some document else lookup? asked payload := by
  by_cases here : asked = key
  · subst here
    let keep : String × Document → Bool := fun entry => decide (entry.1 = asked)
    have only : whole.filter keep = [(asked, document)] :=
      interleaved.filter_eq_right (by simpa [keep] using absent) (by simp [keep])
    have seen : lookup? asked (whole.filter keep) = lookup? asked whole :=
      Document.lookup?_filter_of_kept (fun _ => decide_eq_true rfl) whole
    rw [← seen, only]
    simp [lookup?]
  · let keep : String × Document → Bool := fun entry => decide (entry.1 ≠ key)
    have others : whole.filter keep = payload :=
      interleaved.filter_eq_left (by simpa [keep] using absent) (by simp [keep])
    have seen : lookup? asked (whole.filter keep) = lookup? asked whole :=
      Document.lookup?_filter_of_kept (fun _ => decide_eq_true here) whole
    rw [← seen, others, if_neg here]

theorem Interleaved.filter_unknown (interleaved : Interleaved payload [(key, document)] whole)
    {keys : List String} (known : key ∈ keys) :
    whole.filter (fun (name, _) => !keys.contains name) =
      payload.filter fun (name, _) => !keys.contains name := by
  have gone : [(key, document)].filter (fun entry => !keys.contains entry.1) = [] := by
    simp [known]
  have others := interleaved.filter fun entry => !keys.contains entry.1
  rw [gone] at others
  exact others.eq_left

theorem Fields.Local.readEntries_interleaved {fields : Fields Value} (here : fields.Local)
    (asked : key ∈ fields.keys) (absent : ∀ entry ∈ payload, entry.1 ≠ key)
    (first : Interleaved payload [(key, document)] whole)
    (second : Interleaved payload [(key, document)] other) :
    fields.readEntries whole = fields.readEntries other := by
  apply here.readEntries
  · intro name _
    rw [first.lookup?_eq absent, second.lookup?_eq absent]
  · rw [first.filter_unknown asked, second.filter_unknown asked]

end CoffeeGrading
