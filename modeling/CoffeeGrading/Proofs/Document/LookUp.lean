import CoffeeGrading.Document.Reading

/-!
What fields see of an object: the entry under each of their keys.  Entries that are put somewhere
else in the object, and entries under keys that no field asks for, change nothing of what the
fields read.
-/

namespace CoffeeGrading

variable {Value Result : Type}

namespace Document

theorem lookup?_filter_of_kept {key : String} {keep : String × Document → Bool}
    (kept : ∀ value, keep (key, value) = true) (entries : List (String × Document)) :
    lookup? key (entries.filter keep) = lookup? key entries := by
  induction entries with
  | nil => rfl
  | cons entry rest ih =>
      obtain ⟨name, value⟩ := entry
      by_cases here : name = key
      · subst here
        simp [lookup?, kept]
      · cases stays : keep (name, value) with
        | true => simp [lookup?, stays, here, ih]
        | false => simp [lookup?, stays, here, ih]

theorem lookup?_eq_none {key : String} {entries : List (String × Document)}
    (absent : ∀ entry ∈ entries, entry.1 ≠ key) : lookup? key entries = none := by
  induction entries with
  | nil => rfl
  | cons entry rest ih =>
      obtain ⟨elsewhere, later⟩ := List.forall_mem_cons.1 absent
      simp [lookup?, elsewhere, ih later]

theorem lookup?_filter_of_dropped {key : String} {keep : String × Document → Bool}
    (dropped : ∀ value, keep (key, value) = false) (entries : List (String × Document)) :
    lookup? key (entries.filter keep) = none := by
  apply lookup?_eq_none
  rintro ⟨name, value⟩ member rfl
  have kept := (List.mem_filter.1 member).2
  rw [dropped] at kept
  cases kept

end Document

open Document (lookup?)

theorem Fields.optional_read_of_none {key : String} {read : Document → Reading Value}
    {entries : List (String × Document)} (unset : lookup? key entries = none) :
    (optional key read).read entries = pure none := by
  simp [optional, unset]

/-- Objects with the same entries under the keys of the fields are read alike. -/
def Fields.Local (fields : Fields Value) : Prop :=
  ∀ entries others, (∀ key ∈ fields.keys, lookup? key entries = lookup? key others) →
    fields.read entries = fields.read others

namespace Fields

theorem Local.pure (value : Value) : (pure value : Fields Value).Local :=
  fun _ _ _ => rfl

theorem Local.seq {change : Fields (Value → Result)} {fields : Fields Value}
    (changes : change.Local) (here : fields.Local) : (change <*> fields).Local := by
  intro entries others same
  have first := changes entries others fun key asked => same key (List.mem_append_left _ asked)
  have second := here entries others fun key asked => same key (List.mem_append_right _ asked)
  change change.read entries <*> fields.read entries = change.read others <*> fields.read others
  rw [first, second]

theorem Local.map {change : Value → Result} {fields : Fields Value} (here : fields.Local) :
    (change <$> fields).Local :=
  .seq (.pure change) here

theorem Local.required (key : String) (read : Document → Reading Value) :
    (required key read).Local := by
  intro entries others same
  simp only [Fields.required, same key (List.mem_singleton_self key)]

theorem Local.withDefault (key : String) (fallback : Reading Value)
    (read : Document → Reading Value) : (withDefault key fallback read).Local := by
  intro entries others same
  simp only [Fields.withDefault, same key (List.mem_singleton_self key)]

theorem Local.optional (key : String) (read : Document → Reading Value) :
    (optional key read).Local := by
  intro entries others same
  simp only [Fields.optional, same key (List.mem_singleton_self key)]

theorem Local.readEntries {fields : Fields Value} (here : fields.Local)
    {entries others : List (String × Document)}
    (same : ∀ key ∈ fields.keys, lookup? key entries = lookup? key others)
    (extra : entries.filter (fun (key, _) => !fields.keys.contains key) =
      others.filter fun (key, _) => !fields.keys.contains key) :
    fields.readEntries entries = fields.readEntries others := by
  rw [Fields.readEntries, Fields.readEntries, here entries others same, unexpected, unexpected,
    extra]

end Fields
end CoffeeGrading
