import CoffeeGrading.Document.Primitive
import CoffeeGrading.Proofs.Identifier
import CoffeeGrading.Proofs.Timestamp

/-!
Reading what was written.  A record is written without the fields that are not set; its reader
finds every field that is set under its key and falls back on nothing for the others, so it ends
with the same record and takes nothing from its supply.
-/

namespace CoffeeGrading

variable {Value Result : Type}

namespace Document

/-- The entries of an object that is written without the fields that are not set. -/
def entriesOf (written : List (String × Option Document)) : List (String × Document) :=
  written.filterMap fun (name, value) => value.map (name, ·)

theorem ofFields_eq_object (written : List (String × Option Document)) :
    ofFields written = .object (entriesOf written) := by
  rfl

theorem ofFields_ne_null (written : List (String × Option Document)) :
    ofFields written ≠ .null := by
  simp [ofFields]

@[simp] theorem lookup?_entriesOf_nil (key : String) : lookup? key (entriesOf []) = none := by
  rfl

@[simp] theorem lookup?_entriesOf_cons (key name : String) (value : Option Document)
    (rest : List (String × Option Document)) :
    lookup? key (entriesOf ((name, value) :: rest)) =
      if name = key then value.or (lookup? key (entriesOf rest))
      else lookup? key (entriesOf rest) := by
  cases value with
  | none => simp [entriesOf]
  | some document =>
      by_cases here : name = key
      · simp [entriesOf, lookup?, here]
      · simp [entriesOf, lookup?, here]

theorem mem_entriesOf_iff {written : List (String × Option Document)}
    {entry : String × Document} :
    entry ∈ entriesOf written ↔ (entry.1, some entry.2) ∈ written := by
  rw [entriesOf, List.mem_filterMap]
  constructor
  · rintro ⟨⟨name, value⟩, member, told⟩
    obtain ⟨document, rfl, rfl⟩ := Option.map_eq_some_iff.1 told
    exact member
  · intro member
    exact ⟨_, member, rfl⟩

theorem key_mem_of_mem_entriesOf {written : List (String × Option Document)}
    {entry : String × Document} (listed : entry ∈ entriesOf written) :
    entry.1 ∈ written.map (·.1) :=
  List.mem_map_of_mem (f := (·.1)) (mem_entriesOf_iff.1 listed)

end Document

open Document (entriesOf lookup?)

/-- From the entries that were written, the fields read a value and nothing else. -/
def Fields.Restores (fields : Fields Value) (written : List (String × Option Document))
    (value : Value) : Prop :=
  fields.read (entriesOf written) = pure value

namespace Reading

@[simp] theorem under_pure (part : String) (value : Value) :
    (pure value : Reading Value).under part = pure value := by
  rfl

theorem pure_seq_pure (change : Value → Result) (value : Value) :
    (pure change <*> pure value : Reading Result) = pure (change value) := by
  rfl

theorem require_pure {objection : Value → Option Cause} {value : Value}
    (fits : objection value = none) :
    (pure value : Reading Value).require objection = pure value := by
  funext supply
  simp [require, Checked.require, pure, fits]

theorem each_map {document : Value → Document} {read : Document → Reading Value}
    {values : List Value} (restored : ∀ value ∈ values, read (document value) = pure value)
    (position : Nat) : each read position (values.map document) = pure values := by
  induction values generalizing position with
  | nil => rfl
  | cons value rest ih =>
      rw [List.forall_mem_cons] at restored
      rw [List.map_cons, each, restored.1, ih restored.2]
      rfl

theorem list_map {document : Value → Document} {read : Document → Reading Value}
    {values : List Value} (restored : ∀ value ∈ values, read (document value) = pure value) :
    list read (.list (values.map document)) = pure values :=
  each_map restored 0

theorem nonemptyList_map {document : Value → Document} {read : Document → Reading Value}
    {first : Value} {others : List Value}
    (restored : ∀ value ∈ first :: others, read (document value) = pure value) :
    nonemptyList read (.list ((first :: others).map document)) = pure (first, others) := by
  funext supply
  rw [nonemptyList, list_map restored]
  rfl

theorem eachEntry_map {document : Value → Document} {read : Document → Reading Value}
    {entries : List (String × Value)}
    (restored : ∀ entry ∈ entries, read (document entry.2) = pure entry.2) :
    eachEntry read (entries.map fun (key, value) => (key, document value)) = pure entries := by
  induction entries with
  | nil => rfl
  | cons entry rest ih =>
      rw [List.forall_mem_cons] at restored
      rw [List.map_cons, eachEntry, restored.1, ih restored.2]
      rfl

/-! ### Single values -/

theorem text_text (value : String) : text (.text value) = pure value := by
  rfl

theorem flag_flag (value : Bool) : flag (.flag value) = pure value := by
  rfl

theorem whole_whole (value : Int) : whole (.whole value) = pure value := by
  rfl

theorem positiveWhole_whole {value : Int} (positive : 1 ≤ value) :
    positiveWhole (.whole value) = pure value :=
  require_pure (if_pos positive)

theorem number_number {value : Binary64} (finite : value.isFinite = true) :
    number (.number value) = pure value := by
  funext supply
  simp [number, anyNumber, Checked.require, ofChecked, finite, pure]

theorem choice_text {choices : List (String × Value)} {name : String} {value : Value}
    (listed : choices.lookup name = some value) : choice choices (.text name) = pure value := by
  simp [choice, listed]

theorem identifier_text (value : Identifier) : identifier (.text value.text) = pure value := by
  simp only [identifier, value.read_text]

theorem timestamp_text (value : Timestamp) : timestamp (.text value.text) = pure value := by
  delta timestamp
  simp only [value.read_text]

end Reading

namespace Fields

variable {written : List (String × Option Document)}

theorem Restores.pure (value : Value) : (pure value : Fields Value).Restores written value := by
  rfl

theorem Restores.seq {change : Fields (Value → Result)} {fields : Fields Value}
    {apply : Value → Result} {value : Value} (changes : change.Restores written apply)
    (restores : fields.Restores written value) :
    (change <*> fields).Restores written (apply value) := by
  have both : (change <*> fields).read (entriesOf written) =
      change.read (entriesOf written) <*> fields.read (entriesOf written) := rfl
  rw [Restores, both, changes, restores, Reading.pure_seq_pure]

theorem Restores.map {change : Value → Result} {fields : Fields Value} {value : Value}
    (restores : fields.Restores written value) :
    (change <$> fields).Restores written (change value) :=
  .seq (.pure change) restores

theorem Restores.known (key : String) : (known key).Restores written () := by
  rfl

theorem Restores.required {key : String} {read : Document → Reading Value} {value : Value}
    {document : Document} (restored : read document = Pure.pure value)
    (told : lookup? key (entriesOf written) = some document) :
    (required key read).Restores written value := by
  simp only [Restores, Fields.required, told, restored, Reading.under_pure]

theorem Restores.withDefault {key : String} {fallback : Reading Value}
    {read : Document → Reading Value} {value : Value} {document : Document}
    (restored : read document = Pure.pure value)
    (told : lookup? key (entriesOf written) = some document) :
    (withDefault key fallback read).Restores written value := by
  simp only [Restores, Fields.withDefault, told, restored, Reading.under_pure]

theorem Restores.optional {key : String} {read : Document → Reading Value}
    {document : Value → Document} {value : Option Value}
    (restored : ∀ set, value = some set → read (document set) = Pure.pure set)
    (substantial : ∀ set, document set ≠ .null)
    (told : lookup? key (entriesOf written) = value.map document) :
    (optional key read).Restores written value := by
  rw [Restores, Fields.optional]
  cases value with
  | none =>
      simp only [told, Option.map_none]
  | some set =>
      simp only [told, Option.map_some]
      split
      · contradiction
      · next null => exact absurd (Option.some.inj null) (substantial set)
      · next found =>
          rw [← Option.some.inj found, restored set rfl]
          rfl

theorem Restores.optionalText {key : String} {value : Option String}
    (told : lookup? key (entriesOf written) = value.map .text) :
    (Fields.optional key Reading.text).Restores written value :=
  .optional (fun set _ => Reading.text_text set) (by simp) told

theorem Restores.optionalWhole {key : String} {value : Option Int}
    (told : lookup? key (entriesOf written) = value.map .whole) :
    (Fields.optional key Reading.whole).Restores written value :=
  .optional (fun set _ => Reading.whole_whole set) (by simp) told

theorem unexpected_of_known {keys : List String} {entries : List (String × Document)}
    (known : ∀ entry ∈ entries, entry.1 ∈ keys) : unexpected keys entries = .good () := by
  rw [unexpected, List.filter_eq_nil_iff.2 (by simpa using known)]

theorem Restores.readEntries {fields : Fields Value} {value : Value}
    (restores : fields.Restores written value) (known : written.map (·.1) = fields.keys) :
    fields.readEntries (entriesOf written) = Pure.pure value := by
  have expected : unexpected fields.keys (entriesOf written) = .good () :=
    unexpected_of_known fun _ listed => known ▸ Document.key_mem_of_mem_entriesOf listed
  rw [Fields.readEntries, restores, expected]
  rfl

end Fields

namespace Reading

variable {written : List (String × Option Document)}

theorem record_ofFields {name : String} {fields : Fields Value} {value : Value}
    (restores : fields.Restores written value) (known : written.map (·.1) = fields.keys) :
    record name fields (.ofFields written) = pure value :=
  restores.readEntries known

theorem tagged_ofFields (name : String) {key : String}
    {variants : List (String × Fields Value)} {fields : Fields Value} {value : Value}
    (told : lookup? key (entriesOf written) = some (.text name))
    (listed : variants.lookup name = some fields) (restores : fields.Restores written value)
    (known : written.map (·.1) = fields.keys) :
    tagged key variants (.ofFields written) = pure value := by
  simp only [Document.ofFields_eq_object, tagged, told, listed, restores.readEntries known,
    under_pure]

end Reading
end CoffeeGrading
