import CoffeeGrading.Document.Primitive

/-!
What is true of every value that a reading yields.  A reading is put together from smaller ones,
and what is true of its values follows from what is true of theirs.
-/

namespace CoffeeGrading

variable {Value Result : Type}

theorem Checked.exists_good {checked : Checked Value} (accepted : checked.toExcept.isOk = true) :
    ∃ value, checked = .good value := by
  cases checked with
  | good value => exact ⟨value, rfl⟩
  | faulty faults => cases accepted

/-- A property of every value that a reading ends with, whatever it was supplied with. -/
def Reading.Yields (reading : Reading Value) (Fits : Value → Prop) : Prop :=
  ∀ supply value, (reading supply).1 = .good value → Fits value

structure Parsed (read : Document → Reading Value) where
  value : Value
  document : Document
  supply : Supply Timestamp
  good : (read document supply).1 = .good value

theorem Parsed.fits {read : Document → Reading Value} {Fits : Value → Prop} (parsed : Parsed read)
    (yields : ∀ document, (read document).Yields Fits) : Fits parsed.value :=
  yields parsed.document parsed.supply parsed.value parsed.good

/-- A property of every record that fields are read into, whatever the entries are. -/
def Fields.Yields (fields : Fields Value) (Fits : Value → Prop) : Prop :=
  ∀ entries, (fields.read entries).Yields Fits

namespace Reading

variable {Fits : Value → Prop} {Suits : Result → Prop}

theorem Yields.anything {reading : Reading Value} : reading.Yields fun _ => True :=
  fun _ _ _ => trivial

theorem Yields.pure {value : Value} (fits : Fits value) :
    (pure value : Reading Value).Yields Fits := by
  intro supply result good
  obtain rfl := Checked.good.inj good
  exact fits

theorem Yields.fault (cause : Cause) : (fault cause : Reading Value).Yields Fits := by
  intro supply value good
  cases good

theorem Yields.seq {change : Reading (Value → Result)} {reading : Reading Value}
    (changes : change.Yields fun apply => ∀ value, Fits value → Suits (apply value))
    (yields : reading.Yields Fits) : (change <*> reading).Yields Suits := by
  intro supply result good
  change ((change supply).1.apply (reading (change supply).2).1) = .good result at good
  cases first : (change supply).1 with
  | faulty faults =>
      rw [first] at good
      cases second : (reading (change supply).2).1 <;> simp [second, Checked.apply] at good
  | good apply =>
      cases second : (reading (change supply).2).1 with
      | faulty faults => simp [first, second, Checked.apply] at good
      | good value =>
          simp only [first, second, Checked.apply, Checked.good.injEq] at good
          obtain rfl := good
          exact changes supply apply first value (yields _ value second)

theorem Yields.map {change : Value → Result} {reading : Reading Value}
    (changes : ∀ value, Fits value → Suits (change value)) (yields : reading.Yields Fits) :
    (change <$> reading).Yields Suits :=
  Yields.seq (Yields.pure changes) yields

theorem Yields.under {part : String} {reading : Reading Value} (yields : reading.Yields Fits) :
    (reading.under part).Yields Fits := by
  intro supply value good
  change ((reading supply).1.under part) = .good value at good
  cases read : (reading supply).1 with
  | faulty faults => simp [read, Checked.under] at good
  | good found =>
      simp only [read, Checked.under, Checked.good.injEq] at good
      obtain rfl := good
      exact yields supply found read

theorem Yields.each {read : Document → Reading Value}
    (yields : ∀ document, (read document).Yields Fits) (position : Nat) (items : List Document) :
    (each read position items).Yields fun values => ∀ value ∈ values, Fits value := by
  induction items generalizing position with
  | nil => exact Yields.pure (fun _ member => absurd member List.not_mem_nil)
  | cons item rest ih =>
      refine Yields.seq (Yields.map ?_ (Yields.under (yields item))) (ih (position + 1))
      intro value fits values all
      exact List.forall_mem_cons.2 ⟨fits, all⟩

theorem Yields.list {read : Document → Reading Value}
    (yields : ∀ document, (read document).Yields Fits) (document : Document) :
    (list read document).Yields fun values => ∀ value ∈ values, Fits value := by
  cases document with
  | list items => exact Yields.each yields 0 items
  | _ => exact Yields.fault _

theorem Yields.eachEntry {read : Document → Reading Value}
    (yields : ∀ document, (read document).Yields Fits) (entries : List (String × Document)) :
    (eachEntry read entries).Yields fun values => ∀ entry ∈ values, Fits entry.2 := by
  induction entries with
  | nil => exact Yields.pure (fun _ member => absurd member List.not_mem_nil)
  | cons entry rest ih =>
      refine Yields.seq (Yields.map ?_ (Yields.under (yields entry.2))) ih
      intro value fits values all
      exact List.forall_mem_cons.2 ⟨fits, all⟩

theorem Yields.dictionary {read : Document → Reading Value}
    (yields : ∀ document, (read document).Yields Fits) (document : Document) :
    (dictionary read document).Yields fun values => ∀ entry ∈ values, Fits entry.2 := by
  cases document with
  | object entries => exact Yields.eachEntry yields entries
  | _ => exact Yields.fault _

theorem Yields.require (objection : Value → Option Cause) (reading : Reading Value) :
    (reading.require objection).Yields fun value => objection value = none := by
  intro supply value good
  change ((reading supply).1.require objection) = .good value at good
  cases read : (reading supply).1 with
  | faulty faults => simp [read, Checked.require] at good
  | good found =>
      cases objected : objection found with
      | some cause => simp [read, Checked.require, objected] at good
      | none =>
          simp only [read, Checked.require, objected, Checked.good.injEq] at good
          rwa [← good]

theorem Yields.imp {Looser : Value → Prop} {reading : Reading Value}
    (looser : ∀ value, Fits value → Looser value) (yields : reading.Yields Fits) :
    reading.Yields Looser :=
  fun supply value good => looser value (yields supply value good)

theorem Yields.positiveWhole (document : Document) :
    (positiveWhole document).Yields fun value => 1 ≤ value := by
  refine .imp ?_ (.require _ (whole document))
  intro value unobjected
  by_cases positive : 1 ≤ value
  · exact positive
  · simp [positive] at unobjected

theorem Yields.number (document : Document) :
    (number document).Yields fun value => value.isFinite = true := by
  intro supply value good
  change ((anyNumber document).require _) = .good value at good
  cases read : anyNumber document with
  | faulty faults => simp [read, Checked.require] at good
  | good found =>
      by_cases finite : found.isFinite
      · simp only [read, Checked.require, finite, if_true, Checked.good.injEq] at good
        rwa [← good]
      · simp [read, Checked.require, finite] at good

end Reading

namespace Fields

variable {Fits : Value → Prop} {Suits : Result → Prop}

theorem Yields.anything {fields : Fields Value} : fields.Yields fun _ => True :=
  fun _ => Reading.Yields.anything

theorem Yields.seq {change : Fields (Value → Result)} {fields : Fields Value}
    (changes : change.Yields fun apply => ∀ value, Fits value → Suits (apply value))
    (yields : fields.Yields Fits) : (change <*> fields).Yields Suits :=
  fun entries => Reading.Yields.seq (changes entries) (yields entries)

theorem Yields.map {change : Value → Result} {fields : Fields Value}
    (changes : ∀ value, Fits value → Suits (change value)) (yields : fields.Yields Fits) :
    (change <$> fields).Yields Suits :=
  fun entries => Reading.Yields.map changes (yields entries)

theorem Yields.required (key : String) {read : Document → Reading Value}
    (yields : ∀ document, (read document).Yields Fits) : (required key read).Yields Fits := by
  intro entries
  simp only [Fields.required]
  split
  · exact Reading.Yields.under (yields _)
  · exact Reading.Yields.under (Reading.Yields.fault _)

theorem Yields.withDefault (key : String) {fallback : Reading Value}
    {read : Document → Reading Value} (falls : fallback.Yields Fits)
    (yields : ∀ document, (read document).Yields Fits) :
    (withDefault key fallback read).Yields Fits := by
  intro entries
  simp only [Fields.withDefault]
  split
  · exact Reading.Yields.under (yields _)
  · exact falls

theorem Yields.optional (key : String) {read : Document → Reading Value}
    (yields : ∀ document, (read document).Yields Fits) :
    (optional key read).Yields fun found => ∀ value, found = some value → Fits value := by
  intro entries
  simp only [Fields.optional]
  split
  · exact Reading.Yields.pure (by simp)
  · exact Reading.Yields.pure (by simp)
  · refine Reading.Yields.map ?_ (Reading.Yields.under (yields _))
    intro value fits other same
    obtain rfl := Option.some.inj same
    exact fits

theorem readEntries_yields {fields : Fields Value} {entries : List (String × Document)}
    (yields : (fields.read entries).Yields Fits) : (fields.readEntries entries).Yields Fits :=
  Reading.Yields.seq (Reading.Yields.map (fun _ fits _ _ => fits) yields) Reading.Yields.anything

theorem Yields.readEntries {fields : Fields Value} (yields : fields.Yields Fits)
    (entries : List (String × Document)) : (fields.readEntries entries).Yields Fits :=
  readEntries_yields (yields entries)

end Fields

namespace Reading

variable {Fits : Value → Prop}

theorem Yields.record (name : String) {fields : Fields Value} (yields : fields.Yields Fits)
    (document : Document) : (record name fields document).Yields Fits := by
  cases document with
  | object entries => exact Fields.Yields.readEntries yields entries
  | _ => exact Yields.fault _

theorem Yields.tagged (key : String) {variants : List (String × Fields Value)}
    (yields : ∀ variant ∈ variants, variant.2.Yields Fits) (document : Document) :
    (tagged key variants document).Yields Fits := by
  cases document with
  | object entries =>
      simp only [Reading.tagged]
      split
      · exact Yields.fault _
      · split
        · split
          · next known =>
              obtain ⟨before, after, listed, _⟩ := List.lookup_eq_some_iff.1 known
              have member := listed ▸ List.mem_append_right before List.mem_cons_self
              exact Yields.under (Fields.Yields.readEntries (yields _ member) entries)
          · exact Yields.fault _
        · exact Yields.fault _
  | _ => exact Yields.fault _

end Reading
end CoffeeGrading
