import CoffeeGrading.Document.Primitive

/-!
A reading that ends without a value says why: it names at least one fault.
-/

namespace CoffeeGrading

variable {Value Result : Type}

def Reading.Explains (reading : Reading Value) : Prop :=
  ∀ supply, (reading supply).1 ≠ .faulty []

def Fields.Explains (fields : Fields Value) : Prop :=
  ∀ entries, (fields.read entries).Explains

namespace Checked

theorem apply_ne_silent {change : Checked (Value → Result)} {value : Checked Value}
    (changes : change ≠ .faulty []) (explains : value ≠ .faulty []) :
    change.apply value ≠ .faulty [] := by
  cases change with
  | good function =>
      cases value with
      | good found => simp [apply]
      | faulty faults => simpa [apply] using explains
  | faulty faults =>
      cases value with
      | good found => simpa [apply] using changes
      | faulty others =>
          have named : faults ≠ [] := by simpa using changes
          simp [apply, named]

theorem under_ne_silent {value : Checked Value} (part : String) (explains : value ≠ .faulty []) :
    value.under part ≠ .faulty [] := by
  cases value with
  | good found => simp [under]
  | faulty faults => simpa [under] using explains

end Checked

namespace Reading

theorem Explains.pure (value : Value) : (pure value : Reading Value).Explains := by
  rintro supply ⟨⟩

theorem Explains.fault (cause : Cause) : (fault cause : Reading Value).Explains := by
  rintro supply ⟨⟩

theorem Explains.seq {change : Reading (Value → Result)} {reading : Reading Value}
    (changes : change.Explains) (explains : reading.Explains) :
    (change <*> reading).Explains :=
  fun supply => Checked.apply_ne_silent (changes supply) (explains _)

theorem Explains.map {change : Value → Result} {reading : Reading Value}
    (explains : reading.Explains) : (change <$> reading).Explains :=
  .seq (.pure change) explains

theorem Explains.under {part : String} {reading : Reading Value} (explains : reading.Explains) :
    (reading.under part).Explains :=
  fun supply => Checked.under_ne_silent part (explains supply)

theorem Explains.each {read : Document → Reading Value}
    (explains : ∀ document, (read document).Explains) (position : Nat) (items : List Document) :
    (each read position items).Explains := by
  induction items generalizing position with
  | nil => exact .pure []
  | cons item rest ih => exact .seq (.map (.under (explains item))) (ih (position + 1))

theorem Explains.list {read : Document → Reading Value}
    (explains : ∀ document, (read document).Explains) (document : Document) :
    (list read document).Explains := by
  cases document with
  | list items => exact .each explains 0 items
  | _ => exact .fault _

theorem flagOfWhole_ne_silent (value : Int) : flagOfWhole value ≠ .faulty [] := by
  unfold flagOfWhole
  repeat' split
  all_goals simp

theorem Explains.flag (document : Document) : (flag document).Explains := by
  suffices explained : flagOf document ≠ .faulty [] from fun _ => explained
  cases document with
  | whole value => exact flagOfWhole_ne_silent value
  | number value =>
      simp only [flagOf]
      split
      · exact flagOfWhole_ne_silent _
      · simp
  | text value =>
      simp only [flagOf]
      repeat' split
      all_goals simp
  | _ => simp [flagOf]

theorem Explains.identifier (document : Document) : (identifier document).Explains := by
  cases document with
  | text value =>
      simp only [Reading.identifier]
      split
      · exact .pure _
      · exact .fault _
  | _ => exact .fault _

end Reading

namespace Fields

theorem Explains.seq {change : Fields (Value → Result)} {fields : Fields Value}
    (changes : change.Explains) (explains : fields.Explains) : (change <*> fields).Explains :=
  fun entries => .seq (changes entries) (explains entries)

theorem Explains.map {change : Value → Result} {fields : Fields Value}
    (explains : fields.Explains) : (change <$> fields).Explains :=
  fun entries => .map (explains entries)

theorem Explains.optional (key : String) {read : Document → Reading Value}
    (explains : ∀ document, (read document).Explains) : (optional key read).Explains := by
  intro entries
  simp only [Fields.optional]
  split
  · exact .pure none
  · exact .pure none
  · exact .map (.under (explains _))

theorem unexpected_ne_silent (keys : List String) (entries : List (String × Document)) :
    unexpected keys entries ≠ .faulty [] := by
  unfold unexpected
  split
  · simp
  · next extra filled => simpa using filled

theorem Explains.readEntries {fields : Fields Value} (explains : fields.Explains)
    (entries : List (String × Document)) : (fields.readEntries entries).Explains :=
  .seq (.map (explains entries)) fun _ => unexpected_ne_silent fields.keys entries

end Fields
end CoffeeGrading
