import CoffeeGrading.Document.Primitive

/-!
Readings of one document with different supplies.  Fresh identifiers and the time of reading get
into the values that are read, but not into the faults: either both readings find the same faults,
or both end with values, and these are alike.
-/

namespace CoffeeGrading

variable {Value Result : Type}

inductive Checked.Agree (Alike : Value → Value → Prop) : Checked Value → Checked Value → Prop
  | good {left right : Value} : Alike left right → Agree Alike (.good left) (.good right)
  | faulty (faults : List Fault) : Agree Alike (.faulty faults) (.faulty faults)

def Reading.Steady (reading : Reading Value) (Alike : Value → Value → Prop) : Prop :=
  ∀ supply other, Checked.Agree Alike (reading supply).1 (reading other).1

def Fields.Steady (fields : Fields Value) (Alike : Value → Value → Prop) : Prop :=
  ∀ entries, (fields.read entries).Steady Alike

namespace Checked

variable {Alike : Value → Value → Prop} {Suits : Result → Result → Prop}

theorem agree_eq (checked : Checked Value) : Agree Eq checked checked := by
  cases checked with
  | good value => exact .good rfl
  | faulty faults => exact .faulty faults

theorem Agree.apply {change otherChange : Checked (Value → Result)}
    {value otherValue : Checked Value}
    (changes : Agree (fun apply other => ∀ left right, Alike left right →
      Suits (apply left) (other right)) change otherChange)
    (values : Agree Alike value otherValue) :
    Agree Suits (change.apply value) (otherChange.apply otherValue) := by
  cases changes with
  | good suits =>
      cases values with
      | good alike => exact .good (suits _ _ alike)
      | faulty faults => exact .faulty faults
  | faulty first =>
      cases values with
      | good alike => exact .faulty first
      | faulty second => exact .faulty (first ++ second)

theorem Agree.of_good {value : Value} {other : Checked Value}
    (values : Agree Alike (.good value) other) :
    ∃ found, other = .good found ∧ Alike value found := by
  cases values with
  | good alike => exact ⟨_, rfl, alike⟩

theorem Agree.eq {value other : Checked Value} (values : Agree Eq value other) :
    value = other := by
  cases values with
  | good same => rw [same]
  | faulty faults => rfl

theorem Agree.imp {Looser : Value → Value → Prop} {value other : Checked Value}
    (looser : ∀ left right, Alike left right → Looser left right)
    (values : Agree Alike value other) : Agree Looser value other := by
  cases values with
  | good alike => exact .good (looser _ _ alike)
  | faulty faults => exact .faulty faults

theorem Agree.require {value other : Checked Value} (objection : Value → Option Cause)
    (values : Agree Eq value other) :
    Agree Eq (value.require objection) (other.require objection) := by
  cases values with
  | good same =>
      rw [same]
      exact agree_eq _
  | faulty faults => exact .faulty faults

theorem Agree.under {value other : Checked Value} (part : String)
    (values : Agree Alike value other) : Agree Alike (value.under part) (other.under part) := by
  cases values with
  | good alike => exact .good alike
  | faulty faults => exact .faulty _

end Checked

namespace Reading

variable {Alike : Value → Value → Prop} {Suits : Result → Result → Prop}

theorem Steady.imp {Looser : Value → Value → Prop} {reading : Reading Value}
    (looser : ∀ left right, Alike left right → Looser left right)
    (steady : reading.Steady Alike) : reading.Steady Looser :=
  fun supply other => (steady supply other).imp looser

theorem Steady.pure {value : Value} (alike : Alike value value) :
    (pure value : Reading Value).Steady Alike :=
  fun _ _ => .good alike

theorem Steady.fault (cause : Cause) : (fault cause : Reading Value).Steady Alike :=
  fun _ _ => .faulty _

theorem Steady.ofChecked (checked : Checked Value) : (ofChecked checked).Steady Eq :=
  fun _ _ => checked.agree_eq

theorem Steady.freshIdentifier : freshIdentifier.Steady fun _ _ => True :=
  fun _ _ => .good trivial

theorem Steady.currentTime : currentTime.Steady fun _ _ => True :=
  fun _ _ => .good trivial

theorem Steady.seq {change : Reading (Value → Result)} {reading : Reading Value}
    (changes : change.Steady fun apply other => ∀ left right, Alike left right →
      Suits (apply left) (other right))
    (steady : reading.Steady Alike) : (change <*> reading).Steady Suits :=
  fun supply other => (changes supply other).apply (steady _ _)

theorem Steady.map {change : Value → Result} {reading : Reading Value}
    (suits : ∀ left right, Alike left right → Suits (change left) (change right))
    (steady : reading.Steady Alike) : (change <$> reading).Steady Suits :=
  .seq (.pure suits) steady

theorem Steady.seq_eq {change : Reading (Value → Result)} {reading : Reading Value}
    (changes : change.Steady Eq) (steady : reading.Steady Eq) :
    (change <*> reading).Steady Eq := by
  refine .seq (changes.imp ?_) steady
  intro apply other sameChange left right sameValue
  rw [sameChange, sameValue]

theorem Steady.map_eq {change : Value → Result} {reading : Reading Value}
    (steady : reading.Steady Eq) : (change <$> reading).Steady Eq :=
  .map (fun _ _ same => congrArg change same) steady

theorem Steady.under {part : String} {reading : Reading Value} (steady : reading.Steady Alike) :
    (reading.under part).Steady Alike :=
  fun supply other => (steady supply other).under part

theorem Steady.require {objection : Value → Option Cause} {reading : Reading Value}
    (steady : reading.Steady Eq) : (reading.require objection).Steady Eq :=
  fun supply other => (steady supply other).require objection

theorem Steady.each {Together : List Value → List Value → Prop} {read : Document → Reading Value}
    (none : Together [] [])
    (more : ∀ left right, Alike left right → ∀ lefts rights, Together lefts rights →
      Together (left :: lefts) (right :: rights))
    (steady : ∀ document, (read document).Steady Alike) (position : Nat) (items : List Document) :
    (each read position items).Steady Together := by
  induction items generalizing position with
  | nil => exact .pure none
  | cons item rest ih => exact .seq (.map more (.under (steady item))) (ih (position + 1))

theorem Steady.list {Together : List Value → List Value → Prop} {read : Document → Reading Value}
    (none : Together [] [])
    (more : ∀ left right, Alike left right → ∀ lefts rights, Together lefts rights →
      Together (left :: lefts) (right :: rights))
    (steady : ∀ document, (read document).Steady Alike) (document : Document) :
    (list read document).Steady Together := by
  cases document with
  | list items => exact .each none more steady 0 items
  | _ => exact .fault _

theorem Steady.list_eq {read : Document → Reading Value}
    (steady : ∀ document, (read document).Steady Eq) (document : Document) :
    (Reading.list read document).Steady Eq := by
  refine .list rfl ?_ steady document
  intro left right same lefts rights sameRest
  rw [same, sameRest]

theorem Steady.nonemptyList {read : Document → Reading Value}
    (steady : ∀ document, (read document).Steady Eq) (document : Document) :
    (nonemptyList read document).Steady Eq := by
  -- That the list is not empty is asked of the items once they are read, so `seq` does not apply.
  intro supply other
  have items := Steady.list_eq steady document supply other
  simp only [Reading.nonemptyList]
  generalize Reading.list read document supply = first at items
  generalize Reading.list read document other = second at items
  obtain ⟨first, _⟩ := first
  obtain ⟨second, _⟩ := second
  cases items with
  | @good left right same =>
      subst same
      cases left with
      | nil => exact .faulty _
      | cons first others => exact .good rfl
  | faulty faults => exact .faulty faults

theorem Steady.eachEntry {read : Document → Reading Value}
    (steady : ∀ document, (read document).Steady Eq) (entries : List (String × Document)) :
    (eachEntry read entries).Steady Eq := by
  induction entries with
  | nil => exact .pure rfl
  | cons entry rest ih => exact .seq_eq (.map_eq (.under (steady entry.2))) ih

theorem Steady.dictionary {read : Document → Reading Value}
    (steady : ∀ document, (read document).Steady Eq) (document : Document) :
    (dictionary read document).Steady Eq := by
  cases document with
  | object entries => exact .eachEntry steady entries
  | _ => exact .fault _

/-! ### Single values -/

theorem Steady.text (document : Document) : (text document).Steady Eq := by
  cases document with
  | text value => exact .pure rfl
  | _ => exact .fault _

theorem Steady.number (document : Document) : (number document).Steady Eq :=
  .ofChecked _

theorem Steady.whole (document : Document) : (whole document).Steady Eq := by
  cases document with
  | whole value => exact .pure rfl
  | flag value => exact .pure rfl
  | number value => exact .ofChecked _
  | text value =>
      simp only [Reading.whole]
      split
      · exact .pure rfl
      · exact .fault _
      · exact .fault _
  | _ => exact .fault _

theorem Steady.positiveWhole (document : Document) : (positiveWhole document).Steady Eq :=
  .require (.whole document)

theorem Steady.flag (document : Document) : (flag document).Steady Eq :=
  .ofChecked _

theorem Steady.choice (choices : List (String × Value)) (document : Document) :
    (choice choices document).Steady Eq := by
  cases document with
  | text name =>
      simp only [Reading.choice]
      split
      · exact .pure rfl
      · exact .fault _
  | _ => exact .fault _

theorem Steady.identifier (document : Document) : (identifier document).Steady Eq := by
  cases document with
  | text value =>
      simp only [Reading.identifier]
      split
      · exact .pure rfl
      · exact .fault _
  | _ => exact .fault _

theorem Steady.timestamp (document : Document) : (timestamp document).Steady Eq := by
  -- Unfolding by equations would compute with the bounds of the numbers.
  delta Reading.timestamp
  cases document with
  | text value =>
      dsimp only
      split
      · exact .pure rfl
      · exact .fault _
      · exact .fault _
  | whole value =>
      dsimp only
      split
      · exact .fault _
      · split
        · exact .pure rfl
        · exact .fault _
  | number value =>
      dsimp only
      split
      · exact .pure rfl
      · exact .fault _
  | _ => exact .fault _

end Reading

namespace Fields

variable {Alike : Value → Value → Prop} {Suits : Result → Result → Prop}

theorem Steady.seq {change : Fields (Value → Result)} {fields : Fields Value}
    (changes : change.Steady fun apply other => ∀ left right, Alike left right →
      Suits (apply left) (other right))
    (steady : fields.Steady Alike) : (change <*> fields).Steady Suits :=
  fun entries => .seq (changes entries) (steady entries)

theorem Steady.map {change : Value → Result} {fields : Fields Value}
    (suits : ∀ left right, Alike left right → Suits (change left) (change right))
    (steady : fields.Steady Alike) : (change <$> fields).Steady Suits :=
  fun entries => .map suits (steady entries)

theorem Steady.seq_eq {change : Fields (Value → Result)} {fields : Fields Value}
    (changes : change.Steady Eq) (steady : fields.Steady Eq) : (change <*> fields).Steady Eq :=
  fun entries => .seq_eq (changes entries) (steady entries)

theorem Steady.map_eq {change : Value → Result} {fields : Fields Value}
    (steady : fields.Steady Eq) : (change <$> fields).Steady Eq :=
  fun entries => .map_eq (steady entries)

theorem Steady.known (key : String) : (known key).Steady Eq :=
  fun _ => .pure rfl

theorem Steady.required (key : String) {read : Document → Reading Value}
    (steady : ∀ document, (read document).Steady Alike) : (required key read).Steady Alike := by
  intro entries
  simp only [Fields.required]
  split
  · exact .under (steady _)
  · exact .under (.fault _)

theorem Steady.withDefault (key : String) {fallback : Reading Value}
    {read : Document → Reading Value} (falls : fallback.Steady Alike)
    (steady : ∀ document, (read document).Steady Alike) :
    (withDefault key fallback read).Steady Alike := by
  intro entries
  simp only [Fields.withDefault]
  split
  · exact .under (steady _)
  · exact falls

theorem Steady.optional (key : String) {Set : Option Value → Option Value → Prop}
    {read : Document → Reading Value} (unset : Set none none)
    (set : ∀ left right, Alike left right → Set (some left) (some right))
    (steady : ∀ document, (read document).Steady Alike) : (optional key read).Steady Set := by
  intro entries
  simp only [Fields.optional]
  split
  · exact .pure unset
  · exact .pure unset
  · exact .map set (.under (steady _))

theorem Steady.optional_eq (key : String) {read : Document → Reading Value}
    (steady : ∀ document, (read document).Steady Eq) : (Fields.optional key read).Steady Eq :=
  .optional key rfl (fun _ _ same => congrArg some same) steady

theorem Steady.readEntries {fields : Fields Value} (steady : fields.Steady Alike)
    (entries : List (String × Document)) : (fields.readEntries entries).Steady Alike := by
  refine .seq (.map ?_ (steady entries)) (.ofChecked _)
  intro left right alike _ _ _
  exact alike

end Fields

namespace Reading

variable {Alike : Value → Value → Prop}

theorem Steady.record (name : String) {fields : Fields Value} (steady : fields.Steady Alike)
    (document : Document) : (record name fields document).Steady Alike := by
  cases document with
  | object entries => exact Fields.Steady.readEntries steady entries
  | _ => exact .fault _

theorem Steady.tagged (key : String) {variants : List (String × Fields Value)}
    (steady : ∀ variant ∈ variants, variant.2.Steady Alike) (document : Document) :
    (tagged key variants document).Steady Alike := by
  cases document with
  | object entries =>
      simp only [Reading.tagged]
      split
      · exact .fault _
      · split
        · split
          · next known =>
              obtain ⟨before, after, listed, _⟩ := List.lookup_eq_some_iff.1 known
              have member := listed ▸ List.mem_append_right before List.mem_cons_self
              exact .under (Fields.Steady.readEntries (steady _ member) entries)
          · exact .fault _
        · exact .fault _
  | _ => exact .fault _

end Reading
end CoffeeGrading
