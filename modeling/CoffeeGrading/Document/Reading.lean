import CoffeeGrading.Document
import CoffeeGrading.Document.Fault

/-!
Reading values from documents.  A reading tries every part and collects the faults of all of
them in order, so one pass reports everything that is wrong.  Parts that are left out may take a
new identifier or the current time from a supply, in the order in which the parts are read.
-/

namespace CoffeeGrading

inductive Checked (Value : Type) where
  | good (value : Value)
  | faulty (faults : List Fault)

namespace Checked

variable {Value Result : Type}

def map (change : Value → Result) : Checked Value → Checked Result
  | good value => good (change value)
  | faulty faults => faulty faults

/-- Faults of both sides, the left ones first; otherwise the function applied to the value. -/
def apply : Checked (Value → Result) → Checked Value → Checked Result
  | good change, good value => good (change value)
  | good _, faulty faults => faulty faults
  | faulty faults, good _ => faulty faults
  | faulty first, faulty second => faulty (first ++ second)

def under (part : String) : Checked Value → Checked Value
  | good value => good value
  | faulty faults => faulty (faults.map (Fault.under part))

def require (objection : Value → Option Cause) : Checked Value → Checked Value
  | good value =>
    match objection value with
    | none => good value
    | some cause => faulty [⟨[], cause⟩]
  | faulty faults => faulty faults

def toExcept : Checked Value → Except (List Fault) Value
  | good value => .ok value
  | faulty faults => .error faults

end Checked

def Reading (Value : Type) : Type :=
  Supply Timestamp → Checked Value × Supply Timestamp

namespace Reading

variable {Value Result : Type}

instance : Applicative Reading where
  pure value := fun supply => (.good value, supply)
  seq change value := fun supply =>
    let (checkedChange, supply) := change supply
    let (checkedValue, supply) := value () supply
    (checkedChange.apply checkedValue, supply)

def ofChecked (checked : Checked Value) : Reading Value := fun supply => (checked, supply)

def fault (cause : Cause) : Reading Value := ofChecked (.faulty [⟨[], cause⟩])

def under (part : String) (reading : Reading Value) : Reading Value := fun supply =>
  let (checked, supply) := reading supply
  (checked.under part, supply)

def require (objection : Value → Option Cause) (reading : Reading Value) : Reading Value :=
  fun supply =>
    let (checked, supply) := reading supply
    (checked.require objection, supply)

def freshIdentifier : Reading Identifier := fun supply =>
  let (identifier, supply) := supply.next
  (.good identifier, supply)

def currentTime : Reading Timestamp := fun supply => (.good supply.now, supply)

def each (read : Document → Reading Value) (position : Nat) :
    List Document → Reading (List Value)
  | [] => pure []
  | item :: rest =>
    List.cons <$> under (toString position) (read item) <*> each read (position + 1) rest

def eachEntry (read : Document → Reading Value) :
    List (String × Document) → Reading (List (String × Value))
  | [] => pure []
  | (key, value) :: rest =>
    (fun value rest => (key, value) :: rest) <$> under key (read value) <*> eachEntry read rest

def list (read : Document → Reading Value) : Document → Reading (List Value)
  | .list items => each read 0 items
  | _ => fault .notList

def nonemptyList (read : Document → Reading Value) (document : Document) :
    Reading (Value × List Value) := fun supply =>
  match list read document supply with
  | (.good (first :: others), supply) => (.good (first, others), supply)
  | (.good [], supply) => (.faulty [⟨[], .emptyList⟩], supply)
  | (.faulty faults, supply) => (.faulty faults, supply)

def tuple (read : Document → Reading Value) : Document → Reading (List Value)
  | .list items => each read 0 items
  | _ => fault .notTuple

def dictionary (read : Document → Reading Value) :
    Document → Reading (List (String × Value))
  | .object entries => eachEntry read entries
  | _ => fault .notObject

end Reading

structure Fields (Value : Type) where
  keys : List String
  read : List (String × Document) → Reading Value

namespace Fields

variable {Value Result : Type}

instance : Applicative Fields where
  pure value := ⟨[], fun _ => pure value⟩
  seq change value :=
    let value := value ()
    ⟨change.keys ++ value.keys, fun entries => change.read entries <*> value.read entries⟩

def required (key : String) (read : Document → Reading Value) : Fields Value :=
  ⟨[key], fun entries =>
    match Document.lookup? key entries with
    | some value => (read value).under key
    | none => (Reading.fault .missing).under key⟩

def withDefault (key : String) (fallback : Reading Value) (read : Document → Reading Value) :
    Fields Value :=
  ⟨[key], fun entries =>
    match Document.lookup? key entries with
    | some value => (read value).under key
    | none => fallback⟩

def optional (key : String) (read : Document → Reading Value) : Fields (Option Value) :=
  ⟨[key], fun entries =>
    match Document.lookup? key entries with
    | none => pure none
    | some .null => pure none
    | some value => some <$> (read value).under key⟩

def known (key : String) : Fields Unit :=
  ⟨[key], fun _ => pure ()⟩

def unexpected (keys : List String) (entries : List (String × Document)) : Checked Unit :=
  match entries.filter fun (key, _) => !keys.contains key with
  | [] => .good ()
  | extra => .faulty (extra.map fun (key, _) => ⟨[key], .unexpected⟩)

def readEntries (fields : Fields Value) (entries : List (String × Document)) : Reading Value :=
  (fun value _ => value) <$> fields.read entries
    <*> Reading.ofChecked (unexpected fields.keys entries)

end Fields

namespace Reading

variable {Value : Type}

def record (name : String) (fields : Fields Value) : Document → Reading Value
  | .object entries => fields.readEntries entries
  | _ => fault (.notRecord name)

def tagged (key : String) (variants : List (String × Fields Value)) :
    Document → Reading Value
  | .object entries =>
    match Document.lookup? key entries with
    | none => fault (.untagged key)
    | some tag =>
      match tag with
      | .text name =>
        match variants.lookup name with
        | some fields => under name (fields.readEntries entries)
        | none => fault (.unknownTag tag.displayText key (variants.map (·.1)))
      | _ => fault (.unknownTag tag.displayText key (variants.map (·.1)))
  | _ => fault .notTagged

end Reading
end CoffeeGrading
