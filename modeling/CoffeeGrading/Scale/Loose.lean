import CoffeeGrading.Scale.Record

/-!
Wording scales from loosely typed options.  An option is an object with a label and a value, or a
list of just the two; the label is the display of whatever stands there, and the value is
anything that can be read as a number.  The first option that cannot be used decides the fault.
-/

namespace CoffeeGrading

inductive LooseFault where
  | tooFew (count : Nat)
  | tooMany
  | noKey (key : String)
  | notAnOption (kind : String)
  | textForOption
  | notNumeric (kind : String)
  | unreadable (text : String)
  | tooLarge
  | invalid (faults : List Fault)
deriving DecidableEq

def LooseFault.message : LooseFault → String
  | tooFew count => s!"not enough values to unpack (expected 2, got {count})"
  | tooMany => "too many values to unpack (expected 2)"
  | noKey key => key
  | notAnOption kind => s!"'{kind}' object is not subscriptable"
  | textForOption => "string indices must be integers, not 'str'"
  | notNumeric kind => s!"float() argument must be a string or a real number, not '{kind}'"
  | unreadable text => "could not convert string to float: " ++ Text.quoted text
  | tooLarge => "int too large to convert to float"
  | invalid faults => Fault.messages faults

namespace WordingOption

def looseParts : Document → Except LooseFault (Document × Document)
  | .list [label, value] => .ok (label, value)
  | .list (_ :: _ :: _ :: _) => .error .tooMany
  | .list items => .error (.tooFew items.length)
  | .object entries =>
    match Document.lookup? "label" entries, Document.lookup? "value" entries with
    | some label, some value => .ok (label, value)
    | none, _ => .error (.noKey "label")
    | _, none => .error (.noKey "value")
  | .text _ => .error .textForOption
  | .null => .error (.notAnOption "NoneType")
  | .flag _ => .error (.notAnOption "bool")
  | .whole _ => .error (.notAnOption "int")
  | .number _ => .error (.notAnOption "float")

def looseNumber : Document → Except LooseFault Binary64
  | .number value => .ok value
  | .flag value => .ok (if value then 1 else 0)
  | .whole value =>
    let nearest := Binary64.ofInt value
    if nearest.isFinite then .ok nearest else .error .tooLarge
  | .text value =>
    match Numeral.anyScriptNumber? value with
    | some number => .ok number
    | none => .error (.unreadable value)
  | .null => .error (.notNumeric "NoneType")
  | .list _ => .error (.notNumeric "list")
  | .object _ => .error (.notNumeric "dict")

def ofLoose (position : Nat) (option : Document) : Except LooseFault WordingOption := do
  let (label, value) ← looseParts option
  let value ← looseNumber value
  match nonFiniteFaults [("value", some value)] with
  | [] => .ok ⟨label.displayText, value, position⟩
  | faults => .error (.invalid faults)

def ofLooseFrom (position : Nat) : List Document → Except LooseFault (List WordingOption)
  | [] => .ok []
  | option :: rest => do
    let first ← ofLoose position option
    let others ← ofLooseFrom (position + 1) rest
    .ok (first :: others)

end WordingOption

def Scale.ofLoose (options : List Document) : Except LooseFault Scale := do
  let options ← WordingOption.ofLooseFrom 0 options
  .ok (.wording options)

end CoffeeGrading
