import CoffeeGrading.Document.Reading
import CoffeeGrading.Number.Numeral

/-!
Reading single values from documents: texts, numbers, flags, choices, identifiers and points in
time.  Numbers and flags are also read from text, and from one another where nothing is lost.
-/

namespace CoffeeGrading.Reading

def text : Document → Reading String
  | .text value => pure value
  | _ => fault .notText

def anyNumber : Document → Checked Binary64
  | .number value => .good value
  | .whole value =>
    let nearest := Binary64.ofInt value
    if nearest.isFinite then .good nearest else .faulty [⟨[], .notNumber⟩]
  | .flag value => .good (if value then 1 else 0)
  | .text value =>
    match Numeral.number? value with
    | some number => .good number
    | none => .faulty [⟨[], .numberText⟩]
  | _ => .faulty [⟨[], .notNumber⟩]

def number (document : Document) : Reading Binary64 :=
  ofChecked ((anyNumber document).require fun value =>
    if value.isFinite then none else some .notFinite)

def notAboveZero (value : Binary64) : Option Cause :=
  if 0 < value then none else some .notPositive

def positiveNumber (document : Document) : Reading Binary64 :=
  (number document).require notAboveZero

/-- The largest whole numbers a binary64 number may be read as lie below two to the 63rd. -/
def wholeOfNumber (value : Binary64) : Checked Int :=
  match value with
  | .finite negative units _ =>
    if !value.isWhole then .faulty [⟨[], .fractional⟩]
    else if Nat.pow 2 63 * Binary64.unitsPerOne ≤ units then .faulty [⟨[], .wholeRange⟩]
    else .good (Binary64.signed negative (units / Binary64.unitsPerOne))
  | _ => .faulty [⟨[], .notFinite⟩]

def whole : Document → Reading Int
  | .whole value => pure value
  | .flag value => pure (if value then 1 else 0)
  | .number value => ofChecked (wholeOfNumber value)
  | .text value =>
    match Numeral.whole value with
    | .ok whole => pure whole
    | .error .malformed => fault .wholeText
    | .error .tooLong => fault .wholeRange
  | _ => fault .notWhole

def positiveWhole (document : Document) : Reading Int :=
  (whole document).require fun value => if 1 ≤ value then none else some .belowOne

def yesWords : List String := ["1", "on", "t", "true", "y", "yes"]

def noWords : List String := ["0", "off", "f", "false", "n", "no"]

/-- One is true and zero is false; no other whole number is a flag, and those beyond 64 bits are
not even taken for one. -/
def flagOfWhole (value : Int) : Checked Bool :=
  if value = 1 then .good true
  else if value = 0 then .good false
  else if -↑(Nat.pow 2 63) ≤ value ∧ value < ↑(Nat.pow 2 63) then .faulty [⟨[], .flagText⟩]
  else .faulty [⟨[], .notFlag⟩]

def flagOf : Document → Checked Bool
  | .flag value => .good value
  | .whole value => flagOfWhole value
  | .number value =>
    match wholeOfNumber value with
    | .good whole => flagOfWhole whole
    | .faulty _ => .faulty [⟨[], .notFlag⟩]
  | .text value =>
    let word := String.ofList (value.toList.map Char.toLower)
    if yesWords.contains word then .good true
    else if noWords.contains word then .good false
    else .faulty [⟨[], .flagText⟩]
  | _ => .faulty [⟨[], .notFlag⟩]

def flag (document : Document) : Reading Bool :=
  ofChecked (flagOf document)

def choice {Value : Type} (choices : List (String × Value)) (document : Document) :
    Reading Value :=
  let refusal : Reading Value := fault (.notAmong (choices.map (·.1)))
  match document with
  | .text name =>
    match choices.lookup name with
    | some value => pure value
    | none => refusal
  | _ => refusal

def identifier : Document → Reading Identifier
  | .text value =>
    match Identifier.read value with
    | .ok identifier => pure identifier
    | .error reason => fault (.identifier reason)
  | _ => fault .notIdentifier

/-- A point in time, as a text or as a number.  A whole number has to lie within the range of
binary64. -/
def timestamp : Document → Reading Timestamp
  | .text value =>
    match Timestamp.read value with
    | .ok timestamp => pure timestamp
    | .error .yearZero => fault (.timestampValue .yearZero)
    | .error reason => fault (.timestampText reason)
  | .whole value =>
    if !(Binary64.ofInt value).isFinite then fault .notTimestamp
    else
      match Timestamp.ofCount value with
      | .ok timestamp => pure timestamp
      | .error reason => fault (.timestampValue reason)
  | .number value =>
    match Timestamp.ofNumber value with
    | .ok timestamp => pure timestamp
    | .error reason => fault (.timestampValue reason)
  | _ => fault .notTimestamp

end CoffeeGrading.Reading
