import CoffeeGrading.Number.Numeral

/-!
Points in time: a calendar date, a time of day down to the microsecond, and the distance from
universal time when it is known.  They are read from text, from a date alone (midnight, distance
unknown), and from seconds or milliseconds since the start of 1970.  Years run from 1 to 9999.
-/

namespace CoffeeGrading

def daysInMonth (year month : Nat) : Nat :=
  if month = 2 then
    if year % 4 = 0 ∧ (year % 100 ≠ 0 ∨ year % 400 = 0) then 29 else 28
  else if month = 4 ∨ month = 6 ∨ month = 9 ∨ month = 11 then 30 else 31

structure TimestampParts where
  year : Nat
  month : Nat
  day : Nat
  hour : Nat
  minute : Nat
  second : Nat
  microsecond : Nat
  /-- Minutes ahead of universal time. -/
  offset : Option Int
deriving DecidableEq

structure TimestampParts.Valid (parts : TimestampParts) : Prop where
  year : 1 ≤ parts.year ∧ parts.year ≤ 9999
  month : 1 ≤ parts.month ∧ parts.month ≤ 12
  day : 1 ≤ parts.day ∧ parts.day ≤ daysInMonth parts.year parts.month
  hour : parts.hour ≤ 23
  minute : parts.minute ≤ 59
  second : parts.second ≤ 59
  microsecond : parts.microsecond ≤ 999999
  offset : (parts.offset.getD 0).natAbs < 1440

theorem TimestampParts.valid_iff (parts : TimestampParts) :
    parts.Valid ↔ (1 ≤ parts.year ∧ parts.year ≤ 9999) ∧ (1 ≤ parts.month ∧ parts.month ≤ 12) ∧
      (1 ≤ parts.day ∧ parts.day ≤ daysInMonth parts.year parts.month) ∧ parts.hour ≤ 23 ∧
      parts.minute ≤ 59 ∧ parts.second ≤ 59 ∧ parts.microsecond ≤ 999999 ∧
      (parts.offset.getD 0).natAbs < 1440 :=
  ⟨fun valid => ⟨valid.1, valid.2, valid.3, valid.4, valid.5, valid.6, valid.7, valid.8⟩,
    fun ⟨year, month, day, hour, minute, second, microsecond, offset⟩ =>
      ⟨year, month, day, hour, minute, second, microsecond, offset⟩⟩

instance (parts : TimestampParts) : Decidable parts.Valid :=
  decidable_of_iff _ parts.valid_iff.symm

structure Timestamp where
  parts : TimestampParts
  valid : parts.Valid
deriving DecidableEq

inductive TimestampFault where
  | tooShort
  | yearDigit
  | monthDigit
  | dayDigit
  | dateSeparator
  | monthRange
  | dayRange
  | trailing
  | yearZero
  | tooEarly
  | tooLate
  | notANumber
deriving DecidableEq

def TimestampFault.message : TimestampFault → String
  | tooShort => "input is too short"
  | yearDigit => "invalid character in year"
  | monthDigit => "invalid character in month"
  | dayDigit => "invalid character in day"
  | dateSeparator => "invalid date separator, expected \x60-\x60"
  | monthRange => "month value is outside expected range of 1-12"
  | dayRange => "day value is outside expected range"
  | trailing => "unexpected extra characters at the end of the input"
  | yearZero => "year 0 is out of range"
  | tooEarly => "dates before 0000 are not supported as unix timestamps"
  | tooLate => "dates after 9999 are not supported as unix timestamps"
  | notANumber => "NaN values not permitted"

namespace Timestamp

/-! ### Writing -/

def padded (width value : Nat) : String :=
  let digits := toString value
  String.ofList (List.replicate (width - digits.length) '0') ++ digits

def offsetText : Option Int → String
  | none => ""
  | some minutes =>
    if minutes = 0 then "Z"
    else (if minutes < 0 then "-" else "+") ++ padded 2 (minutes.natAbs / 60) ++ ":"
      ++ padded 2 (minutes.natAbs % 60)

def text (timestamp : Timestamp) : String :=
  let parts := timestamp.parts
  padded 4 parts.year ++ "-" ++ padded 2 parts.month ++ "-" ++ padded 2 parts.day ++ "T"
    ++ padded 2 parts.hour ++ ":" ++ padded 2 parts.minute ++ ":" ++ padded 2 parts.second
    ++ (if parts.microsecond = 0 then "" else "." ++ padded 6 parts.microsecond)
    ++ offsetText parts.offset

/-! ### Reading -/

def digit? (character : Char) : Option Nat :=
  if '0' ≤ character ∧ character ≤ '9' then some (character.toNat - '0'.toNat) else none

def digits? : (count : Nat) → List Char → Option (Nat × List Char)
  | 0, text => some (0, text)
  | count + 1, character :: rest => do
    let leading ← digit? character
    let (value, rest) ← digits? count rest
    some (leading * Nat.pow 10 count + value, rest)
  | _ + 1, [] => none

def readDate (text : List Char) : Except TimestampFault (Nat × Nat × Nat × List Char) :=
  match digits? 4 text with
  | none => .error .yearDigit
  | some (year, '-' :: rest) =>
    match digits? 2 rest with
    | none => .error .monthDigit
    | some (month, '-' :: rest) =>
      match digits? 2 rest with
      | none => .error .dayDigit
      | some (day, rest) =>
        if month < 1 ∨ 12 < month then .error .monthRange
        else if day < 1 ∨ daysInMonth year month < day then .error .dayRange
        else .ok (year, month, day, rest)
    | some _ => .error .dateSeparator
  | some _ => .error .dateSeparator

def readSeconds? : List Char → Option (Nat × Nat × List Char)
  | ':' :: rest => do
    let (second, rest) ← digits? 2 rest
    match rest with
    | point :: rest =>
      if point = '.' ∨ point = ',' then
        let fraction := rest.takeWhile Char.isDigit
        if fraction.isEmpty then none
        else
          let six := (fraction ++ List.replicate 6 '0').take 6
          let (microsecond, _) ← digits? 6 six
          some (second, microsecond, rest.dropWhile Char.isDigit)
      else some (second, 0, point :: rest)
    | [] => some (second, 0, [])
  | rest => some (0, 0, rest)

def readOffset? : List Char → Option (Option Int)
  | [] => some none
  | ['Z'] => some (some 0)
  | ['z'] => some (some 0)
  | sign :: rest => do
    if sign = '+' ∨ sign = '-' ∨ sign = '−' then
      let (hours, rest) ← digits? 2 rest
      let rest := match rest with
        | ':' :: later => later
        | _ => rest
      let (minutes, rest) ← digits? 2 rest
      if rest.isEmpty ∧ minutes < 60 then
        let distance : Int := hours * 60 + minutes
        some (some (if sign = '+' then distance else -distance))
      else none
    else none

def readTime? (year month day : Nat) : List Char → Option TimestampParts
  | separator :: rest => do
    if separator = 'T' ∨ separator = 't' ∨ separator = ' ' ∨ separator = '_' then
      let (hour, rest) ← digits? 2 rest
      match rest with
      | ':' :: rest =>
        let (minute, rest) ← digits? 2 rest
        let (second, microsecond, rest) ← readSeconds? rest
        let offset ← readOffset? rest
        some ⟨year, month, day, hour, minute, second, microsecond, offset⟩
      | _ => none
    else none
  | [] => some ⟨year, month, day, 0, 0, 0, 0, none⟩

/-- The point in time that parts name, or else the given fault.  The year zero, whose calendar is
that of the year 400, has a fault of its own. -/
def ofParts (parts : TimestampParts) (fault : TimestampFault) :
    Except TimestampFault Timestamp :=
  if valid : parts.Valid then .ok ⟨parts, valid⟩
  else if parts.year = 0 ∧ { parts with year := 400 : TimestampParts }.Valid then
    .error .yearZero
  else .error fault

def civilDate (day : Nat) : Nat × Nat × Nat :=
  let era := day / 146097
  let dayOfEra := day % 146097
  let yearOfEra := (dayOfEra - dayOfEra / 1460 + dayOfEra / 36524 - dayOfEra / 146096) / 365
  let dayOfYear := dayOfEra - (365 * yearOfEra + yearOfEra / 4 - yearOfEra / 100)
  let shifted := (5 * dayOfYear + 2) / 153
  let month := if shifted < 10 then shifted + 3 else shifted - 9
  let year := yearOfEra + era * 400 + (if month ≤ 2 then 1 else 0)
  (year, month, dayOfYear - (153 * shifted + 2) / 5 + 1)

def startOfYearZero : Int := -62167219200

def startOfYearOne : Int := -62135596800

def ofUnix (seconds : Int) (microseconds : Nat) : Except TimestampFault Timestamp :=
  let seconds := seconds + microseconds / 1000000
  if seconds < startOfYearZero then .error .tooEarly
  else if seconds < startOfYearOne then .error .yearZero
  else
    let sinceMarch := (seconds + 719468 * 86400).toNat
    let (year, month, day) := civilDate (sinceMarch / 86400)
    let second := sinceMarch % 86400
    ofParts ⟨year, month, day, second / 3600, second / 60 % 60, second % 60,
      microseconds % 1000000, some 0⟩ .tooLate

def largestSecondCount : Nat := 20000000000

def ofCount (count : Int) (microseconds : Nat := 0) : Except TimestampFault Timestamp :=
  if count.natAbs ≤ largestSecondCount then ofUnix count microseconds
  else ofUnix (count.fdiv 1000) ((count.fmod 1000).toNat * 1000 + microseconds)

/-- The point in time that a number names: it is brought to seconds, of which the whole ones are
taken as a count, and the rest is rounded to microseconds, a half upwards. -/
def ofNumber (number : Binary64) : Except TimestampFault Timestamp :=
  let seconds :=
    if Binary64.ofInt largestSecondCount < number.abs then number / 1000 else number
  match seconds with
  | .nan => .error .notANumber
  | .infinity negative => .error (if negative then .tooEarly else .tooLate)
  | .finite negative units _ =>
    let whole := (Binary64.signed negative units).fdiv Binary64.unitsPerOne
    match (seconds - Binary64.ofInt whole) * 1000000 with
    | .finite _ units _ =>
      ofCount whole ((2 * units + Binary64.unitsPerOne) / (2 * Binary64.unitsPerOne))
    | _ => .error .notANumber

def count? (text : List Char) : Option Int :=
  let (negative, digits) := Numeral.sign text
  let magnitude := Numeral.valueOf digits
  if digits.isEmpty ∨ !digits.all Char.isDigit ∨ Nat.pow 2 63 ≤ magnitude then none
  else some (if negative then -magnitude else magnitude)

/-- The point in time of a text that is a number.  A number that is none of 64 bits has to name a
point in time, or else it is not taken as a number. -/
def ofNumberText? (text : List Char) : Option (Except TimestampFault Timestamp) :=
  match count? text with
  | some count => some (ofCount count)
  | none =>
    match (if text.contains '_' then none else Numeral.bare? text) with
    | none => none
    | some number =>
      match ofNumber number with
      | .ok timestamp => some (.ok timestamp)
      | .error .yearZero => some (.error .yearZero)
      | .error _ => none

/-- Reads a point in time.  A text that fits no form is reported by what keeps it from being a
date; a date with something wrong behind it has unexpected characters at its end. -/
def read (text : String) : Except TimestampFault Timestamp :=
  let characters := text.toList
  match ofNumberText? characters with
  | some result => result
  | none =>
    if text.utf8ByteSize < 10 then .error .tooShort
    else do
      let (year, month, day, rest) ← readDate characters
      match readTime? year month day rest with
      | some parts => ofParts parts .trailing
      | none => .error .trailing

end Timestamp
end CoffeeGrading
