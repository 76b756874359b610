import CoffeeGrading.Document

/-!
JSON text.  Reading keeps the order of an object's entries; of two entries with one key the later
value takes the earlier place.  Besides the standard it accepts `NaN`, `Infinity` and
`-Infinity`.  Where a text is not JSON, the fault says what was expected and at which character.
Whole numbers have a greatest length, and lists and objects a greatest depth.  A text that is JSON
but writes half of a surrogate pair is not read either, since no character stands for it.
-/

namespace CoffeeGrading.Json

inductive Expected where
  | value
  | propertyName
  | colon
  | comma
  | closingQuote
  | nothing
  | escape
  | unicodeEscape
  | plainCharacter
  | noByteOrderMark
deriving DecidableEq

def Expected.message : Expected → String
  | value => "Expecting value"
  | propertyName => "Expecting property name enclosed in double quotes"
  | colon => "Expecting ':' delimiter"
  | comma => "Expecting ',' delimiter"
  | closingQuote => "Unterminated string starting at"
  | nothing => "Extra data"
  | escape => "Invalid \\escape"
  | unicodeEscape => "Invalid \\uXXXX escape"
  | plainCharacter => "Invalid control character at"
  | noByteOrderMark => "Unexpected UTF-8 BOM (decode using utf-8-sig)"

inductive Excess where
  /-- A whole number of so many digits. -/
  | digits (count : Nat)
  /-- A list that lies too deep. -/
  | list
  /-- An object that lies too deep. -/
  | object
  /-- An escape for half of a surrogate pair. -/
  | surrogate
deriving DecidableEq

def mostDigits : Nat := 4300

/-- How deep the lists and objects of a file may lie. -/
def greatestDepth : Nat := 991

def Excess.message : Excess → String
  | digits count =>
    s!"Exceeds the limit ({mostDigits} digits) for integer string conversion: value has {count}"
      ++ " digits; use sys.set_int_max_str_digits() to increase the limit"
  | list =>
    "maximum recursion depth exceeded while decoding a JSON array from a unicode string"
  | object =>
    "maximum recursion depth exceeded while decoding a JSON object from a unicode string"
  | surrogate => "surrogates not allowed"

inductive Stop where
  | expecting (expected : Expected) (left : List Char)
  | beyond (excess : Excess)

def stop {Part : Type} (expected : Expected) (left : List Char) :
    Except Stop (Part × List Char) :=
  .error (.expecting expected left)

def isSpace (character : Char) : Bool :=
  character = ' ' ∨ character = '\t' ∨ character = '\n' ∨ character = '\r'

def skipSpace (text : List Char) : List Char :=
  text.dropWhile isSpace

/-! ### Strings -/

def hexDigit? (character : Char) : Option Nat :=
  if '0' ≤ character ∧ character ≤ '9' then some (character.toNat - '0'.toNat)
  else if 'a' ≤ character ∧ character ≤ 'f' then some (character.toNat - 'a'.toNat + 10)
  else if 'A' ≤ character ∧ character ≤ 'F' then some (character.toNat - 'A'.toNat + 10)
  else none

def fourHexDigits? : List Char → Option (Nat × List Char)
  | a :: b :: c :: d :: rest => do
    let a ← hexDigit? a
    let b ← hexDigit? b
    let c ← hexDigit? c
    let d ← hexDigit? d
    some (((a * 16 + b) * 16 + c) * 16 + d, rest)
  | _ => none

/-- A code point as a character; half of a surrogate pair has none. -/
def characterOf? (codePoint : Nat) : Option Char :=
  if 0xD800 ≤ codePoint ∧ codePoint < 0xE000 then none else some (Char.ofNat codePoint)

/-- The character written by `\u` and four digits, or by two of them that form a surrogate pair.
`digits` is what follows the `u`; at least one character has to follow the digits. -/
def unicodeEscape (digits : List Char) : Except Stop (Option Char × List Char) :=
  match fourHexDigits? digits with
  | some (first, rest) =>
    if rest.isEmpty then stop .unicodeEscape ('u' :: digits)
    else
      match rest with
      | '\\' :: 'u' :: second =>
        if 0xD800 ≤ first ∧ first < 0xDC00 ∧ 4 < second.length then
          match fourHexDigits? second with
          | some (low, later) =>
            if 0xDC00 ≤ low ∧ low < 0xE000 then
              .ok (characterOf? (0x10000 + (first - 0xD800) * 0x400 + (low - 0xDC00)), later)
            else .ok (characterOf? first, rest)
          | none => stop .unicodeEscape ('u' :: second)
        else .ok (characterOf? first, rest)
      | _ => .ok (characterOf? first, rest)
  | none => stop .unicodeEscape ('u' :: digits)

def simpleEscape? (character : Char) : Option Char :=
  match character with
  | '"' => some '"'
  | '\\' => some '\\'
  | '/' => some '/'
  | 'b' => some '\x08'
  | 'f' => some '\x0c'
  | 'n' => some '\n'
  | 'r' => some '\r'
  | 't' => some '\t'
  | _ => none

/-- The characters up to the closing quote.  `opening` is the text from the opening quote on, and
`fuel` bounds the number of characters.  Another character takes the place of half of a surrogate
pair, so that what follows it is read as well. -/
def stringBody (opening : List Char) : (fuel : Nat) → List Char →
    Except Stop (List Char × List Char)
  | 0, text => stop .closingQuote text
  | fuel + 1, text =>
    match text with
    | [] => stop .closingQuote opening
    | '"' :: rest => .ok ([], rest)
    | '\\' :: [] => stop .closingQuote opening
    | '\\' :: 'u' :: digits => do
      let (character, rest) ← unicodeEscape digits
      let (characters, rest) ← stringBody opening fuel rest
      .ok (character.getD '\uFFFD' :: characters, rest)
    | '\\' :: escaped :: rest =>
      match simpleEscape? escaped with
      | some character => do
        let (characters, rest) ← stringBody opening fuel rest
        .ok (character :: characters, rest)
      | none => stop .escape text
    | character :: rest =>
      if character.toNat < 0x20 then stop .plainCharacter text
      else do
        let (characters, rest) ← stringBody opening fuel rest
        .ok (character :: characters, rest)

def string (opening : List Char) : Except Stop (String × List Char) := do
  let (characters, rest) ← stringBody opening (opening.length + 1) opening.tail
  .ok (String.ofList characters, rest)

/-! ### Numbers -/

def digitsValue (digits : List Char) : Nat :=
  digits.foldl (fun value digit => value * 10 + (digit.toNat - '0'.toNat)) 0

def fraction (text : List Char) : Option (List Char) × List Char :=
  match text with
  | '.' :: rest =>
    let digits := rest.takeWhile Char.isDigit
    if digits.isEmpty then (none, text) else (some digits, rest.dropWhile Char.isDigit)
  | _ => (none, text)

def exponent (text : List Char) : Option Int × List Char :=
  match text with
  | mark :: rest =>
    if mark = 'e' ∨ mark = 'E' then
      let (negative, unsigned) := match rest with
        | '-' :: later => (true, later)
        | '+' :: later => (false, later)
        | _ => (false, rest)
      let digits := unsigned.takeWhile Char.isDigit
      if digits.isEmpty then (none, text)
      else
        let magnitude : Int := digitsValue digits
        (some (if negative then -magnitude else magnitude), unsigned.dropWhile Char.isDigit)
    else (none, text)
  | [] => (none, text)

/-- The number at the start of a text: a binary64 number when it has a fraction or an exponent, a
whole number otherwise.  A leading zero stands alone. -/
def number (text : List Char) : Except Stop (Document × List Char) :=
  let (negative, unsigned) := match text with
    | '-' :: rest => (true, rest)
    | _ => (false, text)
  let digits := match unsigned with
    | '0' :: _ => ['0']
    | _ => unsigned.takeWhile Char.isDigit
  if digits.isEmpty then stop .value text
  else
    let (places, rest) := fraction (unsigned.drop digits.length)
    let (power, rest) := exponent rest
    match places, power with
    | none, none =>
      if mostDigits < digits.length then .error (.beyond (.digits digits.length))
      else
        let magnitude : Int := digitsValue digits
        .ok (.whole (if negative then -magnitude else magnitude), rest)
    | _, _ =>
      let places := places.getD []
      .ok (.number (Binary64.ofDecimal negative (digitsValue (digits ++ places))
        (power.getD 0 - places.length)), rest)

/-! ### Values -/

def after? (word : String) (text : List Char) : Option (List Char) :=
  if word.toList.isPrefixOf text then some (text.drop word.length) else none

def scalar (text : List Char) : Except Stop (Document × List Char) :=
  match after? "null" text with
  | some rest => .ok (.null, rest)
  | none =>
    match after? "true" text with
    | some rest => .ok (.flag true, rest)
    | none =>
      match after? "false" text with
      | some rest => .ok (.flag false, rest)
      | none =>
        match after? "NaN" text with
        | some rest => .ok (.number .nan, rest)
        | none =>
          match after? "Infinity" text with
          | some rest => .ok (.number (.infinity false), rest)
          | none =>
            match after? "-Infinity" text with
            | some rest => .ok (.number (.infinity true), rest)
            | none => number text

def separator (closing : Char) (text : List Char) : Except Stop (Bool × List Char) :=
  match skipSpace text with
  | [] => stop .comma []
  | character :: rest =>
    if character = closing then .ok (false, rest)
    else if character = ',' then .ok (true, skipSpace rest)
    else stop .comma (character :: rest)

def entryName (text : List Char) : Except Stop (String × List Char) :=
  match text with
  | '"' :: _ => do
    let (name, rest) ← string text
    match skipSpace rest with
    | ':' :: rest => .ok (name, skipSpace rest)
    | left => stop .colon left
  | _ => stop .propertyName text

mutual

/-- The value at the start of a text, in which lists and objects may lie `depth` deep.  At most two
calls pass from one character to the next, so twice the length of the text is fuel enough. -/
def value : (fuel depth : Nat) → List Char → Except Stop (Document × List Char)
  | 0, _, text => stop .value text
  | fuel + 1, depth, text =>
    match text with
    | [] => stop .value []
    | '"' :: _ => do
      let (characters, rest) ← string text
      .ok (.text characters, rest)
    | '[' :: rest =>
      match depth, skipSpace rest with
      | 0, _ => .error (.beyond .list)
      | _, ']' :: rest => .ok (.list [], rest)
      | depth + 1, rest => do
        let (items, rest) ← items fuel depth rest
        .ok (.list items, rest)
    | '\x7b' :: rest =>
      match depth, skipSpace rest with
      | 0, _ => .error (.beyond .object)
      | _, '\x7d' :: rest => .ok (.object [], rest)
      | depth + 1, rest => do
        let (entries, rest) ← entries fuel depth [] rest
        .ok (.object entries, rest)
    | _ => scalar text

def items : (fuel depth : Nat) → List Char → Except Stop (List Document × List Char)
  | 0, _, text => stop .value text
  | fuel + 1, depth, text => do
    let (first, rest) ← value fuel depth text
    let (more, rest) ← separator ']' rest
    if more then
      let (others, rest) ← items fuel depth rest
      .ok (first :: others, rest)
    else .ok ([first], rest)

def entries : (fuel depth : Nat) → List (String × Document) → List Char →
    Except Stop (List (String × Document) × List Char)
  | 0, _, _, text => stop .value text
  | fuel + 1, depth, known, text => do
    let (name, rest) ← entryName text
    let (content, rest) ← value fuel depth rest
    let (more, rest) ← separator '\x7d' rest
    let known := Document.insert name content known
    if more then entries fuel depth known rest else .ok (known, rest)

end

def document (depth : Nat) (text : List Char) : Except Stop Document :=
  match text with
  | '\uFEFF' :: _ => .error (.expecting .noByteOrderMark text)
  | _ => do
    let (content, rest) ← value (2 * text.length + 2) depth (skipSpace text)
    match skipSpace rest with
    | [] => .ok content
    | left => .error (.expecting .nothing left)

/-- Where a text stops being JSON: the line, the column and the character, the first two counted
from one. -/
structure Fault where
  expected : Expected
  line : Nat
  column : Nat
  character : Nat
deriving DecidableEq

def Fault.message (fault : Fault) : String :=
  fault.expected.message ++
    s!": line {fault.line} column {fault.column} (char {fault.character})"

def Fault.at (expected : Expected) (text left : List Char) : Fault :=
  let passed := text.take (text.length - left.length)
  ⟨expected, passed.count '\n' + 1, (passed.reverse.takeWhile (· ≠ '\n')).length + 1,
    passed.length⟩

inductive Refusal where
  | fault (fault : Fault)
  | excess (excess : Excess)

/-- Whether some escape in a text that is JSON writes half of a surrogate pair. -/
def writesHalf : (fuel : Nat) → List Char → Bool
  | 0, _ => false
  | fuel + 1, text =>
    match text with
    | [] => false
    | '\\' :: 'u' :: digits =>
      match unicodeEscape digits with
      | .ok (none, _) => true
      | .ok (some _, rest) => writesHalf fuel rest
      | .error _ => false
    | '\\' :: _ :: rest => writesHalf fuel rest
    | _ :: rest => writesHalf fuel rest

/-- The value of a text, in which lists and objects may lie `depth` deep. -/
def read (depth : Nat) (text : String) : Except Refusal Document :=
  let characters := text.toList
  match document depth characters with
  | .ok content =>
    if writesHalf characters.length characters then .error (.excess .surrogate) else .ok content
  | .error (.expecting expected left) => .error (.fault (Fault.at expected characters left))
  | .error (.beyond excess) => .error (.excess excess)

/-! ### Writing -/

def unitEscape (unit : Nat) : List Char :=
  '\\' :: 'u' :: Text.hexDigits 4 unit

/-- A character inside a JSON string: as it is in the printable part of ASCII, escaped otherwise,
with two escapes above U+FFFF. -/
def writtenCharacter (character : Char) : List Char :=
  let codePoint := character.toNat
  if character = '"' ∨ character = '\\' then ['\\', character]
  else if 0x20 ≤ codePoint ∧ codePoint < 0x7F then [character]
  else if codePoint < 0x10000 then unitEscape codePoint
  else
    let above := codePoint - 0x10000
    unitEscape (0xD800 + above / 0x400) ++ unitEscape (0xDC00 + above % 0x400)

def writtenString (text : String) : String :=
  String.ofList ('"' :: text.toList.flatMap writtenCharacter ++ ['"'])

end CoffeeGrading.Json
