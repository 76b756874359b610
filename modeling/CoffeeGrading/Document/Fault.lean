import CoffeeGrading.Identifier
import CoffeeGrading.Timestamp

/-!
Faults of documents: what is wrong with a value, and the path to it.
-/

namespace CoffeeGrading

inductive Cause where
  | missing
  | unexpected
  | notRecord (name : String)
  | notTagged
  | untagged (key : String)
  | unknownTag (found key : String) (expected : List String)
  | notText
  | notList
  | notTuple
  | notObject
  | emptyList
  | notAmong (choices : List String)
  | belowOne
  | notPositive
  | notNumber
  | numberText
  | notFinite
  | notWhole
  | wholeText
  | fractional
  | wholeRange
  | notFlag
  | flagText
  | notIdentifier
  | identifier (fault : IdentifierFault)
  | notTimestamp
  | timestampText (fault : TimestampFault)
  | timestampValue (fault : TimestampFault)
deriving DecidableEq

namespace Cause

def inQuotes (choice : String) : String :=
  "'" ++ choice ++ "'"

def alternatives : List String → String
  | [] => ""
  | [only] => inQuotes only
  | [first, last] => inQuotes first ++ " or " ++ inQuotes last
  | first :: rest => inQuotes first ++ ", " ++ alternatives rest

def message : Cause → String
  | missing => "Field required"
  | unexpected => "Extra inputs are not permitted"
  | notRecord name => s!"Input should be a valid dictionary or instance of {name}"
  | notTagged => "Input should be a valid dictionary or object to extract fields from"
  | untagged key => s!"Unable to extract tag using discriminator '{key}'"
  | unknownTag found key expected =>
    s!"Input tag '{found}' found using '{key}' does not match any of the expected tags: "
      ++ ", ".intercalate (expected.map inQuotes)
  | notText => "Input should be a valid string"
  | notList => "Input should be a valid list"
  | notTuple => "Input should be a valid tuple"
  | notObject => "Input should be a valid dictionary"
  | emptyList => "List should have at least 1 item after validation, not 0"
  | notAmong choices => "Input should be " ++ alternatives choices
  | belowOne => "Input should be greater than or equal to 1"
  | notPositive => "Input should be greater than 0"
  | notNumber => "Input should be a valid number"
  | numberText => "Input should be a valid number, unable to parse string as a number"
  | notFinite => "Input should be a finite number"
  | notWhole => "Input should be a valid integer"
  | wholeText => "Input should be a valid integer, unable to parse string as an integer"
  | fractional => "Input should be a valid integer, got a number with a fractional part"
  | wholeRange => "Unable to parse input string as an integer, exceeded maximum size"
  | notFlag => "Input should be a valid boolean"
  | flagText => "Input should be a valid boolean, unable to interpret input"
  | notIdentifier => "UUID input should be a string, bytes or UUID object"
  | identifier fault => "Input should be a valid UUID, " ++ fault.message
  | notTimestamp => "Input should be a valid datetime"
  | timestampText fault => "Input should be a valid datetime or date, " ++ fault.message
  | timestampValue fault => "Input should be a valid datetime, " ++ fault.message

end Cause

structure Fault where
  path : List String
  cause : Cause
deriving DecidableEq

namespace Fault

def under (part : String) (fault : Fault) : Fault :=
  { fault with path := part :: fault.path }

def message (fault : Fault) : String :=
  let path := ".".intercalate fault.path
  if path.isEmpty then fault.cause.message else path ++ ": " ++ fault.cause.message

def messages (faults : List Fault) : String :=
  "; ".intercalate (faults.map message)

end Fault
end CoffeeGrading
