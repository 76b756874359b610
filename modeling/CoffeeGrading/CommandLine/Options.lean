import CoffeeGrading.Number.Numeral

/-!
Arguments of the command line: the path of one template, and options.  The name of an option may
be cut short as long as it stays the only one it can be, and its value is the next argument or what
follows an equals sign.  An argument that starts with a hyphen is an option, except where it can
only be a number or holds a space.  Only the tolerance is given by an option; the option for help
is kept free and refused like an unknown one.
-/

namespace CoffeeGrading

structure Options where
  path : String
  tolerance : Option Binary64 := none
deriving DecidableEq

namespace Options

inductive Argument where
  | operand (text : String)
  | tolerance (value : Option String)
  | refused
deriving DecidableEq

/-- True of a hyphen with digits and at most one point, behind which digits have to follow. -/
def isNegativeNumber (text : List Char) : Bool :=
  let isDigit (character : Char) : Bool := (Text.decimalDigit? character).isSome
  let text := if text.getLast? = some '\n' then text.dropLast else text
  match text with
  | '-' :: digits =>
    match digits.dropWhile isDigit with
    | [] => !digits.isEmpty
    | '.' :: places => !places.isEmpty && places.all isDigit
    | _ => false
  | _ => false

def splitValue (text : List Char) : List Char × Option (List Char) :=
  let name := text.takeWhile (· ≠ '=')
  (name, if name.length < text.length then some (text.drop (name.length + 1)) else none)

def otherwise (text : List Char) : Argument :=
  if isNegativeNumber text ∨ text.contains ' ' then .operand (String.ofList text) else .refused

/-- What an argument is.  A text of one character is never an option. -/
def classify (text : List Char) : Argument :=
  match text with
  | ['-'] => .operand "-"
  | '-' :: '-' :: _ =>
    let (name, value) := splitValue text
    if name.isPrefixOf "--help".toList then .refused
    else if name.isPrefixOf "--tolerance".toList then .tolerance (value.map String.ofList)
    else otherwise text
  | '-' :: 'h' :: _ => .refused
  | '-' :: _ => otherwise text
  | _ => .operand (String.ofList text)

def pathParts : List Char → List (List Char)
  | [] => [[]]
  | '/' :: rest => [] :: pathParts rest
  | character :: rest =>
    match pathParts rest with
    | [] => [[character]]
    | first :: others => (character :: first) :: others

/-- A path without the parts that lead nowhere.  Of the slashes in front of it, two are kept if they
are two, and else one. -/
def plainPath (text : String) : String :=
  let characters := text.toList
  let slashes := (characters.takeWhile (· = '/')).length
  let root := if slashes = 0 then "" else if slashes = 2 then "//" else "/"
  let parts := (pathParts characters).filter fun part => part ≠ [] ∧ part ≠ ['.']
  let path := root ++ "/".intercalate (parts.map String.ofList)
  if path.isEmpty then "." else path

/-- Goes through the arguments with the value of the last tolerance and the operands so far.  Two
hyphens alone end the options. -/
def collect? (tolerance : Option Binary64) (operands : List String) :
    List String → Option Options
  | [] =>
    match operands with
    | [path] => some { path := plainPath path, tolerance }
    | _ => none
  | argument :: rest =>
    if argument = "--" then
      match operands ++ rest with
      | [path] => some { path := plainPath path, tolerance }
      | _ => none
    else
      match classify argument.toList with
      | .refused => none
      | .operand text => collect? tolerance (operands ++ [text]) rest
      | .tolerance (some value) => do
        let number ← Numeral.anyScriptNumber? value
        collect? (some number) operands rest
      | .tolerance none =>
        match rest with
        | [] => none
        | value :: rest =>
          match (if value = "--" then .refused else classify value.toList) with
          | .operand value => do
            let number ← Numeral.anyScriptNumber? value
            collect? (some number) operands rest
          | _ => none

def ofArguments? (arguments : List String) : Option Options :=
  collect? none [] arguments

end Options
end CoffeeGrading
