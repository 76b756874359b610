import CoffeeGrading.Number.Decimal
import CoffeeGrading.Text.Quoted

/-!
Documents: the trees of values that templates are read from and written to.  Whole numbers are
kept apart from binary64 numbers, and the entries of an object keep their order.
-/

namespace CoffeeGrading

inductive Document where
  | null
  | flag (value : Bool)
  | whole (value : Int)
  | number (value : Binary64)
  | text (value : String)
  | list (items : List Document)
  | object (entries : List (String × Document))

namespace Document

instance : Inhabited Document := ⟨null⟩

def lookup? (key : String) : List (String × Document) → Option Document
  | [] => none
  | (name, value) :: rest => if name = key then some value else lookup? key rest

/-- The entries with one value put under a key: in the place of the key if it is there already,
at the end otherwise. -/
def insert (key : String) (value : Document) :
    List (String × Document) → List (String × Document)
  | [] => [(key, value)]
  | (name, old) :: rest =>
    if name = key then (name, value) :: rest else (name, old) :: insert key value rest

def erase (key : String) (entries : List (String × Document)) : List (String × Document) :=
  entries.filter fun (name, _) => name ≠ key

def ofFields (fields : List (String × Option Document)) : Document :=
  object (fields.filterMap fun (name, value) => value.map (name, ·))

def isSubstantial : Document → Bool
  | null => false
  | flag value => value
  | whole value => value ≠ 0
  | number value => !(value == 0)
  | text value => !value.isEmpty
  | list items => !items.isEmpty
  | object entries => !entries.isEmpty

mutual

def nestedText : Document → String
  | null => "None"
  | flag value => if value then "True" else "False"
  | whole value => toString value
  | number value => value.exactText
  | text value => Text.quoted value
  | list items => "[" ++ ", ".intercalate (itemTexts items) ++ "]"
  | object entries => "\x7b" ++ ", ".intercalate (entryTexts entries) ++ "\x7d"

def itemTexts : List Document → List String
  | [] => []
  | item :: rest => nestedText item :: itemTexts rest

def entryTexts : List (String × Document) → List String
  | [] => []
  | (name, value) :: rest => (Text.quoted name ++ ": " ++ nestedText value) :: entryTexts rest

end

def displayText : Document → String
  | text value => value
  | other => nestedText other

end Document
end CoffeeGrading
