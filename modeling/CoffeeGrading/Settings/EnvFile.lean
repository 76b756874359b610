import CoffeeGrading.Text.Blank
import CoffeeGrading.Text.LineFeed

/-!
Files of variables, one binding a line: `name=value`, with an optional `export` in front and a
comment after a number sign.  A value in quotes may hold escapes and several lines; any value may
refer to variables as `${name}` or `${name:-fallback}`.  Lines that are no binding are skipped.
-/

namespace CoffeeGrading.EnvFile

structure Binding where
  name : String
  value : Option String
deriving DecidableEq

def isSpace (character : Char) : Bool :=
  Text.isBlank character && character ≠ '\n'

def nextLine (text : List Char) : List Char :=
  (text.dropWhile (· ≠ '\n')).drop 1

def afterExport (text : List Char) : List Char :=
  let word := "export".toList
  if word.isPrefixOf text then
    let rest := text.drop word.length
    if rest.head?.any isSpace then rest.dropWhile isSpace else text
  else text

/-! ### Quoted values -/

/-- The length of the text before the quote that ends it.  A backslash and the character behind it
belong together. -/
def closing? (quote : Char) (position : Nat) : List Char → Option Nat
  | [] => none
  | '\\' :: _ :: rest => closing? quote (position + 2) rest
  | character :: rest =>
    if character = quote then some position else closing? quote (position + 1) rest

def escape? (quote letter : Char) : Option Char :=
  if letter = '\\' ∨ letter = '\'' then some letter
  else if quote = '\'' then none
  else
    match letter with
    | '"' => some '"'
    | 'a' => some '\x07'
    | 'b' => some '\x08'
    | 'f' => some '\x0c'
    | 'n' => some '\n'
    | 'r' => some '\r'
    | 't' => some '\t'
    | 'v' => some '\x0b'
    | _ => none

def unescaped (quote : Char) : List Char → List Char
  | [] => []
  | [last] => [last]
  | first :: second :: rest =>
    if first = '\\' then
      match escape? quote second with
      | some character => character :: unescaped quote rest
      | none => first :: unescaped quote (second :: rest)
    else first :: unescaped quote (second :: rest)

def quotedValue? (quote : Char) (text : List Char) : Option (String × List Char) :=
  (closing? quote 0 text).map fun length =>
    (String.ofList (unescaped quote (text.take length)), text.drop (length + 1))

/-! ### Bindings -/

def beforeComment (afterBlank : Bool) : List Char → List Char
  | [] => []
  | character :: rest =>
    if character = '#' ∧ afterBlank then []
    else character :: beforeComment (Text.isBlank character) rest

def value? (text : List Char) : Option (String × List Char) :=
  match text with
  | '\'' :: rest => quotedValue? '\'' rest
  | '"' :: rest => quotedValue? '"' rest
  | _ =>
    let line := text.takeWhile (· ≠ '\n')
    let kept := (beforeComment false line).reverse.dropWhile Text.isBlank
    some (String.ofList kept.reverse, text.drop line.length)

def name? (text : List Char) : Option (String × List Char) :=
  match text with
  | '\'' :: rest =>
    let name := rest.takeWhile (· ≠ '\'')
    if name.isEmpty ∨ rest.length ≤ name.length then none
    else some (String.ofList name, rest.drop (name.length + 1))
  | _ =>
    let name := text.takeWhile fun character =>
      character ≠ '=' && character ≠ '#' && !Text.isBlank character
    if name.isEmpty then none else some (String.ofList name, text.drop name.length)

def lineRest? (text : List Char) : Option (List Char) :=
  match text.dropWhile isSpace with
  | [] => some []
  | '\n' :: rest => some rest
  | '#' :: rest => some (nextLine rest)
  | _ => none

def line (text : List Char) : Option Binding × List Char :=
  match name? (afterExport text) with
  | none => (none, nextLine text)
  | some (name, rest) =>
    match rest.dropWhile isSpace with
    | '=' :: rest =>
      let rest := rest.dropWhile isSpace
      match value? rest with
      | none => (none, nextLine rest)
      | some (value, rest) =>
        match lineRest? rest with
        | some next => (some ⟨name, some value⟩, next)
        | none => (none, nextLine rest)
    | rest =>
      match lineRest? rest with
      | some next => (some ⟨name, none⟩, next)
      | none => (none, nextLine rest)

def bindings : (fuel : Nat) → List Char → List Binding
  | 0, _ => []
  | fuel + 1, text =>
    match text.dropWhile Text.isBlank with
    | [] => []
    | text =>
      let (binding, rest) := line text
      binding.toList ++ bindings fuel rest

/-! ### References to variables -/

inductive Piece where
  | character (value : Char)
  | reference (name : String) (fallback : String)
deriving DecidableEq

def reference? (text : List Char) : Option (Piece × List Char) :=
  let name := text.takeWhile fun character => character ≠ '\x7d' && character ≠ ':'
  match text.drop name.length with
  | '\x7d' :: rest => some (.reference (String.ofList name) "", rest)
  | ':' :: '-' :: rest =>
    let fallback := rest.takeWhile (· ≠ '\x7d')
    match rest.drop fallback.length with
    | '\x7d' :: rest => some (.reference (String.ofList name) (String.ofList fallback), rest)
    | _ => none
  | _ => none

def pieces : (fuel : Nat) → List Char → List Piece
  | 0, _ => []
  | _, [] => []
  | fuel + 1, first :: rest =>
    match first, rest with
    | '$', '\x7b' :: inner =>
      match reference? inner with
      | some (piece, rest) => piece :: pieces fuel rest
      | none => .character first :: pieces fuel rest
    | _, _ => .character first :: pieces fuel rest

/-- The last binding of a name among those already read, or else what the surroundings bind. -/
def resolve (surroundings : List (String × String)) (earlier : List Binding)
    (name fallback : String) : String :=
  match earlier.reverse.find? fun binding => binding.name = name with
  | some binding => binding.value.getD ""
  | none => (surroundings.lookup name).getD fallback

def expanded (surroundings : List (String × String)) (earlier : List Binding) (value : String) :
    String :=
  String.join ((pieces value.length value.toList).map fun
    | .character character => String.singleton character
    | .reference name fallback => resolve surroundings earlier name fallback)

def expandAll (surroundings : List (String × String)) (earlier : List Binding) :
    List Binding → List Binding
  | [] => earlier
  | binding :: rest =>
    let value := binding.value.map (expanded surroundings earlier)
    expandAll surroundings (earlier ++ [{ binding with value }]) rest

def put : List Binding → Binding → List Binding
  | [], binding => [binding]
  | first :: rest, binding =>
    if first.name = binding.name then binding :: rest else first :: put rest binding

def withoutByteOrderMark : List Char → List Char
  | '\uFEFF' :: rest => rest
  | text => text

/-- The bindings of a file, one for each name: in the place of its first line, with the value of
its last.  References look at the lines above, then at the surroundings. -/
def read (surroundings : List (String × String)) (text : String) : List Binding :=
  let characters := Text.lineFeeds (withoutByteOrderMark text.toList)
  (expandAll surroundings [] (bindings characters.length characters)).foldl put []

end CoffeeGrading.EnvFile
