import CoffeeGrading.Scale.Score

/-!
Cupping forms: the sensory attributes that are scored, each on its own scale, with a lowest score
where one is asked for.  A form is sound when `Cupping.flaw?` finds nothing; looking for flaws
fails only where the steps of a numeric scale cannot be counted.
-/

namespace CoffeeGrading

structure CuppingAttribute where
  name : String
  scale : Scale
  isRequired : Bool := true
  rule : Option ScoreRule := none
deriving BEq

def CuppingAttribute.key (item : CuppingAttribute) : String :=
  Text.nameKey item.name

inductive CuppingFlaw where
  | repeatedName
  | blankName
  | scale (name : String) (flaw : ScaleFlaw)
  | unreachable (name : String) (minimum : Binary64)
  | unmatched (name : String) (minimum : Binary64)

def CuppingFlaw.message : CuppingFlaw → String
  | repeatedName => "Duplicate cupping attribute names are not allowed"
  | blankName => "Attribute name is required"
  | scale name flaw => s!"Attribute \"{name}\": {flaw.message}"
  | unreachable name minimum =>
    s!"Attribute \"{name}\": minimum score {minimum.briefText} is not a valid value on its scale"
  | unmatched name minimum =>
    s!"Attribute \"{name}\": minimum score {minimum.briefText} does not match any wording option"

namespace CuppingAttribute

def ruleFlaw? (item : CuppingAttribute) (tolerance : Binary64) (rule : ScoreRule) :
    Except NoWholeNumber (Option CuppingFlaw) := do
  let name := Text.trim item.name
  let accepted ← item.scale.accepts rule.minValue tolerance
  .ok (if accepted then none
    else match item.scale with
      | .numeric _ => some (.unreachable name rule.minValue)
      | .wording _ => some (.unmatched name rule.minValue))

def flaw? (item : CuppingAttribute) (tolerance : Binary64 := defaultTolerance) :
    Except NoWholeNumber (Option CuppingFlaw) :=
  if Text.blank item.name then .ok (some .blankName)
  else
    match item.scale.flaw? with
    | some flaw => .ok (some (.scale (Text.trim item.name) flaw))
    | none =>
      match item.rule with
      | none => .ok none
      | some rule => item.ruleFlaw? tolerance rule

end CuppingAttribute

structure AttributeTaken where
  name : String
deriving DecidableEq

def AttributeTaken.message (taken : AttributeTaken) : String :=
  s!"Cupping attribute '{taken.name}' already exists."

namespace Cupping

def firstFlaw? (tolerance : Binary64) :
    List CuppingAttribute → Except NoWholeNumber (Option CuppingFlaw)
  | [] => .ok none
  | item :: rest => do
    match ← item.flaw? tolerance with
    | some flaw => .ok (some flaw)
    | none => firstFlaw? tolerance rest

/-- The first flaw of a form: names that are the same, then each attribute on its own. -/
def flaw? (attributes : List CuppingAttribute) (tolerance : Binary64 := defaultTolerance) :
    Except NoWholeNumber (Option CuppingFlaw) :=
  if !distinct (attributes.map CuppingAttribute.key) then .ok (some .repeatedName)
  else firstFlaw? tolerance attributes

def required (attributes : List CuppingAttribute) : List CuppingAttribute :=
  attributes.filter (·.isRequired)

/-! ### Editing -/

def add (attributes : List CuppingAttribute) (item : CuppingAttribute) :
    Except AttributeTaken (List CuppingAttribute) :=
  if attributes.any fun other => other.key = item.key then .error ⟨item.name⟩
  else .ok (attributes ++ [item])

def remove (attributes : List CuppingAttribute) (name : String) : List CuppingAttribute :=
  attributes.filter fun other => other.key ≠ Text.nameKey name

/-! ### Evaluation -/

def scoreOf (scores : List (String × Option Binary64)) (name : String) : Option Binary64 :=
  (scores.lookup name).join

/-- The complaint about the score of one attribute: none where one is required, not on the scale,
or below the lowest acceptable one. -/
def complaint? (scores : List (String × Option Binary64)) (tolerance : Binary64)
    (item : CuppingAttribute) : Except NoWholeNumber (Option String) :=
  match scoreOf scores item.name with
  | none =>
    .ok (if item.isRequired then
        some s!"Missing score for required attribute \"{item.name}\""
      else none)
  | some score => do
    let accepted ← item.scale.accepts score tolerance
    if !accepted then
      .ok (some s!"Score {score.briefText} is not valid for \"{item.name}\"")
    else
      match item.rule with
      | none => .ok none
      | some rule =>
        if score < rule.minValue - tolerance then
          let demand := item.scale.constraintText rule
          .ok (some ((rule.validationMessage.filter fun text => !text.isEmpty).getD
            s!"\"{item.name}\" scored {score.briefText}, requires {demand}"))
        else .ok none

def evaluate (attributes : List CuppingAttribute) (scores : List (String × Option Binary64))
    (tolerance : Binary64 := defaultTolerance) : Except NoWholeNumber (List String) :=
  match attributes with
  | [] => .ok []
  | item :: rest => do
    let complaint ← complaint? scores tolerance item
    let others ← evaluate rest scores tolerance
    .ok (complaint.toList ++ others)

end Cupping
end CoffeeGrading
