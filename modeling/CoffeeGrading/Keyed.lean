/-!
Values under keys, in the order in which the keys came.
-/

namespace CoffeeGrading

/-- The entries with the value of one key changed: in its place, or at the end where the key is
new. -/
def alter {Key Value : Type} [DecidableEq Key] (key : Key) (change : Option Value → Value) :
    List (Key × Value) → List (Key × Value)
  | [] => [(key, change none)]
  | (other, value) :: rest =>
    if other = key then (other, change (some value)) :: rest
    else (other, value) :: alter key change rest

theorem lookup_alter {Key Value : Type} [DecidableEq Key] (key other : Key)
    (change : Option Value → Value) (entries : List (Key × Value)) :
    (alter key change entries).lookup other =
      if other = key then some (change (entries.lookup key)) else entries.lookup other := by
  induction entries with
  | nil =>
      by_cases same : other = key
      · simp [alter, same]
      · have passed : (other == key) = false := by simpa using same
        simp [alter, List.lookup_cons, same, passed]
  | cons entry rest ih =>
      obtain ⟨name, value⟩ := entry
      by_cases found : other = name
      · subst found
        by_cases here : other = key
        · simp [alter, here]
        · simp [alter, here]
      · have passed : (other == name) = false := by simpa using found
        by_cases here : name = key
        · subst here
          simp [alter, List.lookup_cons, found, passed]
        · have missed : (key == name) = false := by simpa using Ne.symm here
          simp [alter, here, List.lookup_cons, passed, missed, ih]

theorem alter_of_unknown {Key Value : Type} [DecidableEq Key] {key : Key}
    {change : Option Value → Value} {entries : List (Key × Value)}
    (unknown : entries.lookup key = none) :
    alter key change entries = entries ++ [(key, change none)] := by
  induction entries with
  | nil => rfl
  | cons entry rest ih =>
      obtain ⟨name, value⟩ := entry
      by_cases same : key = name
      · simp [same] at unknown
      · have passed : (key == name) = false := by simpa using same
        rw [List.lookup_cons, passed] at unknown
        simp [alter, Ne.symm same, ih unknown]

end CoffeeGrading
