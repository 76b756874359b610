/-!
Looking things up by their identifier, in catalogues of predefined templates and elsewhere.
-/

namespace CoffeeGrading

structure NotFound where
  noun : String
  id : String
deriving DecidableEq

def NotFound.message (missing : NotFound) : String :=
  s!"{missing.noun} '{missing.id}' not found."

def findById {Entry : Type} (noun : String) (idOf : Entry → String) (entries : List Entry)
    (id : String) : Except NotFound Entry :=
  match entries.find? fun entry => idOf entry = id with
  | some entry => .ok entry
  | none => .error ⟨noun, id⟩

end CoffeeGrading
