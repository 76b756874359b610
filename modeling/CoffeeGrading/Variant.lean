import CoffeeGrading.Scale
import CoffeeGrading.ScreenSize
import CoffeeGrading.Sharing

/-!
Values that are known only by the name of their variant.  Most names belong to no variant of the
kind that is asked for.
-/

namespace CoffeeGrading

inductive Unsupported where
  | scale (variant : String)
  | sharingScope (variant : String)
  | constraint (rule : String)
deriving DecidableEq

def Unsupported.message : Unsupported → String
  | scale variant => s!"Unsupported scale variant: {variant}"
  | sharingScope variant => s!"Unsupported sharing scope: {variant}"
  | constraint rule => "Unsupported constraint type: " ++ Text.quoted rule

def Scale.ofVariant (variant : String) : Except Unsupported Scale :=
  .error (.scale variant)

def SharingScope.ofVariant (variant : String) : Except Unsupported SharingScope :=
  if variant = "PrivateScope" then .ok .authorOnly
  else if variant = "GlobalScope" then .ok .everyone
  else .error (.sharingScope variant)

def ScreenRule.ofName (name : String) : Except Unsupported ScreenRule :=
  match ScreenRule.choices.lookup name with
  | some rule => .ok rule
  | none => .error (.constraint name)

end CoffeeGrading
