import CoffeeGrading.Document.Primitive
import CoffeeGrading.Settings.EnvFile
import CoffeeGrading.Text.Lowercase

/-!
Settings of an installation.  They are given as variables, whose names are compared without regard
to letter case: those of the environment first, then those of a file, then defaults.
-/

namespace CoffeeGrading

inductive LogLevel where
  | debug
  | info
  | warning
  | error
  | critical
deriving DecidableEq

namespace LogLevel

def choices : List (String × LogLevel) :=
  [("DEBUG", debug), ("INFO", info), ("WARNING", warning), ("ERROR", error),
   ("CRITICAL", critical)]

def name : LogLevel → String
  | debug => "DEBUG"
  | info => "INFO"
  | warning => "WARNING"
  | error => "ERROR"
  | critical => "CRITICAL"

end LogLevel

inductive Deployment where
  | dev
  | staging
  | prod
deriving DecidableEq

namespace Deployment

def choices : List (String × Deployment) :=
  [("dev", dev), ("staging", staging), ("prod", prod)]

def name : Deployment → String
  | dev => "dev"
  | staging => "staging"
  | prod => "prod"

end Deployment

structure Settings where
  defaultSampleSize : Binary64 := 300
  scoreTolerance : Binary64 := 0.01
  logLevel : LogLevel := .info
  deployment : Deployment := .dev
deriving DecidableEq

namespace Settings

def isProduction (settings : Settings) : Bool :=
  settings.deployment = .prod

def lastBound? (bindings : List EnvFile.Binding) (name : String) : Option String :=
  (bindings.reverse.find? fun binding =>
    Text.lower binding.name = Text.lower name).bind (·.value)

def numberAboveZero (text : String) : Checked Binary64 :=
  (Reading.anyNumber (.text text)).require Reading.notAboveZero

def choice {Value : Type} (choices : List (String × Value)) (text : String) : Checked Value :=
  match choices.lookup text with
  | some value => .good value
  | none => .faulty [⟨[], .notAmong (choices.map (·.1))⟩]

def ofVariables (value? : String → Option String) : Checked Settings :=
  let setting {Value : Type} (name : String) (standard : Value)
      (read : String → Checked Value) : Checked Value :=
    match value? name with
    | none => .good standard
    | some text => (read text).under name
  let standard : Settings := {}
  (setting "DEFAULT_SAMPLE_SIZE_GRAMS" standard.defaultSampleSize numberAboveZero).map Settings.mk
    |>.apply (setting "SCORE_TOLERANCE" standard.scoreTolerance numberAboveZero)
    |>.apply (setting "LOG_LEVEL" standard.logLevel (choice LogLevel.choices))
    |>.apply (setting "ENVIRONMENT" standard.deployment (choice Deployment.choices))

def read (environment : List (String × String)) (file : String := "") :
    Except (List Fault) Settings :=
  let environmentBindings : List EnvFile.Binding :=
    environment.map fun (name, value) => ⟨name, some value⟩
  let fileBindings := EnvFile.read environment file
  (ofVariables fun name =>
    (lastBound? environmentBindings name).or (lastBound? fileBindings name)).toExcept

def document (settings : Settings) : Document :=
  .ofFields [
    ("DEFAULT_SAMPLE_SIZE_GRAMS", some (.number settings.defaultSampleSize)),
    ("SCORE_TOLERANCE", some (.number settings.scoreTolerance)),
    ("LOG_LEVEL", some (.text settings.logLevel.name)),
    ("ENVIRONMENT", some (.text settings.deployment.name))]

end Settings
end CoffeeGrading
