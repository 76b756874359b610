import CoffeeGrading.CommandLine.Options
import CoffeeGrading.Document.Json
import CoffeeGrading.Settings
import CoffeeGrading.Template.Payload

/-!
The command that validates one template file: what it prints and the code it exits with.  The code
is zero for a valid template, one for an invalid one, and two where there is nothing to judge.  The
lines of its log are left out.
-/

namespace CoffeeGrading

/-- Why a file cannot be read: the number of the system's error and its words. -/
structure FileFault where
  number : Nat
  words : String
deriving DecidableEq

def FileFault.missing : FileFault :=
  ⟨2, "No such file or directory"⟩

def FileFault.directory : FileFault :=
  ⟨21, "Is a directory"⟩

inductive Unreadable where
  | noContents (path : String) (fault : FileFault)
  | notJson (path : String) (fault : Json.Fault)
  | notObject

def Unreadable.message : Unreadable → String
  | noContents path fault =>
    s!"Cannot read {path}: [Errno {fault.number}] {fault.words}: " ++ Text.quoted path
  | notJson path fault => s!"Cannot read {path}: " ++ fault.message
  | notObject => "Template JSON must be an object"

inductive CommandFault where
  | invalid (faults : List Fault)
  | excess (excess : Json.Excess)
  | unjudged (reason : ValidationFault)

structure Response where
  exitCode : Nat
  lines : List String
deriving DecidableEq

namespace Response

def output (response : Response) : String :=
  String.join (response.lines.map (· ++ "\n"))

def refusal : Response := ⟨2, []⟩

def rule : String := String.ofList (List.replicate 60 '=')

/-- The entries of the object in a file, whose text `decode` reads. -/
def payload (decode : String → Except Json.Refusal Document) (path : String)
    (contents : Except FileFault String) :
    Except Json.Excess (Except Unreadable (List (String × Document))) :=
  match contents with
  | .error fault => .ok (.error (.noContents path fault))
  | .ok text =>
    match decode (Text.withLineFeeds text) with
    | .error (.fault fault) => .ok (.error (.notJson path fault))
    | .error (.excess excess) => .error excess
    | .ok (.object entries) => .ok (.ok entries)
    | .ok _ => .ok (.error .notObject)

def shown (value : Document) : String :=
  if value.isSubstantial then value.displayText else "?"

def entry (entries : List (String × Document)) (key : String) (otherwise : Document) :
    Document :=
  (Document.lookup? key entries).getD otherwise

def name (entries : List (String × Document)) : Document :=
  match entry entries "name" .null with
  | .object names => entry names "en" .null
  | other => other

def header (path : String) (entries : List (String × Document)) : List String :=
  let version := (entry entries "version" (.whole 1)).displayText
  [rule, "  Quality Template Validation", "  " ++ path, rule,
   "  Name:    " ++ shown (name entries),
   "  Origin:  " ++ shown (entry entries "origin" .null),
   "  Version: " ++ version]

def listing (title mark : String) (messages : List String) : List String :=
  if messages.isEmpty then []
  else
    ["", s!"  {title} ({messages.length}):"]
      ++ messages.map fun message => s!"    {mark} {message}"

def findings (report : TemplateReport) : List String :=
  listing "Warnings" "-" report.warnings ++ listing "ERRORS" "!" report.errors

def conclusion (report : TemplateReport) : List String :=
  let result :=
    if report.isValid then "PASS" else s!"FAIL ({report.errors.length} errors)"
  ["", rule, "  RESULT: " ++ result, rule]

def ofReport (path : String) (entries : List (String × Document)) (report : TemplateReport) :
    Response where
  exitCode := if report.isValid then 0 else 1
  lines := header path entries ++ findings report ++ conclusion report

/-- The tolerance of the command: the given one, unless it is zero, or else that of the
settings. -/
def tolerance (options : Options) (settings : Settings) : Binary64 :=
  (options.tolerance.filter fun value => !(value == 0)).getD settings.scoreTolerance

def ofFile (decode : String → Except Json.Refusal Document) (options : Options)
    (settings : Settings) (contents : Except FileFault String) (supply : Supply Timestamp) :
    Except CommandFault Response :=
  match payload decode options.path contents with
  | .error excess => .error (.excess excess)
  | .ok (.error reason) => .ok ⟨2, ["  " ++ reason.message]⟩
  | .ok (.ok entries) => do
    let limits ← (Limits.withTolerance (tolerance options settings)).mapError .invalid
    let report ← (Payload.validate limits entries supply).mapError .unjudged
    .ok (ofReport options.path entries report)

/-- Runs the command on its arguments, with the variables of its environment and of a file, and
with the texts of files by path. -/
def ofArguments (decode : String → Except Json.Refusal Document) (arguments : List String)
    (environment : List (String × String)) (envFile : String)
    (contents : String → Except FileFault String) (supply : Supply Timestamp) :
    Except CommandFault Response :=
  match Options.ofArguments? arguments with
  | none => .ok refusal
  | some options => do
    let settings ← (Settings.read environment envFile).mapError .invalid
    ofFile decode options settings (contents options.path) supply

end Response
end CoffeeGrading
