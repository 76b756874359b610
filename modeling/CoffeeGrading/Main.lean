import CoffeeGrading.CommandLine.Response

/-!
The command line.  It reads the file, the environment and the variables of `.env`, prints the
answer and exits with its code.  It keeps no log.
-/

namespace CoffeeGrading

/-- The error of the system that stopped an operation on a file. -/
def FileFault.ofError? : IO.Error → Option FileFault
  | .noFileOrDirectory _ number words | .interrupted _ number words
  | .alreadyExists _ number words | .invalidArgument _ number words
  | .permissionDenied _ number words | .resourceExhausted _ number words
  | .inappropriateType _ number words | .noSuchThing _ number words
  | .otherError number words | .resourceBusy number words | .resourceVanished number words
  | .unsupportedOperation number words | .hardwareFault number words
  | .unsatisfiedConstraints number words | .illegalOperation number words
  | .protocolError number words | .timeExpired number words => some ⟨number.toNat, words⟩
  | .unexpectedEof | .userError _ => none

/-- The text of a file.  A text in another encoding stops the command. -/
def contentsOf (path : String) : IO (Except FileFault String) := do
  let bytes ←
    try
      let file ← IO.FS.Handle.mk path .read
      Except.ok <$> file.readBinToEnd
    catch error =>
      match FileFault.ofError? error with
      | some fault => pure (.error fault)
      | none => throw error
  match bytes with
  | .error fault => return .error fault
  | .ok bytes =>
    match String.fromUTF8? bytes with
    | some text => return .ok text
    | none => throw (IO.userError s!"{path} is not in UTF-8")

/-- The text of `.env`, which may be missing or something else than a file. -/
def envFileContents : IO String := do
  match ← contentsOf ".env" with
  | .ok text => return text
  | .error fault =>
    if fault = .missing ∨ fault = .directory then return ""
    else throw (IO.userError fault.words)

def variableNames : List String :=
  ["DEFAULT_SAMPLE_SIZE_GRAMS", "default_sample_size_grams", "SCORE_TOLERANCE",
   "score_tolerance", "LOG_LEVEL", "log_level", "ENVIRONMENT", "environment"]

def settingVariables : IO (List (String × String)) :=
  variableNames.filterMapM fun name => do
    return (← IO.getEnv name).map (name, ·)

/-- A supply whose identifiers only have to differ, since none of them is ever shown. -/
def anySupply : Except TimestampFault (Supply Timestamp) := do
  let now ← Timestamp.ofUnix 0 0
  .ok ⟨fun taken => ⟨BitVec.ofNat 128 taken⟩, 0, now⟩

def answerTo (arguments : List String) : IO Response := do
  match anySupply, Options.ofArguments? arguments with
  | .ok supply, some options =>
    let environment ← settingVariables
    let envFile ← envFileContents
    let contents ← contentsOf options.path
    match Response.ofArguments (Json.read Json.greatestDepth) arguments environment envFile
      (fun _ => contents) supply with
    | .ok response => return response
    | .error (.invalid faults) => throw (IO.userError (Fault.messages faults))
    | .error (.excess excess) => throw (IO.userError excess.message)
    | .error (.unjudged reason) => throw (IO.userError reason.message)
  | _, _ => return Response.refusal

end CoffeeGrading

def main (arguments : List String) : IO UInt32 := do
  let response ← CoffeeGrading.answerTo arguments
  IO.print response.output
  return response.exitCode.toUInt32
