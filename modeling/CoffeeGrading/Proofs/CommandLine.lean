import CoffeeGrading.CommandLine.Response
import CoffeeGrading.Proofs.EditSession
import CoffeeGrading.Proofs.Template.Sharing

/-!
What the command prints about a file, and its exit code, against what validation finds in the
object that the file holds.
-/

namespace CoffeeGrading

theorem Limits.eq_of_withTolerance {tolerance : Binary64} {limits : Limits}
    (accepted : withTolerance tolerance = .ok limits) :
    limits = { scoreTolerance := tolerance } := by
  unfold withTolerance at accepted
  split at accepted
  · cases accepted
  · split at accepted
    · cases accepted
    · exact (Except.ok.inj accepted).symm

namespace Payload

theorem scopeOfFlags_congr (entries : List (String × Document))
    (supply other : Supply Timestamp) :
    scopeOfFlags entries supply = scopeOfFlags entries other := by
  rw [scopeOfFlags, scopeOfFlags,
    (SharingFlags.fields_steady.readEntries entries supply other).eq]

theorem settle_congr (entries : List (String × Document)) (supply other : Supply Timestamp) :
    settle entries supply = settle entries other := by
  rw [settle, settle, scopeOfFlags_congr _ supply other]

theorem validate_congr (limits : Limits) (entries : List (String × Document))
    (supply other : Supply Timestamp) :
    validate limits entries supply = validate limits entries other := by
  rw [validate_of_settled (settle_congr entries supply other), validate_of_settled rfl,
    judge_congr limits rfl supply other]

end Payload

namespace Response

variable {decode : String → Except Json.Refusal Document} {path : String}
  {contents : Except FileFault String} {entries : List (String × Document)}

/-- Files that hold no object: there is none that can be read, its text is not JSON, or it is
something else. -/
inductive NothingToJudge (decode : String → Except Json.Refusal Document) :
    Except FileFault String → Prop
  | unreadable {fault} : NothingToJudge decode (.error fault)
  | notJson {text fault} (failed : decode (Text.withLineFeeds text) = .error (.fault fault)) :
      NothingToJudge decode (.ok text)
  | notObject {text document} (decoded : decode (Text.withLineFeeds text) = .ok document)
      (other : ∀ entries, document ≠ .object entries) : NothingToJudge decode (.ok text)

inductive Holds (decode : String → Except Json.Refusal Document) :
    Except FileFault String → List (String × Document) → Prop
  | object {text entries} (decoded : decode (Text.withLineFeeds text) = .ok (.object entries)) :
      Holds decode (.ok text) entries

theorem Holds.not_nothingToJudge (holds : Holds decode contents entries) :
    ¬ NothingToJudge decode contents := by
  obtain ⟨decoded⟩ := holds
  rintro (_ | failed | ⟨document, other⟩)
  · cases decoded.symm.trans failed
  · cases decoded.symm.trans document
    exact other entries rfl

theorem payload_cases (decode : String → Except Json.Refusal Document) (path : String)
    (contents : Except FileFault String) :
    (NothingToJudge decode contents ∧
        ∃ reason, payload decode path contents = .ok (.error reason)) ∨
      (∃ entries, Holds decode contents entries ∧
        payload decode path contents = .ok (.ok entries)) ∨
        ∃ excess, payload decode path contents = .error excess := by
  cases contents with
  | error fault => exact .inl ⟨.unreadable, _, rfl⟩
  | ok text =>
      simp only [payload]
      cases answer : decode (Text.withLineFeeds text) with
      | error refusal =>
          cases refusal with
          | fault fault => exact .inl ⟨.notJson answer, _, rfl⟩
          | excess excess => exact .inr (.inr ⟨excess, rfl⟩)
      | ok document =>
          cases document with
          | object entries => exact .inr (.inl ⟨entries, .object answer, rfl⟩)
          | _ => exact .inl ⟨.notObject answer (by simp), _, rfl⟩

/-- The tolerance that counts: a given one that is not zero, or else that of the settings. -/
inductive Counts (options : Options) (settings : Settings) : Binary64 → Prop
  | given {value} (given : options.tolerance = some value) (nonzero : (value == 0) = false) :
      Counts options settings value
  | standard (unset : ∀ value, options.tolerance = some value → (value == 0) = true) :
      Counts options settings settings.scoreTolerance

theorem counts_tolerance (options : Options) (settings : Settings) :
    Counts options settings (tolerance options settings) := by
  unfold tolerance
  cases given : options.tolerance with
  | none => exact .standard (by simp [given])
  | some value =>
      cases zero : value == 0 with
      | true =>
          rw [Option.filter_some_neg (by simp [zero])]
          exact .standard (by simp [given, zero])
      | false =>
          rw [Option.filter_some_pos (by simp [zero])]
          exact .given given zero

/-! ### The report -/

variable {report : TemplateReport} {response : Response}

/-- Messages in their order below a heading with their number, and no heading for none. -/
inductive Block (title mark : String) : List String → List String → Prop
  | absent : Block title mark [] []
  | present {messages} (given : messages ≠ []) :
      Block title mark messages
        ("" :: s!"  {title} ({messages.length}):" ::
          messages.map fun message => s!"    {mark} {message}")

theorem block_listing (title mark : String) (messages : List String) :
    Block title mark messages (listing title mark messages) := by
  cases messages with
  | nil => exact .absent
  | cons first others => exact .present (List.cons_ne_nil first others)

inductive Concludes (report : TemplateReport) : String → Prop
  | pass (clear : report.errors = []) : Concludes report "PASS"
  | fail (faulty : report.errors ≠ []) :
      Concludes report s!"FAIL ({report.errors.length} errors)"

theorem exists_conclusion (report : TemplateReport) :
    ∃ result, Concludes report result ∧
      conclusion report = ["", rule, "  RESULT: " ++ result, rule] := by
  refine ⟨_, ?_, rfl⟩
  split
  · next valid => exact .pass (List.isEmpty_iff.1 valid)
  · next invalid => exact .fail fun clear => invalid (List.isEmpty_iff.2 clear)

/-- A response that passes a report on: its exit code is the verdict, and between what it says of
the file and the result stand the findings. -/
structure Reports (path : String) (entries : List (String × Document)) (report : TemplateReport)
    (response : Response) : Prop where
  passes_iff : response.exitCode = 0 ↔ report.isValid = true
  fails_iff : response.exitCode = 1 ↔ report.isValid = false
  printed : ∃ warnings errors result,
    Block "Warnings" "-" report.warnings warnings ∧ Block "ERRORS" "!" report.errors errors ∧
      Concludes report result ∧
      response.lines = header path entries ++ warnings ++ errors ++
        ["", rule, "  RESULT: " ++ result, rule]

theorem reports_ofReport (path : String) (entries : List (String × Document))
    (report : TemplateReport) : Reports path entries report (ofReport path entries report) where
  passes_iff := by
    cases valid : report.isValid <;> simp [ofReport, valid]
  fails_iff := by
    cases valid : report.isValid <;> simp [ofReport, valid]
  printed := by
    obtain ⟨result, concludes, ends⟩ := exists_conclusion report
    refine ⟨_, _, result, block_listing _ _ report.warnings, block_listing _ _ report.errors,
      concludes, ?_⟩
    simp only [ofReport, findings, ends, List.append_assoc]

theorem exitCode_ofReport_ne_two (path : String) (entries : List (String × Document))
    (report : TemplateReport) : (ofReport path entries report).exitCode ≠ 2 := by
  cases valid : report.isValid <;> simp [ofReport, valid]

theorem ofFile_eq_ok_of_holds {options : Options} {settings : Settings}
    {supply : Supply Timestamp}
    (given : payload decode options.path contents = .ok (.ok entries))
    (returned : ofFile decode options settings contents supply = .ok response) :
    ∃ report, Payload.validate { scoreTolerance := tolerance options settings } entries supply =
      .ok report ∧ response = ofReport options.path entries report := by
  simp only [ofFile, given] at returned
  obtain ⟨limits, accepted, judged⟩ := exists_of_bind_eq_ok returned
  obtain ⟨report, found, done⟩ := exists_of_bind_eq_ok judged
  obtain rfl := Limits.eq_of_withTolerance (eq_ok_of_mapError accepted)
  exact ⟨report, eq_ok_of_mapError found, (Except.ok.inj done).symm⟩

/-- Where the command answers, it returns 2 exactly for a file without an object to judge.  For any
other file it returns the verdict of validation and prints whatever validation finds.  This holds
however texts are decoded. -/
theorem verdict_reported {decode : String → Except Json.Refusal Document}
    {arguments : List String} {environment : List (String × String)} {envFile : String}
    {contents : String → Except FileFault String} {supply : Supply Timestamp}
    {options : Options} {settings : Settings} {response : Response}
    (parsed : Options.ofArguments? arguments = some options)
    (accepted : Settings.read environment envFile = .ok settings)
    (returned : ofArguments decode arguments environment envFile contents supply =
      .ok response) :
    (response.exitCode = 2 ↔ NothingToJudge decode (contents options.path)) ∧
      (¬ NothingToJudge decode (contents options.path) → ∃ entries tolerance report,
        Holds decode (contents options.path) entries ∧ Counts options settings tolerance ∧
        (∀ other, Payload.validate { scoreTolerance := tolerance } entries other = .ok report) ∧
        Reports options.path entries report response) := by
  have answered :
      ofFile decode options settings (contents options.path) supply = .ok response := by
    simpa [ofArguments, parsed, accepted, Except.mapError, bind, Except.bind] using returned
  rcases payload_cases decode options.path (contents options.path) with
    ⟨nothing, reason, unread⟩ | ⟨entries, holds, given⟩ | ⟨excess, failed⟩
  · have refused : response = ⟨2, ["  " ++ reason.message]⟩ := by
      simpa [ofFile, unread, eq_comm] using answered
    subst refused
    exact ⟨iff_of_true rfl nothing, fun judgeable => absurd nothing judgeable⟩
  · obtain ⟨report, judged, rfl⟩ := ofFile_eq_ok_of_holds given answered
    refine ⟨iff_of_false (exitCode_ofReport_ne_two _ _ _) holds.not_nothingToJudge, ?_⟩
    intro _
    refine ⟨entries, _, report, holds, counts_tolerance options settings, ?_,
      reports_ofReport options.path entries report⟩
    intro other
    rw [← judged, Payload.validate_congr]
  · simp [ofFile, failed] at answered

def untidyFile : String :=
  "\x7b\"is_global\": true,\r\n \"sharing\": 0\x7d"

def untidyResponse : Response where
  exitCode := 1
  lines := [
    rule, "  Quality Template Validation", "  untidy.json", rule,
    "  Name:    ?", "  Origin:  ?", "  Version: 1",
    "", "  ERRORS (4):",
    "    ! Provide either sharing or is_global/laboratory_ids, not both",
    "    ! name: Field required",
    "    ! origin: Field required",
    "    ! created_by: Field required",
    "", rule, "  RESULT: FAIL (4 errors)", rule]

theorem untidyFile_reported :
    ∃ options settings, Options.ofArguments? ["--tol", "-0", "untidy.json"] = some options ∧
      Settings.read [("score_tolerance", "0.05")] "" = .ok settings ∧
      ofArguments (Json.read Json.greatestDepth) ["--tol", "-0", "untidy.json"]
        [("score_tolerance", "0.05")] "" (fun _ => .ok untidyFile) Payload.newYearSupply =
          .ok untidyResponse ∧
      ¬ NothingToJudge (Json.read Json.greatestDepth) (.ok untidyFile) ∧
      ∃ entries report, Holds (Json.read Json.greatestDepth) (.ok untidyFile) entries ∧
        Payload.validate { scoreTolerance := 0.05 } entries Payload.newYearSupply = .ok report ∧
        report.isValid = false ∧ Reports "untidy.json" entries report untidyResponse := by
  have parsed : Options.ofArguments? ["--tol", "-0", "untidy.json"] =
      some ⟨"untidy.json", some (.signedZero true)⟩ := by
    decide +kernel
  have accepted : Settings.read [("score_tolerance", "0.05")] "" =
      .ok { scoreTolerance := 0.05 } :=
    toOption_eq_some_iff.1 (by decide +kernel)
  have returned : ofArguments (Json.read Json.greatestDepth) ["--tol", "-0", "untidy.json"]
      [("score_tolerance", "0.05")] "" (fun _ => .ok untidyFile) Payload.newYearSupply =
        .ok untidyResponse :=
    toOption_eq_some_iff.1 (by decide +kernel)
  obtain ⟨refused_iff, judged⟩ := verdict_reported parsed accepted returned
  have judgeable : ¬ NothingToJudge (Json.read Json.greatestDepth) (.ok untidyFile) := by
    rw [← refused_iff]
    decide
  obtain ⟨entries, tolerance, report, holds, counts, same, reports⟩ := judged judgeable
  refine ⟨_, _, parsed, accepted, returned, judgeable, entries, report, holds, ?_,
    reports.fails_iff.1 rfl, reports⟩
  cases counts with
  | given given nonzero =>
      obtain rfl := Option.some.inj given
      cases nonzero
  | standard unset => exact same _

end Response
end CoffeeGrading
