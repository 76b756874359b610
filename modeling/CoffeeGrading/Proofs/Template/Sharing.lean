import CoffeeGrading.Proofs.Document.Interleaved
import CoffeeGrading.Proofs.Document.Refusal
import CoffeeGrading.Proofs.Registry.Preflight

/-!
Payloads with flags for their sharing scope.  Flags that make sense are worth the sharing object
that they stand for; flags that do not, and flags beside a sharing object, put their messages in
front of what is found in the rest of the payload.
-/

namespace CoffeeGrading

namespace SharingFlags

def Contradictory (flags : SharingFlags) : Prop :=
  flags.isGlobal = some true ∧ ∃ first others, flags.laboratoryIds = some (first :: others)

theorem fields_steady : fields.Steady Eq :=
  .seq_eq (.map_eq (.optional_eq _ .flag)) (.optional_eq _ (.list_eq .identifier))

theorem fields_explains : fields.Explains :=
  .seq (.map (.optional _ .flag)) (.optional _ (.list .identifier))

theorem scope_of_contradictory {flags : SharingFlags} (contradictory : flags.Contradictory) :
    flags.scope = .error .globalWithLaboratories := by
  obtain ⟨everyone, first, others, listed⟩ := contradictory
  rw [scope, everyone, listed]
  rfl

theorem scope_of_consistent {flags : SharingFlags} (consistent : ¬ flags.Contradictory) :
    ∃ scope, SharingScope.ofFlags (flags.isGlobal.getD false) (flags.laboratoryIds.getD []) =
      .ok scope := by
  cases everyone : flags.isGlobal.getD false with
  | false =>
      cases flags.laboratoryIds.getD [] with
      | nil => exact ⟨_, rfl⟩
      | cons first others => exact ⟨_, rfl⟩
  | true =>
      cases listed : flags.laboratoryIds.getD [] with
      | nil => exact ⟨_, rfl⟩
      | cons first others =>
          have global : flags.isGlobal = some true := by simpa [Option.getD_eq_iff] using everyone
          have some_listed : flags.laboratoryIds = some (first :: others) := by
            simpa [Option.getD_eq_iff] using listed
          exact absurd ⟨global, first, others, some_listed⟩ consistent

end SharingFlags

theorem QualityTemplate.fields_local : fields.Local :=
  .seq (.seq (.seq (.seq (.seq (.seq (.seq (.seq (.seq (.seq (.seq (.map
    (.withDefault _ _ _)) (.required _ _)) (.optional _ _)) (.required _ _)) (.withDefault _ _ _))
    (.withDefault _ _ _)) (.withDefault _ _ _)) (.withDefault _ _ _)) (.required _ _))
    (.optional _ _)) (.withDefault _ _ _)) (.withDefault _ _ _)

namespace Payload

/-- An outcome with the same findings as another one, behind messages that make it a rejection.
Where there is no outcome on the one side, there is none on the other. -/
def RejectedAs (messages : List String) (alone rejected : Except ValidationFault TemplateReport) :
    Prop :=
  match alone with
  | .error fault => rejected = .error fault
  | .ok report => ∃ rejection, rejected = .ok rejection ∧ rejection.isValid = false ∧
      rejection.errors = messages ++ report.errors ∧ rejection.warnings = report.warnings

variable {limits : Limits} {payload flags whole : List (String × Document)}

theorem judge_congr (limits : Limits) {entries others : List (String × Document)}
    (same : QualityTemplate.fields.readEntries entries = QualityTemplate.fields.readEntries others)
    (supply other : Supply Timestamp) : judge limits entries supply = judge limits others other := by
  have agree := QualityTemplate.fields_steady.readEntries others supply other
  delta judge
  rw [same]
  generalize (QualityTemplate.fields.readEntries others supply).1 = first at agree ⊢
  generalize (QualityTemplate.fields.readEntries others other).1 = second at agree ⊢
  cases agree with
  | good alike => exact alike.validate limits
  | faulty faults => rfl

theorem validate_of_settled {supply : Supply Timestamp} {fault : Option FlagFault}
    {settled : List (String × Document)} (settles : settle whole supply = (fault, settled)) :
    validate limits whole supply = (judge limits settled supply).map fun report =>
      { report with errors := (fault.map FlagFault.messages).getD [] ++ report.errors } := by
  simp only [validate, settles, bind, Except.bind]
  cases judge limits settled supply with
  | error fault => rfl
  | ok report => rfl

theorem rejectedAs_of_settled {supply other : Supply Timestamp} {fault : FlagFault}
    (bare : ∀ entry ∈ payload, isFlag entry = false)
    (settles : settle whole supply = (some fault, payload)) (named : fault.messages ≠ []) :
    RejectedAs fault.messages (validate limits payload other) (validate limits whole supply) := by
  have alone := settle_of_unflagged bare other
  rw [validate_of_settled settles, validate_of_settled alone, judge_congr limits rfl supply other]
  cases judge limits payload other with
  | error reason => rfl
  | ok report =>
      refine ⟨_, rfl, ?_, rfl, rfl⟩
      simp [TemplateReport.isValid, named]

/-! ### Settling -/

variable {supply : Supply Timestamp}

/-- Entries under other keys than those of a sharing scope. -/
def Bare (payload : List (String × Document)) : Prop :=
  ∀ entry ∈ payload, entry.1 ≠ "sharing" ∧ isFlag entry = false

theorem Bare.unflagged (bare : Bare payload) : ∀ entry ∈ payload, isFlag entry = false :=
  fun entry listed => (bare entry listed).2

theorem Bare.unshared (bare : Bare payload) : ∀ entry ∈ payload, entry.1 ≠ "sharing" :=
  fun entry listed => (bare entry listed).1

theorem filter_flagged (bare : Bare payload) (flagged : ∀ entry ∈ flags, isFlag entry = true)
    (together : Interleaved payload flags whole) :
    whole.filter isFlag = flags ∧ whole.filter (fun entry => !isFlag entry) = payload := by
  constructor
  · exact together.filter_eq_right bare.unflagged flagged
  · exact together.filter_eq_left (fun entry listed => by simp [bare.unflagged entry listed])
      (fun entry listed => by simp [flagged entry listed])

theorem lookup?_bare (bare : Bare payload) : Document.lookup? "sharing" payload = none :=
  Document.lookup?_eq_none bare.unshared

theorem settle_of_scope {scope : SharingScope} (bare : Bare payload)
    (flagged : ∀ entry ∈ flags, isFlag entry = true) (given : flags ≠ [])
    (together : Interleaved payload flags whole) (told : scopeOfFlags flags supply = .ok scope) :
    settle whole supply = (none, payload ++ [("sharing", scope.document)]) := by
  obtain ⟨found, left⟩ := filter_flagged bare flagged together
  simp [settle, found, left, lookup?_bare bare, given, told]

theorem settle_of_fault {fault : FlagFault} (bare : Bare payload)
    (flagged : ∀ entry ∈ flags, isFlag entry = true) (given : flags ≠ [])
    (together : Interleaved payload flags whole)
    (failed : scopeOfFlags flags supply = .error fault) :
    settle whole supply = (some fault, payload) := by
  obtain ⟨found, left⟩ := filter_flagged bare flagged together
  simp [settle, found, left, lookup?_bare bare, given, failed]

theorem settle_beside_sharing {extra : List (String × Document)} {sharing : Document}
    (bare : Bare payload) (flagged : ∀ entry ∈ flags, isFlag entry = true) (given : flags ≠ [])
    (beside : Interleaved flags [("sharing", sharing)] extra)
    (together : Interleaved payload extra whole) :
    settle whole supply = (some .besideSharing, payload) := by
  have no_flag : isFlag ("sharing", sharing) = false := by simp [isFlag, SharingFlags.keys]
  have found : whole.filter isFlag = flags := by
    have parts := together.filter isFlag
    rw [List.filter_eq_nil_iff.2 (by simpa using bare.unflagged),
      beside.filter_eq_left flagged (by simp [no_flag])] at parts
    exact parts.eq_right
  have shared : Interleaved payload [("sharing", sharing)]
      (whole.filter fun entry => !isFlag entry) := by
    have parts := together.filter fun entry => !isFlag entry
    rwa [List.filter_eq_self.2 (by simpa using bare.unflagged),
      beside.filter_eq_right (by simpa using flagged) (by simp [no_flag])] at parts
  have told : (Document.lookup? "sharing" (whole.filter fun entry => !isFlag entry)).isSome := by
    rw [shared.lookup?_eq bare.unshared, if_pos rfl]
    rfl
  have erased : Document.erase "sharing" (whole.filter fun entry => !isFlag entry) = payload :=
    shared.filter_eq_left (by simpa using bare.unshared) (by simp)
  simp only [settle, found, List.isEmpty_eq_false_iff.2 given, told, erased, Bool.false_eq_true,
    if_false, if_true]

theorem settle_shared {sharing : Document} {shared : List (String × Document)}
    (bare : Bare payload) (together : Interleaved payload [("sharing", sharing)] shared)
    (supply : Supply Timestamp) : settle shared supply = (none, shared) := by
  refine settle_of_unflagged ?_ supply
  intro entry listed
  rcases together.mem_iff.1 listed with own | added
  · exact bare.unflagged entry own
  · rw [List.mem_singleton.1 added]
    simp [isFlag, SharingFlags.keys]

/-! ### The flags -/

variable {readSupply : Supply Timestamp}

theorem scopeOfFlags_of_parsed {parsed : SharingFlags}
    (read : (SharingFlags.fields.readEntries flags readSupply).1 = .good parsed)
    (supply : Supply Timestamp) : scopeOfFlags flags supply = parsed.scope.mapError .conflict := by
  have here := (SharingFlags.fields_steady.readEntries flags readSupply supply).eq
  rw [scopeOfFlags, ← here, read]
  rfl

theorem scopeOfFlags_of_faulty {faults : List Fault}
    (read : (SharingFlags.fields.readEntries flags readSupply).1 = .faulty faults)
    (supply : Supply Timestamp) : scopeOfFlags flags supply = .error (.invalid faults) := by
  have here := (SharingFlags.fields_steady.readEntries flags readSupply supply).eq
  rw [scopeOfFlags, ← here, read]
  rfl

/-- What becomes of flags that are added to a payload without any word on sharing, when the payload
alone is judged with the other supply. -/
structure FlagsSettled (limits : Limits) (payload flags whole : List (String × Document))
    (readSupply supply other : Supply Timestamp) : Prop where
  consistent : ∀ parsed,
    (SharingFlags.fields.readEntries flags readSupply).1 = .good parsed →
    ¬ parsed.Contradictory → ∃ scope,
      SharingScope.ofFlags (parsed.isGlobal.getD false) (parsed.laboratoryIds.getD []) = .ok scope ∧
      ∀ shared, Interleaved payload [("sharing", scope.document)] shared →
        validate limits whole supply = validate limits shared other
  contradictory : ∀ parsed,
    (SharingFlags.fields.readEntries flags readSupply).1 = .good parsed → parsed.Contradictory →
      RejectedAs ["A global template cannot also be assigned to specific laboratories"]
        (validate limits payload other) (validate limits whole supply)
  unreadable : ∀ faults,
    (SharingFlags.fields.readEntries flags readSupply).1 = .faulty faults →
      faults ≠ [] ∧ RejectedAs (faults.map Fault.message)
        (validate limits payload other) (validate limits whole supply)
  besideSharing : ∀ sharing extra crowded, Interleaved flags [("sharing", sharing)] extra →
    Interleaved payload extra crowded →
      RejectedAs ["Provide either sharing or is_global/laboratory_ids, not both"]
        (validate limits payload other) (validate limits crowded supply)

theorem flags_settled (limits : Limits) (readSupply supply other : Supply Timestamp)
    (bare : Bare payload) (flagged : ∀ entry ∈ flags, isFlag entry = true) (given : flags ≠ [])
    (together : Interleaved payload flags whole) :
    FlagsSettled limits payload flags whole readSupply supply other := by
  constructor
  case consistent =>
    intro parsed read consistent
    obtain ⟨scope, stands⟩ := SharingFlags.scope_of_consistent consistent
    have told : scopeOfFlags flags supply = .ok scope :=
      (scopeOfFlags_of_parsed read supply).trans
        (congrArg (Except.mapError FlagFault.conflict) stands)
    refine ⟨scope, stands, ?_⟩
    intro shared sharing
    have alike := QualityTemplate.fields_local.readEntries_interleaved (by decide) bare.unshared
      (.append payload [("sharing", scope.document)]) sharing
    rw [validate_of_settled (settle_of_scope bare flagged given together told),
      validate_of_settled (settle_shared bare sharing other), judge_congr limits alike supply other]
  case contradictory =>
    intro parsed read contradictory
    have failed : scopeOfFlags flags supply = .error (.conflict .globalWithLaboratories) := by
      rw [scopeOfFlags_of_parsed read, SharingFlags.scope_of_contradictory contradictory]
      rfl
    exact rejectedAs_of_settled bare.unflagged (settle_of_fault bare flagged given together failed)
      (List.cons_ne_nil _ _)
  case unreadable =>
    intro faults read
    have named : faults ≠ [] := by
      rintro rfl
      exact SharingFlags.fields_explains.readEntries flags readSupply read
    have messages : faults.map Fault.message ≠ [] := by simpa using named
    have settles := settle_of_fault bare flagged given together
      (scopeOfFlags_of_faulty read supply)
    exact ⟨named, rejectedAs_of_settled bare.unflagged settles messages⟩
  case besideSharing =>
    intro sharing extra crowded beside crowd
    exact rejectedAs_of_settled bare.unflagged
      (settle_beside_sharing bare flagged given beside crowd) (List.cons_ne_nil _ _)

def contradictoryFlags : List (String × Document) := [
  ("laboratory_ids", .list [.text "00000000-0000-0000-0000-000000000003"]),
  ("is_global", .text "on")]

theorem draft_interleaved : Interleaved Registry.draftPayload contradictoryFlags
    (contradictoryFlags.take 1 ++ Registry.draftPayload ++ contradictoryFlags.drop 1) :=
  .right _ (.append Registry.draftPayload (contradictoryFlags.drop 1))

theorem draft_bare : Bare Registry.draftPayload := by
  intro entry listed
  refine ⟨?_, Registry.draft_unflagged entry listed⟩
  rintro shared
  simp [Registry.draftPayload, Prod.ext_iff, shared] at listed

theorem contradictoryFlags_flagged : ∀ entry ∈ contradictoryFlags, isFlag entry = true := by
  simp [contradictoryFlags, isFlag, SharingFlags.keys]

theorem draft_flags_settled :
    Bare Registry.draftPayload ∧ (∀ entry ∈ contradictoryFlags, isFlag entry = true) ∧
      contradictoryFlags ≠ [] ∧
      Interleaved Registry.draftPayload contradictoryFlags
        (contradictoryFlags.take 1 ++ Registry.draftPayload ++ contradictoryFlags.drop 1) ∧
      FlagsSettled {} Registry.draftPayload contradictoryFlags
        (contradictoryFlags.take 1 ++ Registry.draftPayload ++ contradictoryFlags.drop 1)
        newYearSupply newYearSupply Registry.laterSupply :=
  ⟨draft_bare, contradictoryFlags_flagged, List.cons_ne_nil _ _, draft_interleaved,
    flags_settled {} newYearSupply newYearSupply Registry.laterSupply draft_bare
      contradictoryFlags_flagged (List.cons_ne_nil _ _) draft_interleaved⟩

end Payload
end CoffeeGrading
