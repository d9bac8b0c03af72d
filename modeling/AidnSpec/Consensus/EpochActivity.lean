import AidnSpec.Consensus.Application

/-!
# The open epoch and its schedule

`consensus/epoch_schedule.py:69–89`, `consensus/epoch_schedule_rebase.py`,
`ledger/service.py:1664–1814, 5661–5710` and `consensus/abci.py:1099–1128`: the committed schedule,
the one rebase of epoch 0, the epoch that the latest transition opened, and its scheduled end.
`epoch_transition_input_report` proposes a transition out of these; the validation of a transition
compares it with the committed schedule only.
-/

namespace AidnSpec.Consensus

open Base Ledger

/-! ## Boundaries -/

/-- `EpochBoundary`, with the scheduled end in microseconds. -/
structure EpochBoundary where
  activeEpoch : Int
  scheduledEnd : Int
  boundaryReached : Bool
  closingEpoch : Option Int
  openingEpoch : Option Int
  deriving DecidableEq

variable [Runtime]

/-- `EpochSchedule.boundary_for`; the inner `none` stands for a `ValueError`. -/
def EpochSchedule.boundaryFor (s : EpochSchedule) (activeEpoch : Int)
    (activeStartTime blockTime : String) : Except PyError (Option EpochBoundary) :=
  if activeEpoch < 0 then .ok none
  else do
    match ← parseTimestamps activeStartTime blockTime with
    | some (start, current) =>
      let scheduledEnd ← plusSeconds start s.epochDurationSeconds
      let reached := decide (scheduledEnd ≤ current)
      return some
        { activeEpoch, scheduledEnd
          boundaryReached := reached
          closingEpoch := if reached then some activeEpoch else none
          openingEpoch := if reached then some (activeEpoch + 1) else none }
    | none => return none

omit [Runtime] in
theorem EpochSchedule.length_computeHash (payload : Fields) :
    (computeHash payload).length = 71 := by
  rw [computeHash, String.length_append, length_digestText]
  rfl

/-- A schedule with its own hash reads back as itself. -/
theorem EpochSchedule.modelValidate_dump {s : EpochSchedule}
    (version : s.schemaVersion = EpochSchedule.version)
    (texts : [s.genesisStartTime, s.parameterVersion, s.taskSetVersion, s.protocolVersion].all
      (!·.isEmpty) = true)
    (duration : 0 < s.epochDurationSeconds)
    (start : (parseTimestamp s.genesisStartTime).toBool = true)
    (hash : s.scheduleHash = computeHash s.unsignedPayload) :
    modelValidate (.dict s.dump) = some s := by
  obtain ⟨schemaVersion, genesisStartTime, epochDurationSeconds, parameterVersion, taskSetVersion,
    protocolVersion, scheduleHash⟩ := s
  simp only [List.all_cons, Bool.and_eq_true, Bool.not_eq_true', List.all_nil] at texts
  simp only [unsignedPayload] at version duration start hash
  subst version hash
  simp [modelValidate, dump, unsignedPayload, fieldLiteralD, fieldText, fieldInt, List.lookup_cons,
    laxInt, texts, duration, start]

/-! ## The rebase of epoch 0 -/

structure EpochScheduleRebase where
  schemaVersion : String
  scheduleHash : String
  effectiveEpochZeroStartTime : String
  reasonCode : String
  recoveryProfile : String
  rebaseHash : String

namespace EpochScheduleRebase

/-- `EPOCH_SCHEDULE_REBASE_VERSION`. -/
def version : String := "aidn.epoch-schedule-rebase.v1"

def unsignedPayload (r : EpochScheduleRebase) : Fields :=
  [("schema_version", .str r.schemaVersion), ("schedule_hash", .str r.scheduleHash),
    ("effective_epoch_zero_start_time", .str r.effectiveEpochZeroStartTime), ("reason_code",
    .str r.reasonCode), ("recovery_profile", .str r.recoveryProfile)]

/-- `model_dump(mode="json")`. -/
def dump (r : EpochScheduleRebase) : Fields :=
  r.unsignedPayload ++ [("rebase_hash", .str r.rebaseHash)]

/-- `_hash`. -/
@[irreducible] def computeHash (payload : Fields) : String :=
  "sha256:" ++ hexEncode false
    (sha256 (asciiBytes (version.toList ++ ':' :: canonicalText (.dict payload))))

/-- `EpochScheduleRebase.model_validate`; `none` stands for its exception. -/
def modelValidate (value : PyValue) : Option EpochScheduleRebase := do
  let .dict fields := value | none
  let schemaVersion ← fieldTextD fields "schema_version" version
  let scheduleHash ← fieldText fields "schedule_hash" true
  let effectiveEpochZeroStartTime ← fieldText fields "effective_epoch_zero_start_time" true
  let reasonCode ← fieldTextD fields "reason_code" "CONTROLLED_LOCALNET_LATE_INITIAL_SCHEDULE"
  let recoveryProfile ← fieldTextD fields "recovery_profile" "controlled-localnet"
  let rebaseHash ← fieldText fields "rebase_hash" false
  let rebase : EpochScheduleRebase :=
    { schemaVersion, scheduleHash, effectiveEpochZeroStartTime, reasonCode, recoveryProfile,
      rebaseHash }
  let declared := rebase.dump.map Prod.fst
  guard (fields.all fun member => declared.contains member.1)
  guard (schemaVersion = version)
  guard (reasonCode = "CONTROLLED_LOCALNET_LATE_INITIAL_SCHEDULE")
  guard (recoveryProfile = "controlled-localnet")
  guard (parseTimestamp effectiveEpochZeroStartTime).toBool
  guard (rebaseHash = computeHash rebase.unsignedPayload)
  return rebase

omit [Runtime] in
theorem length_computeHash (payload : Fields) : (computeHash payload).length = 71 := by
  rw [computeHash, String.length_append, length_digestText]
  rfl

/-- A rebase with its own hash reads back as itself. -/
theorem modelValidate_dump {r : EpochScheduleRebase}
    (version : r.schemaVersion = EpochScheduleRebase.version)
    (reason : r.reasonCode = "CONTROLLED_LOCALNET_LATE_INITIAL_SCHEDULE")
    (profile : r.recoveryProfile = "controlled-localnet")
    (texts : [r.scheduleHash, r.effectiveEpochZeroStartTime].all (!·.isEmpty) = true)
    (start : (parseTimestamp r.effectiveEpochZeroStartTime).toBool = true)
    (hash : r.rebaseHash = computeHash r.unsignedPayload) :
    modelValidate (.dict r.dump) = some r := by
  obtain ⟨schemaVersion, scheduleHash, effectiveEpochZeroStartTime, reasonCode, recoveryProfile,
    rebaseHash⟩ := r
  simp only [List.all_cons, Bool.and_eq_true, Bool.not_eq_true', List.all_nil] at texts
  simp only [unsignedPayload] at version reason profile start hash
  subst version reason profile hash
  simp [modelValidate, dump, unsignedPayload, fieldTextD, fieldText, List.lookup_cons, texts, start]

end EpochScheduleRebase

/-! ## What the ledger holds of the schedule -/

def latestOfType (L : LedgerState) (operationType : String) : Option LedgerOperationRecord :=
  L.operations.reverse.find? (·.operationType == operationType)

/-- `epoch_schedule_projection`: the committed schedule and its finalized reference. -/
def epochScheduleProjection (L : LedgerState) :
    Option (FinalizedOperationReference × EpochSchedule) := do
  let operation ← latestOfType L "EPOCH_SCHEDULE_COMMIT"
  let schedule ← EpochSchedule.modelValidate (PyValue.get operation.payload "epoch_schedule")
  guard (!isBlank operation.operationId)
  let reference ← L.finalizedOperationRegistry.get? operation.operationId
  return (reference, schedule)

/-- `epoch_schedule_rebase_projection`: the rebase and its finalized reference. -/
def epochScheduleRebaseProjection (L : LedgerState) :
    Option (FinalizedOperationReference × EpochScheduleRebase) := do
  let operation ← latestOfType L "EPOCH_SCHEDULE_REBASE"
  let rebase ← EpochScheduleRebase.modelValidate
    (PyValue.get operation.payload "epoch_schedule_rebase")
  let reference ← L.finalizedOperationRegistry.get? operation.operationId
  return (reference, rebase)

/-- `_active_epoch_context`: the open epoch, its start, and what is missing for both. -/
def activeEpochContext (schedule : EpochSchedule) (L : LedgerState) :
    Int × String × Option String :=
  match latestOfType L "EPOCH_TRANSITION" with
  | none =>
    match epochScheduleRebaseProjection L with
    | some (_, rebase) =>
      if isBlank rebase.effectiveEpochZeroStartTime then
        (0, schedule.genesisStartTime, some "epoch_schedule_rebase_start_time")
      else (0, rebase.effectiveEpochZeroStartTime, none)
    | none => (0, schedule.genesisStartTime, none)
  | some transition =>
    match PyValue.get transition.payload "opening_epoch" with
    | .int opening =>
      if opening < 0 then (0, schedule.genesisStartTime, some "active_epoch_transition_epoch")
      else if Fields.hasText transition.payload "next_epoch_start_time" then
        (opening, Fields.text transition.payload "next_epoch_start_time", none)
      else (opening, schedule.genesisStartTime, some "active_epoch_start_time")
    | _ => (0, schedule.genesisStartTime, some "active_epoch_transition_epoch")

/-- The boundary that `epoch_transition_input_report` finds for the open epoch, if nothing is
missing for it. -/
def openEpochBoundary (app : Application) : Option EpochBoundary :=
  match app.epochSchedule, app.lastBlockTime with
  | some schedule, some time =>
    match activeEpochContext schedule app.ledger with
    | (epoch, start, none) =>
      match schedule.boundaryFor epoch start time with
      | .ok boundary => boundary
      | .error _ => none
    | _ => none
  | _, _ => none

/-! ## The validations of the schedule -/

/-- `validate_consensus_epoch_schedule_commit` after the check of the type: the events. -/
def validateEpochScheduleCommit (env : Envelope) (L : LedgerState) :
    Except PyError (List String) := do
  require (env.originType == .protocol && env.senderWallet.isNone)
    "epoch schedule commit requires protocol origin"
  require (env.feeClass == .protocolSponsored)
    "epoch schedule commit requires protocol-sponsored fee class"
  require (targetEpochMatches env 0) "epoch schedule commit target epoch must be zero"
  require (EpochSchedule.modelValidate (PyValue.get env.payload "epoch_schedule")).isSome
    "epoch schedule commit payload is invalid"
  require (!epochScheduleCommitted L) "epoch schedule is already committed"
  require (!L.operations.any (·.operationType == "EPOCH_TRANSITION"))
    "epoch schedule cannot be committed after epoch transition"
  return ["EpochScheduleCommitted"]

/-- `epoch_result_manifest_commitment(0) is not None`. -/
def epochZeroResultCommitted (L : LedgerState) : Bool :=
  L.operations.any fun operation =>
    operation.operationType == "EPOCH_RESULT_MANIFEST_COMMIT" &&
      match PyValue.get operation.payload "manifest" with
      | .dict manifest => valueEqInt (PyValue.get manifest "epoch_number") 0
      | _ => false

/-- `validate_consensus_epoch_schedule_rebase` after the check of the type: the events. -/
def validateEpochScheduleRebase (env : Envelope) (L : LedgerState) :
    Except PyError (List String) := do
  require (env.originType == .protocol && env.senderWallet.isNone)
    "epoch schedule rebase requires protocol origin"
  require (env.feeClass == .protocolSponsored && env.targetEpoch == some "0")
    "epoch schedule rebase requires protocol-sponsored epoch zero"
  let (_, schedule) ← requireStored (epochScheduleProjection L)
    "epoch schedule rebase requires a finalized schedule"
  require (!L.operations.any (·.operationType == "EPOCH_SCHEDULE_REBASE"))
    "epoch schedule rebase is already committed"
  require (!(epochZeroResultCommitted L || L.operations.any
    (·.operationType == "EPOCH_TRANSITION")))
    "epoch schedule rebase is unavailable after epoch activity"
  let rebase ← requireStored (EpochScheduleRebase.modelValidate
    (PyValue.get env.payload "epoch_schedule_rebase")) "epoch schedule rebase payload is invalid"
  require (rebase.scheduleHash == schedule.scheduleHash)
    "epoch schedule rebase schedule hash does not match"
  let effective ← parseTimestamp rebase.effectiveEpochZeroStartTime
  let original ← parseTimestamp schedule.genesisStartTime
  require (original < effective) "epoch schedule rebase must start after the original schedule"
  return ["EpochScheduleRebased"]

/-- What `validate_consensus_epoch_transition` asks of the schedule reference. -/
def requireScheduleReference (env : Envelope) (finalized : FinalizedIds) (L : LedgerState) :
    Except PyError Unit := do
  let payload := env.payload
  let commitment ← requireStored (latestOfType L "EPOCH_SCHEDULE_COMMIT")
    "epoch transition epoch schedule is not finalized"
  require (Fields.hasText payload "epoch_schedule_commit_operation_id")
    "epoch transition requires canonical epoch schedule reference"
  let operationId := Fields.text payload "epoch_schedule_commit_operation_id"
  require ((finalized.getD (finalizedOperationIds L)).contains operationId)
    "epoch transition epoch schedule is not finalized"
  require (operationId == commitment.operationId)
    "epoch transition epoch schedule reference is invalid"
  let schedule ← requireStored
    (EpochSchedule.modelValidate (PyValue.get commitment.payload "epoch_schedule"))
    "epoch schedule is invalid"
  require (PyValue.get payload "epoch_schedule_version" = .str schedule.schemaVersion ∧
      PyValue.get payload "epoch_schedule_hash" = .str schedule.scheduleHash)
    "epoch transition epoch schedule binding mismatch"
  require (Fields.has payload "epoch_schedule_commit_sequence_id" &&
      Fields.has payload "epoch_schedule_commit_record_digest")
    "epoch transition epoch schedule finality reference is incomplete"
  let reference ← requireStored (L.finalizedOperationRegistry.get? operationId)
    "epoch transition epoch schedule finality reference is unavailable"
  require (valueEqInt (PyValue.get payload "epoch_schedule_commit_sequence_id")
        reference.sequenceId ∧
      PyValue.get payload "epoch_schedule_commit_record_digest" = .str reference.recordDigest)
    "epoch transition epoch schedule finality reference does not match"
  require (env.evidenceReferences.contains operationId &&
      env.evidenceReferences.contains reference.recordDigest)
    "epoch transition epoch schedule evidence references are incomplete"

/-- Rules that validate the schedule, its rebase and the reference to it as the source does,
and refuse every other operation they are asked about. -/
@[reducible] def scheduleRules : LedgerRules where
  recorded kind env _ L :=
    match kind with
    | .epochScheduleCommit => validateEpochScheduleCommit env L
    | .epochScheduleRebase => validateEpochScheduleRebase env L
    | _ => raiseValue "refused"
  treasuryManifest _ _ := raiseValue "refused"
  treasuryAuthorization _ _ := raiseValue "refused"
  calculation _ _ _ _ := raiseValue "refused"
  walletBinding _ := raiseValue "refused"
  adjustment _ _ _ _ := raiseValue "refused"
  epochManifest _ _ _ := raiseValue "refused"
  epochSchedule := requireScheduleReference

end AidnSpec.Consensus
