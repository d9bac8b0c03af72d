import AidnSpec.RuntimeProtocol.Store
import Mathlib.Data.List.MinMax

/-!
# Calls about requests

The calls of `runtime_protocol/service.py` that write the tables about requests: registration and
acceptance, usage reports, cancellations, streams, artifacts, terminal states and results. Each
answers with the tables that it leaves; a call that raises leaves them.
-/

namespace AidnSpec.RuntimeProtocol

open Base

/-! ## Registration and acceptance -/

def validateAccountingCompatibility (request : RuntimeExecuteRequest) (binding : RuntimeBinding)
    (contract : AccountingContract) (profile : RuntimeUsageProfile) :
    Except ProtocolFailure Unit := do
  demand (contract.capabilityId.all (· == request.capabilityId)) "ACCOUNTING_CONTRACT_MISMATCH"
    "accounting" "Accounting Contract Capability mismatch"
  demand (contract.endpointId.all (· == request.endpointId)) "ACCOUNTING_CONTRACT_MISMATCH"
    "accounting" "Accounting Contract Endpoint mismatch"
  demand (profile.runtimeId == request.runtimeId &&
    profile.runtimeGeneration == request.runtimeGeneration &&
    profile.runtimeConfigurationHash == request.runtimeConfigurationHash) "USAGE_PROFILE_MISMATCH"
    "accounting" "Runtime Usage Profile identity mismatch"
  demand (binding.usageReportingProfileHash == some profile.profileHash) "USAGE_PROFILE_MISMATCH"
    "accounting" "Runtime Binding does not authorize this Usage Profile"
  demand (binding.supportedAccountingModes.isEmpty ||
    contract.billableUnits.all (binding.supportedAccountingModes.contains ·.mode))
    "ACCOUNTING_MODE_UNSUPPORTED" "accounting"
    "Runtime Binding does not support the Accounting Mode"
  demand (contract.compatibilityErrors profile).isEmpty
    "ACCOUNTING_REQUIRED_DIMENSION_UNAVAILABLE" "accounting"
    ("; ".intercalate (contract.compatibilityErrors profile))

namespace RuntimeProtocolStore

variable (env : ServiceEnvironment) (s : RuntimeProtocolStore)

/-- The checkpoint that a state reference names is one of the session. -/
def knowsCheckpoint (request : RuntimeExecuteRequest) (checkpointHash : PyValue)
    (stateGeneration : Int) : Bool :=
  s.stateCheckpoints.values.any fun checkpoint =>
    checkpoint.runtimeId == request.runtimeId && checkpoint.sessionId == request.sessionId &&
      checkpoint.stateGeneration == stateGeneration &&
      .str checkpoint.checkpointHash == checkpointHash

def validateRequestStateReference (request : RuntimeExecuteRequest) (reference : Fields) :
    Except ProtocolFailure Unit := do
  let checkpointHash := PyValue.get reference "checkpoint_hash"
  let stateGeneration ← match PyValue.get reference "state_generation" with
    | .int n => .ok n
    | .bool b => .ok b.toInt
    | _ =>
      refuse "RUNTIME_STATE_REFERENCE_INVALID" "state"
        "State Reference requires checkpoint_hash and state_generation"
  demand checkpointHash.truthy "RUNTIME_STATE_REFERENCE_INVALID" "state"
    "State Reference requires checkpoint_hash and state_generation"
  demand (s.knowsCheckpoint request checkpointHash stateGeneration)
    "RUNTIME_STATE_REFERENCE_INVALID" "state"
    "State Reference does not match a Session-scoped checkpoint"

def checkStateReference (request : RuntimeExecuteRequest) : Except ProtocolFailure Unit :=
  match request.stateReference with
  | none => .ok ()
  | some reference => s.validateRequestStateReference request reference

def submittedRecord (request : RuntimeExecuteRequest) : RuntimeRequestRecord where
  requestId := request.requestId
  runtimeId := request.runtimeId
  runtimeGeneration := request.runtimeGeneration
  routeGeneration := request.routeGeneration
  requestHash := request.semanticHash
  request := request
  requestState := .submitted
  updatedAt := env.now.text

def registerExecuteRequest [Runtime] (connectionId : String) (request : RuntimeExecuteRequest) :
    Except ProtocolFailure (RuntimeRequestRecord × RequestTables) := do
  let _ ← validateConnection env s.connections connectionId (request.claim false)
  let binding ← env.bindingOf request.runtimeId
  demand env.authorized "RUNTIME_SESSION_NOT_AUTHORIZED" "request"
    "Endpoint, Session or Accounting binding is not authorized"
  demand (request.capabilityId = binding.capabilityId) "RUNTIME_CAPABILITY_MISMATCH" "request"
    "Capability ID mismatch"
  demand (request.capabilityVersion = binding.capabilityVersion) "RUNTIME_CAPABILITY_MISMATCH"
    "request" "Capability version mismatch"
  demand (request.capabilityDefinitionHash = binding.capabilityDefinitionHash)
    "RUNTIME_CAPABILITY_DEFINITION_MISMATCH" "request" "Capability Definition Hash mismatch"
  let contract ← env.accountingContract request.accountingContractHash
  let profile ← env.usageProfile request.runtimeId
  validateAccountingCompatibility request binding contract profile
  demand (request.requiredFeatures.all binding.supportedFeatures.contains)
    "RUNTIME_REQUIRED_FEATURE_UNAVAILABLE" "request" "Required Runtime features are unavailable"
  let expired ← env.passed request.requestDeadline
  demand (!expired) "RUNTIME_REQUEST_EXPIRED" "request" "Request deadline expired"
  s.checkStateReference request
  match s.requests.get? request.requestId with
  | some existing =>
    demand (existing.requestHash = request.semanticHash) "RUNTIME_REQUEST_CONFLICT" "request"
      "Request ID conflicts with existing semantic content"
    return (existing, s.toRequestTables)
  | none =>
    let record := submittedRecord env request
    return (record, { s.toRequestTables with
      requests := s.requests.set request.requestId record })

def acceptedState : RuntimeAdmissionState → RuntimeRequestState
  | .accepted => .accepted
  | .queued => .queued
  | .recoveryRequired => .recovering
  | _ => .failed

def acceptedRecord (acceptance : RuntimeRequestAccept) (record : RuntimeRequestRecord) :
    RuntimeRequestRecord :=
  { record with
    requestState := acceptedState acceptance.admissionState
    admissionState := some acceptance.admissionState
    runtimeRequestHandle := acceptance.runtimeRequestHandle
    acceptedAt := some acceptance.acceptedAt
    updatedAt := env.now.text }

def recordRequestAccept (connectionId : String) (acceptance : RuntimeRequestAccept) :
    Except ProtocolFailure (RuntimeRequestRecord × RequestTables) := do
  let _ ← validateConnection env s.connections connectionId {
    runtimeId := acceptance.runtimeId
    runtimeGeneration := acceptance.runtimeGeneration
    routeGeneration := some acceptance.routeGeneration }
  match s.requests.get? acceptance.requestId with
  | none => refuse "RUNTIME_REQUEST_NOT_FOUND" "request" "Unknown Runtime Request"
  | some record =>
    demand (acceptance.sessionId = record.request.sessionId) "RUNTIME_SESSION_NOT_AUTHORIZED"
      "request" "Request acceptance Session mismatch"
    demand (acceptance.acceptedCapabilityDefinitionHash = record.request.capabilityDefinitionHash)
      "RUNTIME_CAPABILITY_DEFINITION_MISMATCH" "request"
      "Request acceptance Capability Definition mismatch"
    let updated := acceptedRecord env acceptance record
    return (updated, { s.toRequestTables with
      requests := s.requests.set record.requestId updated })

/-! ## Usage reports -/

/-- The code under which the dimensions of a report are rejected, after those that were seen. -/
def dimensionsRejected (profile : RuntimeUsageProfile) :
    List String → List RuntimeUsageDimension → Option String
  | _, [] => none
  | seen, dimension :: rest =>
    if dimension.dimensionId ∈ seen then some "USAGE_DIMENSION_DUPLICATE"
    else
      -- the last dimension of a name is the one in `profile_dimensions`
      match profile.dimensions.reverse.find? (·.dimensionId == dimension.dimensionId) with
      | none => some "USAGE_PROFILE_MISMATCH"
      | some declared =>
        if declared.unit ≠ dimension.unit then some "USAGE_PROFILE_MISMATCH"
        else if dimension.authority.isSome ∧ declared.authority.isSome ∧
            dimension.authority ≠ declared.authority then some "USAGE_AUTHORITY_INVALID"
        else if dimension.billingEligible ∧ !declared.billingEligible then
          some "USAGE_BILLING_ELIGIBILITY_INVALID"
        else if dimension.cumulative ≠ declared.cumulative then
          some "USAGE_CUMULATIVE_SEMANTICS_INVALID"
        else dimensionsRejected profile (dimension.dimensionId :: seen) rest

/-- The report is about the endpoint, the terms and the contract of the request. -/
def describes (report : RuntimeUsageReport) (request : RuntimeExecuteRequest) : Bool :=
  report.endpointId == request.endpointId &&
    report.endpointConfigurationHash == some request.endpointConfigurationHash &&
    (report.effectiveTermsHash.isNone ||
      report.effectiveTermsHash == request.effectiveTermsHash) &&
    report.accountingContractHash == some request.accountingContractHash

/-- What an acknowledgment says, without its id and its signature. -/
def ackPayload (report : RuntimeUsageReport) (status : UsageAckStatus)
    (acceptedSequence : Option ℕ) (acceptedHash rejectionCode : Option String) : PyValue :=
  .dict [("usage_report_id", .str report.usageReportId), ("session_id", .str report.sessionId),
    ("request_id", .str report.requestId), ("status", .str status.toText),
    ("accepted_usage_sequence", (acceptedSequence.map fun n => PyValue.int n).getD .none),
    ("accepted_report_hash", optText acceptedHash), ("rejection_code", optText rejectionCode),
    ("acknowledged_at", .str env.now.text)]

/-- `_usage_ack`: the acknowledgment and the tables with it. -/
def usageAck (tables : RequestTables) (report : RuntimeUsageReport) (status : UsageAckStatus)
    (acceptedSequence : Option ℕ) (acceptedHash rejectionCode : Option String) :
    RuntimeUsageAck × RequestTables :=
  let ack : RuntimeUsageAck := {
    usageAcknowledgmentId :=
      canonicalHash (ackPayload env report status acceptedSequence acceptedHash rejectionCode)
    usageReportId := report.usageReportId
    sessionId := report.sessionId
    requestId := report.requestId
    status := status
    acceptedUsageSequence := acceptedSequence
    acceptedReportHash := acceptedHash
    rejectionCode := rejectionCode
    acknowledgedAt := env.now.text
    hypervisorSignature := env.signature }
  (ack, { tables with usageAcks := tables.usageAcks.set ack.usageAcknowledgmentId ack })

/-- What a conflict says, without its id. -/
def conflictPayload (report : RuntimeUsageReport) (acceptedHash : Option String)
    (conflictType : ConflictType) : PyValue :=
  .dict [("usage_report_id", .str report.usageReportId), ("runtime_id", .str report.runtimeId),
    ("session_id", .str report.sessionId), ("request_id", .str report.requestId),
    ("usage_sequence", .int report.usageSequence), ("accepted_report_hash", optText acceptedHash),
    ("conflicting_report_hash", .str report.reportHash),
    ("conflict_type", .str conflictType.toText), ("observed_at", .str env.now.text)]

def usageConflict (report : RuntimeUsageReport) (acceptedHash : Option String)
    (conflictType : ConflictType) : RuntimeUsageConflict where
  conflictId := canonicalHash (conflictPayload env report acceptedHash conflictType)
  usageReportId := report.usageReportId
  runtimeId := report.runtimeId
  sessionId := report.sessionId
  requestId := report.requestId
  usageSequence := report.usageSequence
  acceptedReportHash := acceptedHash
  conflictingReportHash := report.reportHash
  conflictType := conflictType
  observedAt := env.now.text

def recordUsageConflict (tables : RequestTables) (report : RuntimeUsageReport)
    (acceptedHash : Option String) (conflictType : ConflictType) : RequestTables :=
  let conflict := usageConflict env report acceptedHash conflictType
  { tables with usageConflicts := tables.usageConflicts.set conflict.conflictId conflict }

def requestReports (tables : RequestTables) (requestId : String) : List RuntimeUsageReport :=
  tables.usageReports.values.filter (·.requestId == requestId)

def usageChain (tables : RequestTables) (requestId : String) : List RuntimeUsageReport :=
  (requestReports tables requestId).mergeSort fun a b => a.usageSequence ≤ b.usageSequence

/-- The decision of `record_usage_report` on the chain of the request. -/
def admitUsageReport (report : RuntimeUsageReport) : RuntimeUsageAck × RequestTables :=
  let tables := s.toRequestTables
  match s.usageReports.get? report.usageReportId with
  | some existing =>
    if existing.reportHash ≠ report.reportHash then
      usageAck env (recordUsageConflict env tables report existing.reportHash .content) report
        .conflict existing.usageSequence existing.reportHash "USAGE_REPORT_CONFLICT"
    else
      usageAck env tables report .duplicate existing.usageSequence existing.reportHash none
  | none =>
    let chain := usageChain tables report.requestId
    let last := chain.getLast?
    let previousHash := last.map (·.reportHash)
    match chain.find? (·.usageSequence == report.usageSequence) with
    | some same =>
      usageAck env (recordUsageConflict env tables report same.reportHash .sequence) report
        .conflict same.usageSequence same.reportHash "USAGE_CHAIN_CONFLICT"
    | none =>
      if report.usageSequence ≠ chain.length + 1 then
        usageAck env (recordUsageConflict env tables report previousHash .sequence) report
          .outOfSequence (last.map (·.usageSequence)) previousHash "USAGE_SEQUENCE_INVALID"
      else if report.previousUsageReportHash ≠ previousHash then
        usageAck env (recordUsageConflict env tables report previousHash .chain) report
          .outOfSequence (last.map (·.usageSequence)) previousHash "USAGE_CHAIN_HASH_MISMATCH"
      else
        let answered := usageAck env tables report .accepted report.usageSequence
          report.reportHash none
        (answered.1, { answered.2 with
          usageReports := answered.2.usageReports.set report.usageReportId report })

def recordUsageReport (connectionId : String) (report : RuntimeUsageReport) :
    Except ProtocolFailure (RuntimeUsageAck × RequestTables) := do
  let rejected (code : String) := usageAck env s.toRequestTables report .rejected none none code
  let _ ← validateConnection env s.connections connectionId {
    runtimeId := report.runtimeId
    runtimeGeneration := report.runtimeGeneration
    runtimeConfigurationHash := some report.runtimeConfigurationHash
    allowRecovering := true }
  env.authenticate "RUNTIME_USAGE_REPORT_INVALID" "usage" "Usage Report authentication failed"
  match s.requests.get? report.requestId with
  | none => refuse "RUNTIME_REQUEST_NOT_FOUND" "usage" "Usage Report Request is unknown"
  | some request =>
    demand (request.request.sessionId = report.sessionId) "RUNTIME_REQUEST_NOT_FOUND" "usage"
      "Usage Report Request is unknown"
    if request.admitted = false then return rejected "USAGE_REPORT_BEFORE_REQUEST_ACCEPTANCE"
    else if describes report request.request = false then
      return rejected "USAGE_REPORT_IDENTITY_MISMATCH"
    else
      let profile ← env.usageProfile report.runtimeId
      match dimensionsRejected profile [] report.dimensions with
      | some code => return rejected code
      | none => return s.admitUsageReport env report

/-! ## Cancellation -/

def cancels (cancellation : RuntimeCancelRequest) (record : RuntimeRequestRecord) : Bool :=
  record.request.sessionId == cancellation.sessionId &&
    record.runtimeId == cancellation.runtimeId &&
    record.runtimeGeneration == cancellation.runtimeGeneration &&
    record.routeGeneration == cancellation.routeGeneration &&
    record.request.runtimeConfigurationHash == cancellation.runtimeConfigurationHash

def cancellationPending (requestId : String) : Bool :=
  s.cancellations.values.any fun item => item.cancellation.requestId == requestId &&
    !s.cancellationResults.contains item.cancellation.cancellationId

def cancelRequested (record : RuntimeRequestRecord) : RuntimeRequestRecord :=
  { record with
    requestState := .cancelRequested
    updatedAt := env.now.text }

def requestRuntimeCancellation [Runtime] (connectionId : String)
    (cancellation : RuntimeCancelRequest) :
    Except ProtocolFailure (RuntimeCancelRequest × RequestTables) := do
  let _ ← validateConnection env s.connections connectionId (cancellation.claim false)
  match s.requests.get? cancellation.requestId with
  | none => refuse "RUNTIME_REQUEST_NOT_FOUND" "cancellation" "Unknown Runtime Request"
  | some record =>
    demand (cancels cancellation record) "RUNTIME_CANCELLATION_FAILED" "cancellation"
      "Cancellation identity does not match accepted Request"
    let binding ← env.bindingOf cancellation.runtimeId
    demand (binding.supportedFeatures.contains "cancellation") "RUNTIME_CANCELLATION_UNSUPPORTED"
      "cancellation" "Runtime Binding does not declare cancellation support"
    let late ← env.passed cancellation.deadline
    demand (!late) "RUNTIME_CANCELLATION_TOO_LATE" "cancellation"
      "Cancellation deadline has expired"
    demand (!record.requestState.terminal) "RUNTIME_CANCELLATION_TOO_LATE" "cancellation"
      "Runtime Request is already terminal"
    match s.cancellations.get? cancellation.cancellationId with
    | some existing =>
      demand (existing.cancellation.cancellationHash = cancellation.cancellationHash)
        "RUNTIME_CANCELLATION_FAILED" "cancellation"
        "Cancellation ID conflicts with existing command"
      return (existing.cancellation, s.toRequestTables)
    | none =>
      demand (!s.cancellationPending cancellation.requestId) "RUNTIME_CANCELLATION_FAILED"
        "cancellation" "Runtime Request already has a pending cancellation"
      return (cancellation, { s.toRequestTables with
        cancellations := s.cancellations.set cancellation.cancellationId {
          cancellation := cancellation
          requestStateBeforeCancel := record.requestState
          updatedAt := env.now.text }
        requests := s.requests.set cancellation.requestId (cancelRequested env record) })

def answers (result : RuntimeCancelResult) (cancellation : RuntimeCancelRequest) : Bool :=
  result.runtimeId == cancellation.runtimeId &&
    result.runtimeGeneration == cancellation.runtimeGeneration &&
    result.runtimeConfigurationHash == cancellation.runtimeConfigurationHash &&
    result.routeGeneration == cancellation.routeGeneration &&
    result.sessionId == cancellation.sessionId && result.requestId == cancellation.requestId

/-- The execution goes on after a cancellation with this state. -/
def CancellationState.continues : CancellationState → Bool
  | .cancellationTooLate | .cancellationUnsupported | .alreadyTerminal | .failed => true
  | _ => false

/-- The request goes back to the state before the cancellation. -/
def continued (record : RuntimeCancellationRecord) (request : RuntimeRequestRecord) :
    RuntimeRequestRecord :=
  if request.requestState = .cancelRequested then
    { request with
      requestState := record.requestStateBeforeCancel
      updatedAt := env.now.text }
  else request

def recordRuntimeCancelResult (connectionId : String) (result : RuntimeCancelResult) :
    Except ProtocolFailure (RuntimeCancelResult × RequestTables) := do
  env.authenticate "RUNTIME_IDENTITY_INVALID" "cancellation"
    "Runtime Cancel Result authentication failed"
  match s.cancellations.get? result.cancellationId with
  | none =>
    refuse "RUNTIME_CANCELLATION_FAILED" "cancellation" "Unknown Runtime cancellation command"
  | some record =>
    let _ ← validateConnection env s.connections connectionId (result.claim true)
    demand (answers result record.cancellation) "RUNTIME_CANCELLATION_FAILED" "cancellation"
      "Runtime Cancel Result identity does not match cancellation command"
    match s.cancellationResults.get? result.cancellationId with
    | some existing =>
      demand (existing.cancellationResultHash = result.cancellationResultHash)
        "RUNTIME_CANCELLATION_FAILED" "cancellation"
        "Runtime Cancel Result conflicts with accepted result"
      return (existing, s.toRequestTables)
    | none =>
      let recorded : RequestTables := { s.toRequestTables with
        cancellationResults := s.cancellationResults.set result.cancellationId result }
      if CancellationState.continues result.cancellationState then
        match s.requests.get? result.requestId with
        | none => .error (.python ⟨.key, result.requestId⟩)
        | some request => return (result, { recorded with
            requests := s.requests.set result.requestId (continued env record request) })
      else return (result, recorded)

/-! ## Streams and artifacts -/

def chunksOf (streamId : String) : List (ℕ × RuntimeStreamChunk) :=
  (s.streamChunks.entries.filter (·.1.1 == streamId)).map fun e => (e.1.2, e.2)

/-- `max(chunks, default=0)`. -/
def lastSequence (streamId : String) : ℕ := ((s.chunksOf streamId).map (·.1)).foldl max 0

def streamRoot (streamId : String) (chunks : List (ℕ × RuntimeStreamChunk)) : String :=
  canonicalHash (.dict [("stream_id", .str streamId), ("chunks", .list
    ((chunks.mergeSort fun a b => a.1 ≤ b.1).map fun e => .dict [("sequence", .int e.1),
      ("chunk_hash", .str e.2.chunkHash), ("chunk_length", .int e.2.chunkLength)]))])

/-- The checks of `_validate_stream_event` before the stream is looked up. -/
def validateStreamEvent (connectionId : String) (event : RuntimeStreamEvent) :
    Except ProtocolFailure Unit := do
  env.authenticate "RUNTIME_IDENTITY_INVALID" "stream" "Runtime Stream authentication failed"
  let _ ← validateConnection env s.connections connectionId (event.claim true)
  match s.requests.get? event.requestId with
  | none => refuse "RUNTIME_REQUEST_NOT_FOUND" "stream" "Runtime Stream Request is unknown"
  | some request =>
    demand (request.request.sessionId = event.sessionId) "RUNTIME_REQUEST_NOT_FOUND" "stream"
      "Runtime Stream Request is unknown"
    demand request.admitted "RUNTIME_REQUEST_REJECTED" "stream"
      "Runtime Stream Request was not accepted"

/-- `_validate_stream_event` with `require_open`. -/
def openStream (connectionId : String) (event : RuntimeStreamEvent) :
    Except ProtocolFailure RuntimeStreamOpen := do
  s.validateStreamEvent env connectionId event
  match s.streams.get? event.streamId with
  | none => refuse "RUNTIME_STREAM_NOT_FOUND" "stream" "Runtime Stream is not open"
  | some stream =>
    demand (stream.toRuntimeIdentity = event.toRuntimeIdentity &&
      stream.sessionId = event.sessionId && stream.requestId = event.requestId)
      "RUNTIME_STREAM_SEQUENCE_CONFLICT" "stream"
      "Runtime Stream event identity does not match Stream Open"
    return stream

def recordRuntimeStreamOpen (connectionId : String) (stream : RuntimeStreamOpen) :
    Except ProtocolFailure (RuntimeStreamOpen × RequestTables) := do
  s.validateStreamEvent env connectionId stream.toRuntimeStreamEvent
  let binding ← env.bindingOf stream.runtimeId
  demand (binding.supportedFeatures.contains "streaming") "RUNTIME_REQUIRED_FEATURE_UNAVAILABLE"
    "stream" "Runtime Binding does not declare streaming support"
  match s.streams.get? stream.streamId with
  | some existing =>
    demand (existing.streamOpenHash = stream.streamOpenHash) "RUNTIME_STREAM_SEQUENCE_CONFLICT"
      "stream" "Stream ID conflicts with existing Stream Open"
    return (existing, s.toRequestTables)
  | none => return (stream, { s.toRequestTables with
      streams := s.streams.set stream.streamId stream })

def recordRuntimeStreamChunk (connectionId : String) (chunk : RuntimeStreamChunk) :
    Except ProtocolFailure (RuntimeStreamChunk × RequestTables) := do
  let stream ← s.openStream env connectionId chunk.toRuntimeStreamEvent
  demand (!s.streamCloses.contains chunk.streamId) "RUNTIME_STREAM_INTERRUPTED" "stream"
    "Stream is already closed"
  match s.streamChunks.get? (chunk.streamId, chunk.chunkSequence) with
  | some existing =>
    demand (existing = chunk) "RUNTIME_STREAM_SEQUENCE_CONFLICT" "stream"
      "Stream Chunk conflicts with an existing sequence"
    return (existing, s.toRequestTables)
  | none =>
    demand (!stream.strictOrdered || chunk.chunkSequence == s.lastSequence chunk.streamId + 1)
      "RUNTIME_STREAM_SEQUENCE_INVALID" "stream"
      "Strictly ordered Stream Chunk sequence is invalid"
    return (chunk, { s.toRequestTables with
      streamChunks := s.streamChunks.set (chunk.streamId, chunk.chunkSequence) chunk })

/-- The sequences of a stream are those from one to its last. -/
def complete (streamId : String) (finalSequence : ℕ) : Bool :=
  ((s.chunksOf streamId).map (·.1)).all (fun n => 1 ≤ n && n ≤ finalSequence) &&
    (List.range finalSequence).all fun n => ((s.chunksOf streamId).map (·.1)).contains (n + 1)

def recordRuntimeStreamClose (connectionId : String) (close : RuntimeStreamClose) :
    Except ProtocolFailure (RuntimeStreamClose × RequestTables) := do
  let stream ← s.openStream env connectionId close.toRuntimeStreamEvent
  match s.streamCloses.get? close.streamId with
  | some existing =>
    demand (existing.streamCloseHash = close.streamCloseHash) "RUNTIME_STREAM_SEQUENCE_CONFLICT"
      "stream" "Stream Close conflicts with the accepted terminal event"
    return (existing, s.toRequestTables)
  | none =>
    demand (close.finalSequence = s.lastSequence close.streamId) "RUNTIME_STREAM_SEQUENCE_INVALID"
      "stream" "Stream Close final sequence does not match received chunks"
    demand (!stream.strictOrdered || s.complete close.streamId close.finalSequence)
      "RUNTIME_STREAM_SEQUENCE_INVALID" "stream" "Strictly ordered Stream has a sequence gap"
    demand (close.deliveredLength = ((s.chunksOf close.streamId).map (·.2.chunkLength)).sum)
      "RUNTIME_STREAM_HASH_MISMATCH" "stream"
      "Stream Close delivered length does not match chunks"
    demand (close.finalContentRoot = streamRoot close.streamId (s.chunksOf close.streamId))
      "RUNTIME_STREAM_HASH_MISMATCH" "stream" "Stream Close content root does not match chunks"
    return (close, { s.toRequestTables with
      streamCloses := s.streamCloses.set close.streamId close })

def recordRuntimeArtifact (connectionId : String) (artifact : RuntimeArtifactDeclare) :
    Except ProtocolFailure (RuntimeArtifactDeclare × RequestTables) := do
  env.authenticate "RUNTIME_IDENTITY_INVALID" "artifact" "Runtime Artifact authentication failed"
  let _ ← validateConnection env s.connections connectionId (artifact.claim true)
  match s.requests.get? artifact.requestId with
  | none => refuse "RUNTIME_REQUEST_NOT_FOUND" "artifact" "Runtime Artifact Request is unknown"
  | some request =>
    demand (request.request.sessionId = artifact.sessionId) "RUNTIME_REQUEST_NOT_FOUND" "artifact"
      "Runtime Artifact Request is unknown"
    demand request.admitted "RUNTIME_REQUEST_REJECTED" "artifact"
      "Runtime Artifact Request was not accepted"
    match s.artifacts.get? artifact.artifactId with
    | some existing =>
      demand (existing.declarationHash = artifact.declarationHash) "RUNTIME_ARTIFACT_INVALID"
        "artifact" "Artifact ID conflicts with an existing declaration"
      return (existing, s.toRequestTables)
    | none => return (artifact, { s.toRequestTables with
        artifacts := s.artifacts.set artifact.artifactId artifact })

/-! ## Terminal states and results -/

/-- The report is the final one of its request, in the terminal state. -/
def finalizes (report : RuntimeUsageReport) (requestId terminalState : String) : Bool :=
  report.requestId == requestId && report.finalReport && report.terminal &&
    report.requestState == some terminalState

def finalizedRecord (state : RuntimeRequestState) (terminalResultHash finalUsageReportId : String)
    (record : RuntimeRequestRecord) : RuntimeRequestRecord :=
  { record with
    requestState := state
    terminalResultHash := some terminalResultHash
    terminalFinalUsageReportId := some finalUsageReportId
    updatedAt := env.now.text }

def finalReportStored (requestId terminalState finalUsageReportId : String) : Bool :=
  (s.usageReports.get? finalUsageReportId).any (finalizes · requestId terminalState) &&
    ((requestReports s.toRequestTables requestId).argmax (·.usageSequence)).map
      (·.usageReportId) == some finalUsageReportId

def recordRequestTerminal (connectionId requestId terminalState terminalResultHash
    finalUsageReportId : String) :
    Except ProtocolFailure (RuntimeRequestRecord × RequestTables) := do
  match s.requests.get? requestId with
  | none => refuse "RUNTIME_REQUEST_NOT_FOUND" "result" "Unknown Runtime Request"
  | some record =>
    let _ ← validateConnection env s.connections connectionId {
      runtimeId := record.runtimeId
      runtimeGeneration := record.runtimeGeneration
      runtimeConfigurationHash := some record.request.runtimeConfigurationHash
      routeGeneration := some record.routeGeneration
      allowRecovering := true }
    match RuntimeRequestState.terminalOfText terminalState with
    | none =>
      refuse "RUNTIME_RESULT_FINALIZATION_FAILED" "result" "Request terminal state is invalid"
    | some state =>
      demand (s.finalReportStored requestId terminalState finalUsageReportId)
        "USAGE_FINAL_REPORT_REQUIRED" "result"
        "Terminal Request requires a matching accepted Final Usage Report"
      let updated := finalizedRecord env state terminalResultHash finalUsageReportId record
      return (updated, { s.toRequestTables with requests := s.requests.set requestId updated })

def concludes (result : RuntimeResult) (record : RuntimeRequestRecord) : Bool :=
  result.runtimeId == record.runtimeId && result.runtimeGeneration == record.runtimeGeneration &&
    result.runtimeConfigurationHash == record.request.runtimeConfigurationHash &&
    result.routeGeneration == record.routeGeneration &&
    result.endpointId == record.request.endpointId &&
    result.endpointConfigurationHash == record.request.endpointConfigurationHash &&
    result.sessionId == record.request.sessionId

/-- The artifact of a reference; a key that cannot be hashed raises. -/
def referencedArtifact (reference : Fields) :
    Except ProtocolFailure (Option RuntimeArtifactDeclare) :=
  match PyValue.get reference "artifact_id" with
  | .str artifactId => .ok (s.artifacts.get? artifactId)
  | .list _ => .error (.python ⟨.type, "unhashable type: 'list'"⟩)
  | .dict _ => .error (.python ⟨.type, "unhashable type: 'dict'"⟩)
  | _ => .ok none

def checkArtifact (result : RuntimeResult) (reference : Fields) :
    Except ProtocolFailure Unit := do
  let artifact ← s.referencedArtifact reference
  demand (artifact.any fun artifact => artifact.requestId == result.requestId &&
    artifact.sessionId == result.sessionId &&
    (reference.lookup "content_hash").all (· == .str artifact.contentHash))
    "RUNTIME_ARTIFACT_INVALID" "result"
    "Runtime Result references an unknown Artifact declaration"

def recordRuntimeResult (connectionId : String) (result : RuntimeResult) :
    Except ProtocolFailure (RuntimeResult × RequestTables) := do
  env.authenticate "RUNTIME_IDENTITY_INVALID" "result" "Runtime Result authentication failed"
  match s.requests.get? result.requestId with
  | none => refuse "RUNTIME_REQUEST_NOT_FOUND" "result" "Unknown Runtime Request"
  | some record =>
    demand (concludes result record) "RUNTIME_RESULT_FINALIZATION_FAILED" "result"
      "Runtime Result identity does not match accepted Request"
    match s.results.get? result.requestId with
    | some existing =>
      demand (existing.resultHash = result.resultHash) "RUNTIME_RESULT_FINALIZATION_FAILED"
        "result" "Runtime Result conflicts with the accepted terminal Result"
      return (existing, s.toRequestTables)
    | none =>
      demand (result.streamRoots.all fun root => s.streamCloses.values.any fun close =>
        close.requestId == result.requestId && close.finalContentRoot == root)
        "RUNTIME_STREAM_NOT_FOUND" "result"
        "Runtime Result references an unknown closed Stream root"
      result.artifactReferences.forM (s.checkArtifact result)
      let finalized ← s.recordRequestTerminal env connectionId result.requestId
        result.terminalState result.resultHash result.finalUsageReportId
      return (result, { finalized.2 with
        results := finalized.2.results.set result.requestId result })

end RuntimeProtocolStore

end AidnSpec.RuntimeProtocol
