import AidnSpec.RuntimeProtocol.Lifecycle

/-!
# Runs of the runtime protocol

A call of the service is about a runtime or about a request, and writes the tables of one kind. What
a call about a request may write is said once, as `Written`.
-/

namespace AidnSpec.RuntimeProtocol

open Base

/-- The calls that write the tables about requests. -/
inductive RequestCall where
  | register (connectionId : String) (request : RuntimeExecuteRequest)
  | accept (connectionId : String) (acceptance : RuntimeRequestAccept)
  | usage (connectionId : String) (report : RuntimeUsageReport)
  | cancel (connectionId : String) (cancellation : RuntimeCancelRequest)
  | cancelResult (connectionId : String) (result : RuntimeCancelResult)
  | streamOpen (connectionId : String) (stream : RuntimeStreamOpen)
  | streamChunk (connectionId : String) (chunk : RuntimeStreamChunk)
  | streamClose (connectionId : String) (close : RuntimeStreamClose)
  | artifact (connectionId : String) (artifact : RuntimeArtifactDeclare)
  | terminal (connectionId requestId terminalState terminalResultHash finalUsageReportId : String)
  | result (connectionId : String) (result : RuntimeResult)

/-- The calls that write the tables about runtimes, with the ids that they draw. -/
inductive LifecycleCall where
  | beginHandshake (hello : RuntimeHello) (handshakeId challenge : String)
  | completeHandshake (complete : RuntimeHelloComplete) (connectionId : String)
  | message (message : RuntimeMessage)
  | ready (connectionId : String) (ready : RuntimeReady)
  | health (connectionId : String) (health : RuntimeHealth)
  | capacity (connectionId : String) (capacity : RuntimeCapacity)
  | checkpoint (connectionId : String) (checkpoint : RuntimeStateCheckpoint)
  | drain (connectionId : String) (drain : RuntimeDrainRequest)
  | drainStatus (connectionId : String) (status : RuntimeDrainStatus)
  | drainComplete (connectionId : String) (complete : RuntimeDrainComplete)
  | shutdown (connectionId : String) (shutdown : RuntimeShutdown)
  | recoveryState (connectionId : String) (state : RuntimeRecoveryState) (allowRouteRebind : Bool)
  | recoveryPlan (connectionId : String) (state : RuntimeRecoveryState) (allowRouteRebind : Bool)
      (planId : String)
  | recoveryResult (connectionId : String) (result : RuntimeRecoveryResult)

/-- A call and what the collaborators of the service answer during it. -/
inductive ServiceCall where
  | lifecycle (env : ServiceEnvironment) (call : LifecycleCall)
  | request (env : ServiceEnvironment) (call : RequestCall)

def RequestCall.connectionId : RequestCall → String
  | .register id _ | .accept id _ | .usage id _ | .cancel id _ | .cancelResult id _
  | .streamOpen id _ | .streamChunk id _ | .streamClose id _ | .artifact id _
  | .terminal id _ _ _ _ | .result id _ => id

namespace RuntimeProtocolStore

section Step

variable [Runtime] (env : ServiceEnvironment) (s : RuntimeProtocolStore)

def requestTables : RequestCall → Except ProtocolFailure RequestTables
  | .register id request => (·.2) <$> s.registerExecuteRequest env id request
  | .accept id acceptance => (·.2) <$> s.recordRequestAccept env id acceptance
  | .usage id report => (·.2) <$> s.recordUsageReport env id report
  | .cancel id cancellation => (·.2) <$> s.requestRuntimeCancellation env id cancellation
  | .cancelResult id result => (·.2) <$> s.recordRuntimeCancelResult env id result
  | .streamOpen id stream => (·.2) <$> s.recordRuntimeStreamOpen env id stream
  | .streamChunk id chunk => (·.2) <$> s.recordRuntimeStreamChunk env id chunk
  | .streamClose id close => (·.2) <$> s.recordRuntimeStreamClose env id close
  | .artifact id artifact => (·.2) <$> s.recordRuntimeArtifact env id artifact
  | .terminal id requestId state resultHash reportId =>
    (·.2) <$> s.recordRequestTerminal env id requestId state resultHash reportId
  | .result id result => (·.2) <$> s.recordRuntimeResult env id result

/-- The tables about runtimes after a call that does not raise. -/
def lifecycleTables [Conversions] : LifecycleCall → Except ProtocolFailure LifecycleTables
  | .beginHandshake hello handshakeId challenge =>
    (·.2) <$> s.beginHandshake env hello handshakeId challenge
  | .completeHandshake complete id => (·.2) <$> s.completeHandshake env complete id
  | .message message => (·.2) <$> s.recordRuntimeMessage env message
  | .ready id ready => (·.2) <$> s.recordRuntimeReady env id ready
  | .health id health => (·.2) <$> s.recordRuntimeHealth env id health
  | .capacity id capacity => (·.2) <$> s.recordRuntimeCapacity env id capacity
  | .checkpoint id checkpoint => (·.2) <$> s.recordRuntimeStateCheckpoint env id checkpoint
  | .drain id drain => (·.2) <$> s.requestRuntimeDrain env id drain
  | .drainStatus id status => (·.2) <$> s.recordRuntimeDrainStatus env id status
  | .drainComplete id complete => (·.2) <$> s.recordRuntimeDrainComplete env id complete
  | .shutdown id shutdown => (·.2) <$> s.requestRuntimeShutdown env id shutdown
  | .recoveryState id state rebind => (·.2) <$> s.recordRuntimeRecoveryState env id state rebind
  | .recoveryPlan id state rebind planId =>
    (·.2) <$> s.buildRecoveryPlan env id state rebind planId
  | .recoveryResult id result => (·.2) <$> s.recordRecoveryResult env id result

def step [Conversions] (s : RuntimeProtocolStore) : ServiceCall → RuntimeProtocolStore
  | .lifecycle env call =>
    match s.lifecycleTables env call with
    | .ok tables => { s with toLifecycleTables := tables }
    | .error _ => s
  | .request env call =>
    match s.requestTables env call with
    | .ok tables => { s with toRequestTables := tables }
    | .error _ => s

@[simp] theorem toRequestTables_step_lifecycle [Conversions] (call : LifecycleCall) :
    (step s (.lifecycle env call)).toRequestTables = s.toRequestTables := by
  unfold step
  dsimp only
  split <;> rfl

@[simp] theorem toLifecycleTables_step_request [Conversions] (call : RequestCall) :
    (step s (.request env call)).toLifecycleTables = s.toLifecycleTables := by
  unfold step
  dsimp only
  split <;> rfl

end Step

variable {env : ServiceEnvironment} {s : RuntimeProtocolStore}

/-! ## What a call about a request writes -/

/-- The connection is one of a runtime and a generation. -/
def Carries (s : RuntimeProtocolStore) (connectionId runtimeId : String) (generation : ℕ) : Prop :=
  ∃ connection, s.connections.get? connectionId = some connection ∧
    connection.runtimeId = runtimeId ∧ connection.runtimeGeneration = generation

/-- A claim that is checked without an error. -/
def connected (env : ServiceEnvironment) (s : RuntimeProtocolStore) (connectionId : String)
    (claim : ConnectionClaim) : Bool :=
  (validateConnection env s.connections connectionId claim).isOk

variable {connectionId : String} {claim : ConnectionClaim} {record : RuntimeRequestRecord}
  {report : RuntimeUsageReport} {ack : RuntimeUsageAck} {event : RuntimeStreamEvent}
  {stream : RuntimeStreamOpen}

theorem connected_of_ok {connection : RuntimeConnection}
    (h : validateConnection env s.connections connectionId claim = .ok connection) :
    connected env s connectionId claim = true := by
  rw [connected, h]
  rfl

theorem carries_of_connected (h : connected env s connectionId claim = true) :
    s.Carries connectionId claim.runtimeId claim.runtimeGeneration := by
  unfold connected at h
  cases hconnection : validateConnection env s.connections connectionId claim with
  | error e => simp [hconnection, Except.isOk, Except.toBool] at h
  | ok connection => exact ⟨connection, of_validateConnection hconnection⟩

def acceptClaim (acceptance : RuntimeRequestAccept) : ConnectionClaim where
  runtimeId := acceptance.runtimeId
  runtimeGeneration := acceptance.runtimeGeneration
  routeGeneration := some acceptance.routeGeneration

/-- The checks of `record_request_accept` on the record of the request. -/
def acceptChecked (env : ServiceEnvironment) (s : RuntimeProtocolStore) (connectionId : String)
    (acceptance : RuntimeRequestAccept) (record : RuntimeRequestRecord) : Bool :=
  connected env s connectionId (acceptClaim acceptance) &&
    acceptance.sessionId == record.request.sessionId &&
    acceptance.acceptedCapabilityDefinitionHash == record.request.capabilityDefinitionHash

def usageClaim (report : RuntimeUsageReport) : ConnectionClaim where
  runtimeId := report.runtimeId
  runtimeGeneration := report.runtimeGeneration
  runtimeConfigurationHash := some report.runtimeConfigurationHash
  allowRecovering := true

/-- The checks of `record_usage_report` before the chain, on the record of the request. -/
def usageChecked (env : ServiceEnvironment) (s : RuntimeProtocolStore) (connectionId : String)
    (report : RuntimeUsageReport) (record : RuntimeRequestRecord) : Bool :=
  connected env s connectionId (usageClaim report) && env.authentic &&
    record.request.sessionId == report.sessionId && record.admitted &&
    describes report record.request &&
    (env.profile report.runtimeId).any (dimensionsRejected · [] report.dimensions == none)

/-- A report that the chain of its request takes next. -/
def nextReport (s : RuntimeProtocolStore) (report : RuntimeUsageReport) : Bool :=
  let chain := usageChain s.toRequestTables report.requestId
  !s.usageReports.contains report.usageReportId &&
    chain.all (·.usageSequence != report.usageSequence) &&
    report.usageSequence == chain.length + 1 &&
    report.previousUsageReportHash == chain.getLast?.map (·.reportHash)

/-- The checks on an event of a stream, on the record of the request. -/
def streamChecked (env : ServiceEnvironment) (s : RuntimeProtocolStore) (connectionId : String)
    (event : RuntimeStreamEvent) (record : RuntimeRequestRecord) : Bool :=
  env.authentic && connected env s connectionId (event.claim true) &&
    record.request.sessionId == event.sessionId && record.admitted

/-- The checks of `record_runtime_stream_open` on the record of the request. -/
def openChecked (env : ServiceEnvironment) (s : RuntimeProtocolStore) (connectionId : String)
    (stream : RuntimeStreamOpen) (record : RuntimeRequestRecord) : Bool :=
  streamChecked env s connectionId stream.toRuntimeStreamEvent record &&
    (env.binding stream.runtimeId).any (·.supportedFeatures.contains "streaming") &&
    !s.streams.contains stream.streamId

/-- The checks of `record_runtime_artifact` on the record of the request. -/
def artifactChecked (env : ServiceEnvironment) (s : RuntimeProtocolStore) (connectionId : String)
    (artifact : RuntimeArtifactDeclare) (record : RuntimeRequestRecord) : Bool :=
  env.authentic && connected env s connectionId (artifact.claim true) &&
    record.request.sessionId == artifact.sessionId && record.admitted &&
    !s.artifacts.contains artifact.artifactId

def recordClaim (record : RuntimeRequestRecord) : ConnectionClaim where
  runtimeId := record.runtimeId
  runtimeGeneration := record.runtimeGeneration
  runtimeConfigurationHash := some record.request.runtimeConfigurationHash
  routeGeneration := some record.routeGeneration
  allowRecovering := true

/-- The checks of `record_request_terminal` on the record of the request. -/
def terminalChecked (env : ServiceEnvironment) (s : RuntimeProtocolStore)
    (connectionId requestId terminalState finalUsageReportId : String)
    (record : RuntimeRequestRecord) : Bool :=
  connected env s connectionId (recordClaim record) &&
    (RuntimeRequestState.terminalOfText terminalState).isSome &&
    s.finalReportStored requestId terminalState finalUsageReportId

/-- The checks of `record_runtime_result` on the record of the request. -/
def resultChecked (env : ServiceEnvironment) (s : RuntimeProtocolStore) (connectionId : String)
    (result : RuntimeResult) (record : RuntimeRequestRecord) : Bool :=
  env.authentic && concludes result record && !s.results.contains result.requestId &&
    (result.streamRoots.all fun root => s.streamCloses.values.any fun close =>
      close.requestId == result.requestId && close.finalContentRoot == root) &&
    (result.artifactReferences.forM (s.checkArtifact result)).isOk &&
    terminalChecked env s connectionId result.requestId result.terminalState
      result.finalUsageReportId record

/-- What a call about a request writes when it does not leave the tables. -/
inductive Written (env : ServiceEnvironment) (s : RuntimeProtocolStore) :
    RequestCall → RequestTables → Prop where
  | submitted {connectionId : String} {request : RuntimeExecuteRequest}
      (hconnected : connected env s connectionId (request.claim false) = true)
      (hnew : s.requests.get? request.requestId = none) :
      Written env s (.register connectionId request) { s.toRequestTables with
        requests := s.requests.set request.requestId (submittedRecord env request) }
  | accepted {connectionId : String} {acceptance : RuntimeRequestAccept}
      {record : RuntimeRequestRecord}
      (hrecord : s.requests.get? acceptance.requestId = some record)
      (hchecked : acceptChecked env s connectionId acceptance record = true) :
      Written env s (.accept connectionId acceptance) { s.toRequestTables with
        requests := s.requests.set record.requestId (acceptedRecord env acceptance record) }
  | acknowledged {connectionId : String} {report : RuntimeUsageReport}
      {usageAcks : Dict String RuntimeUsageAck}
      {usageConflicts : Dict String RuntimeUsageConflict} :
      Written env s (.usage connectionId report) { s.toRequestTables with
        usageAcks := usageAcks
        usageConflicts := usageConflicts }
  | reported {connectionId : String} {report : RuntimeUsageReport}
      {record : RuntimeRequestRecord} {usageAcks : Dict String RuntimeUsageAck}
      (hrecord : s.requests.get? report.requestId = some record)
      (hchecked : usageChecked env s connectionId report record = true)
      (hnext : s.nextReport report = true) :
      Written env s (.usage connectionId report) { s.toRequestTables with
        usageAcks := usageAcks
        usageReports := s.usageReports.set report.usageReportId report }
  | cancelled {connectionId : String} {cancellation : RuntimeCancelRequest}
      {record : RuntimeRequestRecord}
      (hrecord : s.requests.get? cancellation.requestId = some record)
      (hconnected : connected env s connectionId (cancellation.claim false) = true)
      (hcancels : cancels cancellation record = true)
      (hterminal : record.requestState.terminal = false) :
      Written env s (.cancel connectionId cancellation) { s.toRequestTables with
        cancellations := s.cancellations.set cancellation.cancellationId {
          cancellation := cancellation
          requestStateBeforeCancel := record.requestState
          updatedAt := env.now.text }
        requests := s.requests.set cancellation.requestId (cancelRequested env record) }
  | answered {connectionId : String} {result : RuntimeCancelResult} :
      Written env s (.cancelResult connectionId result) { s.toRequestTables with
        cancellationResults := s.cancellationResults.set result.cancellationId result }
  | continued {connectionId : String} {result : RuntimeCancelResult}
      {cancellation : RuntimeCancellationRecord} {record : RuntimeRequestRecord}
      (hconnected : connected env s connectionId (result.claim true) = true)
      (hcancellation : s.cancellations.get? result.cancellationId = some cancellation)
      (hanswers : answers result cancellation.cancellation = true)
      (hrecord : s.requests.get? result.requestId = some record) :
      Written env s (.cancelResult connectionId result) { s.toRequestTables with
        cancellationResults := s.cancellationResults.set result.cancellationId result
        requests := s.requests.set result.requestId
          (RuntimeProtocolStore.continued env cancellation record) }
  | opened {connectionId : String} {stream : RuntimeStreamOpen} {record : RuntimeRequestRecord}
      (hrecord : s.requests.get? stream.requestId = some record)
      (hchecked : openChecked env s connectionId stream record = true) :
      Written env s (.streamOpen connectionId stream) { s.toRequestTables with
        streams := s.streams.set stream.streamId stream }
  | emitted {connectionId : String} {chunk : RuntimeStreamChunk} {stream : RuntimeStreamOpen}
      (hconnected : connected env s connectionId (chunk.claim true) = true)
      (hstream : s.streams.get? chunk.streamId = some stream)
      (hidentity : stream.toRuntimeIdentity = chunk.toRuntimeIdentity)
      (hrequest : stream.requestId = chunk.requestId)
      (hnew : s.streamChunks.get? (chunk.streamId, chunk.chunkSequence) = none) :
      Written env s (.streamChunk connectionId chunk) { s.toRequestTables with
        streamChunks := s.streamChunks.set (chunk.streamId, chunk.chunkSequence) chunk }
  | closed {connectionId : String} {close : RuntimeStreamClose} {stream : RuntimeStreamOpen}
      (hconnected : connected env s connectionId (close.claim true) = true)
      (hstream : s.streams.get? close.streamId = some stream)
      (hidentity : stream.toRuntimeIdentity = close.toRuntimeIdentity)
      (hrequest : stream.requestId = close.requestId)
      (hnew : s.streamCloses.get? close.streamId = none) :
      Written env s (.streamClose connectionId close) { s.toRequestTables with
        streamCloses := s.streamCloses.set close.streamId close }
  | declared {connectionId : String} {artifact : RuntimeArtifactDeclare}
      {record : RuntimeRequestRecord}
      (hrecord : s.requests.get? artifact.requestId = some record)
      (hchecked : artifactChecked env s connectionId artifact record = true) :
      Written env s (.artifact connectionId artifact) { s.toRequestTables with
        artifacts := s.artifacts.set artifact.artifactId artifact }
  | finalized {connectionId requestId terminalState resultHash reportId : String}
      {record : RuntimeRequestRecord} {state : RuntimeRequestState}
      (hrecord : s.requests.get? requestId = some record)
      (hchecked : terminalChecked env s connectionId requestId terminalState reportId record = true)
      (hstate : RuntimeRequestState.terminalOfText terminalState = some state) :
      Written env s (.terminal connectionId requestId terminalState resultHash reportId)
        { s.toRequestTables with
          requests := s.requests.set requestId
            (finalizedRecord env state resultHash reportId record) }
  | concluded {connectionId : String} {result : RuntimeResult} {record : RuntimeRequestRecord}
      {state : RuntimeRequestState}
      (hrecord : s.requests.get? result.requestId = some record)
      (hchecked : resultChecked env s connectionId result record = true)
      (hstate : RuntimeRequestState.terminalOfText result.terminalState = some state) :
      Written env s (.result connectionId result) { s.toRequestTables with
        requests := s.requests.set result.requestId
          (finalizedRecord env state result.resultHash result.finalUsageReportId record)
        results := s.results.set result.requestId result }

/-! ## Each call writes what it may -/

/-- The call leaves the tables or writes what it may. -/
def Writes (env : ServiceEnvironment) (s : RuntimeProtocolStore) (call : RequestCall)
    (tables : RequestTables) : Prop :=
  tables = s.toRequestTables ∨ Written env s call tables

variable {connectionId : String}

theorem of_bindingOf {runtimeId : String} {binding : RuntimeBinding}
    (h : env.bindingOf runtimeId = .ok binding) : env.binding runtimeId = some binding := by
  unfold ServiceEnvironment.bindingOf at h
  cases hbinding : env.binding runtimeId with
  | none => simp [hbinding] at h
  | some found =>
    rw [hbinding] at h
    cases h
    rfl

theorem writes_register [Runtime] {request : RuntimeExecuteRequest} :
    Ensures (s.registerExecuteRequest env connectionId request)
      (Writes env s (.register connectionId request) ·.2) := by
  unfold registerExecuteRequest
  refine ensures_bind fun connection hconnection => ensures_then fun _ => ensures_then fun _ =>
    ensures_then fun _ => ensures_then fun _ => ensures_then fun _ => ensures_then fun _ =>
    ensures_then fun _ => ensures_then fun _ => ensures_then fun _ => ensures_then fun _ =>
    ensures_then fun _ => ensures_then fun _ => ?_
  split
  · exact ensures_then fun _ => ensures_pure (.inl rfl)
  · next hnew => exact ensures_pure (.inr (.submitted (connected_of_ok hconnection) hnew))

theorem writes_accept {acceptance : RuntimeRequestAccept} :
    Ensures (s.recordRequestAccept env connectionId acceptance)
      (Writes env s (.accept connectionId acceptance) ·.2) := by
  unfold recordRequestAccept
  refine ensures_bind fun connection hconnection => ?_
  split
  · exact ensures_refuse
  · next record hrecord =>
    refine ensures_demand fun hsession => ensures_demand fun hcapability =>
      ensures_pure (.inr (.accepted hrecord ?_))
    rw [decide_eq_true_eq] at hsession hcapability
    simp [acceptChecked, acceptClaim, connected_of_ok hconnection, hsession, hcapability]

/-- A rejection leaves all tables but the acknowledgments. -/
def Rejected (s : RuntimeProtocolStore) (r : RuntimeUsageAck × RequestTables) : Prop :=
  r.1.status = .rejected ∧ ∃ usageAcks, r.2 = { s.toRequestTables with usageAcks := usageAcks }

/-- The decision on the chain takes the next report of it, and leaves the reports otherwise. -/
theorem admitUsageReport_cases (env : ServiceEnvironment) (s : RuntimeProtocolStore)
    (report : RuntimeUsageReport) :
    (s.nextReport report = true ∧ (s.admitUsageReport env report).1.status = .accepted ∧
      ∃ usageAcks, (s.admitUsageReport env report).2 = { s.toRequestTables with
        usageAcks := usageAcks
        usageReports := s.usageReports.set report.usageReportId report }) ∨
    (s.nextReport report = false ∧ (s.admitUsageReport env report).1.status ≠ .accepted ∧
      ∃ usageAcks usageConflicts, (s.admitUsageReport env report).2 = { s.toRequestTables with
        usageAcks := usageAcks
        usageConflicts := usageConflicts }) := by
  unfold admitUsageReport nextReport
  dsimp only
  cases hexisting : s.usageReports.get? report.usageReportId with
  | some existing =>
    right
    dsimp only
    split_ifs
    · exact ⟨by simp [Dict.contains, hexisting], by simp [usageAck], _, _, rfl⟩
    · exact ⟨by simp [Dict.contains, hexisting], by simp [usageAck], _, _, rfl⟩
  | none =>
    dsimp only
    cases hsame : (usageChain s.toRequestTables report.requestId).find?
        (·.usageSequence == report.usageSequence) with
    | some same =>
      right
      refine ⟨?_, by simp [usageAck], _, _, rfl⟩
      have hmem := List.mem_of_find?_eq_some hsame
      have hsequence := List.find?_some hsame
      simp only [Bool.and_eq_false_iff, List.all_eq_false]
      exact .inl (.inl (.inr ⟨same, hmem, by simpa using hsequence⟩))
    | none =>
      have hunused := List.find?_eq_none.mp hsame
      dsimp only
      split_ifs with hsequence hprevious
      · exact .inr ⟨by simp [hsequence], by simp [usageAck], _, _, rfl⟩
      · exact .inr ⟨by simp [hprevious], by simp [usageAck], _, _, rfl⟩
      · left
        rw [not_not] at hsequence hprevious
        refine ⟨?_, rfl, _, rfl⟩
        simp only [Dict.contains, hexisting, Option.isSome_none, Bool.not_false, Bool.true_and,
          Bool.and_eq_true, List.all_eq_true, bne_iff_ne, ne_eq, beq_iff_eq]
        refine ⟨⟨fun item hitem => ?_, hsequence⟩, hprevious⟩
        simpa using hunused item hitem

/-- Before the chain, a report is rejected, or it passed the checks on its request. -/
theorem recordUsageReport_cases :
    Ensures (s.recordUsageReport env connectionId report) fun r => Rejected s r ∨
      ∃ record, s.requests.get? report.requestId = some record ∧
        usageChecked env s connectionId report record = true ∧
        r = s.admitUsageReport env report := by
  unfold recordUsageReport
  refine ensures_bind fun connection hconnection => ensures_demand fun hauthentic => ?_
  split
  · exact ensures_refuse
  · next record hrecord =>
    refine ensures_demand fun hsession => ?_
    split_ifs with hadmitted hdescribes
    · exact ensures_pure (.inl ⟨rfl, _, rfl⟩)
    · exact ensures_pure (.inl ⟨rfl, _, rfl⟩)
    · refine ensures_bind fun profile hprofile => ?_
      split
      · exact ensures_pure (.inl ⟨rfl, _, rfl⟩)
      · next hrejected =>
        refine ensures_pure (.inr ⟨record, hrecord, ?_, rfl⟩)
        have hfound : env.profile report.runtimeId = some profile := by
          unfold ServiceEnvironment.usageProfile at hprofile
          cases hp : env.profile report.runtimeId with
          | none => simp [hp] at hprofile
          | some found =>
            rw [hp] at hprofile
            cases hprofile
            rfl
        rw [decide_eq_true_eq] at hsession
        simp only [Bool.not_eq_false] at hadmitted hdescribes
        simp [usageChecked, usageClaim, connected_of_ok hconnection, hauthentic, hsession,
          hadmitted, hdescribes, hfound, hrejected]

theorem writes_usage : Ensures (s.recordUsageReport env connectionId report)
    (Writes env s (.usage connectionId report) ·.2) := by
  intro r h
  right
  rcases recordUsageReport_cases r h with ⟨-, usageAcks, htables⟩ | ⟨record, hrecord, hchecked, rfl⟩
  · rw [htables]
    exact .acknowledged
  · rcases admitUsageReport_cases env s report with
      ⟨hnext, -, usageAcks, heq⟩ | ⟨-, -, usageAcks, usageConflicts, heq⟩
    · rw [heq]
      exact .reported hrecord hchecked hnext
    · rw [heq]
      exact .acknowledged

theorem writes_cancel [Runtime] {cancellation : RuntimeCancelRequest} :
    Ensures (s.requestRuntimeCancellation env connectionId cancellation)
      (Writes env s (.cancel connectionId cancellation) ·.2) := by
  unfold requestRuntimeCancellation
  refine ensures_bind fun connection hconnection => ?_
  split
  · exact ensures_refuse
  · next record hrecord =>
    refine ensures_demand fun hcancels => ensures_then fun _ => ensures_then fun _ =>
      ensures_then fun _ => ensures_then fun _ => ensures_demand fun hterminal => ?_
    rw [Bool.not_eq_true'] at hterminal
    split
    · exact ensures_then fun _ => ensures_pure (.inl rfl)
    · exact ensures_then fun _ => ensures_pure
        (.inr (.cancelled hrecord (connected_of_ok hconnection) hcancels hterminal))

theorem writes_cancelResult {result : RuntimeCancelResult} :
    Ensures (s.recordRuntimeCancelResult env connectionId result)
      (Writes env s (.cancelResult connectionId result) ·.2) := by
  unfold recordRuntimeCancelResult
  refine ensures_then fun _ => ?_
  split
  · exact ensures_refuse
  · next cancellation hcancellation =>
    refine ensures_bind fun connection hconnection => ensures_demand fun hanswers => ?_
    split
    · exact ensures_then fun _ => ensures_pure (.inl rfl)
    · dsimp only
      split_ifs
      · split
        · exact ensures_error
        · next record hrecord =>
          exact ensures_pure (.inr
            (.continued (connected_of_ok hconnection) hcancellation hanswers hrecord))
      · exact ensures_pure (.inr .answered)

theorem validateStreamEvent_checks : Ensures (s.validateStreamEvent env connectionId event) fun _ =>
    connected env s connectionId (event.claim true) = true ∧
      ∃ record, s.requests.get? event.requestId = some record ∧
        streamChecked env s connectionId event record = true := by
  unfold validateStreamEvent
  refine ensures_demand fun hauthentic => ensures_bind fun connection hconnection => ?_
  split
  · exact ensures_refuse
  · next record hrecord =>
    refine ensures_demand fun hsession _ hadmitted =>
      ⟨connected_of_ok hconnection, record, hrecord, ?_⟩
    rw [decide_eq_true_eq] at hsession
    simp [streamChecked, hauthentic, connected_of_ok hconnection, hsession,
      demand_eq_ok.mp hadmitted]

theorem openStream_checks : Ensures (s.openStream env connectionId event) fun stream =>
    connected env s connectionId (event.claim true) = true ∧
      s.streams.get? event.streamId = some stream ∧
      stream.toRuntimeIdentity = event.toRuntimeIdentity ∧
      stream.requestId = event.requestId := by
  unfold openStream
  refine ensures_bind fun _ hevent => ?_
  split
  · exact ensures_refuse
  · next stream hstream =>
    refine ensures_demand fun hsame => ensures_pure ?_
    simp only [Bool.and_eq_true, decide_eq_true_eq] at hsame
    exact ⟨(validateStreamEvent_checks _ hevent).1, hstream, hsame.1.1, hsame.2⟩

theorem writes_streamOpen : Ensures (s.recordRuntimeStreamOpen env connectionId stream)
    (Writes env s (.streamOpen connectionId stream) ·.2) := by
  unfold recordRuntimeStreamOpen
  refine ensures_bind fun _ hevent => ensures_bind fun binding hbinding =>
    ensures_demand fun hstreaming => ?_
  obtain ⟨-, record, hrecord, hchecked⟩ := validateStreamEvent_checks _ hevent
  split
  · exact ensures_then fun _ => ensures_pure (.inl rfl)
  · next hnew =>
    refine ensures_pure (.inr (.opened hrecord ?_))
    simp only [openChecked, hchecked, of_bindingOf hbinding, Option.any_some, hstreaming,
      Dict.contains, hnew, Option.isSome_none, Bool.not_false, Bool.and_self]

theorem writes_streamChunk {chunk : RuntimeStreamChunk} :
    Ensures (s.recordRuntimeStreamChunk env connectionId chunk)
      (Writes env s (.streamChunk connectionId chunk) ·.2) := by
  unfold recordRuntimeStreamChunk
  refine ensures_bind fun stream hopen => ensures_then fun _ => ?_
  obtain ⟨hconnected, hstream, hidentity, hrequest⟩ := openStream_checks _ hopen
  split
  · exact ensures_then fun _ => ensures_pure (.inl rfl)
  · next hnew =>
    exact ensures_then fun _ => ensures_pure
      (.inr (.emitted hconnected hstream hidentity hrequest hnew))

theorem writes_streamClose {close : RuntimeStreamClose} :
    Ensures (s.recordRuntimeStreamClose env connectionId close)
      (Writes env s (.streamClose connectionId close) ·.2) := by
  unfold recordRuntimeStreamClose
  refine ensures_bind fun stream hopen => ?_
  obtain ⟨hconnected, hstream, hidentity, hrequest⟩ := openStream_checks _ hopen
  split
  · exact ensures_then fun _ => ensures_pure (.inl rfl)
  · next hnew =>
    exact ensures_then fun _ => ensures_then fun _ => ensures_then fun _ => ensures_then fun _ =>
      ensures_pure (.inr (.closed hconnected hstream hidentity hrequest hnew))

theorem writes_artifact {artifact : RuntimeArtifactDeclare} :
    Ensures (s.recordRuntimeArtifact env connectionId artifact)
      (Writes env s (.artifact connectionId artifact) ·.2) := by
  unfold recordRuntimeArtifact
  refine ensures_demand fun hauthentic => ensures_bind fun connection hconnection => ?_
  split
  · exact ensures_refuse
  · next record hrecord =>
    refine ensures_demand fun hsession => ensures_demand fun hadmitted => ?_
    rw [decide_eq_true_eq] at hsession
    split
    · exact ensures_then fun _ => ensures_pure (.inl rfl)
    · next hnew =>
      refine ensures_pure (.inr (.declared hrecord ?_))
      simp [artifactChecked, hauthentic, connected_of_ok hconnection, hsession, hadmitted,
        Dict.contains, hnew]

theorem recordRequestTerminal_finalizes {requestId terminalState resultHash reportId : String} :
    Ensures (s.recordRequestTerminal env connectionId requestId terminalState resultHash reportId)
      fun r => ∃ record state, s.requests.get? requestId = some record ∧
        terminalChecked env s connectionId requestId terminalState reportId record = true ∧
        RuntimeRequestState.terminalOfText terminalState = some state ∧
        r.2 = { s.toRequestTables with
          requests := s.requests.set requestId
            (finalizedRecord env state resultHash reportId record) } := by
  unfold recordRequestTerminal
  split
  · exact ensures_refuse
  · next record hrecord =>
    refine ensures_bind fun connection hconnection => ?_
    split
    · exact ensures_refuse
    · next state hstate =>
      refine ensures_demand fun hreport => ensures_pure ⟨record, state, hrecord, ?_, hstate, rfl⟩
      simp [terminalChecked, recordClaim, connected_of_ok hconnection, hstate, hreport]

theorem writes_result {result : RuntimeResult} :
    Ensures (s.recordRuntimeResult env connectionId result)
      (Writes env s (.result connectionId result) ·.2) := by
  unfold recordRuntimeResult
  refine ensures_demand fun hauthentic => ?_
  split
  · exact ensures_refuse
  · next record hrecord =>
    refine ensures_demand fun hconcludes => ?_
    split
    · exact ensures_then fun _ => ensures_pure (.inl rfl)
    · next hnew =>
      refine ensures_demand fun hstreams => ensures_bind fun _ hartifacts =>
        ensures_bind fun finalized hfinalized => ensures_pure ?_
      obtain ⟨found, state, hfound, hchecked, hstate, heq⟩ :=
        recordRequestTerminal_finalizes _ hfinalized
      rw [hrecord] at hfound
      cases hfound
      have hknown : (result.artifactReferences.forM (s.checkArtifact result)).isOk = true := by
        rw [hartifacts]
        rfl
      rw [heq]
      refine .inr (.concluded hrecord ?_ hstate)
      simp only [resultChecked, hauthentic, hconcludes, Dict.contains, hnew, hstreams, hknown,
        hchecked, Option.isSome_none, Bool.not_false, Bool.and_self]

/-- A call about a request leaves the tables or writes what it may. -/
theorem request_cases [Runtime] {call : RequestCall} :
    Ensures (s.requestTables env call) (Writes env s call) := by
  cases call with
  | register id request => exact writes_register.map fun _ h => h
  | accept id acceptance => exact writes_accept.map fun _ h => h
  | usage id report => exact writes_usage.map fun _ h => h
  | cancel id cancellation => exact writes_cancel.map fun _ h => h
  | cancelResult id result => exact writes_cancelResult.map fun _ h => h
  | streamOpen id stream => exact writes_streamOpen.map fun _ h => h
  | streamChunk id chunk => exact writes_streamChunk.map fun _ h => h
  | streamClose id close => exact writes_streamClose.map fun _ h => h
  | artifact id artifact => exact writes_artifact.map fun _ h => h
  | terminal id requestId state resultHash reportId =>
    refine recordRequestTerminal_finalizes.map ?_
    rintro _ ⟨record, state, hrecord, hchecked, hstate, heq⟩
    rw [heq]
    exact .inr (.finalized hrecord hchecked hstate)
  | result id result => exact writes_result.map fun _ h => h

/-- A call leaves the tables about requests or is about a request and writes what it may. -/
theorem step_cases [Runtime] [Conversions] (call : ServiceCall) :
    (step s call).toRequestTables = s.toRequestTables ∨
      ∃ env request, call = .request env request ∧
        Written env s request (step s call).toRequestTables := by
  cases call with
  | lifecycle env call => exact .inl (toRequestTables_step_lifecycle env s call)
  | request env call =>
    unfold step
    dsimp only
    cases htables : s.requestTables env call with
    | error e => exact .inl rfl
    | ok tables =>
      rcases request_cases _ htables with rfl | hwritten
      · exact .inl rfl
      · exact .inr ⟨env, call, rfl, hwritten⟩

end RuntimeProtocolStore

end AidnSpec.RuntimeProtocol
