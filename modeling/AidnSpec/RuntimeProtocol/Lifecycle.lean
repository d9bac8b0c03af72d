import AidnSpec.RuntimeProtocol.Requests

/-!
# Calls about runtimes

The calls of `runtime_protocol/service.py` that write the tables about runtimes: the handshake,
readiness, health and capacity, checkpoints, drain and shutdown, and recovery. They read the tables
about requests and leave them. Ids that the service draws come with the call.
-/

namespace AidnSpec.RuntimeProtocol

open Base
open Dispatcher (DispatcherRoute)

/-! ## Handshake -/

def versionKey (version : String) : Option (Int × Int) :=
  match version.toList.span (· != '.') with
  | (major, '.' :: minor) => do
    let major ← intOfText (String.ofList major)
    let minor ← intOfText (String.ofList minor)
    return (major, minor)
  | _ => none

/-- `<` on the keys of two versions. -/
def versionBefore (a b : String) : Bool :=
  let keyOf (version : String) : Int × Int := (versionKey version).getD (0, 0)
  (keyOf a).1 < (keyOf b).1 || (keyOf a).1 == (keyOf b).1 && (keyOf a).2 < (keyOf b).2

/-- `_select_protocol_version`; which of equal versions is taken, is not determined there. -/
def selectProtocolVersion (supported versions : List String) : Except ProtocolFailure String :=
  let shared := versions.filter supported.contains
  match shared.find? (versionKey · == none) with
  | some version => refuse "RUNTIME_PROTOCOL_VERSION_UNSUPPORTED" "version"
      ("Invalid Runtime Protocol version: " ++ version)
  | none =>
    match shared with
    | [] => refuse "RUNTIME_PROTOCOL_VERSION_UNSUPPORTED" "version"
        "No mutually supported Runtime Protocol version"
    | first :: rest =>
      .ok (rest.foldl (fun best version => if versionBefore best version then version else best)
        first)

def validateHelloBinding (hello : RuntimeHello) (binding : RuntimeBinding)
    (route : DispatcherRoute) : Except ProtocolFailure Unit := do
  demand (binding.operationalState = "READY") "RUNTIME_NOT_READY" "configuration"
    "Runtime Binding is not ready"
  demand (hello.runtimeGeneration = binding.runtimeGeneration) "RUNTIME_GENERATION_MISMATCH"
    "configuration" "Runtime Generation mismatch"
  demand (some hello.runtimeConfigurationHash = binding.runtimeConfigurationHash)
    "RUNTIME_CONFIGURATION_MISMATCH" "configuration" "Runtime Configuration Hash mismatch"
  demand (hello.capabilityId = binding.capabilityId) "RUNTIME_CAPABILITY_MISMATCH" "capability"
    "Capability ID mismatch"
  demand (hello.supportedCapabilityVersions.contains binding.capabilityVersion)
    "RUNTIME_CAPABILITY_MISMATCH" "capability" "Capability version mismatch"
  demand (hello.supportedDefinitionHashes.contains binding.capabilityDefinitionHash)
    "RUNTIME_CAPABILITY_DEFINITION_MISMATCH" "capability" "Capability Definition Hash mismatch"
  demand (binding.adapterId.all fun id => hello.adapterId == some id) "RUNTIME_ADAPTER_MISMATCH"
    "identity" "Runtime Adapter ID mismatch"
  demand (binding.adapterVersion.all fun version => hello.adapterVersion == some version)
    "RUNTIME_ADAPTER_MISMATCH" "identity" "Runtime Adapter version mismatch"
  demand (route.runtimeGeneration = some binding.runtimeGeneration) "RUNTIME_GENERATION_MISMATCH"
    "route" "Runtime route lineage mismatch"
  demand (route.runtimeBindingHash = some binding.bindingHash) "RUNTIME_CONFIGURATION_MISMATCH"
    "route" "Runtime route Binding Hash mismatch"
  demand (route.allowedChannelClasses.contains .runtime &&
    route.allowedMessageTypes.contains "RUNTIME_EXECUTE") "RUNTIME_ROUTE_SCOPE_DENIED" "route"
    "Runtime route does not authorize RFC-0054 execution"

namespace RuntimeProtocolStore

variable (env : ServiceEnvironment) (s : RuntimeProtocolStore)

/-- `begin_handshake`, with the id and the challenge that it draws. -/
def beginHandshake (hello : RuntimeHello) (handshakeId challenge : String) :
    Except ProtocolFailure (HypervisorRuntimeHello × LifecycleTables) := do
  env.authenticate "RUNTIME_IDENTITY_INVALID" "identity" "Runtime Hello authentication failed"
  let binding ← env.bindingOf hello.runtimeId
  let route ← env.routeOf hello.runtimeId
  validateHelloBinding hello binding route
  let version ← selectProtocolVersion env.supportedProtocolVersions
    hello.supportedRuntimeProtocolVersions
  let response : HypervisorRuntimeHello := {
    handshakeId := handshakeId
    runtimeId := binding.runtimeId
    acceptedRuntimeGeneration := binding.runtimeGeneration
    acceptedRuntimeConfigurationHash := hello.runtimeConfigurationHash
    runtimeBindingHash := binding.bindingHash
    selectedRuntimeProtocolVersion := version
    routeGeneration := route.routeGeneration
    runtimeChallengeResponse := challengeResponse hello.runtimeChallenge
    hypervisorChallenge := challenge
    reconcile := hello.recoveryStateAvailable ||
      (s.runtimeSequences.get? hello.runtimeId).getD 0 != hello.lastRuntimeEventSequence }
  return (response, { s.toLifecycleTables with
    pendingHandshakes := s.pendingHandshakes.set handshakeId (hello, response) })

def closed (runtimeId : String) (connection : RuntimeConnection) : RuntimeConnection :=
  if connection.runtimeId = runtimeId ∧ connection.connectionState ≠ .closed ∧
      connection.connectionState ≠ .rejected then
    { connection with connectionState := .closed }
  else connection

/-- `complete_handshake`, with the id that it draws. -/
def completeHandshake (complete : RuntimeHelloComplete) (connectionId : String) :
    Except ProtocolFailure (RuntimeConnection × LifecycleTables) :=
  match s.pendingHandshakes.get? complete.handshakeId with
  | none => refuse "RUNTIME_HANDSHAKE_INVALID" "handshake" "Unknown or expired Runtime handshake"
  | some (hello, response) => do
    env.authenticate "RUNTIME_IDENTITY_INVALID" "identity"
      "Runtime Hello completion authentication failed"
    demand (complete.runtimeId = hello.runtimeId) "RUNTIME_IDENTITY_INVALID" "identity"
      "Runtime ID changed during handshake"
    demand (complete.runtimeGeneration = response.acceptedRuntimeGeneration)
      "RUNTIME_GENERATION_MISMATCH" "configuration" "Runtime Generation changed during handshake"
    demand (complete.routeGeneration = response.routeGeneration)
      "RUNTIME_ROUTE_GENERATION_MISMATCH" "route" "Route Generation changed during handshake"
    demand (complete.hypervisorChallengeResponse = challengeResponse response.hypervisorChallenge)
      "RUNTIME_HANDSHAKE_INVALID" "handshake" "Hypervisor challenge response is invalid"
    let route ← env.routeOf complete.runtimeId
    let binding ← env.bindingOf complete.runtimeId
    validateHelloBinding hello binding route
    demand (route.routeGeneration = complete.routeGeneration) "RUNTIME_ROUTE_GENERATION_MISMATCH"
      "route" "Runtime route changed before handshake completion"
    let connection : RuntimeConnection := {
      runtimeConnectionId := connectionId
      runtimeId := complete.runtimeId
      runtimeGeneration := complete.runtimeGeneration
      runtimeConfigurationHash := response.acceptedRuntimeConfigurationHash
      runtimeBindingHash := response.runtimeBindingHash
      instanceId := hello.instanceId
      routeGeneration := complete.routeGeneration
      selectedRuntimeProtocolVersion := response.selectedRuntimeProtocolVersion
      connectionState := if response.reconcile then .recovering else .ready
      expiresAt := env.now.micros + 1000000 * env.connectionLifetimeSeconds }
    return (connection, { s.toLifecycleTables with
      connections :=
        (s.connections.mapValues (closed complete.runtimeId)).set connectionId connection
      pendingHandshakes := s.pendingHandshakes.erase complete.handshakeId })

/-! ## Readiness, health and capacity -/

def recordRuntimeMessage [Runtime] (message : RuntimeMessage) :
    Except ProtocolFailure (RuntimeMessage × LifecycleTables) := do
  let _ ← validateConnection env s.connections message.runtimeConnectionId (message.claim true)
  let expired ← env.passed message.expiration
  demand (!expired) "RUNTIME_MESSAGE_EXPIRED" "message" "Runtime message expired"
  match s.messages.get? message.runtimeMessageId with
  | some existing =>
    demand (existing.payloadHash = message.payloadHash) "RUNTIME_MESSAGE_REPLAYED" "replay"
      "Runtime Message ID conflicts with existing semantic content"
    return (existing, s.toLifecycleTables)
  | none =>
    let expected := (s.runtimeSequences.get? message.runtimeId).getD 0 + 1
    demand (message.runtimeSequence = expected) "RUNTIME_SEQUENCE_INVALID" "sequence"
      ("Expected Runtime sequence " ++ toString expected)
    return (message, { s.toLifecycleTables with
      messages := s.messages.set message.runtimeMessageId message
      runtimeSequences := s.runtimeSequences.set message.runtimeId message.runtimeSequence })

def connectionMoved (connectionId : String) (connection : RuntimeConnection)
    (state : RuntimeConnectionState) : Dict String RuntimeConnection :=
  s.connections.set connectionId { connection with connectionState := state }

def recordRuntimeReady (connectionId : String) (ready : RuntimeReady) :
    Except ProtocolFailure (RuntimeReady × LifecycleTables) := do
  env.authenticate "RUNTIME_IDENTITY_INVALID" "ready" "Runtime Ready authentication failed"
  let connection ← validateConnection env s.connections connectionId (ready.claim true)
  let binding ← env.bindingOf ready.runtimeId
  demand (ready.capabilityDefinitionHash = binding.capabilityDefinitionHash)
    "RUNTIME_CAPABILITY_DEFINITION_MISMATCH" "ready"
    "Runtime Ready Capability Definition mismatch"
  demand (ready.usageProfileHash.isNone ||
    ready.usageProfileHash == binding.usageReportingProfileHash) "USAGE_PROFILE_MISMATCH" "ready"
    "Runtime Ready Usage Profile mismatch"
  demand (ready.operationalState = "READY" && ready.readinessDimensions.all id)
    "RUNTIME_NOT_READY" "ready"
    "Runtime Ready requires operational READY and all readiness dimensions"
  if s.readyStates.get? ready.runtimeId = some ready then return (ready, s.toLifecycleTables)
  else return (ready, { s.toLifecycleTables with
    readyStates := s.readyStates.set ready.runtimeId ready
    connections := if connection.connectionState = .ready then s.connections
      else s.connectionMoved connectionId connection .ready })

def recordRuntimeHealth (connectionId : String) (health : RuntimeHealth) :
    Except ProtocolFailure (RuntimeHealth × LifecycleTables) := do
  env.authenticate "RUNTIME_IDENTITY_INVALID" "health" "Runtime Health authentication failed"
  let _ ← validateConnection env s.connections connectionId (health.claim true)
  let stored := (health, { s.toLifecycleTables with
    healthRecords := s.healthRecords.set health.runtimeId health })
  match s.healthRecords.get? health.runtimeId with
  | none => return stored
  | some existing =>
    demand (existing.healthSequence ≤ health.healthSequence) "RUNTIME_HEALTH_SEQUENCE_INVALID"
      "health" "Runtime Health sequence is stale"
    if health.healthSequence = existing.healthSequence then
      demand (health = existing) "RUNTIME_HEALTH_CONFLICT" "health"
        "Runtime Health sequence conflicts with existing record"
      return (existing, s.toLifecycleTables)
    else return stored

def recordRuntimeCapacity (connectionId : String) (capacity : RuntimeCapacity) :
    Except ProtocolFailure (RuntimeCapacity × LifecycleTables) := do
  env.authenticate "RUNTIME_IDENTITY_INVALID" "capacity" "Runtime Capacity authentication failed"
  let _ ← validateConnection env s.connections connectionId (capacity.claim true)
  let stored := (capacity, { s.toLifecycleTables with
    capacityRecords := s.capacityRecords.set capacity.runtimeId capacity })
  match s.capacityRecords.get? capacity.runtimeId with
  | none => return stored
  | some existing =>
    demand (existing.capacitySequence ≤ capacity.capacitySequence)
      "RUNTIME_CAPACITY_SEQUENCE_INVALID" "capacity" "Runtime Capacity sequence is stale"
    if capacity.capacitySequence = existing.capacitySequence then
      demand (capacity = existing) "RUNTIME_CAPACITY_CONFLICT" "capacity"
        "Runtime Capacity sequence conflicts with existing record"
      return (existing, s.toLifecycleTables)
    else return stored

def checkpointKey (checkpoint : RuntimeStateCheckpoint) : String :=
  checkpoint.runtimeId ++ ":" ++ checkpoint.sessionId ++ ":" ++
    toString checkpoint.stateGeneration ++ ":" ++ toString checkpoint.checkpointSequence

def nextCheckpoint (checkpoint : RuntimeStateCheckpoint) : ℕ :=
  ((s.stateCheckpoints.values.filter fun item => item.runtimeId == checkpoint.runtimeId &&
    item.sessionId == checkpoint.sessionId &&
    item.stateGeneration == checkpoint.stateGeneration).map (·.checkpointSequence)).foldl max 0 + 1

def recordRuntimeStateCheckpoint (connectionId : String) (checkpoint : RuntimeStateCheckpoint) :
    Except ProtocolFailure (RuntimeStateCheckpoint × LifecycleTables) := do
  env.authenticate "RUNTIME_IDENTITY_INVALID" "state"
    "Runtime State Checkpoint authentication failed"
  let _ ← validateConnection env s.connections connectionId (checkpoint.claim true)
  demand (s.requests.values.any fun record => record.runtimeId == checkpoint.runtimeId &&
    record.request.sessionId == checkpoint.sessionId && record.admitted)
    "RUNTIME_STATE_NOT_FOUND" "state" "State Checkpoint Session has no accepted Runtime Request"
  match s.stateCheckpoints.get? (checkpointKey checkpoint) with
  | some existing =>
    demand (existing.checkpointHash = checkpoint.checkpointHash)
      "RUNTIME_STATE_GENERATION_MISMATCH" "state"
      "State Checkpoint conflicts with an existing sequence"
    return (existing, s.toLifecycleTables)
  | none =>
    demand (checkpoint.checkpointSequence = s.nextCheckpoint checkpoint)
      "RUNTIME_STATE_GENERATION_MISMATCH" "state" "State Checkpoint sequence is invalid"
    return (checkpoint, { s.toLifecycleTables with
      stateCheckpoints := s.stateCheckpoints.set (checkpointKey checkpoint) checkpoint })

/-! ## Drain and shutdown -/

def requestRuntimeDrain (connectionId : String) (drain : RuntimeDrainRequest) :
    Except ProtocolFailure (RuntimeDrainRequest × LifecycleTables) := do
  let connection ← validateConnection env s.connections connectionId (drain.claim true)
  match s.drainRequests.get? drain.drainId with
  | some existing =>
    demand (existing.drainHash = drain.drainHash) "RUNTIME_DRAINING" "drain"
      "Drain ID conflicts with existing command"
    return (existing, s.toLifecycleTables)
  | none =>
    demand (s.drainRequests.values.all fun item => item.runtimeId != drain.runtimeId ||
      s.drainCompletes.contains item.drainId) "RUNTIME_DRAINING" "drain"
      "Runtime already has an active drain"
    return (drain, { s.toLifecycleTables with
      drainRequests := s.drainRequests.set drain.drainId drain
      connections := s.connectionMoved connectionId connection .draining })

def drainOf (drainId : String) (identity : RuntimeIdentity) (complaint : String) :
    Except ProtocolFailure Unit :=
  demand ((s.drainRequests.get? drainId).any fun drain => drain.runtimeId == identity.runtimeId &&
    drain.runtimeGeneration == identity.runtimeGeneration &&
    drain.routeGeneration == identity.routeGeneration) "RUNTIME_DRAINING" "drain" complaint

def recordRuntimeDrainStatus (connectionId : String) (status : RuntimeDrainStatus) :
    Except ProtocolFailure (RuntimeDrainStatus × LifecycleTables) := do
  env.authenticate "RUNTIME_IDENTITY_INVALID" "drain" "Runtime Drain Status authentication failed"
  let _ ← validateConnection env s.connections connectionId (status.claim true)
  s.drainOf status.drainId status.toRuntimeIdentity
    "Runtime Drain Status references an unknown drain"
  let stored := (status, { s.toLifecycleTables with
    drainStatuses := s.drainStatuses.set status.drainId status })
  match s.drainStatuses.get? status.drainId with
  | none => return stored
  | some existing =>
    demand (existing.statusSequence ≤ status.statusSequence) "RUNTIME_DRAINING" "drain"
      "Runtime Drain Status is stale"
    if status.statusSequence = existing.statusSequence then
      demand (status.statusHash = existing.statusHash) "RUNTIME_DRAINING" "drain"
        "Runtime Drain Status conflicts"
      return (existing, s.toLifecycleTables)
    else return stored

def recordRuntimeDrainComplete (connectionId : String) (complete : RuntimeDrainComplete) :
    Except ProtocolFailure (RuntimeDrainComplete × LifecycleTables) := do
  env.authenticate "RUNTIME_IDENTITY_INVALID" "drain"
    "Runtime Drain Complete authentication failed"
  let _ ← validateConnection env s.connections connectionId (complete.claim true)
  s.drainOf complete.drainId complete.toRuntimeIdentity
    "Runtime Drain Complete references an unknown drain"
  match s.drainCompletes.get? complete.drainId with
  | some existing =>
    demand (existing.completionHash = complete.completionHash) "RUNTIME_DRAINING" "drain"
      "Runtime Drain Complete conflicts"
    return (existing, s.toLifecycleTables)
  | none => return (complete, { s.toLifecycleTables with
      drainCompletes := s.drainCompletes.set complete.drainId complete })

def requestRuntimeShutdown (connectionId : String) (shutdown : RuntimeShutdown) :
    Except ProtocolFailure (RuntimeShutdown × LifecycleTables) := do
  let connection ← validateConnection env s.connections connectionId (shutdown.claim true)
  match s.shutdowns.get? shutdown.shutdownId with
  | some existing =>
    demand (existing.shutdownHash = shutdown.shutdownHash) "RUNTIME_STOPPED" "shutdown"
      "Shutdown ID conflicts with existing command"
    return (existing, s.toLifecycleTables)
  | none =>
    demand (!shutdown.graceful || s.drainCompletes.values.any (·.runtimeId == shutdown.runtimeId))
      "RUNTIME_DRAINING" "shutdown" "Graceful Runtime Shutdown requires a completed drain"
    return (shutdown, { s.toLifecycleTables with
      shutdowns := s.shutdowns.set shutdown.shutdownId shutdown
      connections := if shutdown.graceful then s.connections
        else s.connectionMoved connectionId connection .closed })

/-! ## Recovery -/

def recoverableIds [Conversions] (state : RuntimeRecoveryState) : List String :=
  state.recoverableRequests.filterMap fun item =>
    let requestId := PyValue.get item "request_id"
    if requestId.truthy then some (Conversions.str requestId) else none

def runtimeRequestIds [Conversions] (state : RuntimeRecoveryState) : List String :=
  (state.activeRequests ++ state.terminalRequests ++ recoverableIds state).dedup.mergeSort

def localRequests (runtimeId : String) : List (String × RuntimeRequestRecord) :=
  s.requests.entries.filter (·.2.runtimeId == runtimeId)

def listedDirective (state : RuntimeRecoveryState) (requestId : String) : RequestDirective :=
  if (s.localRequests state.runtimeId).all (·.1 != requestId) then .ignoreUnknownRequest
  else if state.terminalRequests.contains requestId then .redeliverFinalResult
  else .continueExistingExecution

/-- The terminal states of `build_recovery_plan`. -/
def doneForRecovery : RuntimeRequestState → Bool
  | .completed | .partlyCompleted | .cancelled | .failed | .expired => true
  | _ => false

/-- The runtime names another head of the chain of the request than the store. -/
def headDiffers (state : RuntimeRecoveryState) (requestId : String) : Bool :=
  match (usageChain s.toRequestTables requestId).getLast? with
  | none => false
  | some head => state.usageChainHeads.get? requestId != some head.reportHash

def withDirectives (requestIds : List String) (directive : String → RequestDirective)
    (directives : Dict String RequestDirective) : Dict String RequestDirective :=
  requestIds.foldl (fun directives requestId => directives.set requestId (directive requestId))
    directives

/-- The directives of `build_recovery_plan`: for the requests that the runtime lists, for those
that it does not and that are not done, and for those whose usage chains differ. -/
def recoveryDirectives [Conversions] (state : RuntimeRecoveryState) :
    Dict String RequestDirective :=
  let listed := runtimeRequestIds state
  let localRequests := s.localRequests state.runtimeId
  let forgotten := (localRequests.filter fun e =>
    !listed.contains e.1 && !doneForRecovery e.2.requestState).map (·.1)
  let differing := (localRequests.map (·.1)).filter (s.headDiffers state)
  withDirectives differing (fun _ => .redeliverUsage) <|
    withDirectives forgotten.mergeSort (fun _ => .failUnrecoverable) <|
      withDirectives listed (s.listedDirective state) .empty

def recordRuntimeRecoveryState (connectionId : String) (state : RuntimeRecoveryState)
    (allowRouteRebind : Bool) :
    Except ProtocolFailure (RuntimeRecoveryState × LifecycleTables) := do
  env.authenticate "RUNTIME_IDENTITY_INVALID" "recovery"
    "Runtime Recovery State authentication failed"
  let connection ← validateConnection env s.connections connectionId {
    runtimeId := state.runtimeId
    runtimeGeneration := state.runtimeGeneration
    runtimeConfigurationHash := some state.runtimeConfigurationHash
    allowRecovering := true
    skipRouteCheck := allowRouteRebind }
  demand (allowRouteRebind || state.routeGeneration == connection.routeGeneration)
    "RUNTIME_ROUTE_GENERATION_MISMATCH" "recovery"
    "Recovery state uses a stale Route Generation"
  match s.recoveryStates.get? state.runtimeId with
  | some existing =>
    if existing.recoveryStateHash = state.recoveryStateHash then
      return (existing, s.toLifecycleTables)
    else return (state, { s.toLifecycleTables with
      recoveryStates := s.recoveryStates.set state.runtimeId state })
  | none => return (state, { s.toLifecycleTables with
      recoveryStates := s.recoveryStates.set state.runtimeId state })

/-- `build_recovery_plan`, with the id that it draws. -/
def buildRecoveryPlan [Conversions] (connectionId : String) (state : RuntimeRecoveryState)
    (allowRouteRebind : Bool) (planId : String) :
    Except ProtocolFailure (RuntimeRecoveryPlan × LifecycleTables) := do
  let (state, tables) ← s.recordRuntimeRecoveryState env connectionId state allowRouteRebind
  match tables.connections.get? connectionId with
  | none => .error (.python ⟨.key, connectionId⟩)
  | some connection =>
    let route ← env.routeOf state.runtimeId
    let plan : RuntimeRecoveryPlan := {
      runtimeId := state.runtimeId
      runtimeGeneration := state.runtimeGeneration
      routeGeneration := route.routeGeneration
      planId := planId
      requestDirectives := s.recoveryDirectives state }
    return (plan, { tables with
      recoveryPlans := tables.recoveryPlans.set planId plan
      connections := tables.connections.set connectionId { connection with
        routeGeneration := route.routeGeneration
        connectionState := .recovering } })

def recordRecoveryResult (connectionId : String) (result : RuntimeRecoveryResult) :
    Except ProtocolFailure (RuntimeConnection × LifecycleTables) := do
  let connection ← validateConnection env s.connections connectionId {
    runtimeId := result.runtimeId
    runtimeGeneration := result.runtimeGeneration
    routeGeneration := some result.routeGeneration
    allowRecovering := true }
  match s.recoveryPlans.get? result.planId with
  | none =>
    refuse "RUNTIME_RECOVERY_PLAN_INVALID" "recovery"
      "Runtime Recovery Result references an unknown plan"
  | some plan =>
    demand (plan.runtimeId = result.runtimeId && plan.runtimeGeneration = result.runtimeGeneration
      && plan.routeGeneration = result.routeGeneration) "RUNTIME_RECOVERY_CONFLICT" "recovery"
      "Runtime Recovery Result does not match its plan identity"
    demand ((s.recoveryResults.get? result.planId).all (·.resultHash == result.resultHash))
      "RUNTIME_RECOVERY_CONFLICT" "recovery" "Recovery Plan already has a conflicting result"
    let state := if result.remainingConflicts.isEmpty then RuntimeConnectionState.ready
      else .recovering
    return ({ connection with connectionState := state }, { s.toLifecycleTables with
      recoveryResults := s.recoveryResults.set result.planId result
      connections := s.connectionMoved connectionId connection state })

end RuntimeProtocolStore

end AidnSpec.RuntimeProtocol
