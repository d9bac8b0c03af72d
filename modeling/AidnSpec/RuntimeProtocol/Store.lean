import AidnSpec.Base.Conversions
import AidnSpec.RuntimeProtocol.Messages

/-!
# Store and connections of the runtime protocol

The tables of `runtime_protocol/store.py` and the checks that the calls of
`runtime_protocol/service.py` share. The clock, the resolvers, the authenticator and the signer of
the service answer during a call; their answers are its environment.
-/

namespace AidnSpec.RuntimeProtocol

open Base
open Dispatcher (Reading DispatcherRoute)

/-- The tables about runtimes, and the handshakes that are not complete. -/
structure LifecycleTables where
  pendingHandshakes : Dict String (RuntimeHello × HypervisorRuntimeHello) := .empty
  connections : Dict String RuntimeConnection := .empty
  readyStates : Dict String RuntimeReady := .empty
  healthRecords : Dict String RuntimeHealth := .empty
  capacityRecords : Dict String RuntimeCapacity := .empty
  messages : Dict String RuntimeMessage := .empty
  runtimeSequences : Dict String ℕ := .empty
  stateCheckpoints : Dict String RuntimeStateCheckpoint := .empty
  recoveryStates : Dict String RuntimeRecoveryState := .empty
  recoveryPlans : Dict String RuntimeRecoveryPlan := .empty
  recoveryResults : Dict String RuntimeRecoveryResult := .empty
  drainRequests : Dict String RuntimeDrainRequest := .empty
  drainStatuses : Dict String RuntimeDrainStatus := .empty
  drainCompletes : Dict String RuntimeDrainComplete := .empty
  shutdowns : Dict String RuntimeShutdown := .empty

/-- The tables about requests; `stream_chunks` by stream and sequence. -/
structure RequestTables where
  requests : Dict String RuntimeRequestRecord := .empty
  cancellations : Dict String RuntimeCancellationRecord := .empty
  cancellationResults : Dict String RuntimeCancelResult := .empty
  results : Dict String RuntimeResult := .empty
  streams : Dict String RuntimeStreamOpen := .empty
  streamChunks : Dict (String × ℕ) RuntimeStreamChunk := .empty
  streamCloses : Dict String RuntimeStreamClose := .empty
  artifacts : Dict String RuntimeArtifactDeclare := .empty
  usageReports : Dict String RuntimeUsageReport := .empty
  usageAcks : Dict String RuntimeUsageAck := .empty
  usageConflicts : Dict String RuntimeUsageConflict := .empty

structure RuntimeProtocolStore extends LifecycleTables, RequestTables

/-- What the service is set up with, and what its collaborators answer during a call. -/
structure ServiceEnvironment where
  supportedProtocolVersions : List String
  connectionLifetimeSeconds : ℕ
  now : Reading
  binding : String → Option RuntimeBinding
  route : String → Option DispatcherRoute
  authentic : Bool
  authorized : Bool
  signature : String
  contract : String → Option AccountingContract
  profile : String → Option RuntimeUsageProfile

namespace ServiceEnvironment

variable (env : ServiceEnvironment)

/-- `_binding`. -/
def bindingOf (runtimeId : String) : Except ProtocolFailure RuntimeBinding :=
  match env.binding runtimeId with
  | none => refuse "RUNTIME_NOT_REGISTERED" "identity" "Runtime ID is not approved"
  | some binding => .ok binding

/-- `_route`. -/
def routeOf (runtimeId : String) : Except ProtocolFailure DispatcherRoute :=
  match env.route runtimeId with
  | none => refuse "RUNTIME_ROUTE_NOT_FOUND" "route" "Approved Runtime route is unavailable"
  | some route =>
    if route.routeState = .active then .ok route
    else refuse "RUNTIME_ROUTE_NOT_FOUND" "route" "Approved Runtime route is unavailable"

def accountingContract (contractHash : String) : Except ProtocolFailure AccountingContract :=
  match env.contract contractHash with
  | none => refuse "ACCOUNTING_CONTRACT_MISMATCH" "accounting" "Accounting Contract is unknown"
  | some contract =>
    if contract.payloadHash = contractHash then .ok contract
    else refuse "ACCOUNTING_CONTRACT_MISMATCH" "accounting" "Accounting Contract Hash mismatch"

def usageProfile (runtimeId : String) : Except ProtocolFailure RuntimeUsageProfile :=
  match env.profile runtimeId with
  | none => refuse "USAGE_PROFILE_MISMATCH" "accounting" "Runtime Usage Profile is unknown"
  | some profile => .ok profile

/-- `if not self.runtime_authenticator(message): raise ...`. -/
def authenticate (code stage message : String) : Except ProtocolFailure Unit :=
  demand env.authentic code stage message

/-- `datetime.fromisoformat(text) <= datetime.now(UTC)`. -/
def passed [Runtime] (text : String) : Except ProtocolFailure Bool :=
  match Runtime.fromisoformat text with
  | none => .error (.python ⟨.value, "Invalid isoformat string: '" ++ text ++ "'"⟩)
  | some instant =>
    if instant.aware = false then
      .error (.python ⟨.type, "can't compare offset-naive and offset-aware datetimes"⟩)
    else .ok (instant.micros ≤ env.now.micros)

end ServiceEnvironment

def challengeResponse (challenge : String) : String :=
  canonicalHash (.dict [("challenge", .str challenge)])

/-- What a message claims about its connection, and how strictly the claim is checked. -/
structure ConnectionClaim where
  runtimeId : String
  runtimeGeneration : ℕ
  runtimeConfigurationHash : Option String := none
  routeGeneration : Option ℕ := none
  allowRecovering : Bool := false
  skipRouteCheck : Bool := false

/-- The claim of a message that names the whole identity. -/
def RuntimeIdentity.claim (identity : RuntimeIdentity) (allowRecovering : Bool) :
    ConnectionClaim where
  runtimeId := identity.runtimeId
  runtimeGeneration := identity.runtimeGeneration
  runtimeConfigurationHash := some identity.runtimeConfigurationHash
  routeGeneration := some identity.routeGeneration
  allowRecovering := allowRecovering

/-- The states of a connection that carries messages. -/
def ConnectionClaim.permits (claim : ConnectionClaim) (state : RuntimeConnectionState) : Bool :=
  state == .ready || claim.allowRecovering && (state == .recovering || state == .draining)

def validateConnection (env : ServiceEnvironment) (connections : Dict String RuntimeConnection)
    (connectionId : String) (claim : ConnectionClaim) :
    Except ProtocolFailure RuntimeConnection :=
  match connections.get? connectionId with
  | none => refuse "RUNTIME_CONNECTION_NOT_FOUND" "connection" "Runtime connection is unknown"
  | some connection => do
    demand (claim.permits connection.connectionState) "RUNTIME_NOT_READY" "connection"
      "Runtime connection is not ready"
    demand (env.now.micros < connection.expiresAt) "RUNTIME_CONNECTION_EXPIRED" "connection"
      "Runtime connection expired"
    demand (connection.runtimeId = claim.runtimeId) "RUNTIME_IDENTITY_INVALID" "identity"
      "Runtime connection ID mismatch"
    demand (connection.runtimeGeneration = claim.runtimeGeneration) "RUNTIME_GENERATION_MISMATCH"
      "configuration" "Runtime Generation mismatch"
    demand (claim.runtimeConfigurationHash.all (· == connection.runtimeConfigurationHash))
      "RUNTIME_CONFIGURATION_MISMATCH" "configuration" "Runtime Configuration Hash mismatch"
    let route ← env.routeOf claim.runtimeId
    let expected := claim.routeGeneration.getD connection.routeGeneration
    demand (claim.skipRouteCheck || connection.routeGeneration = expected &&
      route.routeGeneration = expected) "RUNTIME_ROUTE_GENERATION_MISMATCH" "route"
      "Runtime Route Generation mismatch"
    return connection

/-- A message goes over a connection of the runtime and the generation that it names. -/
theorem of_validateConnection {env : ServiceEnvironment}
    {connections : Dict String RuntimeConnection} {connectionId : String} {claim : ConnectionClaim}
    {connection : RuntimeConnection}
    (h : validateConnection env connections connectionId claim = .ok connection) :
    connections.get? connectionId = some connection ∧
      connection.runtimeId = claim.runtimeId ∧
      connection.runtimeGeneration = claim.runtimeGeneration := by
  unfold validateConnection at h
  cases hconnection : connections.get? connectionId with
  | none => simp [hconnection] at h
  | some found =>
    simp only [hconnection, bind_eq_ok, demand_eq_ok, pure_eq_ok, decide_eq_true_eq] at h
    obtain ⟨_, _, _, _, _, hid, _, hgeneration, _, _, _, _, _, _, rfl⟩ := h
    exact ⟨rfl, hid, hgeneration⟩

end AidnSpec.RuntimeProtocol
