import AidnSpec.Base.Dict
import AidnSpec.Base.Schema

/-!
# Messages and routes

The messages, routes and records of `dispatcher/models.py` and the checks of
`dispatcher/service.py:421–542` that a message passes before it is queued and before it is handled.
The fields that the dispatcher does not read are left out.
-/

namespace AidnSpec.Dispatcher

open Base

inductive ChannelClass where
  | control
  | serviceControl
  | sessionControl
  | sessionData
  | runtime
  | registry
  | validation
  | governance
  | observability
  | pluginControl
  deriving DecidableEq

inductive PriorityClass where
  | criticalControl
  | high
  | interactive
  | normal
  | bulk
  | background

def PriorityClass.rank : PriorityClass → ℕ
  | .criticalControl => 0
  | .high => 1
  | .interactive => 2
  | .normal => 3
  | .bulk => 4
  | .background => 5

/-- `policy_priority`: the priority class of a message type. -/
def policyPriority : String → PriorityClass
  | "SESSION_CLOSE" => .high
  | "SESSION_CANCELLATION" => .high
  | "SESSION_DEPOSIT_EXTENSION" => .high
  | "SESSION_REQUEST" => .interactive
  | "SESSION_RESPONSE_STREAM" => .interactive
  | "SESSION_CAPABILITY_EVENT" => .interactive
  | "REGISTRY_REPLICATION" => .bulk
  | "REGISTRY_SNAPSHOT_TRANSFER" => .background
  | _ => .normal

inductive RouteState where
  | active
  | stale
  | draining
  | unreachable
  | quarantined
  | revoked
  deriving DecidableEq

def RouteState.toText : RouteState → String
  | .active => "ACTIVE"
  | .stale => "STALE"
  | .draining => "DRAINING"
  | .unreachable => "UNREACHABLE"
  | .quarantined => "QUARANTINED"
  | .revoked => "REVOKED"

def RouteState.errorCode : RouteState → String
  | .stale => "ROUTE_STALE"
  | .draining => "ROUTE_DRAINING"
  | .revoked => "ROUTE_REVOKED"
  | _ => "ROUTE_NOT_FOUND"

inductive DeliveryState where
  | received
  | envelopeValidated
  | authenticated
  | authorized
  | routeResolved
  | queued
  | deliveryAttempted
  | delivered
  | applicationAccepted
  | applicationRejected
  | expired
  | rateLimited
  | routeFailed
  | deliveryFailed
  | deadLettered
  | duplicate
  | cancelled
  deriving DecidableEq

structure NetworkSubject where
  subjectType : String
  subjectId : String

structure NetworkMessage where
  messageId : String
  messageType : String
  networkId : String
  chainId : String
  networkRevision : String
  channelClass : ChannelClass
  sourceSubject : NetworkSubject
  destinationSubject : NetworkSubject
  sourceSequence : ℕ
  priorityClass : PriorityClass := .normal
  routeGeneration : ℕ
  runtimeGeneration : Option ℕ := none
  createdAt : String
  expiration : String
  payloadHash : String
  payload : Fields
  assignmentKey : Option String := none

structure DispatcherRoute where
  destinationType : String
  destinationId : String
  routeType : String
  routeGeneration : ℕ
  routeState : RouteState := .active
  allowedSourceTypes : List String := []
  allowedSourceIds : List String := []
  allowedSourceIdsByType : Dict String (List String) := .empty
  allowedChannelClasses : List ChannelClass := []
  allowedMessageTypes : List String := []
  configurationHash : Option String := none
  runtimeBindingHash : Option String := none
  runtimeGeneration : Option ℕ := none
  sessionContractHash : Option String := none
  hypervisorKey : Option String := none
  createdAt : String
  expiresAt : Option String := none
  deriving DecidableEq

structure DispatcherError where
  code : String
  stage : String
  message : String

/-- What a call of the dispatcher raises. -/
inductive DispatchFailure where
  | dispatcher (e : DispatcherError)
  | python (e : PyError)

/-- `if not condition: raise DispatcherError(code, stage, message)`. -/
def demand (condition : Bool) (code stage message : String) : Except DispatcherError Unit :=
  if condition then .ok () else .error ⟨code, stage, message⟩

/-- The clock of the dispatcher, as it is read in a call: its instant and its text. -/
structure Reading where
  micros : Int
  text : String

/-- The network that a dispatcher belongs to, and the length of its queue. -/
structure DispatcherSettings where
  networkId : String
  chainId : String
  networkRevision : String
  maximumQueueMessages : ℕ := 256
  maxMessagesPerSecond : ℕ := 1000

def validateDomain (settings : DispatcherSettings) (m : NetworkMessage) :
    Except DispatcherError Unit := do
  demand (m.networkId == settings.networkId) "NETWORK_ID_MISMATCH" "domain" "Network ID mismatch"
  demand (m.chainId == settings.chainId) "CHAIN_ID_MISMATCH" "domain" "Chain ID mismatch"
  demand (m.networkRevision == settings.networkRevision) "NETWORK_REVISION_MISMATCH" "domain"
    "Network Revision mismatch"

/-- `_validate_expiration`. A text that is no time, or a time without a zone, raises otherwise. -/
def validateExpiration [Runtime] (now : Reading) (m : NetworkMessage) :
    Except DispatchFailure Unit :=
  match Runtime.fromisoformat m.expiration with
  | none =>
    .error (.python ⟨.value, "Invalid isoformat string: '" ++ m.expiration ++ "'"⟩)
  | some expiration =>
    if expiration.aware = false then
      .error (.python ⟨.type, "can't compare offset-naive and offset-aware datetimes"⟩)
    else if expiration.micros ≤ now.micros then
      .error (.dispatcher ⟨"MESSAGE_EXPIRED", "expiration", "Message expired"⟩)
    else .ok ()

/-- `_assignment_key_matches`: the key of the hypervisor, a colon and at least one character. -/
def assignmentKeyMatches (assignmentKey hypervisorKey : String) : Bool :=
  (hypervisorKey.toList ++ [':']).isPrefixOf assignmentKey.toList &&
    hypervisorKey.length + 1 < assignmentKey.length

def validateAssignmentKey (m : NetworkMessage) (route : DispatcherRoute) :
    Except DispatcherError Unit :=
  match route.hypervisorKey, m.assignmentKey with
  | none, _ => .ok ()
  | some _, none => .error ⟨"ASSIGNMENT_KEY_MISSING", "authorization",
      "Assignment key is required for signed transfer envelopes"⟩
  | some hypervisorKey, some assignmentKey =>
    demand (assignmentKeyMatches assignmentKey hypervisorKey) "ASSIGNMENT_KEY_INVALID"
      "authorization" "Assignment key does not match the registered Hypervisor key"

/-- The checks of `_resolve_and_authorize` on the route that was found. -/
def authorize (m : NetworkMessage) (route : DispatcherRoute) : Except DispatcherError Unit := do
  demand (route.routeState == .active) route.routeState.errorCode "routing"
    ("Route is " ++ route.routeState.toText)
  demand (route.routeGeneration == m.routeGeneration) "ROUTE_GENERATION_MISMATCH" "routing"
    "Message Route Generation is stale"
  demand (route.runtimeGeneration.all fun generation => m.runtimeGeneration == some generation)
    "RUNTIME_GENERATION_MISMATCH" "routing"
    "Message Runtime Generation does not match the active Runtime lineage"
  demand (route.allowedSourceTypes.contains m.sourceSubject.subjectType) "SOURCE_NOT_AUTHORIZED"
    "authorization" "Source subject type is not authorized"
  demand
    (route.allowedSourceIds.isEmpty || route.allowedSourceIds.contains m.sourceSubject.subjectId)
    "SOURCE_NOT_AUTHORIZED" "authorization" "Source subject identity is not authorized"
  demand ((route.allowedSourceIdsByType.get? m.sourceSubject.subjectType).all
    fun permitted => permitted.contains m.sourceSubject.subjectId)
    "SOURCE_NOT_AUTHORIZED" "authorization" "Source subject identity is not authorized for its role"
  demand (route.allowedChannelClasses.contains m.channelClass) "CHANNEL_NOT_AUTHORIZED"
    "authorization" "Channel is not authorized for route"
  demand (route.allowedMessageTypes.contains m.messageType) "MESSAGE_PROFILE_UNSUPPORTED"
    "authorization" "Message type is not authorized for route"
  validateAssignmentKey m route

def resolveAndAuthorize (routes : Dict (String × String) DispatcherRoute) (m : NetworkMessage) :
    Except DispatcherError DispatcherRoute :=
  match routes.get? (m.destinationSubject.subjectType, m.destinationSubject.subjectId) with
  | none => .error ⟨"ROUTE_NOT_FOUND", "routing", "No destination route"⟩
  | some route => do
    authorize m route
    return route

/-- The priority of a message in the queue: the rank of its type, its time and its sequence. -/
def queuePriority (m : NetworkMessage) : ℕ × String × ℕ :=
  ((policyPriority m.messageType).rank, m.createdAt, m.sourceSequence)

/-- `<` on tuples. -/
def comesBefore (a b : ℕ × String × ℕ) : Bool :=
  a.1 < b.1 || a.1 == b.1 && (a.2.1 < b.2.1 || a.2.1 == b.2.1 && a.2.2 < b.2.2)

/-- `min(queue, key=...)`, which is the first one of the lowest, and the queue without it. -/
def earliest : NetworkMessage → List NetworkMessage → NetworkMessage × List NetworkMessage
  | m, [] => (m, [])
  | m, next :: rest =>
    let best := earliest next rest
    if comesBefore (queuePriority best.1) (queuePriority m) then (best.1, m :: best.2)
    else (m, next :: rest)

/-- What was taken is one of the queue, and the others stay. -/
theorem earliest_perm (m : NetworkMessage) (queue : List NetworkMessage) :
    ((earliest m queue).1 :: (earliest m queue).2).Perm (m :: queue) := by
  induction queue generalizing m with
  | nil => exact .refl _
  | cons next rest ih =>
    simp only [earliest]
    split_ifs
    · exact (List.Perm.swap _ _ _).trans ((ih next).cons m)
    · exact .refl _

end AidnSpec.Dispatcher
