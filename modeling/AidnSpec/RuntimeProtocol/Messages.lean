import AidnSpec.Base.CanonicalJson
import AidnSpec.Base.Postconditions
import AidnSpec.Dispatcher.Admission

/-!
# Messages of the runtime protocol

The messages and records of `runtime_protocol/models.py`, and what `accounting/models.py` and
`providers/models.py` say about a runtime. A message carries its hash, which is checked where the
message is made; fields that the service only stores are left out, and fields that it only compares
are kept as `rest`.
-/

namespace AidnSpec.RuntimeProtocol

open Base
open Dispatcher (Reading DispatcherRoute)

/-! ## States -/

inductive RuntimeConnectionState where
  | connecting
  | helloExchanging
  | identityVerifying
  | versionNegotiating
  | configurationVerifying
  | stateReconciling
  | ready
  | rejected
  | recovering
  | quarantined
  | draining
  | closed
  deriving DecidableEq

inductive RuntimeAdmissionState where
  | accepted
  | queued
  | rejected
  | backpressured
  | temporarilyUnavailable
  | recoveryRequired
  deriving DecidableEq

inductive RuntimeRequestState where
  | submitted
  | accepted
  | queued
  | executing
  | completed
  | partlyCompleted
  | cancelRequested
  | cancelled
  | failed
  | expired
  | recovering
  | unrecoverable
  deriving DecidableEq

namespace RuntimeRequestState

def toText : RuntimeRequestState → String
  | .submitted => "SUBMITTED"
  | .accepted => "ACCEPTED"
  | .queued => "QUEUED"
  | .executing => "EXECUTING"
  | .completed => "COMPLETED"
  | .partlyCompleted => "PARTIAL"
  | .cancelRequested => "CANCEL_REQUESTED"
  | .cancelled => "CANCELLED"
  | .failed => "FAILED"
  | .expired => "EXPIRED"
  | .recovering => "RECOVERING"
  | .unrecoverable => "UNRECOVERABLE"

def terminal : RuntimeRequestState → Bool
  | .completed | .partlyCompleted | .cancelled | .failed | .expired | .unrecoverable => true
  | _ => false

def terminalOfText : String → Option RuntimeRequestState
  | "COMPLETED" => some .completed
  | "PARTIAL" => some .partlyCompleted
  | "CANCELLED" => some .cancelled
  | "FAILED" => some .failed
  | "EXPIRED" => some .expired
  | "UNRECOVERABLE" => some .unrecoverable
  | _ => none

theorem terminal_of_terminalOfText {text : String} {state : RuntimeRequestState}
    (h : terminalOfText text = some state) : state.terminal = true ∧ state.toText = text := by
  unfold terminalOfText at h
  split at h <;> cases h <;> exact ⟨rfl, rfl⟩

theorem toText_injective : Function.Injective toText := by
  intro a b h
  cases a <;> cases b <;> first | rfl | exact absurd h (by decide)

end RuntimeRequestState

inductive UsageAckStatus where
  | accepted
  | duplicate
  | rejected
  | conflict
  | outOfSequence
  | pendingReview

def UsageAckStatus.toText : UsageAckStatus → String
  | .accepted => "ACCEPTED"
  | .duplicate => "DUPLICATE"
  | .rejected => "REJECTED"
  | .conflict => "CONFLICT"
  | .outOfSequence => "OUT_OF_SEQUENCE"
  | .pendingReview => "PENDING_REVIEW"

/-! ## Errors -/

structure RuntimeProtocolError where
  code : String
  stage : String
  message : String

/-- What a call of the service raises. -/
inductive ProtocolFailure where
  | protocol (e : RuntimeProtocolError)
  | python (e : PyError)

/-- `raise RuntimeProtocolError(code, stage, message)`. -/
def refuse {α : Type} (code stage message : String) : Except ProtocolFailure α :=
  .error (.protocol ⟨code, stage, message⟩)

/-- `if not condition: raise RuntimeProtocolError(code, stage, message)`. -/
def demand (condition : Bool) (code stage message : String) : Except ProtocolFailure Unit :=
  if condition then .ok () else refuse code stage message

@[simp] theorem demand_eq_ok {condition : Bool} {code stage message : String} {u : Unit} :
    demand condition code stage message = .ok u ↔ condition = true := by
  cases condition <;> simp [demand, refuse]

@[simp] theorem refuse_ne_ok {α : Type} {code stage message : String} {a : α} :
    refuse code stage message = .ok a ↔ False := by
  simp [refuse]

theorem ensures_refuse {α : Type} {code stage message : String} {P : α → Prop} :
    Ensures (refuse code stage message) P := ensures_error

theorem ensures_demand {α : Type} {condition : Bool} {code stage message : String}
    {rest : Unit → Except ProtocolFailure α} {P : α → Prop}
    (h : condition = true → Ensures (rest ()) P) :
    Ensures (demand condition code stage message >>= rest) P :=
  ensures_bind fun _ hdemand => h (demand_eq_ok.mp hdemand)

/-! ## What the hypervisor knows about a runtime -/

/-- `RuntimeBinding`, with its `binding_hash()`. -/
structure RuntimeBinding where
  runtimeId : String
  runtimeGeneration : ℕ
  capabilityId : String
  capabilityVersion : String
  capabilityDefinitionHash : String
  adapterId : Option String := none
  adapterVersion : Option String := none
  supportedFeatures : List String := []
  supportedAccountingModes : List String := []
  usageReportingProfileHash : Option String := none
  runtimeConfigurationHash : Option String := none
  operationalState : String
  bindingHash : String

inductive UsageAvailability where
  | available
  | partlyAvailable
  | unavailable
  | notApplicable
  deriving DecidableEq

inductive UsageAuthority where
  | authoritativeProvider
  | deterministicLocal
  | observableLocal
  | estimated
  deriving DecidableEq

inductive UnavailableValuePolicy where
  | requestRejectedBeforeExecution
  | fixedFallback
  | observableFallback
  | partlyCharged
  | zeroVariableComponent
  | forcedSettlementReview
  deriving DecidableEq

structure RuntimeUsageProfileDimension where
  dimensionId : String
  unit : String
  expectedAvailability : UsageAvailability
  authority : Option UsageAuthority := none
  cumulative : Bool := true
  billingEligible : Bool := false

structure RuntimeUsageProfile where
  runtimeId : String
  runtimeGeneration : ℕ
  runtimeConfigurationHash : String
  dimensions : List RuntimeUsageProfileDimension := []
  profileHash : String

def RuntimeUsageProfile.dimension (profile : RuntimeUsageProfile) (dimensionId : String) :
    Option RuntimeUsageProfileDimension :=
  profile.dimensions.find? (·.dimensionId == dimensionId)

structure AccountingUnitContract where
  unit : String
  mode : String
  requiredAuthority : Option UsageAuthority := none
  unavailableValuePolicy : Option UnavailableValuePolicy := none

structure AccountingContract where
  capabilityId : Option String := none
  endpointId : Option String := none
  billableUnits : List AccountingUnitContract := []
  unavailableValuePolicy : UnavailableValuePolicy := .requestRejectedBeforeExecution
  payloadHash : String

def AccountingContract.unitErrors (contract : AccountingContract) (profile : RuntimeUsageProfile)
    (unit : AccountingUnitContract) : List String :=
  if unit.mode = "fixed_price" then []
  else
    let policy := unit.unavailableValuePolicy.getD contract.unavailableValuePolicy
    match profile.dimension unit.unit with
    | none =>
      if policy = .requestRejectedBeforeExecution then
        ["required Usage dimension is undeclared: " ++ unit.unit]
      else []
    | some dimension =>
      (if (dimension.expectedAvailability = .unavailable ∨
          dimension.expectedAvailability = .notApplicable) ∧
            policy = .requestRejectedBeforeExecution then
        ["required Usage dimension is unavailable: " ++ unit.unit]
      else []) ++
      (if unit.requiredAuthority.isSome ∧ dimension.authority ≠ unit.requiredAuthority then
        ["Usage authority mismatch: " ++ unit.unit]
      else [])

def AccountingContract.compatibilityErrors (contract : AccountingContract)
    (profile : RuntimeUsageProfile) : List String :=
  contract.billableUnits.flatMap (contract.unitErrors profile)

/-! ## Handshake and connection -/

/-- The runtime that a message names, and the lineage it claims. -/
structure RuntimeIdentity where
  runtimeId : String
  runtimeGeneration : ℕ
  runtimeConfigurationHash : String
  routeGeneration : ℕ
  deriving DecidableEq

structure RuntimeHello where
  runtimeId : String
  runtimeGeneration : ℕ
  instanceId : String
  runtimeConfigurationHash : String
  capabilityId : String
  supportedCapabilityVersions : List String
  supportedDefinitionHashes : List String
  supportedRuntimeProtocolVersions : List String
  adapterId : Option String := none
  adapterVersion : Option String := none
  lastRuntimeEventSequence : ℕ := 0
  recoveryStateAvailable : Bool := false
  runtimeChallenge : String

structure HypervisorRuntimeHello where
  handshakeId : String
  runtimeId : String
  acceptedRuntimeGeneration : ℕ
  acceptedRuntimeConfigurationHash : String
  runtimeBindingHash : String
  selectedRuntimeProtocolVersion : String
  routeGeneration : ℕ
  runtimeChallengeResponse : String
  hypervisorChallenge : String
  reconcile : Bool

structure RuntimeHelloComplete where
  handshakeId : String
  runtimeId : String
  runtimeGeneration : ℕ
  routeGeneration : ℕ
  hypervisorChallengeResponse : String

/-- `RuntimeConnection`; `expires_at` is the instant that its text names. -/
structure RuntimeConnection extends RuntimeIdentity where
  runtimeConnectionId : String
  runtimeBindingHash : String
  instanceId : String
  selectedRuntimeProtocolVersion : String
  connectionState : RuntimeConnectionState
  expiresAt : Int

/-! ## Messages about a runtime -/

structure RuntimeMessage extends RuntimeIdentity where
  runtimeMessageId : String
  runtimeConnectionId : String
  runtimeSequence : ℕ
  expiration : String
  payloadHash : String

/-- `RuntimeReady`, with the eight readiness dimensions. -/
structure RuntimeReady extends RuntimeIdentity where
  operationalState : String
  readinessDimensions : List Bool
  capabilityDefinitionHash : String
  usageProfileHash : Option String := none
  rest : Fields
  deriving DecidableEq

structure RuntimeHealth extends RuntimeIdentity where
  healthSequence : ℕ
  rest : Fields
  deriving DecidableEq

structure RuntimeCapacity extends RuntimeIdentity where
  capacitySequence : ℕ
  rest : Fields
  deriving DecidableEq

structure RuntimeStateCheckpoint extends RuntimeIdentity where
  sessionId : String
  stateGeneration : ℕ
  checkpointSequence : ℕ
  checkpointHash : String

structure RuntimeDrainRequest extends RuntimeIdentity where
  drainId : String
  drainHash : String

structure RuntimeDrainStatus extends RuntimeIdentity where
  drainId : String
  statusSequence : ℕ
  statusHash : String

structure RuntimeDrainComplete extends RuntimeIdentity where
  drainId : String
  completionHash : String

structure RuntimeShutdown extends RuntimeIdentity where
  shutdownId : String
  graceful : Bool
  shutdownHash : String

structure RuntimeRecoveryState extends RuntimeIdentity where
  activeRequests : List String := []
  terminalRequests : List String := []
  recoverableRequests : List Fields := []
  usageChainHeads : Dict String String := .empty
  recoveryStateHash : String

/-- What a recovery plan says about a request. -/
inductive RequestDirective where
  | ignoreUnknownRequest
  | redeliverFinalResult
  | continueExistingExecution
  | failUnrecoverable
  | redeliverUsage
  deriving DecidableEq

structure RuntimeRecoveryPlan where
  runtimeId : String
  runtimeGeneration : ℕ
  routeGeneration : ℕ
  planId : String
  requestDirectives : Dict String RequestDirective := .empty

structure RuntimeRecoveryResult where
  runtimeId : String
  runtimeGeneration : ℕ
  routeGeneration : ℕ
  planId : String
  remainingConflicts : List String := []
  resultHash : String

/-! ## Messages about a request -/

/-- `RuntimeExecuteRequest`, with its `semantic_hash()`. -/
structure RuntimeExecuteRequest extends RuntimeIdentity where
  endpointId : String
  endpointConfigurationHash : String
  sessionId : String
  effectiveTermsHash : Option String := none
  requestId : String
  capabilityId : String
  capabilityVersion : String
  capabilityDefinitionHash : String
  requiredFeatures : List String := []
  stateReference : Option Fields := none
  accountingContractHash : String
  requestDeadline : String
  semanticHash : String
  deriving DecidableEq

structure RuntimeRequestRecord where
  requestId : String
  runtimeId : String
  runtimeGeneration : ℕ
  routeGeneration : ℕ
  requestHash : String
  request : RuntimeExecuteRequest
  requestState : RuntimeRequestState
  admissionState : Option RuntimeAdmissionState := none
  runtimeRequestHandle : Option String := none
  acceptedAt : Option String := none
  terminalResultHash : Option String := none
  terminalFinalUsageReportId : Option String := none
  updatedAt : String
  deriving DecidableEq

/-- `record.admission_state in {"ACCEPTED", "QUEUED"}`. -/
def RuntimeRequestRecord.admitted (record : RuntimeRequestRecord) : Bool :=
  record.admissionState == some .accepted || record.admissionState == some .queued

structure RuntimeRequestAccept where
  runtimeId : String
  runtimeGeneration : ℕ
  routeGeneration : ℕ
  sessionId : String
  requestId : String
  admissionState : RuntimeAdmissionState
  runtimeRequestHandle : Option String := none
  acceptedCapabilityDefinitionHash : String
  acceptedAt : String

structure RuntimeCancelRequest extends RuntimeIdentity where
  sessionId : String
  requestId : String
  cancellationId : String
  deadline : String
  cancellationHash : String

structure RuntimeCancellationRecord where
  cancellation : RuntimeCancelRequest
  requestStateBeforeCancel : RuntimeRequestState
  updatedAt : String

/-- The states of a cancellation result. -/
inductive CancellationState where
  | cancelled
  | cancellationPending
  | cancellationTooLate
  | cancellationUnsupported
  | alreadyTerminal
  | failed

structure RuntimeCancelResult extends RuntimeIdentity where
  cancellationId : String
  sessionId : String
  requestId : String
  cancellationState : CancellationState
  cancellationResultHash : String

/-- What the events of a stream have in common. -/
structure RuntimeStreamEvent extends RuntimeIdentity where
  sessionId : String
  requestId : String
  streamId : String
  deriving DecidableEq

structure RuntimeStreamOpen extends RuntimeStreamEvent where
  strictOrdered : Bool := true
  streamOpenHash : String
  deriving DecidableEq

structure RuntimeStreamChunk extends RuntimeStreamEvent where
  chunkSequence : ℕ
  chunkHash : String
  chunkLength : ℕ
  rest : Fields
  deriving DecidableEq

structure RuntimeStreamClose extends RuntimeStreamEvent where
  finalSequence : ℕ
  finalContentRoot : String
  deliveredLength : ℕ
  streamCloseHash : String
  deriving DecidableEq

structure RuntimeArtifactDeclare extends RuntimeIdentity where
  sessionId : String
  requestId : String
  artifactId : String
  contentHash : String
  declarationHash : String
  deriving DecidableEq

structure RuntimeResult extends RuntimeIdentity where
  endpointId : String
  endpointConfigurationHash : String
  sessionId : String
  requestId : String
  terminalState : String
  streamRoots : List String := []
  artifactReferences : List Fields := []
  finalUsageReportId : String
  resultHash : String
  deriving DecidableEq

structure RuntimeUsageDimension where
  dimensionId : String
  unit : String
  authority : Option UsageAuthority := none
  cumulative : Bool := true
  billingEligible : Bool := false
  deriving DecidableEq

/-- `RuntimeUsageReport`; a report whose type is `FINAL` is `finalReport`. -/
structure RuntimeUsageReport where
  usageReportId : String
  runtimeId : String
  runtimeGeneration : ℕ
  runtimeConfigurationHash : String
  endpointId : String
  endpointConfigurationHash : Option String := none
  sessionId : String
  requestId : String
  effectiveTermsHash : Option String := none
  accountingContractHash : Option String := none
  finalReport : Bool := false
  usageSequence : ℕ
  previousUsageReportHash : Option String := none
  dimensions : List RuntimeUsageDimension := []
  requestState : Option String := none
  terminal : Bool := false
  reportHash : String
  deriving DecidableEq

structure RuntimeUsageAck where
  usageAcknowledgmentId : String
  usageReportId : String
  sessionId : String
  requestId : String
  status : UsageAckStatus
  acceptedUsageSequence : Option ℕ := none
  acceptedReportHash : Option String := none
  rejectionCode : Option String := none
  acknowledgedAt : String
  hypervisorSignature : String

/-- The type of a usage conflict. -/
inductive ConflictType where
  | content
  | sequence
  | chain

def ConflictType.toText : ConflictType → String
  | .content => "CONTENT"
  | .sequence => "SEQUENCE"
  | .chain => "CHAIN"

structure RuntimeUsageConflict where
  conflictId : String
  usageReportId : String
  runtimeId : String
  sessionId : String
  requestId : String
  usageSequence : ℕ
  acceptedReportHash : Option String := none
  conflictingReportHash : String
  conflictType : ConflictType
  observedAt : String

end AidnSpec.RuntimeProtocol
