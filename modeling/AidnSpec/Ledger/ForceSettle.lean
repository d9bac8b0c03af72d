import AidnSpec.Ledger.Finalize

/-!
# Failure evidence and forced settlement

`ledger/service.py:95–146, 2145–2212, 8362–8668`. Failure evidence is recorded and later cited. An
endpoint failure refunds all that is left of the funding; a consumer timeout after completed
fixed-price requests may pay the endpoint what the request evidence adds up to. The rebuilt account
keeps the consumed network fees of the old one, whatever the transition consumes.
-/

namespace AidnSpec.Ledger

open Base

variable [Runtime]

def consensusFailureClasses : List String :=
  ["CONSUMER_DISCONNECTED", "PROVIDER_DISCONNECTED", "RUNTIME_FAILURE", "ENDPOINT_FAILURE",
    "ENDPOINT_UNAVAILABLE", "UPSTREAM_PROXY_FAILURE", "ACCOUNTING_MISMATCH",
    "USAGE_REPORT_TIMEOUT", "ACKNOWLEDGEMENT_TIMEOUT", "DEPOSIT_EXHAUSTED", "SESSION_TIMEOUT",
    "IDLE_TIMEOUT", "CONSUMER_FORCE_CLOSE", "PROVIDER_FORCE_CLOSE", "PROTOCOL_INCOMPATIBILITY",
    "CONSENSUS_INTERRUPTION", "STATE_RECOVERY_FAILURE", "UNKNOWN_FAILURE"]

/-- The evidence of one session and root that an earlier operation committed. -/
def committedFailure (L : LedgerState) (sessionId root : String) :
    Option LedgerOperationRecord :=
  L.operations.reverse.find? fun operation =>
    operation.operationType == "SESSION_FAILURE_EVIDENCE" &&
      PyValue.get operation.payload "session_id" == .str sessionId &&
      PyValue.get operation.payload "failure_evidence_root" == .str root

/-- `validate_consensus_session_failure_evidence`. -/
def validateSessionFailureEvidence (env : Envelope) (L : LedgerState) : Except PyError Unit := do
  require (env.operationType == "SESSION_FAILURE_EVIDENCE")
    "consensus Session failure evidence requires SESSION_FAILURE_EVIDENCE"
  require (env.originType == .evidenceTriggered)
    "Session failure evidence requires evidence-triggered origin"
  require env.senderWallet.isNone "Session failure evidence cannot be wallet-originated"
  require (env.feeClass == .session) "Session failure evidence requires session fee class"
  let payload := env.payload
  requireTexts payload "Session failure evidence field is invalid: "
    ["session_id", "failure_class", "failure_evidence_root"]
  let sessionId := payload.text "session_id"
  require (env.initiatorId == some sessionId)
    "Session failure evidence initiator does not match Session"
  let failureClass := payload.text "failure_class"
  require (consensusFailureClasses.contains failureClass)
    "Session failure evidence class is unsupported"
  let root := payload.text "failure_evidence_root"
  require (env.evidenceReferences.contains root)
    "Session failure evidence root is not referenced"
  require (match PyValue.get payload "details" with
    | .none => true
    | .str details => details.length ≤ 4096
    | _ => false) "Session failure evidence details are invalid"
  match committedFailure L sessionId root with
  | none => return ()
  | some existing =>
    if PyValue.get existing.payload "failure_class" ≠ .str failureClass then
      raiseValue "conflicting Session failure evidence commitment"
    else raiseValue "Session failure evidence is already committed"

/-- `apply_consensus_session_failure_evidence`. -/
def applySessionFailureEvidence (env : Envelope) : LedgerM LedgerOperationRecord :=
  recordOnly (validateSessionFailureEvidence env) ["SessionFailureEvidenceCommitted"] env

/-- The failure classes that a forced settlement accepts. -/
inductive FailureClass where
  | endpointUnavailable
  | endpointFailure
  | consumerTimeout
  deriving DecidableEq

namespace FailureClass

def toText : FailureClass → String
  | endpointUnavailable => "ENDPOINT_UNAVAILABLE"
  | endpointFailure => "ENDPOINT_FAILURE"
  | consumerTimeout => "CONSUMER_TIMEOUT_AFTER_COMPLETED_FIXED_PRICE"

def ofText (s : String) : Option FailureClass :=
  [endpointUnavailable, endpointFailure, consumerTimeout].find? (·.toText == s)

def evidenceClasses : FailureClass → List String
  | endpointUnavailable | endpointFailure => ["ENDPOINT_UNAVAILABLE", "ENDPOINT_FAILURE"]
  | consumerTimeout => ["CONSUMER_DISCONNECTED"]

end FailureClass

/-- `text.replace("Z", "+00:00")`. -/
def replaceZulu (s : String) : String :=
  String.ofList (s.toList.flatMap fun c => if c = 'Z' then "+00:00".toList else [c])

/-- The three timestamps of a forced settlement: all aware, and the observation not
before the two others. -/
def requireTimeoutElapsed (payload : Fields) : Except PyError Unit := do
  let timestamp := fun key => requireStored
    (Runtime.fromisoformat (replaceZulu (payload.text key)))
      "Forced Settlement timestamp is invalid"
  let forceAfter ← timestamp "force_after"
  let observedAt ← timestamp "observed_at"
  let requestedAt ← timestamp "requested_at"
  require (forceAfter.aware && observedAt.aware && requestedAt.aware)
    "Forced Settlement timestamps require timezone"
  require (forceAfter.micros ≤ observedAt.micros && requestedAt.micros ≤ observedAt.micros)
    "Forced Settlement timeout has not elapsed"

/-- The charge of one completed, undisputed request that the evidence names. -/
def requestCharge (references seen : List String) (item : PyValue) :
    Except PyError (String × Int) := do
  match item with
  | .dict fields =>
    let requestId ← requireText fields "request_id" "Forced Settlement Request ID is invalid"
    require (!seen.contains requestId) "Forced Settlement Request evidence is duplicated"
    require (PyValue.get fields "terminal_state" == .str "COMPLETED")
      "Forced Settlement payment requires completed Request evidence"
    let usageHash ← requireText fields "final_usage_report_hash"
      "Forced Settlement payment requires Final Usage evidence"
    let recordHash ← requireText fields "record_hash"
      "Forced Settlement Request record hash is invalid"
    require (PyValue.get fields "dispute_state" == .str "NONE")
      "Forced Settlement payment cannot use disputed Request evidence"
    require (!Fields.has fields "disputed_amount_q_atoms" ||
        PyValue.get fields "disputed_amount_q_atoms" == .int 0)
      "Forced Settlement payment cannot use disputed Request amounts"
    let charge ← requireInt fields "capped_request_charge_q_atoms" (0 ≤ ·)
      "Forced Settlement Request charge evidence is invalid"
    require (references.contains recordHash) "Forced Settlement Request record is not referenced"
    require (references.contains usageHash) "Forced Settlement Final Usage is not referenced"
    return (requestId, charge)
  | _ => raiseValue "Forced Settlement Request evidence is invalid"

def evidenceCharge (references : List String) :
    List String → Int → List PyValue → Except PyError Int
  | _, total, [] => .ok total
  | seen, total, item :: rest => do
    let (requestId, charge) ← requestCharge references seen item
    evidenceCharge references (requestId :: seen) (total + charge) rest

/-- The payment branch: the endpoint gets what the request evidence adds up to. -/
def requireEvidencedPayment (env : Envelope) (requestedPayment : Int)
    (transition : AtomicSettlementTransition) (funding : SessionFundingAccount) :
    Except PyError Unit := do
  let payload := env.payload
  let items ← match PyValue.get payload "request_evidence" with
    | .list (item :: rest) => pure (item :: rest)
    | _ => raiseValue "Forced Settlement payment requires terminal Request evidence"
  require (env.evidenceReferences.contains (payload.text "request_settlement_root"))
    "Forced Settlement Request Settlement root is not referenced"
  let inputRoot ← requireText payload "settlement_input_root"
    "Forced Settlement payment requires Settlement Input root"
  require (env.evidenceReferences.contains inputRoot)
    "Forced Settlement Settlement Input root is not referenced"
  let charge ← evidenceCharge env.evidenceReferences [] 0 items
  require (charge == requestedPayment) "Forced Settlement payment does not match Request evidence"
  require ((transition.creditEndpoint : Int) == requestedPayment)
    "Forced Settlement Endpoint Payment does not match request"
  require (transition.retainDisputeReserve == 0)
    "Forced Settlement payment cannot retain a dispute reserve"
  let available := funding.endpointPaymentReserve - funding.releasedToEndpoint -
    funding.consumerPaymentRefund
  require (requestedPayment ≤ available)
    "Forced Settlement payment exceeds unsettled Endpoint reserve"
  let paymentRefund := available - transition.creditEndpoint
  let feeRefund := funding.networkFeeReserve - funding.consumedNetworkFees -
    transition.consumeNetworkFees
  require (0 ≤ paymentRefund && 0 ≤ feeRefund)
    "Forced Settlement refund exceeds available reserve"
  require ((transition.creditConsumer : Int) == paymentRefund + feeRefund)
    "Forced Settlement Consumer refund does not match reserves"

def remainingLocked (funding : SessionFundingAccount) : Int :=
  funding.totalLockedAmount - funding.releasedToEndpoint - funding.consumerPaymentRefund -
    funding.consumerFeeRefund - funding.consumedNetworkFees

def requireForcedCredits (env : Envelope) (failureClass : FailureClass) (requestedPayment : Int)
    (transition : AtomicSettlementTransition) (funding : SessionFundingAccount) :
    Except PyError Unit := do
  if failureClass ≠ .consumerTimeout then
    require (transition.creditEndpoint == 0 && transition.consumeNetworkFees == 0 &&
        transition.retainDisputeReserve == 0)
      "Forced Settlement cannot pay unacknowledged exposure"
    require ((transition.creditConsumer : Int) == remainingLocked funding)
      "Forced Settlement refund does not conserve remaining funding"
    require (requestedPayment == 0) "Forced Settlement requested payment must be zero"
  else if 0 < requestedPayment then
    requireEvidencedPayment env requestedPayment transition funding
  else
    require (transition.creditEndpoint == 0) "Forced Settlement payment is not requested"
    require ((transition.creditConsumer : Int) == remainingLocked funding)
      "Forced Settlement refund does not conserve remaining funding"

/-- `validate_consensus_force_settle`. -/
def validateForceSettle (env : Envelope) (finalized : FinalizedIds) (L : LedgerState) :
    Except PyError (AtomicSettlementTransition × SessionFundingAccount) := do
  require (env.operationType == "SESSION_FORCE_SETTLE")
    "consensus Forced Settlement requires SESSION_FORCE_SETTLE"
  require (env.originType == .evidenceTriggered)
    "Forced Settlement requires evidence-triggered origin"
  require (hasSessionFeePayer env) "Forced Settlement requires a session fee payer"
  let payload := env.payload
  requireTexts payload "Forced Settlement field is invalid: "
    ["session_id", "failure_class", "requested_at", "force_after", "observed_at",
      "failure_evidence_root", "failure_evidence_operation_id", "funding_lock_operation_id",
      "request_settlement_root", "usage_chain_root", "checkpoint_root", "initiator_wallet",
      "initiator_signature"]
  let failureClass ← requireStored (FailureClass.ofText (payload.text "failure_class"))
    "Forced Settlement failure class is unsupported"
  let members ← requireDict payload "transition" "Forced Settlement transition is required"
  let transition ← rewrap "Forced Settlement transition is invalid: "
    (AtomicSettlementTransition.modelValidate members)
  let requestedPayment ← requireInt payload "requested_payment_q_atoms" (0 ≤ ·)
    "Forced Settlement amount is invalid: requested_payment_q_atoms"
  let requestedRefund ← requireInt payload "requested_refund_q_atoms" (0 ≤ ·)
    "Forced Settlement amount is invalid: requested_refund_q_atoms"
  requireTimeoutElapsed payload
  let funding ← requireFunding L (payload.text "session_id") "Session Funding Account is not found"
  require (env.feePayer == some funding.consumerFundingAccount)
    "Forced Settlement fee payer is not the Consumer"
  require (payload.text "initiator_wallet" == funding.consumerFundingAccount ||
      payload.text "initiator_wallet" == funding.endpointPaymentBeneficiary)
    "Forced Settlement initiator is not a Session participant"
  require (!funding.fundingState.isFinal) "Session funding account is already finalized"
  require (funding.activeDisputeReserve == 0)
    "Forced Settlement cannot consume an active dispute reserve"
  let lockOperationId := payload.text "funding_lock_operation_id"
  let failureOperationId := payload.text "failure_evidence_operation_id"
  let evidenceRoot := payload.text "failure_evidence_root"
  let lock ← requireFinalizedDependency L lockOperationId "SESSION_ESCROW_LOCK" finalized
    "Forced Settlement escrow lock is not finalized"
  let failure ← requireFinalizedOperation L failureOperationId finalized
    "Forced Settlement failure evidence is not finalized"
  require (PyValue.get lock.payload "session_id" == .str funding.sessionId &&
      PyValue.get lock.payload "funding_state_hash" == .str funding.fundingStateHash)
    "Forced Settlement escrow lock binding is invalid"
  require (PyValue.get failure.payload "session_id" == .str funding.sessionId &&
      PyValue.get failure.payload "failure_evidence_root" == .str evidenceRoot)
    "Forced Settlement failure evidence binding is invalid"
  requireMember (PyValue.get failure.payload "failure_class") failureClass.evidenceClasses
    "Forced Settlement failure evidence binding is invalid"
  requireReferenced env.evidenceReferences "Forced Settlement evidence reference is missing"
    [lockOperationId, failureOperationId, evidenceRoot]
  require (transition.sessionId == funding.sessionId)
    "Forced Settlement session binding is invalid"
  require (transition.endpointPaymentBeneficiary == funding.endpointPaymentBeneficiary)
    "Forced Settlement Endpoint beneficiary is invalid"
  require (transition.consumerRefundBeneficiary == funding.consumerRefundBeneficiary)
    "Forced Settlement Consumer beneficiary is invalid"
  require ((transition.totalLockedAmount : Int) == funding.totalLockedAmount)
    "Forced Settlement amount does not match funding"
  require ((transition.previouslyReleasedToEndpoint : Int) == funding.releasedToEndpoint)
    "Forced Settlement prior Endpoint release is invalid"
  require ((transition.previouslyRefundedToConsumer : Int) ==
      funding.consumerPaymentRefund + funding.consumerFeeRefund)
    "Forced Settlement prior Consumer refund is invalid"
  require ((transition.previouslyConsumedNetworkFees : Int) == funding.consumedNetworkFees)
    "Forced Settlement prior Network Fees are invalid"
  requireForcedCredits env failureClass requestedPayment transition funding
  require (requestedRefund ≤ funding.totalLockedAmount)
    "Forced Settlement requested refund exceeds funding"
  require (env.evidenceReferences.contains evidenceRoot)
    "Forced Settlement failure evidence root is not referenced"
  require (env.evidenceReferences.contains transition.settlementId)
    "Forced Settlement settlement ID is not referenced"
  require (!L.settlementTransitionHashes.contains transition.settlementId)
    "Forced Settlement transition is already finalized"
  return (transition, funding)

def forced (transition : AtomicSettlementTransition) (funding : SessionFundingAccount)
    (f : FundingFields) : FundingFields :=
  let released := funding.releasedToEndpoint + transition.creditEndpoint
  { f with
    releasedToEndpoint := released
    consumerPaymentRefund :=
      funding.endpointPaymentReserve - released - transition.retainDisputeReserve
    consumerFeeRefund := funding.networkFeeReserve - funding.consumedNetworkFees -
      transition.consumeNetworkFees
    activeDisputeReserve := transition.retainDisputeReserve
    unsettledPaymentReserve := transition.retainDisputeReserve
    unsettledFeeReserve := 0
    fundingState :=
      if transition.retainDisputeReserve ≠ 0 then .disputeReserved
      else if transition.creditEndpoint ≠ 0 then .released
      else .refunded }

/-- `apply_consensus_force_settle`. -/
def applyForceSettle (env : Envelope) (finalized : FinalizedIds) :
    LedgerM LedgerOperationRecord :=
  applyConsensus (validateForceSettle env finalized)
    (fun _ => ["SessionForcedSettlementAuthorized", "SessionRefunded"]) env
    fun (transition, funding) => do
    if transition.creditEndpoint ≠ 0 then
      creditForSession funding.sessionId .endpoint transition.endpointPaymentBeneficiary
        transition.creditEndpoint
    if transition.creditConsumer ≠ 0 then
      creditForSession funding.sessionId .consumer transition.consumerRefundBeneficiary
        transition.creditConsumer
    let next ← rebuildFunding funding (forced transition funding)
    putFunding funding.sessionId next
    putTransitionHash transition.settlementId transition.transitionHash

end AidnSpec.Ledger
