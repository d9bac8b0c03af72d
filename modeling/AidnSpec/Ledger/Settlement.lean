import AidnSpec.Ledger.Funding

/-!
# Settlement records

The remaining declared models of `settlement/models.py` that consensus operations store or bind:
proposals, readiness commitments, acceptances, usage checkpoints, disputes, corrections and atomic
transitions. Each model with a self-hash accepts an absent hash or the exact one.
-/

namespace AidnSpec.Ledger

open Base

inductive SettlementMode where
  | cooperativeFinal
  | cooperativeZero
  | partialUndisputed
  | forced
  | postpaidObligation
  | validationZero
  | correction
  deriving DecidableEq

namespace SettlementMode

def toText : SettlementMode → String
  | cooperativeFinal => "COOPERATIVE_FINAL"
  | cooperativeZero => "COOPERATIVE_ZERO"
  | partialUndisputed => "PARTIAL_UNDISPUTED"
  | forced => "FORCED"
  | postpaidObligation => "POSTPAID_OBLIGATION"
  | validationZero => "VALIDATION_ZERO"
  | correction => "CORRECTION"

def ofText (s : String) : Option SettlementMode :=
  [cooperativeFinal, cooperativeZero, partialUndisputed, forced, postpaidObligation,
    validationZero, correction].find? (·.toText == s)

end SettlementMode

/-- A declared `int` field with `ge=1`, or `gt=0`. -/
def fieldPos [Runtime] (fields : Fields) (key : String) : Option Nat :=
  (fieldInt fields key).bind fun n => if 1 ≤ n then some n.toNat else none

def readDeclared {α : Type} (read : Fields → Option α) (fields : Fields) : Except PyError α :=
  match read fields with
  | none => raiseValue "declared field is invalid"
  | some x => .ok x

/-- Read a declared model and compare its self-hash. -/
def readHashed {α : Type} (fields : Fields) (hashKey complaint : String)
    (read : Fields → Option α) (hash : α → String) : Except PyError α := do
  let x ← readDeclared read fields
  require (hashMatches fields hashKey (hash x)) complaint
  return x

/-- `SessionSettlementProposal`; it has no self-hash. -/
structure SessionSettlementProposal where
  settlementId : String
  settlementSequence : Nat
  sessionId : String
  settlementInputRoot : String
  requestSettlementRoot : String
  usageChainRoot : String
  checkpointRoot : String
  grossSessionCharge : Nat
  cappedSessionCharge : Nat
  finalEndpointPayment : Nat
  requestedEndpointPayment : Nat
  consumerPaymentRefund : Nat
  actualNetworkFees : Nat
  consumerFeeRefund : Nat
  disputedAmount : Nat
  disputeReserve : Nat
  endpointAbsorbedAmount : Nat
  settlementMode : SettlementMode
  proposalExpiration : Option String
  deriving DecidableEq

namespace SessionSettlementProposal

/-- `model_dump(mode="json")`. -/
def toValue (x : SessionSettlementProposal) : PyValue :=
  .dict
    [("settlement_id", .str x.settlementId), ("settlement_sequence", .int x.settlementSequence),
      ("session_id", .str x.sessionId), ("settlement_input_root", .str x.settlementInputRoot),
      ("request_settlement_root", .str x.requestSettlementRoot), ("usage_chain_root",
      .str x.usageChainRoot), ("checkpoint_root", .str x.checkpointRoot),
      ("gross_session_charge_q_atoms", .int x.grossSessionCharge), ("capped_session_charge_q_atoms",
      .int x.cappedSessionCharge), ("final_endpoint_payment_q_atoms", .int x.finalEndpointPayment),
      ("requested_endpoint_payment_q_atoms", .int x.requestedEndpointPayment),
      ("consumer_payment_refund_q_atoms", .int x.consumerPaymentRefund),
      ("actual_network_fees_q_atoms", .int x.actualNetworkFees), ("consumer_fee_refund_q_atoms",
      .int x.consumerFeeRefund), ("disputed_amount_q_atoms", .int x.disputedAmount),
      ("dispute_reserve_q_atoms", .int x.disputeReserve), ("endpoint_absorbed_amount_q_atoms",
      .int x.endpointAbsorbedAmount), ("settlement_mode", .str x.settlementMode.toText),
      ("proposal_expiration", optText x.proposalExpiration)]

variable [Runtime]

def readFields (fields : Fields) : Option SessionSettlementProposal := do
  let settlementId ← fieldText fields "settlement_id" false
  let settlementSequence ← fieldPos fields "settlement_sequence"
  let sessionId ← fieldText fields "session_id" false
  let settlementInputRoot ← fieldText fields "settlement_input_root" false
  let requestSettlementRoot ← fieldText fields "request_settlement_root" false
  let usageChainRoot ← fieldText fields "usage_chain_root" false
  let checkpointRoot ← fieldText fields "checkpoint_root" false
  let grossSessionCharge ← fieldNat fields "gross_session_charge_q_atoms"
  let cappedSessionCharge ← fieldNat fields "capped_session_charge_q_atoms"
  let finalEndpointPayment ← fieldNat fields "final_endpoint_payment_q_atoms"
  let requestedEndpointPayment ← fieldNat fields "requested_endpoint_payment_q_atoms"
  let consumerPaymentRefund ← fieldNat fields "consumer_payment_refund_q_atoms"
  let actualNetworkFees ← fieldNat fields "actual_network_fees_q_atoms"
  let consumerFeeRefund ← fieldNat fields "consumer_fee_refund_q_atoms"
  let disputedAmount ← fieldNat fields "disputed_amount_q_atoms"
  let disputeReserve ← fieldNat fields "dispute_reserve_q_atoms"
  let endpointAbsorbedAmount ← fieldNat fields "endpoint_absorbed_amount_q_atoms"
  let settlementMode ← fieldLiteral fields "settlement_mode" SettlementMode.ofText
  let proposalExpiration ← fieldOptText fields "proposal_expiration"
  return {
    settlementId, settlementSequence, sessionId, settlementInputRoot, requestSettlementRoot,
    usageChainRoot, checkpointRoot, grossSessionCharge, cappedSessionCharge,
    finalEndpointPayment, requestedEndpointPayment, consumerPaymentRefund, actualNetworkFees,
    consumerFeeRefund, disputedAmount, disputeReserve, endpointAbsorbedAmount, settlementMode,
    proposalExpiration }

def modelValidate (fields : Fields) : Except PyError SessionSettlementProposal :=
  readDeclared readFields fields

end SessionSettlementProposal

structure SettlementReadyCommitment where
  sessionId : String
  settlementSequence : Nat
  sessionContractHash : String
  effectiveTermsHash : String
  fundingStateReference : String
  endpointPaymentBeneficiary : String
  consumerRefundBeneficiary : String
  requestSettlementRoot : String
  usageChainRoot : String
  checkpointRoot : String
  settlementInputRoot : String
  sessionCloseReference : String
  readyAt : String
  deriving DecidableEq

namespace SettlementReadyCommitment

/-- `model_dump(mode="json")` without the self-hash. -/
def toValue (x : SettlementReadyCommitment) : PyValue :=
  .dict
    [("session_id", .str x.sessionId), ("settlement_sequence", .int x.settlementSequence),
      ("session_contract_hash", .str x.sessionContractHash), ("effective_terms_hash",
      .str x.effectiveTermsHash), ("funding_state_reference", .str x.fundingStateReference),
      ("endpoint_payment_beneficiary", .str x.endpointPaymentBeneficiary),
      ("consumer_refund_beneficiary", .str x.consumerRefundBeneficiary), ("request_settlement_root",
      .str x.requestSettlementRoot), ("usage_chain_root", .str x.usageChainRoot),
      ("checkpoint_root", .str x.checkpointRoot), ("settlement_input_root",
      .str x.settlementInputRoot), ("session_close_reference", .str x.sessionCloseReference),
      ("ready_at", .str x.readyAt)]

def commitmentHash (x : SettlementReadyCommitment) : String := canonicalHash x.toValue

variable [Runtime]

def readFields (fields : Fields) : Option SettlementReadyCommitment := do
  let sessionId ← fieldText fields "session_id" true
  let settlementSequence ← fieldPos fields "settlement_sequence"
  let sessionContractHash ← fieldText fields "session_contract_hash" true
  let effectiveTermsHash ← fieldText fields "effective_terms_hash" true
  let fundingStateReference ← fieldText fields "funding_state_reference" true
  let endpointPaymentBeneficiary ← fieldText fields "endpoint_payment_beneficiary" true
  let consumerRefundBeneficiary ← fieldText fields "consumer_refund_beneficiary" true
  let requestSettlementRoot ← fieldText fields "request_settlement_root" true
  let usageChainRoot ← fieldText fields "usage_chain_root" true
  let checkpointRoot ← fieldText fields "checkpoint_root" true
  let settlementInputRoot ← fieldText fields "settlement_input_root" true
  let sessionCloseReference ← fieldText fields "session_close_reference" true
  let readyAt ← fieldText fields "ready_at" true
  return {
    sessionId, settlementSequence, sessionContractHash, effectiveTermsHash,
    fundingStateReference, endpointPaymentBeneficiary, consumerRefundBeneficiary,
    requestSettlementRoot, usageChainRoot, checkpointRoot, settlementInputRoot,
    sessionCloseReference, readyAt }

def modelValidate (fields : Fields) : Except PyError SettlementReadyCommitment :=
  readHashed fields "commitment_hash" "commitment_hash does not match Settlement Ready Commitment"
    readFields commitmentHash

end SettlementReadyCommitment

structure SessionSettlementAcceptance where
  settlementId : String
  sessionId : String
  settlementInputRoot : String
  acceptedEndpointPayment : Nat
  acceptedConsumerRefund : Nat
  acceptedNetworkFees : Nat
  consumerSignature : String
  acceptedAt : String
  deriving DecidableEq

namespace SessionSettlementAcceptance

/-- `model_dump(mode="json")` without the self-hash. -/
def toValue (x : SessionSettlementAcceptance) : PyValue :=
  .dict
    [("settlement_id", .str x.settlementId), ("session_id", .str x.sessionId),
      ("settlement_input_root", .str x.settlementInputRoot), ("accepted_endpoint_payment_q_atoms",
      .int x.acceptedEndpointPayment), ("accepted_consumer_refund_q_atoms",
      .int x.acceptedConsumerRefund), ("accepted_network_fees_q_atoms", .int x.acceptedNetworkFees),
      ("consumer_signature", .str x.consumerSignature), ("accepted_at", .str x.acceptedAt)]

def acceptanceHash (x : SessionSettlementAcceptance) : String := canonicalHash x.toValue

variable [Runtime]

def readFields (fields : Fields) : Option SessionSettlementAcceptance := do
  let settlementId ← fieldText fields "settlement_id" true
  let sessionId ← fieldText fields "session_id" true
  let settlementInputRoot ← fieldText fields "settlement_input_root" true
  let acceptedEndpointPayment ← fieldNat fields "accepted_endpoint_payment_q_atoms"
  let acceptedConsumerRefund ← fieldNat fields "accepted_consumer_refund_q_atoms"
  let acceptedNetworkFees ← fieldNat fields "accepted_network_fees_q_atoms"
  let consumerSignature ← fieldText fields "consumer_signature" true
  let acceptedAt ← fieldText fields "accepted_at" true
  return {
    settlementId, sessionId, settlementInputRoot, acceptedEndpointPayment,
    acceptedConsumerRefund, acceptedNetworkFees, consumerSignature, acceptedAt }

def modelValidate (fields : Fields) : Except PyError SessionSettlementAcceptance :=
  readHashed fields "acceptance_hash" "acceptance_hash does not match Settlement Acceptance"
    readFields acceptanceHash

end SessionSettlementAcceptance

structure SessionUsageCheckpoint where
  checkpointId : String
  checkpointSequence : Nat
  sessionId : String
  requestId : String
  usageReportId : String
  usageReportHash : String
  usageSequence : Nat
  calculatedCharge : Nat
  currentSessionExposure : Nat
  remainingDeposit : Nat
  accountingContractHash : String
  createdAt : String
  providerSignature : String
  consumerSignature : String
  deriving DecidableEq

namespace SessionUsageCheckpoint

/-- `model_dump(mode="json")` without the self-hash. -/
def toValue (x : SessionUsageCheckpoint) : PyValue :=
  .dict
    [("checkpoint_id", .str x.checkpointId), ("checkpoint_sequence", .int x.checkpointSequence),
      ("session_id", .str x.sessionId), ("request_id", .str x.requestId), ("usage_report_id",
      .str x.usageReportId), ("usage_report_hash", .str x.usageReportHash), ("usage_sequence",
      .int x.usageSequence), ("calculated_charge_q_atoms", .int x.calculatedCharge),
      ("current_session_exposure_q_atoms", .int x.currentSessionExposure),
      ("remaining_deposit_q_atoms", .int x.remainingDeposit), ("accounting_contract_hash",
      .str x.accountingContractHash), ("created_at", .str x.createdAt), ("provider_signature",
      .str x.providerSignature), ("consumer_signature", .str x.consumerSignature)]

def checkpointHash (x : SessionUsageCheckpoint) : String := canonicalHash x.toValue

variable [Runtime]

def readFields (fields : Fields) : Option SessionUsageCheckpoint := do
  let checkpointId ← fieldText fields "checkpoint_id" true
  let checkpointSequence ← fieldPos fields "checkpoint_sequence"
  let sessionId ← fieldText fields "session_id" true
  let requestId ← fieldText fields "request_id" true
  let usageReportId ← fieldText fields "usage_report_id" true
  let usageReportHash ← fieldText fields "usage_report_hash" true
  let usageSequence ← fieldPos fields "usage_sequence"
  let calculatedCharge ← fieldNat fields "calculated_charge_q_atoms"
  let currentSessionExposure ← fieldNat fields "current_session_exposure_q_atoms"
  let remainingDeposit ← fieldNat fields "remaining_deposit_q_atoms"
  let accountingContractHash ← fieldText fields "accounting_contract_hash" true
  let createdAt ← fieldText fields "created_at" true
  let providerSignature ← fieldText fields "provider_signature" true
  let consumerSignature ← fieldText fields "consumer_signature" true
  return {
    checkpointId, checkpointSequence, sessionId, requestId, usageReportId, usageReportHash,
    usageSequence, calculatedCharge, currentSessionExposure, remainingDeposit,
    accountingContractHash, createdAt, providerSignature, consumerSignature }

def modelValidate (fields : Fields) : Except PyError SessionUsageCheckpoint :=
  readHashed fields "checkpoint_hash" "checkpoint_hash does not match Session Usage Checkpoint"
    readFields checkpointHash

end SessionUsageCheckpoint

structure SettlementDispute where
  disputeId : String
  settlementId : String
  sessionId : String
  disputedRequestIds : List String
  disputedUsageReportIds : List String
  disputedCheckpointIds : List String
  disputeClass : String
  claimedEndpointPayment : Nat
  acceptedEndpointPayment : Nat
  disputedAmount : Nat
  evidenceRoot : String
  openedAt : String
  claimantSignature : String
  deriving DecidableEq

namespace SettlementDispute

/-- `model_dump(mode="json")` without the self-hash. -/
def toValue (x : SettlementDispute) : PyValue :=
  .dict
    [("dispute_id", .str x.disputeId), ("settlement_id", .str x.settlementId), ("session_id",
      .str x.sessionId), ("disputed_request_ids", .list (x.disputedRequestIds.map .str)),
      ("disputed_usage_report_ids", .list (x.disputedUsageReportIds.map .str)),
      ("disputed_checkpoint_ids", .list (x.disputedCheckpointIds.map .str)), ("dispute_class",
      .str x.disputeClass), ("claimed_endpoint_payment_q_atoms", .int x.claimedEndpointPayment),
      ("accepted_endpoint_payment_q_atoms", .int x.acceptedEndpointPayment),
      ("disputed_amount_q_atoms", .int x.disputedAmount), ("evidence_root", .str x.evidenceRoot),
      ("opened_at", .str x.openedAt), ("claimant_signature", .str x.claimantSignature)]

def disputeHash (x : SettlementDispute) : String := canonicalHash x.toValue

variable [Runtime]

def readFields (fields : Fields) : Option SettlementDispute := do
  let disputeId ← fieldText fields "dispute_id" true
  let settlementId ← fieldText fields "settlement_id" true
  let sessionId ← fieldText fields "session_id" true
  let disputedRequestIds ← fieldTexts fields "disputed_request_ids"
  let disputedUsageReportIds ← fieldTexts fields "disputed_usage_report_ids"
  let disputedCheckpointIds ← fieldTexts fields "disputed_checkpoint_ids"
  let disputeClass ← fieldText fields "dispute_class" true
  let claimedEndpointPayment ← fieldNat fields "claimed_endpoint_payment_q_atoms"
  let acceptedEndpointPayment ← fieldNat fields "accepted_endpoint_payment_q_atoms"
  let disputedAmount ← fieldPos fields "disputed_amount_q_atoms"
  let evidenceRoot ← fieldText fields "evidence_root" true
  let openedAt ← fieldText fields "opened_at" true
  let claimantSignature ← fieldText fields "claimant_signature" true
  return {
    disputeId, settlementId, sessionId, disputedRequestIds, disputedUsageReportIds,
    disputedCheckpointIds, disputeClass, claimedEndpointPayment, acceptedEndpointPayment,
    disputedAmount, evidenceRoot, openedAt, claimantSignature }

/-- `SettlementDispute.model_validate`, with `_validate_dispute`. -/
def modelValidate (fields : Fields) : Except PyError SettlementDispute := do
  let dispute ← readDeclared readFields fields
  require (dispute.disputedAmount ≤ ((dispute.claimedEndpointPayment : Int) -
      dispute.acceptedEndpointPayment).natAbs)
    "disputed amount exceeds the claimed payment difference"
  require (hashMatches fields "dispute_hash" dispute.disputeHash)
    "dispute_hash does not match Settlement Dispute"
  return dispute

end SettlementDispute

structure SettlementCorrection where
  correctionId : String
  settlementId : String
  correctionReason : String
  priorResultHash : String
  endpointPaymentDelta : Int
  consumerRefundDelta : Int
  networkFeeDelta : Int
  disputeReserveDelta : Int
  authorizationReference : String
  evidenceRoot : String
  createdAt : String
  correctionSignature : String
  deriving DecidableEq

namespace SettlementCorrection

/-- `model_dump(mode="json")` without the self-hash. -/
def toValue (x : SettlementCorrection) : PyValue :=
  .dict
    [("correction_id", .str x.correctionId), ("settlement_id", .str x.settlementId),
      ("correction_reason", .str x.correctionReason), ("prior_result_hash", .str x.priorResultHash),
      ("endpoint_payment_delta_q_atoms", .int x.endpointPaymentDelta),
      ("consumer_refund_delta_q_atoms", .int x.consumerRefundDelta), ("network_fee_delta_q_atoms",
      .int x.networkFeeDelta), ("dispute_reserve_delta_q_atoms", .int x.disputeReserveDelta),
      ("authorization_reference", .str x.authorizationReference), ("evidence_root",
      .str x.evidenceRoot), ("created_at", .str x.createdAt), ("correction_signature",
      .str x.correctionSignature)]

def correctionHash (x : SettlementCorrection) : String := canonicalHash x.toValue

variable [Runtime]

def readFields (fields : Fields) : Option SettlementCorrection := do
  let correctionId ← fieldText fields "correction_id" true
  let settlementId ← fieldText fields "settlement_id" true
  let correctionReason ← fieldText fields "correction_reason" true
  let priorResultHash ← fieldText fields "prior_result_hash" true
  let endpointPaymentDelta ← fieldInt fields "endpoint_payment_delta_q_atoms"
  let consumerRefundDelta ← fieldInt fields "consumer_refund_delta_q_atoms"
  let networkFeeDelta ← fieldInt fields "network_fee_delta_q_atoms"
  let disputeReserveDelta ← fieldIntD fields "dispute_reserve_delta_q_atoms" 0
  let authorizationReference ← fieldText fields "authorization_reference" true
  let evidenceRoot ← fieldText fields "evidence_root" true
  let createdAt ← fieldText fields "created_at" true
  let correctionSignature ← fieldText fields "correction_signature" true
  return {
    correctionId, settlementId, correctionReason, priorResultHash, endpointPaymentDelta,
    consumerRefundDelta, networkFeeDelta, disputeReserveDelta, authorizationReference,
    evidenceRoot, createdAt, correctionSignature }

/-- `SettlementCorrection.model_validate`, with `_validate_correction`. -/
def modelValidate (fields : Fields) : Except PyError SettlementCorrection := do
  let correction ← readDeclared readFields fields
  require (correction.endpointPaymentDelta + correction.consumerRefundDelta +
      correction.networkFeeDelta + correction.disputeReserveDelta = 0)
    "Settlement correction must conserve Q including reserve"
  require (hashMatches fields "correction_hash" correction.correctionHash)
    "correction_hash does not match Settlement Correction"
  return correction

end SettlementCorrection

/-- The declared fields of `AtomicSettlementTransition`. -/
structure TransitionFields where
  sessionId : String
  settlementId : String
  endpointPaymentBeneficiary : String
  consumerRefundBeneficiary : String
  previouslyReleasedToEndpoint : Nat
  previouslyRefundedToConsumer : Nat
  previouslyConsumedNetworkFees : Nat
  creditEndpoint : Nat
  creditConsumer : Nat
  consumeNetworkFees : Nat
  retainDisputeReserve : Nat
  postpaidObligation : Nat
  totalLockedAmount : Nat

namespace TransitionFields

/-- `model_dump(mode="json")` without the self-hash. -/
def toValue (x : TransitionFields) : PyValue :=
  .dict
    [("session_id", .str x.sessionId), ("settlement_id", .str x.settlementId),
      ("endpoint_payment_beneficiary", .str x.endpointPaymentBeneficiary),
      ("consumer_refund_beneficiary", .str x.consumerRefundBeneficiary),
      ("previously_released_to_endpoint_q_atoms", .int x.previouslyReleasedToEndpoint),
      ("previously_refunded_to_consumer_q_atoms", .int x.previouslyRefundedToConsumer),
      ("previously_consumed_network_fees_q_atoms", .int x.previouslyConsumedNetworkFees),
      ("credit_endpoint_q_atoms", .int x.creditEndpoint), ("credit_consumer_q_atoms",
      .int x.creditConsumer), ("consume_network_fees_q_atoms", .int x.consumeNetworkFees),
      ("retain_dispute_reserve_q_atoms", .int x.retainDisputeReserve),
      ("postpaid_obligation_q_atoms", .int x.postpaidObligation), ("total_locked_amount_q_atoms",
      .int x.totalLockedAmount)]

def transitionHash (x : TransitionFields) : String := canonicalHash x.toValue

variable [Runtime]

def readFields (fields : Fields) : Option TransitionFields := do
  let sessionId ← fieldText fields "session_id" false
  let settlementId ← fieldText fields "settlement_id" false
  let endpointPaymentBeneficiary ← fieldText fields "endpoint_payment_beneficiary" false
  let consumerRefundBeneficiary ← fieldText fields "consumer_refund_beneficiary" false
  let previouslyReleasedToEndpoint ← fieldNat fields "previously_released_to_endpoint_q_atoms"
  let previouslyRefundedToConsumer ← fieldNat fields "previously_refunded_to_consumer_q_atoms"
  let previouslyConsumedNetworkFees ← fieldNat fields "previously_consumed_network_fees_q_atoms"
  let creditEndpoint ← fieldNat fields "credit_endpoint_q_atoms"
  let creditConsumer ← fieldNat fields "credit_consumer_q_atoms"
  let consumeNetworkFees ← fieldNat fields "consume_network_fees_q_atoms"
  let retainDisputeReserve ← fieldNat fields "retain_dispute_reserve_q_atoms"
  let postpaidObligation ← fieldNatD fields "postpaid_obligation_q_atoms" 0
  let totalLockedAmount ← fieldNat fields "total_locked_amount_q_atoms"
  return {
    sessionId, settlementId, endpointPaymentBeneficiary, consumerRefundBeneficiary,
    previouslyReleasedToEndpoint, previouslyRefundedToConsumer, previouslyConsumedNetworkFees,
    creditEndpoint, creditConsumer, consumeNetworkFees, retainDisputeReserve,
    postpaidObligation, totalLockedAmount }

end TransitionFields

/-- `AtomicSettlementTransition`: a distribution of the whole locked amount. -/
structure AtomicSettlementTransition extends TransitionFields where
  conserved : previouslyReleasedToEndpoint + previouslyRefundedToConsumer +
    previouslyConsumedNetworkFees + creditEndpoint + creditConsumer + consumeNetworkFees +
    retainDisputeReserve = totalLockedAmount

/-- `AtomicSettlementTransition.model_validate`, with `_validate_atomic_conservation`. -/
def AtomicSettlementTransition.modelValidate [Runtime] (fields : Fields) :
    Except PyError AtomicSettlementTransition := do
  let t ← readDeclared TransitionFields.readFields fields
  if h : t.previouslyReleasedToEndpoint + t.previouslyRefundedToConsumer +
      t.previouslyConsumedNetworkFees + t.creditEndpoint + t.creditConsumer +
      t.consumeNetworkFees + t.retainDisputeReserve = t.totalLockedAmount then
    require (hashMatches fields "transition_hash" t.transitionHash)
      "transition_hash does not match Settlement transition"
    return ⟨t, h⟩
  else raiseValue "atomic Settlement transition does not conserve locked funds"

end AidnSpec.Ledger
