import AidnSpec.Ledger.Proposal

/-!
# Settlement payouts

`ledger/service.py:7781–8668`: partial finalization, correction, finalization and forced settlement.
Each records its envelope, credits the two beneficiaries and only then rebuilds the funding account
through the validating constructor, so an account that does not conserve its reserves raises after
the credits.
-/

namespace AidnSpec.Ledger

open Base

variable [Runtime]

/-- The rebuilt account as an operation: an exception keeps what was done before. -/
def rebuildFunding (funding : SessionFundingAccount) (updates : FundingFields → FundingFields) :
    LedgerM SessionFundingAccount :=
  check fun _ => withFundingUpdates funding updates

/-- `self._settlement_transition_hashes[settlement_id] = hash`. -/
def putTransitionHash (settlementId hash : String) : LedgerM Unit :=
  modify fun L => { L with
    settlementTransitionHashes := L.settlementTransitionHashes.set settlementId hash }

/-- A validated distribution of a session's funding by an accepted proposal. -/
structure Distribution where
  transition : AtomicSettlementTransition
  proposal : SessionSettlementProposal
  funding : SessionFundingAccount

/-- The beneficiaries and the prior amounts that a transition repeats from the account. -/
def requirePriorAmounts (label : String) (transition : AtomicSettlementTransition)
    (funding : SessionFundingAccount) : Except PyError Unit := do
  require (transition.endpointPaymentBeneficiary == funding.endpointPaymentBeneficiary &&
      transition.consumerRefundBeneficiary == funding.consumerRefundBeneficiary)
    (label ++ " beneficiaries do not match funding")
  require ((transition.totalLockedAmount : Int) == funding.totalLockedAmount)
    (label ++ " amount does not match funding")
  require ((transition.previouslyReleasedToEndpoint : Int) == funding.releasedToEndpoint)
    (label ++ " prior Endpoint release is invalid")
  require ((transition.previouslyRefundedToConsumer : Int) ==
      funding.consumerPaymentRefund + funding.consumerFeeRefund)
    (label ++ " prior Consumer refund is invalid")
  require ((transition.previouslyConsumedNetworkFees : Int) == funding.consumedNetworkFees)
    (label ++ " prior Network Fees are invalid")

/-- The credits of a transition are what the proposal adds to the account. -/
def requireProposedCredits (label : String) (transition : AtomicSettlementTransition)
    (proposal : SessionSettlementProposal) (funding : SessionFundingAccount) :
    Except PyError Unit := do
  require ((transition.creditEndpoint : Int) ==
      proposal.finalEndpointPayment - funding.releasedToEndpoint)
    (label ++ " Endpoint Payment is invalid")
  require ((transition.creditConsumer : Int) ==
      proposal.consumerPaymentRefund + proposal.consumerFeeRefund -
        funding.consumerPaymentRefund - funding.consumerFeeRefund)
    (label ++ " Consumer refund is invalid")
  require ((transition.consumeNetworkFees : Int) ==
      proposal.actualNetworkFees - funding.consumedNetworkFees)
    (label ++ " Network Fees are invalid")
  require (transition.retainDisputeReserve == proposal.disputeReserve)
    (label ++ " dispute reserve is invalid")

/-- The account that a proposal leaves behind. -/
def distributed (proposal : SessionSettlementProposal) (state : FundingState)
    (f : FundingFields) : FundingFields :=
  { f with
    releasedToEndpoint := proposal.finalEndpointPayment
    consumerPaymentRefund := proposal.consumerPaymentRefund
    consumerFeeRefund := proposal.consumerFeeRefund
    consumedNetworkFees := proposal.actualNetworkFees
    activeDisputeReserve := proposal.disputeReserve
    unsettledPaymentReserve := 0
    unsettledFeeReserve := 0
    fundingState := state }

/-- Credit both beneficiaries, rebuild the account and remember the transition. -/
def distribute (d : Distribution) (state : FundingState) : LedgerM Unit := do
  creditForSession d.transition.sessionId .endpoint d.transition.endpointPaymentBeneficiary
    d.transition.creditEndpoint
  creditForSession d.transition.sessionId .consumer d.transition.consumerRefundBeneficiary
    d.transition.creditConsumer
  let next ← rebuildFunding d.funding (distributed d.proposal state)
  putFunding d.transition.sessionId next
  putTransitionHash d.transition.settlementId d.transition.transitionHash

/-! ## Partial finalization -/

/-- `validate_consensus_settlement_partial_finalize`. -/
def validateSettlementPartialFinalize (env : Envelope) (finalized : FinalizedIds)
    (L : LedgerState) : Except PyError Distribution := do
  require (env.operationType == "SESSION_SETTLEMENT_PARTIAL_FINALIZE")
    "partial Settlement finalization requires SESSION_SETTLEMENT_PARTIAL_FINALIZE"
  require (env.originType == .multiParty)
    "partial Settlement finalization requires multi-party origin"
  require (hasSessionFeePayer env)
    "partial Settlement finalization requires a session fee payer"
  let payload := env.payload
  let members ← requireDict payload "transition"
    "partial Settlement finalization transition is required"
  requireTexts payload "partial Settlement finalization field is invalid: "
    ["session_id", "settlement_input_root", "proposal_operation_id", "acceptance_operation_id",
      "dispute_operation_id", "acceptance_hash", "dispute_hash"]
  let transition ← rewrap "partial Settlement transition is invalid: "
    (AtomicSettlementTransition.modelValidate members)
  let proposal ← requireProposal L transition.settlementId
  let acceptance ← requireStored (L.settlementAcceptances.get? transition.settlementId)
    "Settlement acceptance is required"
  let dispute ← requireStored (L.settlementDisputes.get? transition.settlementId)
    "Settlement dispute is required"
  let funding ← requireFunding L transition.sessionId "Session Funding Account is not found"
  require (env.feePayer == some funding.consumerFundingAccount)
    "partial Settlement finalization fee payer is not the Consumer"
  require (proposal.settlementMode == .partialUndisputed)
    "partial Settlement finalization requires disputed proposal"
  require (0 < proposal.disputeReserve && proposal.disputedAmount == proposal.disputeReserve &&
      dispute.disputedAmount == proposal.disputeReserve)
    "partial Settlement dispute reserve is invalid"
  require (!(funding.fundingState.isFinal || funding.fundingState == .disputeReserved))
    "Session funding account is already finalized or disputed"
  require (L.settlementTransitionHashes.get? transition.settlementId).isNone
    "Settlement transition is already finalized"
  let proposalOperationId := payload.text "proposal_operation_id"
  let acceptanceOperationId := payload.text "acceptance_operation_id"
  let disputeOperationId := payload.text "dispute_operation_id"
  let proposalOperation ← requireFinalizedDependency L proposalOperationId
    "SESSION_SETTLEMENT_PROPOSE" finalized "Settlement proposal is not finalized"
  let acceptanceOperation ← requireFinalizedDependency L acceptanceOperationId
    "SESSION_SETTLEMENT_ACCEPT" finalized "Settlement acceptance is not finalized"
  let disputeOperation ← requireFinalizedDependency L disputeOperationId
    "SESSION_SETTLEMENT_DISPUTE" finalized "Settlement dispute is not finalized"
  let invalid := "Settlement partial-finalize dependency payload is invalid"
  let recordedProposal ← recordedModel proposalOperation "proposal"
    SessionSettlementProposal.modelValidate invalid invalid
  let recordedAcceptance ← recordedModel acceptanceOperation "acceptance"
    SessionSettlementAcceptance.modelValidate invalid invalid
  let recordedDispute ← recordedModel disputeOperation "dispute" SettlementDispute.modelValidate
    invalid invalid
  require (recordedProposal == proposal && recordedAcceptance == acceptance &&
      recordedDispute == dispute)
    "Settlement partial-finalize dependency binding is invalid"
  require (payload.text "session_id" == proposal.sessionId &&
      payload.text "settlement_input_root" == proposal.settlementInputRoot &&
      payload.text "acceptance_hash" == acceptance.acceptanceHash &&
      payload.text "dispute_hash" == dispute.disputeHash &&
      transition.sessionId == proposal.sessionId)
    "Settlement partial-finalize binding is invalid"
  requireReferenced env.evidenceReferences
    "Settlement partial-finalize evidence is not referenced"
    [proposalOperationId, acceptanceOperationId, disputeOperationId, proposal.settlementInputRoot,
      transition.settlementId, acceptance.acceptanceHash, dispute.disputeHash, dispute.evidenceRoot]
  requirePriorAmounts "Settlement partial-finalize" transition funding
  requireProposedCredits "Settlement partial-finalize" transition proposal funding
  return ⟨transition, proposal, funding⟩

/-- `apply_consensus_settlement_partial_finalize`. -/
def applySettlementPartialFinalize (env : Envelope) (finalized : FinalizedIds) :
    LedgerM LedgerOperationRecord :=
  applyConsensus (validateSettlementPartialFinalize env finalized)
    (fun _ => ["SessionSettlementPartiallyFinalized"]) env fun d => distribute d .disputeReserved

/-! ## Correction -/

/-- `validate_consensus_settlement_correct`. -/
def validateSettlementCorrect (env : Envelope) (finalized : FinalizedIds) (L : LedgerState) :
    Except PyError (SettlementCorrection × SessionFundingAccount) := do
  require (env.operationType == "SESSION_SETTLEMENT_CORRECT")
    "Settlement correction requires SESSION_SETTLEMENT_CORRECT"
  require (env.originType == .multiParty) "Settlement correction requires multi-party origin"
  require (hasSessionFeePayer env) "Settlement correction requires a session fee payer"
  require (2 ≤ env.signatures.length)
    "Settlement correction requires both participant signatures"
  let payload := env.payload
  requireTexts payload "Settlement correction field is invalid: "
    ["session_id", "settlement_id", "settlement_input_root", "partial_finalize_operation_id",
      "endpoint_payment_beneficiary", "consumer_refund_beneficiary"]
  let members ← requireDict payload "correction"
    "Settlement correction payload is missing correction"
  let correction ← rewrap "Settlement correction is invalid: "
    (SettlementCorrection.modelValidate members)
  let sessionId := payload.text "session_id"
  let settlementId := payload.text "settlement_id"
  let proposal ← requireProposal L settlementId
  let dispute ← requireStored (L.settlementDisputes.get? settlementId)
    "Settlement dispute is not found"
  let funding ← requireFunding L sessionId "Session Funding Account is not found"
  require (proposal.sessionId == sessionId && dispute.sessionId == sessionId)
    "Settlement correction Session binding is invalid"
  require (correction.settlementId == settlementId)
    "Settlement correction Settlement binding is invalid"
  require (payload.text "settlement_input_root" == proposal.settlementInputRoot)
    "Settlement correction Input Root is invalid"
  require (env.feePayer == some funding.consumerFundingAccount)
    "Settlement correction fee payer is not the Consumer"
  require (payload.text "endpoint_payment_beneficiary" == funding.endpointPaymentBeneficiary &&
      payload.text "consumer_refund_beneficiary" == funding.consumerRefundBeneficiary)
    "Settlement correction beneficiaries do not match funding"
  require (funding.fundingState == .disputeReserved)
    "Settlement correction requires DISPUTE_RESERVED funding"
  let reserve := funding.activeDisputeReserve
  require (0 < reserve) "Settlement correction requires an active dispute reserve"
  require ((proposal.disputeReserve : Int) == reserve && (dispute.disputedAmount : Int) == reserve)
    "Settlement correction dispute reserve does not match funding"
  require (!L.settlementCorrections.contains correction.correctionId)
    "Settlement correction is already committed"
  require (!L.settlementCorrections.values.any (·.settlementId == settlementId))
    "Settlement already has a correction"
  require (L.settlementTransitionHashes.get? settlementId == some correction.priorResultHash)
    "Settlement correction prior result does not match partial finalization"
  require (correction.networkFeeDelta == 0) "MVP Settlement correction cannot change Network Fees"
  require (correction.disputeReserveDelta == -reserve)
    "Settlement correction must consume the active dispute reserve"
  require (0 ≤ correction.endpointPaymentDelta && 0 ≤ correction.consumerRefundDelta &&
      correction.endpointPaymentDelta + correction.consumerRefundDelta == reserve)
    "Settlement correction reserve allocation is invalid"
  let operationId := payload.text "partial_finalize_operation_id"
  let operation ← requireFinalizedDependency L operationId "SESSION_SETTLEMENT_PARTIAL_FINALIZE"
    finalized "Settlement partial finalization is not finalized"
  let invalid := "Settlement partial finalization transition is invalid"
  let transition ← recordedModel operation "transition" AtomicSettlementTransition.modelValidate
    invalid invalid
  require (transition.sessionId == sessionId && transition.settlementId == settlementId &&
      transition.transitionHash == correction.priorResultHash &&
      PyValue.get operation.payload "settlement_input_root" == .str proposal.settlementInputRoot)
    "Settlement correction partial-finalization binding is invalid"
  require ((transition.retainDisputeReserve : Int) == reserve)
    "Settlement correction partial-finalization reserve is invalid"
  requireReferenced env.evidenceReferences "Settlement correction evidence is not referenced"
    [operationId, proposal.settlementInputRoot, correction.correctionId, correction.correctionHash,
      correction.priorResultHash, correction.authorizationReference, correction.evidenceRoot]
  return (correction, funding)

def correctedState (funding : SessionFundingAccount) (released : Int) : FundingState :=
  if funding.unsettledPaymentReserve = 0 ∧ funding.unsettledFeeReserve = 0 then
    if 0 < released then .released else .refunded
  else .partiallyReleased

def corrected (correction : SettlementCorrection) (funding : SessionFundingAccount)
    (f : FundingFields) : FundingFields :=
  let released := funding.releasedToEndpoint + correction.endpointPaymentDelta
  { f with
    releasedToEndpoint := released
    consumerPaymentRefund := funding.consumerPaymentRefund + correction.consumerRefundDelta
    activeDisputeReserve := 0
    fundingState := correctedState funding released }

/-- `apply_consensus_settlement_correct`. -/
def applySettlementCorrect (env : Envelope) (finalized : FinalizedIds) :
    LedgerM LedgerOperationRecord :=
  applyConsensus (validateSettlementCorrect env finalized)
    (fun _ => ["SessionSettlementCorrected", "SessionSettlementDisputeResolved"]) env
    fun (correction, funding) => do
    creditForSession funding.sessionId .endpoint funding.endpointPaymentBeneficiary
      correction.endpointPaymentDelta
    creditForSession funding.sessionId .consumer funding.consumerRefundBeneficiary
      correction.consumerRefundDelta
    let next ← rebuildFunding funding (corrected correction funding)
    putFunding funding.sessionId next
    modify fun L => { L with
      settlementCorrections := L.settlementCorrections.set correction.correctionId correction }

/-! ## Finalization -/

/-- `validate_consensus_settlement_finalize`. -/
def validateSettlementFinalize (env : Envelope) (finalized : FinalizedIds) (L : LedgerState) :
    Except PyError Distribution := do
  require (env.operationType == "SESSION_SETTLEMENT_FINALIZE")
    "consensus Settlement finalization requires SESSION_SETTLEMENT_FINALIZE"
  require (env.originType == .multiParty) "Settlement finalization requires multi-party origin"
  require (hasSessionFeePayer env) "Settlement finalization requires a session fee payer"
  let payload := env.payload
  let members ← requireDict payload "transition"
    "Settlement finalization payload is missing transition"
  requireTexts payload "Settlement finalization field is invalid: "
    ["proposal_operation_id", "acceptance_operation_id", "acceptance_hash"]
  let transition ← rewrap "Settlement transition is invalid: "
    (AtomicSettlementTransition.modelValidate members)
  let proposal ← requireProposal L transition.settlementId
  let acceptance ← requireStored (L.settlementAcceptances.get? transition.settlementId)
    "Settlement acceptance is required"
  let funding ← requireFunding L transition.sessionId "Session Funding Account is not found"
  let proposalOperationId := payload.text "proposal_operation_id"
  let acceptanceOperationId := payload.text "acceptance_operation_id"
  let proposalOperation ← requireFinalizedDependency L proposalOperationId
    "SESSION_SETTLEMENT_PROPOSE" finalized "Settlement proposal is not finalized"
  let acceptanceOperation ← requireFinalizedDependency L acceptanceOperationId
    "SESSION_SETTLEMENT_ACCEPT" finalized "Settlement acceptance is not finalized"
  let proposalMembers ← requireDict proposalOperation.payload "proposal"
    "Settlement dependency payload is incomplete"
  let acceptanceMembers ← requireDict acceptanceOperation.payload "acceptance"
    "Settlement dependency payload is incomplete"
  let recordedProposal ← orRaise "Settlement dependency payload is invalid"
    (SessionSettlementProposal.modelValidate proposalMembers)
  let recordedAcceptance ← orRaise "Settlement dependency payload is invalid"
    (SessionSettlementAcceptance.modelValidate acceptanceMembers)
  require (recordedProposal == proposal && recordedAcceptance == acceptance)
    "Settlement finalization dependency binding is invalid"
  require (env.evidenceReferences.contains proposalOperationId &&
      env.evidenceReferences.contains acceptanceOperationId)
    "Settlement finalization dependency is not referenced"
  require (PyValue.get payload "session_id" == .str proposal.sessionId &&
      PyValue.get payload "settlement_input_root" == .str proposal.settlementInputRoot &&
      payload.text "acceptance_hash" == acceptance.acceptanceHash &&
      transition.sessionId == proposal.sessionId)
    "Settlement finalization binding is invalid"
  require (env.feePayer == some funding.consumerFundingAccount)
    "Settlement finalization fee payer is not the Consumer"
  require (!funding.fundingState.isFinal) "Session funding account is already finalized"
  require (proposal.disputeReserve == 0)
    "Settlement with dispute reserve requires partial finalization"
  require (L.settlementTransitionHashes.get? transition.settlementId).isNone
    "Settlement transition is already finalized"
  requirePriorAmounts "Settlement finalization" transition funding
  requireProposedCredits "Settlement finalization" transition proposal funding
  require (env.evidenceReferences.contains transition.settlementId)
    "Settlement finalization settlement ID is not referenced"
  require (env.evidenceReferences.contains proposal.settlementInputRoot)
    "Settlement finalization input root is not referenced"
  return ⟨transition, proposal, funding⟩

/-- `apply_consensus_settlement_finalize`. -/
def applySettlementFinalize (env : Envelope) (finalized : FinalizedIds) :
    LedgerM LedgerOperationRecord :=
  applyConsensus (validateSettlementFinalize env finalized)
    (fun _ => ["SessionSettlementFinalized"]) env fun d =>
      distribute d (if d.proposal.disputeReserve ≠ 0 then .disputeReserved else .released)

end AidnSpec.Ledger
