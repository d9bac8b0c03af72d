import AidnSpec.Ledger.Escrow

/-!
# Settlement proposals

`ledger/service.py:7305–7779`: readiness commitments, proposals, acceptances and disputes. None of
them moves funds. A proposal is checked against the funding account of its moment and stored;
several proposals of one session can be stored and accepted side by side.
-/

namespace AidnSpec.Ledger

open Base

variable [Runtime]

/-- A member that must be a non-blank text. -/
def requireText (fields : Fields) (key complaint : String) : Except PyError String := do
  require (fields.hasText key) complaint
  return fields.text key

def requireProposal (L : LedgerState) (settlementId : String) :
    Except PyError SessionSettlementProposal :=
  requireStored (L.settlementProposals.get? settlementId) "Settlement proposal is not found"

/-- `except ValueError as error: raise ValueError(complaint) from error`. -/
def orRaise {α : Type} (complaint : String) (x : Except PyError α) : Except PyError α :=
  match x with
  | .ok a => .ok a
  | .error _ => raiseValue complaint

omit [Runtime] in
@[simp] theorem orRaise_eq_ok {α : Type} {complaint : String} {x : Except PyError α} {a : α} :
    orRaise complaint x = .ok a ↔ x = .ok a := by
  cases x <;> simp [orRaise, raiseValue]

/-- A declared model that an earlier operation carries under a key. -/
def recordedModel {α : Type} (operation : LedgerOperationRecord) (key : String)
    (modelValidate : Fields → Except PyError α) (incomplete invalid : String) :
    Except PyError α := do
  let members ← requireDict operation.payload key incomplete
  orRaise invalid (modelValidate members)

/-! ## Readiness -/

/-- `validate_consensus_settlement_ready_commit`. -/
def validateSettlementReadyCommit (env : Envelope) (finalized : FinalizedIds)
    (L : LedgerState) : Except PyError SettlementReadyCommitment := do
  require (env.operationType == "SESSION_SETTLEMENT_READY_COMMIT")
    "Settlement readiness requires SESSION_SETTLEMENT_READY_COMMIT"
  require (env.originType == .multiParty) "Settlement readiness requires multi-party origin"
  require (hasSessionFeePayer env) "Settlement readiness requires a session fee payer"
  let payload := env.payload
  let members ← requireDict payload "ready" "Settlement readiness payload is missing ready"
  let predecessor ← requireText payload "funding_predecessor_operation_id"
    "Settlement readiness funding predecessor is invalid"
  let ready ← rewrap "Settlement readiness is invalid: "
    (SettlementReadyCommitment.modelValidate members)
  require (PyValue.get payload "session_id" == .str ready.sessionId)
    "Settlement readiness session binding is invalid"
  require (ready.settlementSequence == 1)
    "Settlement readiness only supports sequence one in the MVP profile"
  let funding ← requireFunding L ready.sessionId "Session Funding Account is not locked"
  require (env.feePayer == some funding.consumerFundingAccount)
    "Settlement readiness fee payer is not the Consumer"
  require (ready.fundingStateReference == funding.fundingStateHash)
    "Settlement readiness funding state does not match"
  require (some ready.sessionContractHash == funding.sessionContractHash)
    "Settlement readiness Session Contract does not match"
  require (ready.endpointPaymentBeneficiary == funding.endpointPaymentBeneficiary &&
      ready.consumerRefundBeneficiary == funding.consumerRefundBeneficiary)
    "Settlement readiness beneficiaries do not match funding"
  requireFundingPredecessor L predecessor funding finalized env.evidenceReferences
    "Settlement readiness funding predecessor is not finalized"
  requireReferenced env.evidenceReferences "Settlement readiness evidence is not referenced"
    [ready.settlementInputRoot, ready.commitmentHash, ready.sessionCloseReference]
  match L.settlementReadyCommits.get? ready.sessionId with
  | some existing =>
    if existing ≠ ready then raiseValue "conflicting Settlement readiness commitment"
    else raiseValue "Settlement readiness is already committed"
  | none => return ready

/-- `apply_consensus_settlement_ready_commit`. -/
def applySettlementReadyCommit (env : Envelope) (finalized : FinalizedIds) :
    LedgerM LedgerOperationRecord :=
  applyConsensus (validateSettlementReadyCommit env finalized)
    (fun _ => ["SessionSettlementReadyCommitted"]) env fun ready => modify fun L => { L with
      settlementReadyCommits := L.settlementReadyCommits.set ready.sessionId ready }

/-! ## Proposal -/

/-- The funding predecessor that a proposal cites, under its current or its legacy key. -/
def proposalPredecessor (payload : Fields) : Except PyError String :=
  if payload.hasText "funding_predecessor_operation_id" then
    match PyValue.get payload "funding_lock_operation_id" with
    | .str legacy =>
      if legacy = payload.text "funding_predecessor_operation_id" then .ok legacy
      else raiseValue "Settlement proposal funding predecessor fields conflict"
    | _ => .ok (payload.text "funding_predecessor_operation_id")
  else
    requireText payload "funding_lock_operation_id"
      "Settlement proposal field is invalid: funding_predecessor_operation_id"

/-- A proposal against the readiness commitment of its session, when there is one. -/
def requireReadiness (L : LedgerState) (env : Envelope) (finalized : FinalizedIds)
    (proposal : SessionSettlementProposal) : Except PyError Unit := do
  match L.settlementReadyCommits.get? proposal.sessionId with
  | none => return ()
  | some ready =>
    let operationId ← requireText env.payload "settlement_ready_operation_id"
      "Settlement proposal requires finalized readiness commitment"
    let operation ← requireFinalizedDependency L operationId "SESSION_SETTLEMENT_READY_COMMIT"
      finalized "Settlement readiness commitment is not finalized"
    let recorded ← recordedModel operation "ready" SettlementReadyCommitment.modelValidate
      "Settlement readiness operation payload is incomplete"
      "Settlement readiness operation payload is invalid"
    require (recorded == ready) "Settlement readiness commitment binding is invalid"
    require (env.evidenceReferences.contains operationId)
      "Settlement readiness commitment is not referenced"
    require (ready.settlementInputRoot == proposal.settlementInputRoot &&
        ready.requestSettlementRoot == proposal.requestSettlementRoot &&
        ready.usageChainRoot == proposal.usageChainRoot &&
        ready.checkpointRoot == proposal.checkpointRoot &&
        ready.fundingStateReference == env.payload.text "funding_state_reference")
      "Settlement proposal does not match readiness commitment"

def requireProposedAmounts (proposal : SessionSettlementProposal)
    (funding : SessionFundingAccount) : Except PyError Unit := do
  require (proposal.cappedSessionCharge ≤ funding.endpointPaymentReserve)
    "Settlement charge exceeds Endpoint Payment reserve"
  require (proposal.finalEndpointPayment ≤ proposal.cappedSessionCharge)
    "Settlement Endpoint Payment exceeds capped charge"
  require (funding.releasedToEndpoint ≤ proposal.finalEndpointPayment)
    "Settlement Endpoint Payment is below prior release"
  require (funding.consumerPaymentRefund + funding.consumerFeeRefund ≤
      (proposal.consumerPaymentRefund : Int) + proposal.consumerFeeRefund)
    "Settlement Consumer refund is below prior refund"
  require (funding.consumedNetworkFees ≤ proposal.actualNetworkFees)
    "Settlement Network Fees are below prior consumption"
  require ((proposal.finalEndpointPayment : Int) + proposal.consumerPaymentRefund +
      proposal.disputeReserve == funding.endpointPaymentReserve)
    "Settlement Endpoint Payment reserve is not conserved"
  require ((proposal.actualNetworkFees : Int) + proposal.consumerFeeRefund ==
      funding.networkFeeReserve)
    "Settlement Network Fee reserve is not conserved"
  require ((proposal.requestedEndpointPayment : Int) ==
      proposal.finalEndpointPayment - funding.releasedToEndpoint)
    "Settlement requested Endpoint Payment is invalid"

/-- `validate_consensus_settlement_propose`. -/
def validateSettlementPropose (env : Envelope) (finalized : FinalizedIds) (L : LedgerState) :
    Except PyError SessionSettlementProposal := do
  require (env.operationType == "SESSION_SETTLEMENT_PROPOSE")
    "consensus Settlement proposal requires SESSION_SETTLEMENT_PROPOSE"
  require (env.originType == .multiParty) "Settlement proposal requires multi-party origin"
  require (hasSessionFeePayer env) "Settlement proposal requires a session fee payer"
  let payload := env.payload
  let members ← requireDict payload "proposal" "Settlement proposal payload is missing proposal"
  requireTexts payload "Settlement proposal field is invalid: "
    ["funding_state_reference", "endpoint_payment_beneficiary", "consumer_refund_beneficiary"]
  let predecessor ← proposalPredecessor payload
  let proposal ← rewrap "Settlement proposal is invalid: "
    (SessionSettlementProposal.modelValidate members)
  requireEach ("Settlement proposal field is invalid: " ++ ·)
    [("settlement_id", !isBlank proposal.settlementId), ("session_id", !isBlank proposal.sessionId),
      ("settlement_input_root", !isBlank proposal.settlementInputRoot), ("request_settlement_root",
      !isBlank proposal.requestSettlementRoot), ("usage_chain_root",
      !isBlank proposal.usageChainRoot), ("checkpoint_root", !isBlank proposal.checkpointRoot)]
  require (PyValue.get payload "session_id" == .str proposal.sessionId)
    "Settlement proposal session binding is invalid"
  let funding ← requireFunding L proposal.sessionId "Session Funding Account is not locked"
  require (env.feePayer == some funding.consumerFundingAccount)
    "Settlement proposal fee payer is not the Consumer"
  require (payload.text "funding_state_reference" == funding.fundingStateHash)
    "Settlement proposal funding state does not match"
  require (payload.text "endpoint_payment_beneficiary" == funding.endpointPaymentBeneficiary &&
      payload.text "consumer_refund_beneficiary" == funding.consumerRefundBeneficiary)
    "Settlement proposal beneficiaries do not match funding"
  if proposal.settlementMode = .partialUndisputed then
    require (0 < proposal.disputedAmount && 0 < proposal.disputeReserve &&
        proposal.disputedAmount == proposal.disputeReserve)
      "partial Settlement dispute reserve is invalid"
  else
    require (proposal.disputedAmount == 0 && proposal.disputeReserve == 0)
      "Settlement dispute amounts require PARTIAL_UNDISPUTED mode"
  requireFundingPredecessor L predecessor funding finalized env.evidenceReferences
    "Settlement proposal funding predecessor is not finalized"
  require (env.evidenceReferences.contains proposal.settlementInputRoot)
    "Settlement proposal input root is not referenced"
  requireReadiness L env finalized proposal
  require (!L.settlementProposals.contains proposal.settlementId)
    "Settlement proposal is already committed"
  require (!funding.fundingState.isFinal) "Session funding account is already finalized"
  requireProposedAmounts proposal funding
  return proposal

/-- `apply_consensus_settlement_propose`. -/
def applySettlementPropose (env : Envelope) (finalized : FinalizedIds) :
    LedgerM LedgerOperationRecord :=
  applyConsensus (validateSettlementPropose env finalized) (fun _ => ["SessionSettlementProposed"])
    env fun proposal => modify fun L => { L with
      settlementProposals := L.settlementProposals.set proposal.settlementId proposal }

/-! ## Acceptance and dispute -/

/-- `validate_consensus_settlement_accept`. -/
def validateSettlementAccept (env : Envelope) (finalized : FinalizedIds) (L : LedgerState) :
    Except PyError SessionSettlementAcceptance := do
  require (env.operationType == "SESSION_SETTLEMENT_ACCEPT")
    "consensus Settlement acceptance requires SESSION_SETTLEMENT_ACCEPT"
  require (env.originType == .multiParty) "Settlement acceptance requires multi-party origin"
  require (hasSessionFeePayer env) "Settlement acceptance requires a session fee payer"
  let payload := env.payload
  let members ← requireDict payload "acceptance"
    "Settlement acceptance payload is missing acceptance"
  let proposalOperationId ← requireText payload "proposal_operation_id"
    "Settlement acceptance proposal operation is invalid"
  let consumerWallet ← requireText payload "consumer_wallet"
    "Settlement acceptance consumer wallet is invalid"
  let acceptance ← rewrap "Settlement acceptance is invalid: "
    (SessionSettlementAcceptance.modelValidate members)
  let proposal ← requireProposal L acceptance.settlementId
  let funding ← requireFunding L proposal.sessionId "Session Funding Account is not found"
  let operation ← requireFinalizedDependency L proposalOperationId "SESSION_SETTLEMENT_PROPOSE"
    finalized "Settlement proposal is not finalized"
  let recorded ← recordedModel operation "proposal" SessionSettlementProposal.modelValidate
    "Settlement proposal operation payload is missing proposal"
    "Settlement proposal operation payload is invalid"
  require (recorded == proposal) "Settlement acceptance proposal binding is invalid"
  require (env.evidenceReferences.contains proposalOperationId)
    "Settlement acceptance proposal is not referenced"
  require (env.feePayer == some funding.consumerFundingAccount)
    "Settlement acceptance fee payer is not the Consumer"
  require (consumerWallet == funding.consumerFundingAccount)
    "Settlement acceptance wallet is not the Consumer"
  require (acceptance.sessionId == proposal.sessionId &&
      acceptance.settlementInputRoot == proposal.settlementInputRoot &&
      acceptance.acceptedEndpointPayment == proposal.finalEndpointPayment &&
      acceptance.acceptedConsumerRefund ==
        proposal.consumerPaymentRefund + proposal.consumerFeeRefund &&
      acceptance.acceptedNetworkFees == proposal.actualNetworkFees)
    "Settlement acceptance does not match proposal"
  require (env.evidenceReferences.contains acceptance.settlementInputRoot)
    "Settlement acceptance input root is not referenced"
  require (!L.settlementAcceptances.contains acceptance.settlementId)
    "Settlement acceptance is already committed"
  return acceptance

/-- `apply_consensus_settlement_accept`. -/
def applySettlementAccept (env : Envelope) (finalized : FinalizedIds) :
    LedgerM LedgerOperationRecord :=
  applyConsensus (validateSettlementAccept env finalized) (fun _ => ["SessionSettlementAccepted"])
    env fun acceptance => modify fun L => { L with
      settlementAcceptances := L.settlementAcceptances.set acceptance.settlementId acceptance }

/-- `validate_consensus_settlement_dispute`. -/
def validateSettlementDispute (env : Envelope) (finalized : FinalizedIds) (L : LedgerState) :
    Except PyError SettlementDispute := do
  require (env.operationType == "SESSION_SETTLEMENT_DISPUTE")
    "Settlement dispute requires SESSION_SETTLEMENT_DISPUTE"
  require (env.originType == .multiParty) "Settlement dispute requires multi-party origin"
  require (hasSessionFeePayer env) "Settlement dispute requires a session fee payer"
  let payload := env.payload
  requireTexts payload "Settlement dispute field is invalid: "
    ["session_id", "settlement_id", "settlement_input_root", "proposal_operation_id",
      "claimant_wallet"]
  let members ← requireDict payload "dispute" "Settlement dispute payload is missing dispute"
  let dispute ← rewrap "Settlement dispute is invalid: " (SettlementDispute.modelValidate members)
  let proposal ← requireProposal L dispute.settlementId
  let funding ← requireFunding L proposal.sessionId "Session Funding Account is not found"
  require (env.feePayer == some funding.consumerFundingAccount)
    "Settlement dispute fee payer is not the Consumer"
  let claimant := payload.text "claimant_wallet"
  require (claimant == funding.consumerFundingAccount ||
      claimant == funding.endpointPaymentBeneficiary)
    "Settlement dispute claimant is not a Session participant"
  require (payload.text "session_id" == proposal.sessionId &&
      payload.text "settlement_id" == proposal.settlementId &&
      payload.text "settlement_input_root" == proposal.settlementInputRoot &&
      dispute.sessionId == proposal.sessionId && dispute.settlementId == proposal.settlementId)
    "Settlement dispute binding is invalid"
  require (proposal.settlementMode == .partialUndisputed)
    "Settlement dispute requires PARTIAL_UNDISPUTED proposal"
  require (0 < proposal.disputedAmount && 0 < proposal.disputeReserve &&
      proposal.disputedAmount == proposal.disputeReserve &&
      dispute.disputedAmount == proposal.disputeReserve)
    "Settlement dispute amount does not match proposal reserve"
  require (funding.activeDisputeReserve == 0) "Settlement already has an active dispute reserve"
  require (!(funding.fundingState.isFinal || funding.fundingState == .disputeReserved))
    "Session funding account is already finalized or disputed"
  require (!L.settlementDisputes.contains dispute.settlementId)
    "Settlement dispute is already committed"
  require (!L.settlementDisputes.values.any (·.disputeId == dispute.disputeId))
    "Settlement dispute ID is already committed"
  let proposalOperationId := payload.text "proposal_operation_id"
  let operation ← requireFinalizedDependency L proposalOperationId "SESSION_SETTLEMENT_PROPOSE"
    finalized "Settlement proposal is not finalized"
  let recorded ← recordedModel operation "proposal" SessionSettlementProposal.modelValidate
    "Settlement proposal operation payload is invalid"
    "Settlement proposal operation payload is invalid"
  require (recorded == proposal) "Settlement dispute proposal binding is invalid"
  requireReferenced env.evidenceReferences "Settlement dispute evidence is not referenced"
    [proposalOperationId, proposal.settlementInputRoot, dispute.disputeId, dispute.disputeHash,
      dispute.evidenceRoot]
  return dispute

/-- `apply_consensus_settlement_dispute`. -/
def applySettlementDispute (env : Envelope) (finalized : FinalizedIds) :
    LedgerM LedgerOperationRecord :=
  applyConsensus (validateSettlementDispute env finalized) (fun _ => ["SessionSettlementDisputed"])
    env fun dispute => modify fun L => { L with
      settlementDisputes := L.settlementDisputes.set dispute.settlementId dispute }

end AidnSpec.Ledger
