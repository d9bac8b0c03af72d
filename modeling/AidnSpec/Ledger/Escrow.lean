import AidnSpec.Ledger.Wallet

/-!
# Session escrow operations

`ledger/service.py:6589–7303`: the escrow lock, the opening and the acceptance of a session, the
escrow extension, the co-signed release and the usage checkpoints. A lock debits the consumer only
for `ESCROW_PREPAID` funding; extensions and releases rebuild the whole account from the payload and
compare it with the stored one.
-/

namespace AidnSpec.Ledger

open Base

variable [Runtime]

/-- `self._session_funding_accounts[session_id] = account`. -/
def putFunding (sessionId : String) (account : SessionFundingAccount) : LedgerM Unit :=
  modify fun L => { L with
    sessionFundingAccounts := L.sessionFundingAccounts.set sessionId account }

/-- `self._wallet_q_atom_balances[wallet_id] = balance - amount`, without a check. -/
def takeFromWallet (walletId : String) (amount : Int) : LedgerM Unit :=
  modify fun L => { L with
    walletQAtomBalances :=
      L.walletQAtomBalances.set walletId (L.walletQAtomBalance walletId - amount) }

def noteLock (sessionId : String) (amount : Int) : LedgerM Unit :=
  modify fun L => { L with sessionLocks := ⟨sessionId, amount⟩ :: L.sessionLocks }

/-- The funding account of a session. -/
def requireFunding (L : LedgerState) (sessionId complaint : String) :
    Except PyError SessionFundingAccount :=
  requireStored (L.sessionFundingAccounts.get? sessionId) complaint

/-- `fee_class == "session" and fee_payer`. -/
def hasSessionFeePayer (env : Envelope) : Bool :=
  env.feeClass == .session &&
    match env.feePayer with
    | some payer => !payer.isEmpty
    | none => false

/-! ## Lock -/

/-- The members that a lock must carry. -/
def escrowLockFields : List String :=
  ["session_id", "session_contract_hash", "funding_class", "consumer_funding_account",
    "endpoint_payment_beneficiary", "consumer_refund_beneficiary", "total_locked_amount_q_atoms",
    "endpoint_payment_reserve_q_atoms", "network_fee_reserve_q_atoms",
    "unsettled_payment_reserve_q_atoms", "unsettled_fee_reserve_q_atoms", "funding_state",
    "funding_state_hash"]

/-- `validate_consensus_session_escrow_lock`. -/
def validateSessionEscrowLock (env : Envelope) (L : LedgerState) :
    Except PyError SessionFundingAccount := do
  require (env.operationType == "SESSION_ESCROW_LOCK")
    "consensus escrow lock requires SESSION_ESCROW_LOCK operation"
  let sender ← requireSender env "consensus escrow lock requires wallet origin"
  require (env.feeClass == .session) "consensus escrow lock requires session fee class"
  let missing := escrowLockFields.filter fun key => !env.payload.has key
  require missing.isEmpty
    ("consensus escrow lock payload is missing: " ++ ", ".intercalate missing)
  let funding ← rewrap "consensus escrow funding is invalid: "
    (SessionFundingAccount.modelValidate env.payload)
  require (funding.fundingState == .locked) "consensus escrow funding must be LOCKED"
  require (funding.consumerFundingAccount == sender)
    "consensus escrow sender does not own Funding Account"
  require (env.feePayer == some sender) "consensus escrow fee payer must be the Consumer wallet"
  require (funding.releasedToEndpoint == 0 && funding.consumerPaymentRefund == 0 &&
      funding.activeDisputeReserve == 0 && funding.consumedNetworkFees == 0 &&
      funding.consumerFeeRefund == 0)
    "consensus escrow lock cannot contain released funds"
  require (L.sessionFundingAccounts.get? funding.sessionId).isNone
    "Session Funding Account is already locked"
  require (funding.fundingClass != .escrowPrepaid ||
      funding.totalLockedAmount ≤ L.walletQAtomBalance funding.consumerFundingAccount)
    "insufficient q_atoms for consensus Session escrow lock"
  return funding

omit [Runtime] in
/-- What a lock changes: only a prepaid account takes its amount from the wallet. -/
def lockFunding (funding : SessionFundingAccount) : LedgerM Unit := do
  if funding.fundingClass = .escrowPrepaid then
    takeFromWallet funding.consumerFundingAccount funding.totalLockedAmount
  noteLock funding.sessionId funding.totalLockedAmount
  putFunding funding.sessionId funding

/-- `apply_consensus_session_escrow_lock`. -/
def applySessionEscrowLock (env : Envelope) : LedgerM LedgerOperationRecord :=
  applyConsensus (validateSessionEscrowLock env) (fun _ => ["SessionEscrowLocked"]) env lockFunding

/-! ## Opening and acceptance -/

def sessionOpenTexts : List String :=
  ["session_id", "consumer_hypervisor_id", "provider_hypervisor_id", "endpoint_id",
    "endpoint_version", "endpoint_configuration_hash", "pricing_policy_hash",
    "accounting_contract_hash", "session_policy_hash", "session_contract_hash",
    "effective_terms_hash", "endpoint_payment_beneficiary", "consumer_refund_beneficiary",
    "funding_lock_operation_id", "funding_state_reference", "open_expiration"]

/-- The escrow lock that an opening cites carries the opening's own bindings. -/
def lockBindsOpening (lock payload : Fields) : Bool :=
  ["session_id", "session_contract_hash", "endpoint_payment_beneficiary",
      "consumer_refund_beneficiary"].all
    (fun key => PyValue.get lock key == PyValue.get payload key) &&
  PyValue.get lock "funding_state_hash" == PyValue.get payload "funding_state_reference"

/-- `validate_consensus_session_open`. -/
def validateSessionOpen (env : Envelope) (finalized : FinalizedIds) (L : LedgerState) :
    Except PyError Unit := do
  require (env.operationType == "SESSION_OPEN")
    "consensus Session open requires SESSION_OPEN operation"
  let sender ← requireSender env "consensus Session open requires wallet origin"
  require (env.feeClass == .session) "consensus Session open requires session fee class"
  require (env.feePayer == some sender)
    "consensus Session open fee payer must be the Consumer wallet"
  let payload := env.payload
  requireTexts payload "consensus Session open field is invalid: " sessionOpenTexts
  let deposit ← requireInt payload "deposit_amount_q_atoms" (0 ≤ ·)
    "consensus Session open deposit amount is invalid"
  let sessionId := payload.text "session_id"
  require (!L.sessionOpenRecords.contains sessionId) "Session is already opened"
  let funding ← requireFunding L sessionId "Session Funding Account is not locked"
  require (funding.fundingState == .locked) "Session Funding Account is not openable"
  require (funding.sessionContractHash == some (payload.text "session_contract_hash"))
    "Session open contract binding is invalid"
  require (funding.fundingStateHash == payload.text "funding_state_reference")
    "Session open funding state reference is invalid"
  require (funding.consumerFundingAccount == sender)
    "Session open sender does not own Funding Account"
  require (funding.endpointPaymentBeneficiary == payload.text "endpoint_payment_beneficiary")
    "Session open Endpoint beneficiary is invalid"
  require (funding.consumerRefundBeneficiary == payload.text "consumer_refund_beneficiary")
    "Session open Consumer refund beneficiary is invalid"
  require (deposit == funding.totalLockedAmount)
    "Session open deposit does not match Funding Account"
  let lockOperationId := payload.text "funding_lock_operation_id"
  let lock ← requireFinalizedDependency L lockOperationId "SESSION_ESCROW_LOCK" finalized
    "Session open escrow lock is not finalized"
  require (env.evidenceReferences.contains lockOperationId && lockBindsOpening lock.payload payload)
    "Session open escrow lock binding is invalid"
  require (env.evidenceReferences.contains (payload.text "funding_state_reference"))
    "Session open funding state evidence is missing"

/-- `apply_consensus_session_open`. -/
def applySessionOpen (env : Envelope) (finalized : FinalizedIds) :
    LedgerM LedgerOperationRecord :=
  applyConsensus (validateSessionOpen env finalized) (fun _ => ["SessionOpened"]) env
    fun _ => modify fun L => { L with
      sessionOpenRecords := L.sessionOpenRecords.set (env.payload.text "session_id") env.payload }

def sessionAcceptTexts : List String :=
  ["session_id", "session_open_operation_id", "session_contract_hash", "effective_terms_hash",
    "endpoint_id", "endpoint_configuration_hash", "provider_hypervisor_id", "accepted_by",
    "accepted_at"]

/-- `validate_consensus_session_accept`. -/
def validateSessionAccept (env : Envelope) (finalized : FinalizedIds) (L : LedgerState) :
    Except PyError Unit := do
  require (env.operationType == "SESSION_ACCEPT")
    "consensus Session acceptance requires SESSION_ACCEPT operation"
  let sender ← requireSender env "consensus Session acceptance requires wallet origin"
  require (env.feeClass == .session) "consensus Session acceptance requires session fee class"
  require (env.feePayer == some sender)
    "consensus Session acceptance fee payer must be the Endpoint wallet"
  let payload := env.payload
  requireTexts payload "consensus Session acceptance field is invalid: " sessionAcceptTexts
  let sessionId := payload.text "session_id"
  require (!L.sessionAcceptRecords.contains sessionId) "Session is already accepted"
  let openOperationId := payload.text "session_open_operation_id"
  let opening ← requireFinalizedDependency L openOperationId "SESSION_OPEN" finalized
    "Session acceptance open operation is not finalized"
  require (env.evidenceReferences.contains openOperationId)
    "Session acceptance open evidence is missing"
  require (match L.sessionOpenRecords.get? sessionId with
    | some stored => PyValue.eqv (.dict stored) (.dict opening.payload)
    | none => false) "Session acceptance open projection is unavailable"
  require (PyValue.get opening.payload "session_id" == .str sessionId)
    "Session acceptance Session binding is invalid"
  require (opening.payload.hasText "funding_lock_operation_id" &&
      opening.payload.hasText "funding_state_reference")
    "Session acceptance requires canonical Session open"
  requireEach ("Session acceptance binding is invalid: " ++ ·)
    (["session_contract_hash", "effective_terms_hash", "endpoint_id",
        "endpoint_configuration_hash", "provider_hypervisor_id"].map fun key =>
      (key, PyValue.get opening.payload key == .str (payload.text key)))
  let funding ← requireFunding L sessionId "Session Funding Account is not acceptably locked"
  require (funding.fundingState == .locked) "Session Funding Account is not acceptably locked"
  require (funding.endpointPaymentBeneficiary == sender)
    "Session acceptance sender is not the Endpoint beneficiary"
  require (payload.text "accepted_by" == sender)
    "Session acceptance actor does not match the Endpoint wallet"

/-- `apply_consensus_session_accept`. -/
def applySessionAccept (env : Envelope) (finalized : FinalizedIds) :
    LedgerM LedgerOperationRecord :=
  applyConsensus (validateSessionAccept env finalized) (fun _ => ["SessionAccepted"]) env
    fun _ => modify fun L => { L with
      sessionAcceptRecords :=
        L.sessionAcceptRecords.set (env.payload.text "session_id") env.payload }

/-! ## Extension and release -/

/-- A validated change of escrow: the stored account, the next one, and the Q atoms that
move between the escrow and a wallet. -/
structure EscrowChange where
  current : SessionFundingAccount
  next : SessionFundingAccount
  amount : Int

/-- Some earlier operation of a type carries a text under a key. -/
def alreadyCommitted (L : LedgerState) (operationType key identity : String) : Bool :=
  L.operations.any fun operation =>
    operation.operationType == operationType &&
      PyValue.get operation.payload key == .str identity

/-- `validate_consensus_session_escrow_extend`. -/
def validateSessionEscrowExtend (env : Envelope) (finalized : FinalizedIds) (L : LedgerState) :
    Except PyError EscrowChange := do
  require (env.operationType == "SESSION_ESCROW_EXTEND")
    "consensus escrow extension requires SESSION_ESCROW_EXTEND operation"
  let sender ← requireSender env "consensus escrow extension requires wallet origin"
  require (env.feeClass == .session) "consensus escrow extension requires session fee class"
  let payload := env.payload
  requireTexts payload "consensus escrow extension field is invalid: "
    ["session_id", "extension_id", "funding_state_reference", "previous_funding_operation_id"]
  let addedPayment ← requireInt payload "added_endpoint_payment_reserve_q_atoms" (0 ≤ ·)
    "consensus escrow extension amount is invalid: added_endpoint_payment_reserve_q_atoms"
  let addedFees ← requireInt payload "added_network_fee_reserve_q_atoms" (0 ≤ ·)
    "consensus escrow extension amount is invalid: added_network_fee_reserve_q_atoms"
  require (!(addedPayment == 0 && addedFees == 0)) "consensus escrow extension must add funds"
  let members ← requireDict payload "funding" "consensus escrow extension funding is required"
  let next ← rewrap "consensus escrow extension funding is invalid: "
    (SessionFundingAccount.modelValidate members)
  let current ← requireFunding L (payload.text "session_id")
    "Session Funding Account is not locked"
  require (current.fundingClass == .escrowPrepaid)
    "consensus escrow extension supports prepaid funding only"
  require (current.fundingState == .locked) "Session Funding Account is not extendable"
  require (sender == current.consumerFundingAccount)
    "consensus escrow extension sender is not the Consumer"
  require (env.feePayer == some current.consumerFundingAccount)
    "consensus escrow extension fee payer is not the Consumer"
  require (payload.text "funding_state_reference" == current.fundingStateHash)
    "consensus escrow extension funding state does not match"
  require (next.sessionId == current.sessionId)
    "consensus escrow extension Session binding is invalid"
  require (next.fundingState == .locked)
    "consensus escrow extension result must remain LOCKED"
  requireEach ("consensus escrow extension changed " ++ ·)
    [("session_contract_hash", next.sessionContractHash == current.sessionContractHash),
      ("funding_class", next.fundingClass == current.fundingClass), ("consumer_funding_account",
      next.consumerFundingAccount == current.consumerFundingAccount),
      ("endpoint_payment_beneficiary",
      next.endpointPaymentBeneficiary == current.endpointPaymentBeneficiary),
      ("consumer_refund_beneficiary",
      next.consumerRefundBeneficiary == current.consumerRefundBeneficiary),
      ("postpaid_credit_limit_q_atoms", next.postpaidCreditLimit == current.postpaidCreditLimit)]
  requireEach (fun key => "consensus escrow extension " ++ key ++ " is invalid")
    [("total_locked_amount_q_atoms",
        next.totalLockedAmount == current.totalLockedAmount + addedPayment + addedFees),
      ("endpoint_payment_reserve_q_atoms",
        next.endpointPaymentReserve == current.endpointPaymentReserve + addedPayment),
      ("network_fee_reserve_q_atoms",
        next.networkFeeReserve == current.networkFeeReserve + addedFees),
      ("unsettled_payment_reserve_q_atoms",
        next.unsettledPaymentReserve == current.unsettledPaymentReserve + addedPayment),
      ("unsettled_fee_reserve_q_atoms",
        next.unsettledFeeReserve == current.unsettledFeeReserve + addedFees)]
  requireEach ("consensus escrow extension changed " ++ ·)
    [("active_dispute_reserve_q_atoms", next.activeDisputeReserve == current.activeDisputeReserve),
        ("released_to_endpoint_q_atoms", next.releasedToEndpoint == current.releasedToEndpoint),
        ("consumer_payment_refund_q_atoms",
        next.consumerPaymentRefund == current.consumerPaymentRefund),
        ("consumed_network_fees_q_atoms", next.consumedNetworkFees == current.consumedNetworkFees),
        ("consumer_fee_refund_q_atoms", next.consumerFeeRefund == current.consumerFeeRefund)]
  require (addedPayment + addedFees ≤ L.walletQAtomBalance current.consumerFundingAccount)
    "insufficient q_atoms for consensus escrow extension"
  require (!alreadyCommitted L "SESSION_ESCROW_EXTEND" "extension_id" (payload.text "extension_id"))
    "consensus escrow extension is already committed"
  requireFundingPredecessor L (payload.text "previous_funding_operation_id") current finalized
    env.evidenceReferences "consensus escrow extension predecessor is invalid"
  requireReferenced env.evidenceReferences
    "consensus escrow extension funding evidence is not referenced"
    [payload.text "funding_state_reference", next.fundingStateHash]
  return ⟨current, next, addedPayment + addedFees⟩

/-- `apply_consensus_session_escrow_extend`. -/
def applySessionEscrowExtend (env : Envelope) (finalized : FinalizedIds) :
    LedgerM LedgerOperationRecord :=
  applyConsensus (validateSessionEscrowExtend env finalized) (fun _ => ["SessionEscrowExtended"])
    env fun change => do
    takeFromWallet change.current.consumerFundingAccount change.amount
    noteLock change.current.sessionId change.amount
    putFunding change.current.sessionId change.next

/-- The state of an account after a release that leaves the given reserves. -/
def releasedState (unsettledPayment unsettledFees releasedToEndpoint : Int) : FundingState :=
  if unsettledPayment = 0 ∧ unsettledFees = 0 then
    if releasedToEndpoint = 0 then .refunded else .released
  else .partiallyReleased

/-- `validate_consensus_session_escrow_release`. -/
def validateSessionEscrowRelease (env : Envelope) (finalized : FinalizedIds) (L : LedgerState) :
    Except PyError EscrowChange := do
  require (env.operationType == "SESSION_ESCROW_RELEASE")
    "consensus escrow release requires SESSION_ESCROW_RELEASE operation"
  require (env.originType == .multiParty)
    "consensus escrow release requires multi-party origin"
  require (hasSessionFeePayer env) "consensus escrow release requires a session fee payer"
  require (2 ≤ env.signatures.length)
    "consensus escrow release requires both participant signatures"
  let payload := env.payload
  requireTexts payload "consensus escrow release field is invalid: "
    ["session_id", "release_id", "funding_state_reference", "previous_funding_operation_id",
      "consumer_signature", "endpoint_signature"]
  let payment ← requireInt payload "release_payment_q_atoms" (0 ≤ ·)
    "consensus escrow release amount is invalid: release_payment_q_atoms"
  let fees ← requireInt payload "release_fee_q_atoms" (0 ≤ ·)
    "consensus escrow release amount is invalid: release_fee_q_atoms"
  require (!(payment == 0 && fees == 0)) "consensus escrow release must release funds"
  let members ← requireDict payload "funding" "consensus escrow release funding is required"
  let next ← rewrap "consensus escrow release funding is invalid: "
    (SessionFundingAccount.modelValidate members)
  let current ← requireFunding L (payload.text "session_id")
    "Session Funding Account is not found"
  require (current.fundingState == .locked || current.fundingState == .partiallyReleased)
    "Session Funding Account is not releasable"
  require (current.activeDisputeReserve == 0)
    "consensus escrow release cannot consume dispute reserve"
  require (env.feePayer == some current.consumerFundingAccount)
    "consensus escrow release fee payer is not the Consumer"
  require (payload.text "funding_state_reference" == current.fundingStateHash)
    "consensus escrow release funding state does not match"
  require (next.sessionId == current.sessionId)
    "consensus escrow release Session binding is invalid"
  require (next.consumerRefundBeneficiary == current.consumerRefundBeneficiary)
    "consensus escrow release refund beneficiary is invalid"
  requireEach ("consensus escrow release changed " ++ ·)
    [("session_contract_hash", next.sessionContractHash == current.sessionContractHash),
      ("funding_class", next.fundingClass == current.fundingClass), ("consumer_funding_account",
      next.consumerFundingAccount == current.consumerFundingAccount),
      ("endpoint_payment_beneficiary",
      next.endpointPaymentBeneficiary == current.endpointPaymentBeneficiary),
      ("consumer_refund_beneficiary",
      next.consumerRefundBeneficiary == current.consumerRefundBeneficiary),
      ("total_locked_amount_q_atoms", next.totalLockedAmount == current.totalLockedAmount),
      ("endpoint_payment_reserve_q_atoms",
      next.endpointPaymentReserve == current.endpointPaymentReserve),
      ("network_fee_reserve_q_atoms", next.networkFeeReserve == current.networkFeeReserve),
      ("active_dispute_reserve_q_atoms", next.activeDisputeReserve == current.activeDisputeReserve),
      ("released_to_endpoint_q_atoms", next.releasedToEndpoint == current.releasedToEndpoint),
      ("consumed_network_fees_q_atoms", next.consumedNetworkFees == current.consumedNetworkFees)]
  require (payment ≤ current.unsettledPaymentReserve)
    "consensus escrow release exceeds unsettled payment reserve"
  require (fees ≤ current.unsettledFeeReserve)
    "consensus escrow release exceeds unsettled fee reserve"
  require (next.consumerPaymentRefund == current.consumerPaymentRefund + payment &&
      next.consumerFeeRefund == current.consumerFeeRefund + fees &&
      next.unsettledPaymentReserve == current.unsettledPaymentReserve - payment &&
      next.unsettledFeeReserve == current.unsettledFeeReserve - fees)
    "consensus escrow release transition is invalid"
  require (next.fundingState == releasedState (current.unsettledPaymentReserve - payment)
      (current.unsettledFeeReserve - fees) current.releasedToEndpoint)
    "consensus escrow release funding state is invalid"
  require (!alreadyCommitted L "SESSION_ESCROW_RELEASE" "release_id" (payload.text "release_id"))
    "consensus escrow release is already committed"
  requireFundingPredecessor L (payload.text "previous_funding_operation_id") current finalized
    env.evidenceReferences "consensus escrow release predecessor is invalid"
  requireReferenced env.evidenceReferences
    "consensus escrow release funding evidence is not referenced"
    [payload.text "funding_state_reference", next.fundingStateHash]
  return ⟨current, next, payment + fees⟩

/-- `apply_consensus_session_escrow_release`. -/
def applySessionEscrowRelease (env : Envelope) (finalized : FinalizedIds) :
    LedgerM LedgerOperationRecord :=
  applyConsensus (validateSessionEscrowRelease env finalized)
    (fun _ => ["SessionEscrowReleased", "SessionRefunded"]) env fun change => do
    creditForSession change.current.sessionId .consumer
      change.current.consumerRefundBeneficiary change.amount
    putFunding change.current.sessionId change.next

/-! ## Usage checkpoints -/

/-- The committed checkpoint of a session with the highest sequence; among equal ones the
first. -/
def latestCheckpoint : List SessionUsageCheckpoint → Option SessionUsageCheckpoint
  | [] => none
  | c :: rest =>
    match latestCheckpoint rest with
    | some d => if c.checkpointSequence < d.checkpointSequence then some d else some c
    | none => some c

/-- `validate_consensus_session_checkpoint_commit`. -/
def validateSessionCheckpointCommit (env : Envelope) (finalized : FinalizedIds)
    (L : LedgerState) : Except PyError SessionUsageCheckpoint := do
  require (env.operationType == "SESSION_CHECKPOINT_COMMIT")
    "consensus checkpoint requires SESSION_CHECKPOINT_COMMIT operation"
  require (env.originType == .multiParty) "consensus checkpoint requires multi-party origin"
  require (hasSessionFeePayer env) "consensus checkpoint requires a session fee payer"
  let payload := env.payload
  requireTexts payload "consensus checkpoint field is invalid: "
    ["session_id", "funding_state_reference", "previous_funding_operation_id", "consumer_wallet"]
  let members ← requireDict payload "checkpoint"
    "consensus checkpoint payload is missing checkpoint"
  let checkpoint ← rewrap "consensus checkpoint is invalid: "
    (SessionUsageCheckpoint.modelValidate members)
  let current ← requireFunding L (payload.text "session_id")
    "Session Funding Account is not found"
  require (current.fundingState == .locked) "consensus checkpoint requires locked funding"
  require (env.feePayer == some current.consumerFundingAccount)
    "consensus checkpoint fee payer is not the Consumer"
  require (payload.text "consumer_wallet" == current.consumerFundingAccount)
    "consensus checkpoint wallet is not the Consumer"
  require (payload.text "funding_state_reference" == current.fundingStateHash)
    "consensus checkpoint funding state does not match"
  require (checkpoint.sessionId == current.sessionId)
    "consensus checkpoint Session binding is invalid"
  require (checkpoint.currentSessionExposure ≤ current.totalLockedAmount)
    "consensus checkpoint exposure exceeds locked funding"
  require ((checkpoint.currentSessionExposure : Int) + checkpoint.remainingDeposit ==
      current.totalLockedAmount)
    "consensus checkpoint exposure is not conserved"
  require (checkpoint.calculatedCharge ≤ checkpoint.currentSessionExposure)
    "consensus checkpoint charge exceeds exposure"
  require (checkpoint.calculatedCharge ≤ current.endpointPaymentReserve)
    "consensus checkpoint charge exceeds payment reserve"
  let existing := L.sessionCheckpoints.values.filter (·.sessionId == current.sessionId)
  require (!existing.any (·.checkpointId == checkpoint.checkpointId))
    "consensus checkpoint is already committed"
  let latest := latestCheckpoint existing
  require (checkpoint.checkpointSequence == (latest.elim 0 (·.checkpointSequence)) + 1)
    "consensus checkpoint sequence is invalid"
  require (match latest with
    | some last => last.currentSessionExposure ≤ checkpoint.currentSessionExposure &&
      last.calculatedCharge ≤ checkpoint.calculatedCharge
    | none => true) "consensus checkpoint exposure cannot decrease"
  requireFundingPredecessor L (payload.text "previous_funding_operation_id") current finalized
    env.evidenceReferences "consensus checkpoint predecessor is invalid"
  requireReferenced env.evidenceReferences "consensus checkpoint evidence is not referenced"
    [payload.text "funding_state_reference", checkpoint.checkpointId, checkpoint.checkpointHash,
      checkpoint.usageReportHash]
  return checkpoint

/-- `apply_consensus_session_checkpoint_commit`. -/
def applySessionCheckpointCommit (env : Envelope) (finalized : FinalizedIds) :
    LedgerM LedgerOperationRecord :=
  applyConsensus (validateSessionCheckpointCommit env finalized)
    (fun _ => ["SessionCheckpointCommitted"]) env fun checkpoint => modify fun L => { L with
      sessionCheckpoints := L.sessionCheckpoints.set checkpoint.checkpointId checkpoint }

end AidnSpec.Ledger
