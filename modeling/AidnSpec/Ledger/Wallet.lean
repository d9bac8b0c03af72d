import AidnSpec.Ledger.State

/-!
# Wallet, stake and penalty operations

`ledger/service.py:530–626` (wallet transfer), `640–816` (stake lock, unstake request, stake
release), `824–970` (participant suspension and reinstatement), `5450–5544, 5786–5805` (reward mint)
and `5807–5953` (penalties). Each operation is its validation and its effect, put together by
`applyConsensus`.
-/

namespace AidnSpec.Ledger

open Base

def standardNetworkFeeQAtoms : Int := 10000

def defaultUnbondingPeriodEpochs : Int := 14

/-- `value == n` for a JSON value and an integer. -/
def valueEqInt (value : PyValue) (n : Int) : Bool :=
  match value with
  | .int m => m == n
  | .bool b => (if b then 1 else 0) == n
  | .float _ q => q == (n : Rat)
  | _ => false

/-- The sender of a wallet-origin operation. -/
def requireSender (env : Envelope) (complaint : String) : Except PyError String :=
  match env.originType, env.senderWallet with
  | .wallet, some sender => .ok sender
  | _, _ => raiseValue complaint

/-! ## Wallet transfer -/

/-- What a validated transfer moves. -/
structure WalletTransfer where
  sender : String
  recipient : String
  amount : Int

/-- `_validate_consensus_wallet_transfer_shape`. -/
def validateWalletTransferShape (env : Envelope) : Except PyError WalletTransfer := do
  require (env.operationType == "WALLET_TRANSFER")
    "consensus wallet transfer requires WALLET_TRANSFER operation"
  let sender ← requireSender env "wallet transfer requires wallet origin"
  require (env.feeClass == .standard) "wallet transfer requires standard fee class"
  require (env.feePayer == some sender) "wallet transfer fee payer must be the sender Wallet"
  require (env.payload.hasText "recipient_wallet") "wallet transfer recipient_wallet is invalid"
  let recipient := env.payload.text "recipient_wallet"
  require (recipient != sender) "wallet transfer recipient must differ from sender"
  let amount ← requireInt env.payload "amount" (0 < ·) "wallet transfer amount is invalid"
  return ⟨sender, recipient, amount⟩

/-- `validate_consensus_wallet_transfer`. -/
def validateWalletTransfer (env : Envelope) (L : LedgerState) :
    Except PyError WalletTransfer := do
  let transfer ← validateWalletTransferShape env
  require (transfer.amount + standardNetworkFeeQAtoms ≤ L.walletQAtomBalance transfer.sender)
    "insufficient q_atoms for wallet transfer and fee"
  return transfer

/-- `apply_consensus_wallet_transfer`. -/
def applyWalletTransfer (env : Envelope) : LedgerM LedgerOperationRecord :=
  applyConsensus (validateWalletTransfer env)
    (fun _ => ["WalletTransferred", "NetworkFeeRecycled"]) env fun transfer => do
    debitWalletQAtoms transfer.sender (transfer.amount + standardNetworkFeeQAtoms)
    creditWalletQAtoms transfer.recipient transfer.amount
    modify fun L => { L with recyclableQAtoms := L.recyclableQAtoms + standardNetworkFeeQAtoms }

/-! ## Stakes -/

def stakeTypes : List String :=
  ["CONSENSUS_STAKE", "VALIDATION_STAKE", "REGISTRY_BOND", "NODE_ACTIVATION_BOND"]

/-- `validate_consensus_stake_lock`: the sender and the amount. -/
def validateStakeLock (env : Envelope) (L : LedgerState) : Except PyError (String × Int) := do
  require (env.operationType == "STAKE_LOCK") "consensus stake lock requires STAKE_LOCK operation"
  let sender ← requireSender env "stake lock requires wallet origin"
  require (env.feeClass == .standard) "stake lock requires standard fee class"
  requireTexts env.payload "stake lock field is invalid: "
    ["stake_id", "stake_type", "beneficiary_object_id", "lock_policy_version"]
  require (stakeTypes.contains (env.payload.text "stake_type")) "stake lock type is not supported"
  let amount ← requireInt env.payload "amount" (0 < ·) "stake lock amount is invalid"
  require (!L.stakeRecords.contains (env.payload.text "stake_id")) "stake is already registered"
  require (amount ≤ L.walletQAtomBalance sender) "insufficient q_atoms for stake lock"
  return (sender, amount)

def lockedStake (env : Envelope) (owner : String) (amount : Int) : StakeRecord where
  stakeId := env.payload.text "stake_id"
  stakeType := env.payload.text "stake_type"
  amount := amount
  beneficiaryObjectId := env.payload.text "beneficiary_object_id"
  lockPolicyVersion := env.payload.text "lock_policy_version"
  ownerWallet := owner
  state := .locked
  lockedByOperationId := env.operationId
  unbondingStartEpoch := none
  releaseEpoch := none
  penaltyBlocked := false
  unstakeRequestOperationId := none
  releasedByOperationId := none
  slashedAmount := 0

/-- `self._stake_records[stake_id] = stake`. -/
def putStake (stakeId : String) (stake : StakeRecord) : LedgerM Unit :=
  modify fun L => { L with stakeRecords := L.stakeRecords.set stakeId stake }

/-- `apply_consensus_stake_lock`. -/
def applyStakeLock (env : Envelope) : LedgerM LedgerOperationRecord :=
  applyConsensus (validateStakeLock env) (fun _ => ["StakeLocked"]) env fun (sender, amount) => do
    debitWalletQAtoms sender amount
    putStake (env.payload.text "stake_id") (lockedStake env sender amount)

/-- `target_epoch`, when present, is the text of the epoch in the payload. -/
def targetEpochMatches (env : Envelope) (epoch : Int) : Bool :=
  match env.targetEpoch with
  | none => true
  | some target => target == toString epoch

/-- `validate_consensus_unstake_request`: the stake and the epoch of the request. -/
def validateUnstakeRequest (env : Envelope) (L : LedgerState) :
    Except PyError (StakeRecord × Int) := do
  require (env.operationType == "UNSTAKE_REQUEST")
    "consensus unstake requires UNSTAKE_REQUEST operation"
  let sender ← requireSender env "unstake request requires wallet origin"
  require (env.feeClass == .standard) "unstake request requires standard fee class"
  require (env.payload.hasText "stake_id") "unstake request stake_id is invalid"
  let requestEpoch ← requireInt env.payload "request_epoch" (0 ≤ ·)
    "unstake request epoch is invalid"
  require (targetEpochMatches env requestEpoch)
    "unstake request target epoch does not match payload"
  require (!env.payload.has "unbonding_period_epochs" || valueEqInt
    (PyValue.get env.payload "unbonding_period_epochs") defaultUnbondingPeriodEpochs)
    "unstake request uses unsupported unbonding period"
  match L.stakeRecords.get? (env.payload.text "stake_id") with
  | none => raiseValue "stake does not exist"
  | some stake =>
    require (stake.ownerWallet == sender) "unstake request is not authorized by stake owner"
    require (stake.state == .locked) "stake is not locked"
    require (!stake.penaltyBlocked) "stake is blocked by unresolved penalty"
    return (stake, requestEpoch)

/-- `apply_consensus_unstake_request`. -/
def applyUnstakeRequest (env : Envelope) : LedgerM LedgerOperationRecord :=
  applyConsensus (validateUnstakeRequest env) (fun _ => ["StakeUnbondingStarted"]) env
    fun (stake, requestEpoch) =>
      putStake (env.payload.text "stake_id") { stake with
        state := .unbonding
        unbondingStartEpoch := some requestEpoch
        releaseEpoch := some (requestEpoch + defaultUnbondingPeriodEpochs)
        unstakeRequestOperationId := some env.operationId }

/-- An epoch that must have been reached; a missing one never is. -/
def epochReached (epoch : Option Int) (current : Int) : Bool :=
  match epoch with
  | some e => e ≤ current
  | none => false

/-- `validate_consensus_stake_release`. -/
def validateStakeRelease (env : Envelope) (L : LedgerState) : Except PyError StakeRecord := do
  require (env.operationType == "STAKE_RELEASE")
    "consensus stake release requires STAKE_RELEASE operation"
  require (env.originType == .protocol && env.senderWallet.isNone)
    "stake release requires protocol origin"
  require (env.feeClass == .protocolSponsored)
    "stake release requires protocol-sponsored fee class"
  require (env.payload.hasText "stake_id") "stake release stake_id is invalid"
  let currentEpoch ← requireInt env.payload "current_epoch" (0 ≤ ·)
    "stake release epoch is invalid"
  require (targetEpochMatches env currentEpoch) "stake release target epoch does not match payload"
  match L.stakeRecords.get? (env.payload.text "stake_id") with
  | none => raiseValue "stake does not exist"
  | some stake =>
    require (stake.state == .unbonding) "stake is not unbonding"
    require (epochReached stake.releaseEpoch currentEpoch)
      "stake release epoch has not been reached"
    require (!stake.penaltyBlocked) "stake release is blocked by unresolved penalty"
    return stake

/-- `apply_consensus_stake_release`. -/
def applyStakeRelease (env : Envelope) : LedgerM LedgerOperationRecord :=
  applyConsensus (validateStakeRelease env) (fun _ => ["StakeReleased"]) env fun stake => do
    creditWalletQAtoms stake.ownerWallet stake.amount
    putStake stake.stakeId
      { stake with state := .released, releasedByOperationId := some env.operationId }

/-! ## Suspensions -/

/-- `validate_consensus_participant_suspend`. -/
def validateParticipantSuspend (env : Envelope) (finalized : List String) (L : LedgerState) :
    Except PyError Unit := do
  require (env.operationType == "PARTICIPANT_SUSPEND")
    "participant suspension requires PARTICIPANT_SUSPEND operation"
  require (env.originType == .evidenceTriggered && env.senderWallet.isNone)
    "participant suspension requires evidence-triggered origin"
  require (env.feeClass == .protocolSponsored)
    "participant suspension requires protocol-sponsored fee class"
  requireTexts env.payload "participant suspension field is invalid: "
    ["target_id", "target_type", "scope", "reason_code", "evidence_root", "evidence_operation_id"]
  let effectiveEpoch ← requireInt env.payload "effective_epoch" (0 ≤ ·)
    "participant suspension effective epoch is invalid"
  let _ ← requireInt env.payload "minimum_recovery_epoch" (effectiveEpoch ≤ ·)
    "participant suspension recovery epoch is invalid"
  require (targetEpochMatches env effectiveEpoch)
    "participant suspension target epoch does not match payload"
  let evidence := env.payload.text "evidence_operation_id"
  require (finalized.contains evidence)
    "participant suspension evidence operation is not finalized"
  require (env.evidenceReferences.contains evidence)
    "participant suspension evidence operation is not referenced"
  require (env.evidenceReferences.contains (env.payload.text "evidence_root"))
    "participant suspension evidence root is not referenced"
  require (L.operations.any (·.operationId == evidence))
    "participant suspension evidence operation is unavailable"
  match L.participantSuspensions.get? (env.payload.text "target_id") with
  | some existing =>
    require (PyValue.get existing "state" != .str "SUSPENDED") "participant is already suspended"
  | none => return ()

/-- Assignment of one member of a record: `record[key] = value`. -/
def setMember (fields : Fields) (key : String) (value : PyValue) : Fields :=
  Dict.put key value fields

/-- `apply_consensus_participant_suspend`. -/
def applyParticipantSuspend (env : Envelope) (finalized : List String) :
    LedgerM LedgerOperationRecord :=
  applyConsensus (validateParticipantSuspend env finalized) (fun _ => ["ParticipantSuspended"])
    env fun _ => modify fun L => { L with
      participantSuspensions := L.participantSuspensions.set (env.payload.text "target_id")
        (setMember (setMember env.payload "state" (.str "SUSPENDED"))
          "suspension_operation_id" (.str env.operationId)) }

/-- `validate_consensus_participant_reinstate`. -/
def validateParticipantReinstate (env : Envelope) (finalized : List String) (L : LedgerState) :
    Except PyError Fields := do
  require (env.operationType == "PARTICIPANT_REINSTATE")
    "participant reinstatement requires PARTICIPANT_REINSTATE operation"
  require (env.originType == .protocol && env.senderWallet.isNone)
    "participant reinstatement requires protocol origin"
  require (env.feeClass == .protocolSponsored)
    "participant reinstatement requires protocol-sponsored fee class"
  requireTexts env.payload "participant reinstatement field is invalid: "
    ["target_id", "recovery_evidence_root", "recovery_evidence_operation_id"]
  let currentEpoch ← requireInt env.payload "current_epoch" (0 ≤ ·)
    "participant reinstatement epoch is invalid"
  require (targetEpochMatches env currentEpoch)
    "participant reinstatement target epoch does not match payload"
  let evidence := env.payload.text "recovery_evidence_operation_id"
  require (finalized.contains evidence) "participant recovery evidence is not finalized"
  require (env.evidenceReferences.contains evidence)
    "participant recovery evidence operation is not referenced"
  require (env.evidenceReferences.contains (env.payload.text "recovery_evidence_root"))
    "participant recovery evidence root is not referenced"
  require (L.operations.any (·.operationId == evidence))
    "participant recovery evidence is unavailable"
  match L.participantSuspensions.get? (env.payload.text "target_id") with
  | none => raiseValue "participant is not suspended"
  | some suspension =>
    require (PyValue.get suspension "state" == .str "SUSPENDED") "participant is not suspended"
    let _ ← requireInt suspension "minimum_recovery_epoch" (· ≤ currentEpoch)
      "participant minimum recovery epoch has not been reached"
    return suspension

/-- `apply_consensus_participant_reinstate`. -/
def applyParticipantReinstate (env : Envelope) (finalized : List String) :
    LedgerM LedgerOperationRecord :=
  applyConsensus (validateParticipantReinstate env finalized) (fun _ => ["ParticipantReinstated"])
    env fun suspension => modify fun L => { L with
      participantSuspensions := L.participantSuspensions.set (env.payload.text "target_id")
        ([("state", .str "ACTIVE"),
            ("current_epoch", PyValue.get env.payload "current_epoch"),
            ("recovery_evidence_root", PyValue.get env.payload "recovery_evidence_root"),
            ("recovery_evidence_operation_id",
              PyValue.get env.payload "recovery_evidence_operation_id"),
            ("reinstatement_operation_id", .str env.operationId)].foldl
          (fun fields member => setMember fields member.1 member.2) suspension) }

/-! ## Penalties -/

def consensusPenaltyTypes : List String :=
  ["CONSENSUS_SLASH", "DOUBLE_SIGNING", "FORGED_CONSENSUS_EVIDENCE",
    "UNAUTHORIZED_VALIDATOR_SET_MANIPULATION", "REPUTATION_PENALTY"]

/-- What a penalty takes its amount from. -/
inductive PenaltyTarget where
  | stake (stakeId : String) (stake : StakeRecord)
  | wallet (walletId : String)

/-- A validated penalty. -/
structure Penalty where
  target : PenaltyTarget
  amount : Int
  recyclable : Bool

/-- `consensus_penalty_commitment(penalty_id) is not None`. -/
def penaltyCommitted (L : LedgerState) (penaltyId : String) : Bool :=
  L.operations.any fun operation =>
    operation.operationType == "PENALTY_APPLY" &&
      PyValue.get operation.payload "penalty_id" == .str penaltyId

/-- The target of a penalty: `lock:` and a stake id, or a wallet. -/
def penaltyTarget (L : LedgerState) (target : String) (amount : Int) :
    Except PyError PenaltyTarget :=
  if "lock:".toList.isPrefixOf target.toList then do
    let stakeId := String.ofList (removePre "lock:".toList target.toList)
    require (!isBlank stakeId) "consensus penalty target stake is invalid"
    match L.stakeRecords.get? stakeId with
    | none => raiseValue "consensus penalty target stake does not exist"
    | some stake =>
      require (stake.state == .locked || stake.state == .unbonding)
        "consensus penalty target stake is not slashable"
      require (amount ≤ stake.amount) "consensus penalty exceeds target stake"
      return .stake stakeId stake
  else do
    require (amount ≤ L.walletQAtomBalance target)
      "consensus penalty exceeds target wallet balance"
    return .wallet target

/-- `validate_consensus_penalty_apply`. -/
def validatePenaltyApply (env : Envelope) (finalized : List String) (L : LedgerState) :
    Except PyError Penalty := do
  require (env.operationType == "PENALTY_APPLY")
    "consensus penalty requires PENALTY_APPLY operation"
  require (env.originType == .evidenceTriggered && env.senderWallet.isNone)
    "consensus penalty requires evidence-triggered origin"
  require (env.feeClass == .protocolSponsored)
    "consensus penalty requires protocol-sponsored fee class"
  requireTexts env.payload "consensus penalty field is invalid: "
    ["penalty_id", "target_wallet_or_lock", "penalty_type", "evidence_root",
      "evidence_operation_id"]
  require (consensusPenaltyTypes.contains (env.payload.text "penalty_type"))
    "consensus penalty type is not authorized"
  let amount ← requireInt env.payload "amount" (0 < ·) "consensus penalty amount is invalid"
  match PyValue.get env.payload "recyclable" with
  | .bool recyclable =>
    let evidence := env.payload.text "evidence_operation_id"
    require (finalized.contains evidence) "consensus penalty evidence operation is not finalized"
    require (L.operationById evidence).isSome
      "consensus penalty evidence operation is unavailable"
    require (env.evidenceReferences.contains (env.payload.text "evidence_root"))
      "consensus penalty evidence root is not referenced"
    require (env.evidenceReferences.contains evidence)
      "consensus penalty evidence operation is not referenced"
    require (!penaltyCommitted L (env.payload.text "penalty_id"))
      "consensus penalty is already finalized"
    let target ← penaltyTarget L (env.payload.text "target_wallet_or_lock") amount
    return ⟨target, amount, recyclable⟩
  | _ => raiseValue "consensus penalty recyclable flag is invalid"

def slashed (stake : StakeRecord) (amount : Int) : StakeRecord :=
  if stake.amount - amount = 0 then
    { stake with
      amount := 0, slashedAmount := stake.slashedAmount + amount
      state := .slashed, releaseEpoch := none }
  else
    { stake with
      amount := stake.amount - amount, slashedAmount := stake.slashedAmount + amount }

/-- Add a penalty to the recyclable or to the burned Q atoms. -/
def collectPenalty (recyclable : Bool) (amount : Int) : LedgerM Unit :=
  modify fun L =>
    if recyclable then { L with recyclableQAtoms := L.recyclableQAtoms + amount }
    else { L with burnedQAtoms := L.burnedQAtoms + amount }

/-- `apply_consensus_penalty_apply`. -/
def applyPenaltyApply (env : Envelope) (finalized : List String) :
    LedgerM LedgerOperationRecord :=
  applyConsensus (validatePenaltyApply env finalized)
    (fun penalty =>
      match penalty.target with
      | .stake _ _ => ["PenaltyApplied", "StakeSlashed"]
      | .wallet _ => ["PenaltyApplied"])
    env fun penalty => do
    match penalty.target with
    | .stake stakeId stake => putStake stakeId (slashed stake penalty.amount)
    | .wallet walletId => debitWalletQAtoms walletId penalty.amount
    collectPenalty penalty.recyclable penalty.amount

end AidnSpec.Ledger
