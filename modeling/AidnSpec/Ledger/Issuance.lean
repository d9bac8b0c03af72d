import AidnSpec.Ledger.DevelopmentRewards
import AidnSpec.Ledger.ValidatorSet

/-!
# Issuance and recorded evidence

The operations that create Q: treasury funding (`ledger/service.py:371–528`), reward mints
(5450–5544, 5786–5805) and development reward payments and claims (5177–5269); the epoch transition
(5546–5784); the development operations that only keep records; and the operations that only record
their envelope. Treasury bindings, the calculations behind development rewards, and the evidence
that is only recorded are a parameter, `LedgerRules`.
-/

namespace AidnSpec.Ledger

open Base

/-! ## Reward mint -/

/-- `reward_mint_commitment(reward_id) is not None`. -/
def rewardMinted (L : LedgerState) (rewardId : String) : Bool :=
  L.operations.any fun operation =>
    operation.operationType == "REWARD_MINT" &&
      PyValue.get operation.payload "reward_id" == .str rewardId

def alreadyMinted (L : LedgerState) (poolId calculationRoot : String) : Except PyError Int :=
  (L.operations.filter fun operation =>
    operation.operationType == "REWARD_MINT" &&
      PyValue.get operation.payload "pool_id" == .str poolId &&
      PyValue.get operation.payload "reward_calculation_root" == .str calculationRoot).foldlM
    (fun total operation => do
      let amount ← ((operation.payload.lookup "amount").getD (.int 0)).toInt
      return total + amount) 0

/-- `validate_consensus_reward_mint`: the recipient and the amount. -/
def validateRewardMint (env : Envelope) (finalized : List String) (L : LedgerState) :
    Except PyError (String × Int) := do
  require (env.operationType == "REWARD_MINT")
    "consensus reward mint requires REWARD_MINT operation"
  require (env.originType == .protocol && env.senderWallet.isNone)
    "consensus reward mint requires protocol origin"
  let payload := env.payload
  requireTexts payload "reward mint field is invalid: "
    ["reward_id", "reward_type", "recipient_wallet", "pool_id", "pool_budget_reference",
      "contribution_evidence_root", "calculation_version", "reward_calculation_root",
      "calculation_operation_id"]
  let rewardEpoch ← requireInt payload "reward_epoch" (0 ≤ ·) "reward mint epoch is invalid"
  let amount ← requireInt payload "amount" (0 < ·) "reward mint amount is invalid"
  let calculation := payload.text "calculation_operation_id"
  require (finalized.contains calculation) "reward mint calculation operation is not finalized"
  let transition ← requireStored ((L.operationById calculation).filter fun operation =>
      operation.operationType == "EPOCH_TRANSITION")
    "reward mint calculation operation is not an epoch transition"
  let source := transition.payload
  require (PyValue.get source "reward_calculation_root" ==
      .str (payload.text "reward_calculation_root"))
    "reward mint calculation root does not match epoch transition"
  let transitionEpoch :=
    (source.lookup "closing_epoch").getD (PyValue.get source "reward_epoch")
  if transitionEpoch ≠ .none then
    let epoch ← transitionEpoch.toInt
    require (epoch == rewardEpoch) "reward mint epoch does not match epoch transition"
  let poolId := payload.text "pool_id"
  let budgets ← requireDict source "pool_budgets" "reward mint pool budget is not authorized"
  require (Fields.has budgets poolId) "reward mint pool budget is not authorized"
  let budget ← requireInt budgets poolId (0 ≤ ·) "reward mint pool budget is invalid"
  match PyValue.get source "pool_budget_references" with
  | .dict references =>
    require (PyValue.get references poolId == .str (payload.text "pool_budget_reference"))
      "reward mint pool budget reference does not match epoch transition"
  | _ => pure ()
  require (!rewardMinted L (payload.text "reward_id"))
    "reward mint reward_id is already finalized"
  let minted ← alreadyMinted L poolId (payload.text "reward_calculation_root")
  require (minted + amount ≤ budget) "reward mint exceeds authorized pool budget"
  return (payload.text "recipient_wallet", amount)

/-- `apply_consensus_reward_mint`. -/
def applyRewardMint (env : Envelope) (finalized : List String) : LedgerM LedgerOperationRecord :=
  applyConsensus (validateRewardMint env finalized) (fun _ => ["RewardMinted"]) env
    fun (recipient, amount) => creditWalletQAtoms recipient amount

/-! ## Treasury -/

variable [Runtime] [LedgerRules]

/-- `FAUCET_TREASURY_INITIAL_ALLOCATION_Q_ATOMS`. -/
def faucetTreasuryInitialAllocation : Int := 10000000000000

/-- `validate_consensus_treasury_manifest_bind`: the manifest. -/
def validateTreasuryManifestBind (env : Envelope) (L : LedgerState) : Except PyError Fields := do
  require (env.operationType == "TREASURY_MANIFEST_BIND")
    "Treasury manifest binding requires TREASURY_MANIFEST_BIND operation"
  LedgerRules.treasuryManifest env L

/-- `apply_consensus_treasury_manifest_bind`. -/
def applyTreasuryManifestBind (env : Envelope) : LedgerM LedgerOperationRecord :=
  applyConsensus (validateTreasuryManifestBind env) (fun _ => ["FaucetTreasuryManifestBound"]) env
    fun manifest => modify fun L => { L with faucetTreasuryManifest := some manifest }

/-- `validate_consensus_treasury_fund`: the treasury wallet and the amount. -/
def validateTreasuryFund (env : Envelope) (L : LedgerState) : Except PyError (String × Int) := do
  require (env.operationType == "TREASURY_FUND") "Treasury funding requires TREASURY_FUND operation"
  require (env.originType == .protocol && env.senderWallet.isNone)
    "Treasury funding requires protocol origin"
  require (env.feePayer.isNone && env.feeClass == .protocolSponsored)
    "Treasury funding requires protocol-sponsored fee class"
  require (env.initiatorId == some "faucet-treasury-funding")
    "Treasury funding initiator is invalid"
  require env.targetEpoch.isNone "Treasury funding cannot target an epoch"
  requireTexts env.payload "Treasury funding field is invalid: "
    ["funding_id", "treasury_id", "network_id", "chain_id", "treasury_wallet_id",
      "treasury_public_key", "creator_recovery_wallet", "creator_recovery_public_key",
      "treasury_manifest_hash", "funding_mode", "authorization_reference",
      "authorization_signature"]
  let amount ← requireInt env.payload "amount" (fun _ => true) "Treasury funding amount is invalid"
  require (amount == faucetTreasuryInitialAllocation)
    "Treasury funding amount must be exactly 10,000,000 Q"
  require (env.payload.text "funding_mode" == "CONSENSUS")
    "Treasury funding mode must be CONSENSUS"
  LedgerRules.treasuryAuthorization env L
  return (env.payload.text "treasury_wallet_id", amount)

/-- `apply_consensus_treasury_fund`. -/
def applyTreasuryFund (env : Envelope) : LedgerM LedgerOperationRecord :=
  applyConsensus (validateTreasuryFund env) (fun _ => ["FaucetTreasuryFunded"]) env
    fun (wallet, amount) => creditWalletQAtoms wallet amount

/-! ## Development rewards -/

/-- Store the development collections. -/
def putDevelopment (records : DevelopmentRecords) : LedgerM Unit :=
  modify fun L => { L with development := records }

/-- The collections after a validated development operation, and its events. -/
def validateDevelopmentRecords (kind : DevelopmentKind) (env : Envelope)
    (finalized : FinalizedIds) (L : LedgerState) :
    Except PyError (DevelopmentRecords × List String) := do
  let D := L.development
  match kind with
  | .poolAllocate =>
    let record ← validatePoolAllocate env finalized L
    return ({ D with poolAllocations := D.poolAllocations.set record.allocationId record },
      ["DevelopmentPoolAllocated"])
  | .rewardReserve =>
    let record ← validateRewardReserve env finalized L
    return ({ D with rewardReserves := D.rewardReserves.set record.reserveId record },
      ["DevelopmentRewardReserved"])
  | .rewardMarkUnclaimed =>
    let record ← validateRewardMarkUnclaimed env finalized L
    return ({ D with
        rewardUnclaimedRecords := D.rewardUnclaimedRecords.set record.unclaimedId record },
      ["DevelopmentRewardMarkedUnclaimed"])
  | .rewardExpireUnclaimed =>
    let record ← validateRewardExpireUnclaimed env finalized L
    return ({ D with rewardExpiryRecords := D.rewardExpiryRecords.set record.expiryId record },
      ["DevelopmentRewardExpiredReturned"])
  | .poolCarryover =>
    let ⟨(key, value), _⟩ ← LedgerRules.adjustment kind env finalized L
    return ({ D with poolCarryovers := D.poolCarryovers.set key value },
      ["DevelopmentPoolCarriedOver"])
  | .bountyCreate =>
    let ⟨(key, value), _⟩ ← LedgerRules.adjustment kind env finalized L
    return ({ D with bountyStates := D.bountyStates.set key value }, ["DevelopmentBountyCreated"])
  | .bountyReserve =>
    let ⟨(key, value), _⟩ ← LedgerRules.adjustment kind env finalized L
    return ({ D with bountyStates := D.bountyStates.set key value }, ["DevelopmentBountyReserved"])
  | .bountyRelease =>
    let ⟨(key, value), _⟩ ← LedgerRules.adjustment kind env finalized L
    return ({ D with bountyStates := D.bountyStates.set key value }, ["DevelopmentBountyReleased"])
  | .bountyExpire =>
    let ⟨(key, value), _⟩ ← LedgerRules.adjustment kind env finalized L
    return ({ D with bountyStates := D.bountyStates.set key value }, ["DevelopmentBountyExpired"])
  | .rewardFinalizeCommitment =>
    let ⟨(key, value), _⟩ ← LedgerRules.adjustment kind env finalized L
    return ({ D with
        rewardFinalizedCommitments := D.rewardFinalizedCommitments.set key value },
      ["DevelopmentRewardCommitmentFinalized"])
  | .rewardCancelUnvested =>
    let ⟨(key, value), snapshot⟩ ← LedgerRules.adjustment kind env finalized L
    return ({ D with
        rewardAdjustmentSnapshots := D.rewardAdjustmentSnapshots.set snapshot.1 snapshot.2
        rewardCancellations := D.rewardCancellations.set key value },
      ["DevelopmentRewardUnvestedCancelled"])
  | .rewardCorrect =>
    let ⟨(key, value), snapshot⟩ ← LedgerRules.adjustment kind env finalized L
    return ({ D with
        rewardAdjustmentSnapshots := D.rewardAdjustmentSnapshots.set snapshot.1 snapshot.2
        rewardCorrections := D.rewardCorrections.set key value },
      ["DevelopmentRewardCorrected"])

/-- The validations of the development operations without a credit. -/
def validateDevelopment (kind : DevelopmentKind) (env : Envelope) (finalized : FinalizedIds)
    (L : LedgerState) : Except PyError (DevelopmentRecords × List String) := do
  require (env.operationType == kind.operationType) kind.complaint
  validateDevelopmentRecords kind env finalized L

def applyDevelopment (kind : DevelopmentKind) (env : Envelope) (finalized : FinalizedIds) :
    LedgerM LedgerOperationRecord :=
  applyConsensus (validateDevelopment kind env finalized) Prod.snd env
    fun (records, _) => putDevelopment records

/-- A validated payment. -/
structure DevelopmentPayment where
  records : DevelopmentRecords
  wallet : String
  amount : Int

def payStage (op : StageOperation) (env : Envelope) (finalized : FinalizedIds)
    (L : LedgerState) : Except PyError DevelopmentPayment := do
  let D := L.development
  let record ← validateRewardPay op env finalized L
  return ⟨{ D with rewardPaymentRecords := D.rewardPaymentRecords.set record.paymentId record },
    record.walletAddress, record.payment.amountQAtoms⟩

/-- Pay an unclaimed stage to the wallet of its binding. -/
def payClaim (env : Envelope) (finalized : FinalizedIds) (L : LedgerState) :
    Except PyError DevelopmentPayment := do
  let D := L.development
  let record ← validateRewardClaim env finalized L
  return ⟨{ D with rewardClaimRecords := D.rewardClaimRecords.set record.claimId record },
    record.binding.walletAddress, record.unclaimed.payment.amountQAtoms⟩

/-- The validations of payments and claims: the collections afterwards and what they credit. -/
def validateDevelopmentPayment (kind : PaymentKind) (env : Envelope) (finalized : FinalizedIds)
    (L : LedgerState) : Except PyError DevelopmentPayment := do
  require (env.operationType == kind.operationType)
    "DEVELOPMENT_REWARD_CALCULATION_OPERATION_INVALID"
  match kind with
  | .payImmediate => payStage .payImmediate env finalized L
  | .payMaturity => payStage .payMaturity env finalized L
  | .claim => payClaim env finalized L

/-- `apply_consensus_development_reward_pay_immediate`, `…_pay_maturity`, `…_claim`. -/
def applyDevelopmentPayment (kind : PaymentKind) (env : Envelope) (finalized : FinalizedIds) :
    LedgerM LedgerOperationRecord :=
  applyConsensus (validateDevelopmentPayment kind env finalized) (fun _ => kind.events) env
    fun payment => do
    putDevelopment payment.records
    creditWalletQAtoms payment.wallet payment.amount

/-! ## Recorded evidence and epoch transitions -/

/-- The validations of the operations that only record their envelope: the events. -/
def validateRecorded (kind : RecordedKind) (env : Envelope) (finalized : FinalizedIds)
    (L : LedgerState) : Except PyError (List String) := do
  require (kind.operationTypes.contains env.operationType) kind.complaint
  LedgerRules.recorded kind env finalized L

/-- The operations that only record their envelope. -/
def applyRecorded (kind : RecordedKind) (env : Envelope) (finalized : FinalizedIds) :
    LedgerM LedgerOperationRecord :=
  applyConsensus (validateRecorded kind env finalized) id env fun _ => pure ()

/-- Some text members of a payload are supplied. -/
def suppliesAny (payload : Fields) (keys : List String) : Bool := keys.any payload.has

def requirePoolBudgets (payload : Fields) : Except PyError Unit := do
  let budgets ← requireDict payload "pool_budgets" "epoch transition pool budgets are required"
  budgets.forM fun budget => do
    require (!isBlank budget.1) "epoch transition pool id is invalid"
    require (match budget.2 with
      | .int n => 0 ≤ n
      | _ => false) "epoch transition pool budget is invalid"
  match PyValue.get payload "pool_budget_references" with
  | .none => pure ()
  | .dict references =>
    requireEach ("epoch transition pool budget reference is invalid: " ++ ·)
      (budgets.map fun budget => (budget.1, Fields.hasText references budget.1))
  | _ => raiseValue "epoch transition pool budget references are invalid"

/-- `epoch_schedule_commitment() is not None`. -/
def epochScheduleCommitted (L : LedgerState) : Bool :=
  L.operations.any (·.operationType == "EPOCH_SCHEDULE_COMMIT")

/-- `validate_consensus_epoch_transition`: the closing and the opening epoch. -/
def validateEpochTransition (env : Envelope) (finalized : FinalizedIds) (L : LedgerState) :
    Except PyError (Int × Int) := do
  require (env.operationType == "EPOCH_TRANSITION")
    "consensus epoch transition requires EPOCH_TRANSITION"
  require (env.originType == .protocol && env.senderWallet.isNone)
    "consensus epoch transition requires protocol origin"
  let payload := env.payload
  requireTexts payload "epoch transition field is invalid: "
    ["closing_state_root", "epoch_task_result_root", "eligibility_snapshot_root",
      "reward_calculation_root", "next_protocol_parameters_hash"]
  let closing ← requireInt payload "closing_epoch" (0 ≤ ·)
    "epoch transition closing epoch is invalid"
  let opening ← requireInt payload "opening_epoch" (0 ≤ ·)
    "epoch transition opening epoch is invalid"
  require (opening == closing + 1) "opening epoch must immediately follow closing epoch"
  require (targetEpochMatches env closing)
    "epoch transition target epoch does not match closing epoch"
  if suppliesAny payload ["epoch_result_manifest_hash", "epoch_result_manifest_operation_id",
      "epoch_transition_quorum_version", "epoch_transition_quorum_hash",
      "epoch_result_manifest_sequence_id", "epoch_result_manifest_record_digest"] then
    LedgerRules.epochManifest env finalized L
  if PyValue.get payload "epoch_schedule_commit_operation_id" ≠ .none ∨
      epochScheduleCommitted L then
    LedgerRules.epochSchedule env finalized L
  requirePoolBudgets payload
  require (!L.operations.any fun operation =>
      operation.operationType == "EPOCH_TRANSITION" &&
        valueEqInt (PyValue.get operation.payload "closing_epoch") closing)
    "epoch transition for closing epoch is already finalized"
  return (closing, opening)

/-- `apply_consensus_epoch_transition`. -/
def applyEpochTransition (env : Envelope) (finalized : FinalizedIds) :
    LedgerM LedgerOperationRecord :=
  recordOnly (validateEpochTransition env finalized) ["EpochTransition"] env

end AidnSpec.Ledger
