import AidnSpec.Ledger.Rules

/-!
# Development rewards

`ledger/service.py:2933–3135, 3285–3412, 3873–4014, 4046–4884`: pool allocations, reserves, and the
four ways in which a stage of a reserve is used up. Every validation adds up the records that it
looks at; none of them looks at all five kinds.
-/

namespace AidnSpec.Ledger

open Base

/-! ## Totals -/

namespace DevelopmentRecords

/-- The amounts of the payments that the condition selects. -/
def paid (D : DevelopmentRecords) (counts : RewardSource → RewardStage → Bool) : Int :=
  D.rewardPaymentRecords.sum fun _ r =>
    if counts r.source r.payment.stage then (r.payment.amountQAtoms : Int) else 0

/-- The amounts of the unclaimed marks that the condition selects. -/
def unclaimed (D : DevelopmentRecords) (counts : RewardSource → RewardStage → Bool) : Int :=
  D.rewardUnclaimedRecords.sum fun _ r =>
    if counts r.source r.payment.stage then (r.payment.amountQAtoms : Int) else 0

/-- The amounts of the claims that the condition selects. -/
def claimed (D : DevelopmentRecords) (counts : RewardSource → RewardStage → Bool) : Int :=
  D.rewardClaimRecords.sum fun _ r =>
    if counts r.unclaimed.source r.unclaimed.payment.stage then
      (r.unclaimed.payment.amountQAtoms : Int) else 0

/-- The amounts of the expiries that the condition selects. -/
def expired (D : DevelopmentRecords) (counts : RewardSource → RewardStage → Bool) : Int :=
  D.rewardExpiryRecords.sum fun _ r =>
    if counts r.unclaimed.source r.unclaimed.payment.stage then
      (r.unclaimed.payment.amountQAtoms : Int) else 0

def reserved (D : DevelopmentRecords) (allocationId : String) : Int :=
  D.rewardReserves.sum fun _ r =>
    if r.poolAllocationId == allocationId then (r.reservedQAtoms : Int) else 0

def isClaimed (D : DevelopmentRecords) (unclaimedId : String) : Bool :=
  D.rewardClaimRecords.values.any (·.unclaimed.unclaimedId == unclaimedId)

def isExpired (D : DevelopmentRecords) (unclaimedId : String) : Bool :=
  D.rewardExpiryRecords.values.any (·.unclaimed.unclaimedId == unclaimedId)

end DevelopmentRecords

/-- Records against a reserve. -/
def ofReserve (reserveId : String) : RewardSource → RewardStage → Bool :=
  fun source _ => source.reserveId == reserveId

def ofStage (reserveId : String) (stage : RewardStage) : RewardSource → RewardStage → Bool :=
  fun source s => source.reserveId == reserveId && s == stage

/-- Records against an allocation. -/
def ofAllocation (allocationId : String) : RewardSource → RewardStage → Bool :=
  fun source _ => source.poolAllocationId == allocationId

/-! ## Reading the sources -/

/-- The latest operation of an identity, if it has the type. -/
def requireTyped (L : LedgerState) (operationId operationType complaint : String) :
    Except PyError LedgerOperationRecord :=
  requireStored ((L.operationById operationId).filter (·.operationType == operationType)) complaint

/-- `payload.get(key) or {}`, whose members are read next. -/
def nestedMember (payload : Fields) (key : String) : Except PyError Fields :=
  match PyValue.get payload key with
  | .dict members => .ok members
  | .none | .bool false | .int 0 | .str "" | .list [] => .ok []
  | .float _ 0 => .ok []
  | _ => .error ⟨.attribute, "object has no attribute 'get'"⟩

/-- The named members of a payload have the expected values. -/
def matchesFields (payload expected : Fields) : Bool :=
  expected.all fun member => (PyValue.get payload member.1).eqv member.2

def isText (payload : Fields) (key text : String) : Bool :=
  PyValue.get payload key == .str text

variable [Runtime] [LedgerRules]

/-- `_validate_development_reward_calculation_payload` after the operation type. -/
def calculationPayload (operationType : String) (env : Envelope) (finalized : FinalizedIds)
    (L : LedgerState) : Except PyError CalculationEvidence := do
  require (env.originType == .protocol && env.senderWallet.isNone)
    "DEVELOPMENT_REWARD_CALCULATION_ORIGIN_INVALID"
  require (env.feeClass == .protocolSponsored) "DEVELOPMENT_REWARD_CALCULATION_FEE_INVALID"
  require (env.payload.hasText "payload_hash") "DEVELOPMENT_REWARD_CALCULATION_PAYLOAD_HASH_INVALID"
  require (env.payload.text "payload_hash" ==
      developmentHash (.dict (env.payload.filter (·.1 != "payload_hash"))))
    "DEVELOPMENT_REWARD_CALCULATION_PAYLOAD_HASH_INVALID"
  let epoch ← requireInt env.payload "epoch" (0 ≤ ·) "DEVELOPMENT_REWARD_CALCULATION_EPOCH_INVALID"
  require (env.targetEpoch == some (toString epoch))
    "DEVELOPMENT_REWARD_CALCULATION_TARGET_EPOCH_INVALID"
  LedgerRules.calculation operationType env finalized L

/-- The calculation operation of a payload is in the log and agrees with the evidence. -/
def requireCalculation (subject : String) (payload : Fields) (evidence : CalculationEvidence)
    (L : LedgerState) : Except PyError Unit := do
  let operation ← requireTyped L (payload.text "calculation_operation_id")
    "DEVELOPMENT_REWARD_CALCULATE" (subject ++ "_CALCULATION_OPERATION_INVALID")
  require (isText operation.payload "commitment_id" evidence.commitmentId &&
      isText operation.payload "calculation_root" evidence.calculationRoot)
    (subject ++ "_CALCULATION_BINDING_INVALID")

/-- A text of the payload names an operation that was finalized before the block. -/
def requireFinalizedText (payload : Fields) (finalized : FinalizedIds) (key complaint : String) :
    Except PyError Unit :=
  require ((finalized.getD []).contains (payload.text key)) complaint

/-! ## Allocations and reserves -/

/-- `validate_consensus_development_pool_allocate` after the operation type. -/
def validatePoolAllocate (env : Envelope) (finalized : FinalizedIds) (L : LedgerState) :
    Except PyError PoolAllocation := do
  let evidence ← calculationPayload "DEVELOPMENT_POOL_ALLOCATE" env none L
  let payload := env.payload
  require (payload.hasText "calculation_operation_id")
    "DEVELOPMENT_POOL_CALCULATION_OPERATION_REQUIRED"
  require (payload.hasText "source_epoch_transition_operation_id")
    "DEVELOPMENT_POOL_EPOCH_TRANSITION_REQUIRED"
  require (payload.hasText "pool_budget_reference") "DEVELOPMENT_POOL_BUDGET_REFERENCE_INVALID"
  require (payload.hasText "pool_id") "DEVELOPMENT_POOL_ID_INVALID"
  let amount ← requireInt payload "amount_q_atoms" (0 < ·)
    "DEVELOPMENT_POOL_ALLOCATION_AMOUNT_INVALID"
  requireFinalizedText payload finalized "calculation_operation_id"
    "DEVELOPMENT_POOL_CALCULATION_NOT_FINALIZED"
  requireCalculation "DEVELOPMENT_POOL" payload evidence L
  requireFinalizedText payload finalized "source_epoch_transition_operation_id"
    "DEVELOPMENT_POOL_EPOCH_TRANSITION_NOT_FINALIZED"
  let source ← requireTyped L (payload.text "source_epoch_transition_operation_id")
    "EPOCH_TRANSITION" "DEVELOPMENT_POOL_EPOCH_TRANSITION_INVALID"
  require (valueEqInt (PyValue.get source.payload "closing_epoch") evidence.epoch)
    "DEVELOPMENT_POOL_EPOCH_MISMATCH"
  let poolId := payload.text "pool_id"
  let budgets ← requireDict source.payload "pool_budgets" "DEVELOPMENT_POOL_BUDGET_NOT_AUTHORIZED"
  require (Fields.has budgets poolId) "DEVELOPMENT_POOL_BUDGET_NOT_AUTHORIZED"
  let budget ← requireInt budgets poolId (0 < ·) "DEVELOPMENT_POOL_BUDGET_INVALID"
  let references ← requireDict source.payload "pool_budget_references"
    "DEVELOPMENT_POOL_BUDGET_REFERENCE_MISMATCH"
  require (isText references poolId (payload.text "pool_budget_reference"))
    "DEVELOPMENT_POOL_BUDGET_REFERENCE_MISMATCH"
  require (amount == budget) "DEVELOPMENT_POOL_ALLOCATION_BUDGET_MISMATCH"
  require (evidence.baseAllocationQAtoms == amount && evidence.poolInQAtoms == amount)
    "DEVELOPMENT_POOL_CALCULATION_BUDGET_MISMATCH"
  let (allocation, declaredHash) ← requireStored
    (PoolAllocation.modelValidate (PyValue.get payload "pool_allocation"))
    "DEVELOPMENT_POOL_ALLOCATION_EVIDENCE_INVALID"
  require (declaredHash == allocation.computeHash) "DEVELOPMENT_POOL_ALLOCATION_HASH_INVALID"
  let expected : PoolAllocation :=
    ⟨poolId, evidence.epoch, payload.text "calculation_operation_id", evidence.commitmentId,
      evidence.calculationRoot, payload.text "source_epoch_transition_operation_id",
      payload.text "pool_budget_reference", amount.toNat⟩
  require (allocation == expected) "DEVELOPMENT_POOL_ALLOCATION_BINDING_INVALID"
  match L.development.poolAllocations.get? allocation.allocationId with
  | some existing =>
    require (existing == allocation) "DEVELOPMENT_POOL_ALLOCATION_CONFLICT"
    raiseValue "DEVELOPMENT_POOL_ALLOCATION_ALREADY_FINALIZED"
  | none => return allocation

/-- The room that an allocation has for another reserve: returned stages count again. -/
def requireAllocationRoom (D : DevelopmentRecords) (allocationId : String)
    (allocation : PoolAllocation) (reserve : RewardReserve) : Except PyError Unit :=
  let net := D.reserved allocationId - D.expired (ofAllocation allocationId)
  require (0 < allocation.allocatedQAtoms &&
    net + reserve.reservedQAtoms ≤ allocation.allocatedQAtoms && 0 ≤ net)
      "DEVELOPMENT_REWARD_RESERVE_POOL_EXCEEDED"

/-- `validate_consensus_development_reward_reserve` after the operation type. -/
def validateRewardReserve (env : Envelope) (finalized : FinalizedIds) (L : LedgerState) :
    Except PyError RewardReserve := do
  let evidence ← calculationPayload "DEVELOPMENT_REWARD_RESERVE" env none L
  let payload := env.payload
  require (payload.hasText "calculation_operation_id")
    "DEVELOPMENT_REWARD_RESERVE_CALCULATION_OPERATION_REQUIRED"
  require (payload.hasText "pool_allocation_id")
    "DEVELOPMENT_REWARD_RESERVE_POOL_ALLOCATION_REQUIRED"
  require (payload.hasText "pool_allocation_operation_id")
    "DEVELOPMENT_REWARD_RESERVE_POOL_ALLOCATION_OPERATION_REQUIRED"
  require (payload.hasText "reward_id") "DEVELOPMENT_REWARD_RESERVE_REWARD_REQUIRED"
  requireFinalizedText payload finalized "calculation_operation_id"
    "DEVELOPMENT_REWARD_RESERVE_CALCULATION_NOT_FINALIZED"
  requireCalculation "DEVELOPMENT_REWARD_RESERVE" payload evidence L
  requireFinalizedText payload finalized "pool_allocation_operation_id"
    "DEVELOPMENT_REWARD_RESERVE_POOL_ALLOCATION_NOT_FINALIZED"
  let operation ← requireTyped L (payload.text "pool_allocation_operation_id")
    "DEVELOPMENT_POOL_ALLOCATE" "DEVELOPMENT_REWARD_RESERVE_POOL_ALLOCATION_OPERATION_INVALID"
  let nested ← nestedMember operation.payload "pool_allocation"
  let allocationId := payload.text "pool_allocation_id"
  require (isText nested "allocation_id" allocationId)
    "DEVELOPMENT_REWARD_RESERVE_POOL_ALLOCATION_BINDING_INVALID"
  let allocation ← requireStored (L.development.poolAllocations.get? allocationId)
    "DEVELOPMENT_REWARD_RESERVE_POOL_ALLOCATION_NOT_FOUND"
  require (allocation.calculationOperationId == payload.text "calculation_operation_id" &&
      allocation.calculationCommitmentId == evidence.commitmentId &&
      allocation.calculationRoot == evidence.calculationRoot)
    "DEVELOPMENT_REWARD_RESERVE_POOL_ALLOCATION_SOURCE_MISMATCH"
  let schedule ← requireStored
    (evidence.schedules.find? (·.rewardId == payload.text "reward_id"))
    "DEVELOPMENT_REWARD_RESERVE_REWARD_NOT_FOUND"
  let (reserve, declaredHash) ← requireStored
    (RewardReserve.modelValidate (PyValue.get payload "reward_reserve"))
    "DEVELOPMENT_REWARD_RESERVE_EVIDENCE_INVALID"
  require (declaredHash == reserve.computeHash) "DEVELOPMENT_REWARD_RESERVE_HASH_INVALID"
  require (schedule.scheduleHash == schedule.computeHash)
    "DEVELOPMENT_REWARD_RESERVE_SCHEDULE_HASH_INVALID"
  require (0 < schedule.grossRewardQAtoms) "DEVELOPMENT_REWARD_RESERVE_AMOUNT_INVALID"
  let expected : RewardReserve :=
    ⟨allocationId, payload.text "pool_allocation_operation_id",
      payload.text "calculation_operation_id", evidence.commitmentId, evidence.calculationRoot,
      schedule.rewardId, schedule.contributionId, schedule.distributionEpoch,
      schedule.scheduleHash, schedule.immediateAmountQAtoms,
      schedule.maturityStageOneAmountQAtoms, schedule.maturityStageTwoAmountQAtoms⟩
  -- the expected reserve is a model, too, and refuses stages that do not add up
  require (schedule.grossRewardQAtoms == expected.reservedQAtoms)
    "DEVELOPMENT_REWARD_RESERVE_SCHEDULE_TOTAL_INVALID"
  require (reserve == expected) "DEVELOPMENT_REWARD_RESERVE_BINDING_INVALID"
  match L.development.rewardReserves.get? reserve.reserveId with
  | some existing =>
    require (existing == reserve) "DEVELOPMENT_REWARD_RESERVE_CONFLICT"
    raiseValue "DEVELOPMENT_REWARD_RESERVE_ALREADY_FINALIZED"
  | none =>
    requireAllocationRoom L.development allocationId allocation reserve
    return reserve

/-! ## Payments and unclaimed marks -/

/-- The operations that `_validate_consensus_development_reward_payment` serves. -/
inductive StageOperation where
  | payImmediate
  | payMaturity
  | markUnclaimed
  deriving DecidableEq

namespace StageOperation

/-- `expected_operation_type`. -/
def operationType : StageOperation → String
  | payImmediate => "DEVELOPMENT_REWARD_PAY_IMMEDIATE"
  | payMaturity => "DEVELOPMENT_REWARD_PAY_MATURITY"
  | markUnclaimed => "DEVELOPMENT_REWARD_MARK_UNCLAIMED"

/-- `expected_payment_stages`. -/
def stages : StageOperation → List RewardStage
  | payImmediate => [.immediate]
  | payMaturity => [.maturityStageOne, .maturityStageTwo]
  | markUnclaimed => [.immediate, .maturityStageOne, .maturityStageTwo]

/-- `expected_payment_states`. -/
def states : StageOperation → List RewardPaymentState
  | payImmediate => [.payable]
  | payMaturity => [.reserved]
  | markUnclaimed => [.unclaimed]

/-- `required_text`. -/
def texts (op : StageOperation) : List String :=
  ["calculation_operation_id", "pool_allocation_id", "pool_allocation_operation_id", "reserve_id",
    "reserve_operation_id", "reward_id", "contributor_id", "role", "payment_hash"] ++
  (if op = markUnclaimed then [] else ["recipient_wallet"]) ++
  (if op = payMaturity then ["source_epoch_transition_operation_id"] else [])

end StageOperation

def payloadSource (payload : Fields) (evidence : CalculationEvidence) : RewardSource where
  reserveId := payload.text "reserve_id"
  reserveOperationId := payload.text "reserve_operation_id"
  poolAllocationId := payload.text "pool_allocation_id"
  poolAllocationOperationId := payload.text "pool_allocation_operation_id"
  calculationOperationId := payload.text "calculation_operation_id"
  calculationCommitmentId := evidence.commitmentId
  calculationRoot := evidence.calculationRoot

def RewardReserve.belongsTo (r : RewardReserve) (source : RewardSource) : Bool :=
  r.poolAllocationId == source.poolAllocationId &&
    r.poolAllocationOperationId == source.poolAllocationOperationId &&
    r.calculationOperationId == source.calculationOperationId &&
    r.calculationCommitmentId == source.calculationCommitmentId &&
    r.calculationRoot == source.calculationRoot

/-- The allocation and the reserve of a payment, through the operations that recorded them. -/
def paymentSource (payload : Fields) (evidence : CalculationEvidence) (L : LedgerState) :
    Except PyError (PoolAllocation × RewardReserve) := do
  requireCalculation "DEVELOPMENT_REWARD_PAYMENT" payload evidence L
  let source := payloadSource payload evidence
  let allocationOperation ← requireTyped L source.poolAllocationOperationId
    "DEVELOPMENT_POOL_ALLOCATE" "DEVELOPMENT_REWARD_PAYMENT_POOL_ALLOCATION_OPERATION_INVALID"
  let nestedAllocation ← nestedMember allocationOperation.payload "pool_allocation"
  require (isText nestedAllocation "allocation_id" source.poolAllocationId)
    "DEVELOPMENT_REWARD_PAYMENT_POOL_ALLOCATION_BINDING_INVALID"
  let allocation ← requireStored (L.development.poolAllocations.get? source.poolAllocationId)
    "DEVELOPMENT_REWARD_PAYMENT_POOL_ALLOCATION_NOT_FOUND"
  let reserveOperation ← requireTyped L source.reserveOperationId
    "DEVELOPMENT_REWARD_RESERVE" "DEVELOPMENT_REWARD_PAYMENT_RESERVE_OPERATION_INVALID"
  let nestedReserve ← nestedMember reserveOperation.payload "reward_reserve"
  require (isText nestedReserve "reserve_id" source.reserveId)
    "DEVELOPMENT_REWARD_PAYMENT_RESERVE_BINDING_INVALID"
  let reserve ← requireStored (L.development.rewardReserves.get? source.reserveId)
    "DEVELOPMENT_REWARD_PAYMENT_RESERVE_NOT_FOUND"
  require (reserve.belongsTo source) "DEVELOPMENT_REWARD_PAYMENT_RESERVE_SOURCE_MISMATCH"
  return (allocation, reserve)

/-- The calculated payment of a payload, bound to the members of the payload. -/
def payloadPayment (op : StageOperation) (payload : Fields) (amount : Int)
    (reserve : RewardReserve) : Except PyError RewardPayment := do
  let payment ← requireStored (RewardPayment.modelValidate (PyValue.get payload "reward_payment"))
    "DEVELOPMENT_REWARD_PAYMENT_EVIDENCE_INVALID"
  require (payment.paymentHash == payment.computeHash) "DEVELOPMENT_REWARD_PAYMENT_HASH_INVALID"
  require (payment.rewardId == payload.text "reward_id" &&
      payment.contributorId == payload.text "contributor_id" &&
      PyValue.get payload "recipient_wallet" == optText payment.walletAddress &&
      payment.role == payload.text "role" &&
      isText payload "payment_stage" payment.stage.toText &&
      payment.paymentHash == payload.text "payment_hash" &&
      (payment.amountQAtoms : Int) == amount)
    "DEVELOPMENT_REWARD_PAYMENT_BINDING_INVALID"
  require (op.states.contains payment.state && op.stages.contains payment.stage)
    "DEVELOPMENT_REWARD_PAYMENT_NOT_PAYABLE"
  if op = .markUnclaimed then
    require (payment.state == .unclaimed && payment.walletAddress.isNone)
      "DEVELOPMENT_REWARD_UNCLAIMED_STATE_INVALID"
  else
    require (!(payment.walletAddress.getD "").isEmpty) "DEVELOPMENT_REWARD_PAYMENT_NOT_PAYABLE"
  require (payment.rewardId == reserve.rewardId) "DEVELOPMENT_REWARD_PAYMENT_REWARD_MISMATCH"
  return payment

/-- The epoch of a maturity payment has been opened. -/
def requireMatured (payload : Fields) (evidence : CalculationEvidence) (schedule : RewardSchedule)
    (payment : RewardPayment) (L : LedgerState) : Except PyError Unit := do
  let source ← requireTyped L (payload.text "source_epoch_transition_operation_id")
    "EPOCH_TRANSITION" "DEVELOPMENT_REWARD_PAYMENT_MATURITY_EPOCH_INVALID"
  let opening ← requireInt source.payload "opening_epoch" (fun _ => true)
    "DEVELOPMENT_REWARD_PAYMENT_MATURITY_EPOCH_INVALID"
  let maturityEpoch := if payment.stage = .maturityStageOne then schedule.maturityStageOneEpoch
    else schedule.maturityStageTwoEpoch
  require (maturityEpoch ≤ opening) "DEVELOPMENT_REWARD_MATURITY_NOT_REACHED"
  match evidence.scopeExtensionEpoch with
  | some effective =>
    require (effective ≤ opening) "DEVELOPMENT_REWARD_SCOPE_EXTENSION_NOT_EFFECTIVE"
  | none => pure ()

/-- The room that the reserve, its stage and its allocation have for the amount: what remains
of the reserve and of the allocation. -/
def requireStageRoom (op : StageOperation) (D : DevelopmentRecords) (source : RewardSource)
    (allocation : PoolAllocation) (reserve : RewardReserve) (stage : RewardStage) (amount : Int) :
    Except PyError (Int × Int) := do
  let consumed := if op = .markUnclaimed then 0 else amount
  let reserveRemaining := reserve.reservedQAtoms - D.paid (ofReserve source.reserveId) - consumed
  require (0 ≤ reserveRemaining) "DEVELOPMENT_REWARD_PAYMENT_RESERVE_EXCEEDED"
  require (D.paid (ofStage source.reserveId stage) + D.unclaimed (ofStage source.reserveId stage) +
      amount ≤ reserve.stageAmount stage)
    "DEVELOPMENT_REWARD_PAYMENT_STAGE_EXCEEDED"
  let allocated := D.reserved source.poolAllocationId
  let paidAfter := D.paid (ofAllocation source.poolAllocationId) + amount
  require (allocated ≤ allocation.allocatedQAtoms && 0 ≤ allocated - paidAfter)
    "DEVELOPMENT_REWARD_PAYMENT_POOL_EXCEEDED"
  return (reserveRemaining, allocation.allocatedQAtoms - allocated)

/-- A stage of a reward that may be paid or marked. -/
structure ValidatedStage where
  source : RewardSource
  payment : RewardPayment
  reserveRemainingQAtoms : Int
  poolRemainingQAtoms : Int
  epoch : Nat
  claimWindowEpochs : Nat

/-- `_validate_consensus_development_reward_payment` after the operation type, up to the
record that it builds. -/
def validateRewardStage (op : StageOperation) (env : Envelope) (finalized : FinalizedIds)
    (L : LedgerState) : Except PyError ValidatedStage := do
  let evidence ← calculationPayload op.operationType env finalized L
  let payload := env.payload
  requireTexts payload "DEVELOPMENT_REWARD_PAYMENT_FIELD_INVALID:" op.texts
  requireMember (PyValue.get payload "payment_stage") (op.stages.map RewardStage.toText)
    "DEVELOPMENT_REWARD_PAYMENT_STAGE_INVALID"
  let amount ← requireInt payload "amount_q_atoms" (0 < ·)
    "DEVELOPMENT_REWARD_PAYMENT_AMOUNT_INVALID"
  requireFinalizedText payload finalized "calculation_operation_id"
    "DEVELOPMENT_REWARD_PAYMENT_CALCULATION_NOT_FINALIZED"
  requireFinalizedText payload finalized "pool_allocation_operation_id"
    "DEVELOPMENT_REWARD_PAYMENT_POOL_ALLOCATION_NOT_FINALIZED"
  requireFinalizedText payload finalized "reserve_operation_id"
    "DEVELOPMENT_REWARD_PAYMENT_RESERVE_NOT_FINALIZED"
  if op = .payMaturity then
    requireFinalizedText payload finalized "source_epoch_transition_operation_id"
      "DEVELOPMENT_REWARD_PAYMENT_MATURITY_EPOCH_NOT_FINALIZED"
  let (allocation, reserve) ← paymentSource payload evidence L
  let payment ← payloadPayment op payload amount reserve
  let schedule ← requireStored
    ((evidence.schedules.find? (·.rewardId == payment.rewardId)).filter
      (·.scheduleHash == reserve.scheduleHash))
    "DEVELOPMENT_REWARD_PAYMENT_SCHEDULE_MISMATCH"
  if op = .payMaturity then requireMatured payload evidence schedule payment L
  let source := payloadSource payload evidence
  if op = .markUnclaimed then
    require (!L.development.rewardUnclaimedRecords.contains
        (developmentRewardUnclaimedId source.reserveId payment.paymentHash payment.stage))
      "DEVELOPMENT_REWARD_UNCLAIMED_DUPLICATE"
  else
    require (!L.development.rewardPaymentRecords.contains
        (developmentRewardPaymentId source.reserveId payment.paymentHash payment.stage))
      "DEVELOPMENT_REWARD_PAYMENT_DUPLICATE"
  let (reserveRemaining, poolRemaining) ← requireStageRoom op L.development source allocation
    reserve payment.stage amount
  return ⟨source, payment, reserveRemaining, poolRemaining, evidence.epoch,
    evidence.claimWindowEpochs⟩

/-- `validate_consensus_development_reward_pay_immediate` and `…_pay_maturity`: the payment
record. What reaches its model meets the declared constraints. -/
def validateRewardPay (op : StageOperation) (env : Envelope) (finalized : FinalizedIds)
    (L : LedgerState) : Except PyError RewardPaymentRecord := do
  let stage ← validateRewardStage op env finalized L
  return ⟨stage.source, stage.payment, stage.payment.walletAddress.getD "",
    stage.reserveRemainingQAtoms, stage.poolRemainingQAtoms⟩

/-- `validate_consensus_development_reward_mark_unclaimed`: the unclaimed record. -/
def validateRewardMarkUnclaimed (env : Envelope) (finalized : FinalizedIds) (L : LedgerState) :
    Except PyError RewardUnclaimedRecord := do
  let stage ← validateRewardStage .markUnclaimed env finalized L
  let expiration : Int := stage.epoch + stage.claimWindowEpochs
  require (0 < expiration) "DEVELOPMENT_REWARD_UNCLAIMED_EXPIRATION_INVALID"
  return ⟨stage.source, stage.payment, stage.epoch, expiration⟩

/-! ## Claims -/

/-- The members of a claim and of an expiry that repeat the unclaimed record. -/
def RewardUnclaimedRecord.repeated (u : RewardUnclaimedRecord) : Fields :=
  u.source.toFields ++ u.payment.toFields ++ u.payment.stageFields

/-- The binding of a claim; every other exception becomes one `ValueError`. -/
def readWalletBinding (payload : Fields) : Except PyError WalletBinding :=
  match LedgerRules.walletBinding (PyValue.get payload "wallet_binding") with
  | .ok binding => .ok binding
  | .error e =>
    if e.kind = .value ∧ "DEVELOPMENT_REWARD_".toList.isPrefixOf e.message.toList then .error e
    else raiseValue "DEVELOPMENT_REWARD_WALLET_BINDING_INVALID"

def requireClaimRoom (D : DevelopmentRecords) (source : RewardSource) (allocation : PoolAllocation)
    (reserve : RewardReserve) (stage : RewardStage) (amount : Int) :
      Except PyError (Int × Int) := do
  let reserveRemaining := reserve.reservedQAtoms - D.paid (ofReserve source.reserveId) -
    D.claimed (ofReserve source.reserveId) - amount
  require (0 ≤ reserveRemaining) "DEVELOPMENT_REWARD_CLAIM_RESERVE_EXCEEDED"
  require (D.paid (ofStage source.reserveId stage) + D.claimed (ofStage source.reserveId stage) +
      amount ≤ reserve.stageAmount stage)
    "DEVELOPMENT_REWARD_CLAIM_STAGE_EXCEEDED"
  let allocated := D.reserved source.poolAllocationId
  require (allocated ≤ allocation.allocatedQAtoms) "DEVELOPMENT_REWARD_CLAIM_POOL_EXCEEDED"
  return (reserveRemaining, allocation.allocatedQAtoms - allocated)

def claimSource (payload : Fields) (evidence : CalculationEvidence) (L : LedgerState) :
    Except PyError (PoolAllocation × RewardReserve) := do
  requireCalculation "DEVELOPMENT_REWARD_CLAIM" payload evidence L
  let source := payloadSource payload evidence
  let allocationOperation ← requireTyped L source.poolAllocationOperationId
    "DEVELOPMENT_POOL_ALLOCATE" "DEVELOPMENT_REWARD_CLAIM_POOL_ALLOCATION_OPERATION_INVALID"
  let nestedAllocation ← nestedMember allocationOperation.payload "pool_allocation"
  let allocation ← requireStored (L.development.poolAllocations.get? source.poolAllocationId)
    "DEVELOPMENT_REWARD_CLAIM_POOL_ALLOCATION_BINDING_INVALID"
  require (isText nestedAllocation "allocation_id" source.poolAllocationId)
    "DEVELOPMENT_REWARD_CLAIM_POOL_ALLOCATION_BINDING_INVALID"
  let reserveOperation ← requireTyped L source.reserveOperationId
    "DEVELOPMENT_REWARD_RESERVE" "DEVELOPMENT_REWARD_CLAIM_RESERVE_OPERATION_INVALID"
  let nestedReserve ← nestedMember reserveOperation.payload "reward_reserve"
  let reserve ← requireStored (L.development.rewardReserves.get? source.reserveId)
    "DEVELOPMENT_REWARD_CLAIM_RESERVE_BINDING_INVALID"
  require (isText nestedReserve "reserve_id" source.reserveId)
    "DEVELOPMENT_REWARD_CLAIM_RESERVE_BINDING_INVALID"
  require (reserve.belongsTo source) "DEVELOPMENT_REWARD_CLAIM_RESERVE_SOURCE_MISMATCH"
  return (allocation, reserve)

/-- The unclaimed record of a claim: it is stored, not returned, and repeated by the claim and
by the operation that marked it. -/
def claimedRecord (payload : Fields) (L : LedgerState) : Except PyError RewardUnclaimedRecord := do
  let unclaimedId := payload.text "unclaimed_id"
  let unclaimed ← requireStored (L.development.rewardUnclaimedRecords.get? unclaimedId)
    "DEVELOPMENT_REWARD_CLAIM_UNCLAIMED_NOT_FOUND"
  require (!L.development.isExpired unclaimedId) "DEVELOPMENT_REWARD_CLAIM_EXPIRED_RETURNED"
  require (matchesFields payload unclaimed.repeated)
    "DEVELOPMENT_REWARD_CLAIM_UNCLAIMED_BINDING_INVALID"
  require (unclaimed.unclaimedId == unclaimedId) "DEVELOPMENT_REWARD_CLAIM_UNCLAIMED_ID_INVALID"
  let operation ← requireTyped L (payload.text "unclaimed_operation_id")
    "DEVELOPMENT_REWARD_MARK_UNCLAIMED" "DEVELOPMENT_REWARD_CLAIM_UNCLAIMED_OPERATION_INVALID"
  require (matchesFields operation.payload
      (unclaimed.payment.stageFields ++ [("reward_id", .str unclaimed.payment.rewardId)]))
    "DEVELOPMENT_REWARD_CLAIM_UNCLAIMED_OPERATION_BINDING_INVALID"
  let marked ← nestedMember operation.payload "reward_payment"
  require (isText marked "state" "UNCLAIMED")
    "DEVELOPMENT_REWARD_CLAIM_UNCLAIMED_OPERATION_BINDING_INVALID"
  return unclaimed

def requireClaimEpoch (payload : Fields) (claimEpoch : Int) (unclaimed : RewardUnclaimedRecord)
    (L : LedgerState) : Except PyError Unit := do
  let operation ← requireTyped L (payload.text "source_epoch_transition_operation_id")
    "EPOCH_TRANSITION" "DEVELOPMENT_REWARD_CLAIM_EPOCH_INVALID"
  let _ ← requireInt operation.payload "opening_epoch" (· == claimEpoch)
    "DEVELOPMENT_REWARD_CLAIM_EPOCH_INVALID"
  require (unclaimed.distributionEpoch ≤ claimEpoch) "DEVELOPMENT_REWARD_CLAIM_EPOCH_INVALID"
  require (claimEpoch ≤ unclaimed.claimExpirationEpoch) "DEVELOPMENT_CLAIM_WINDOW_EXPIRED"

/-- `validate_consensus_development_reward_claim` after the operation type. -/
def validateRewardClaim (env : Envelope) (finalized : FinalizedIds) (L : LedgerState) :
    Except PyError RewardClaimRecord := do
  let evidence ← calculationPayload "DEVELOPMENT_REWARD_CLAIM" env none L
  let payload := env.payload
  requireTexts payload "DEVELOPMENT_REWARD_CLAIM_FIELD_INVALID:"
    ["calculation_operation_id", "pool_allocation_id", "pool_allocation_operation_id",
      "reserve_id", "reserve_operation_id", "unclaimed_id", "unclaimed_operation_id", "reward_id",
      "contributor_id", "contribution_id", "recipient_wallet", "role", "payment_hash",
      "source_epoch_transition_operation_id"]
  let amount ← requireInt payload "amount_q_atoms" (0 < ·) "DEVELOPMENT_REWARD_CLAIM_AMOUNT_INVALID"
  let claimEpoch ← requireInt payload "claim_epoch" (0 ≤ ·) "DEVELOPMENT_REWARD_CLAIM_EPOCH_INVALID"
  requireFinalizedText payload finalized "calculation_operation_id"
    "DEVELOPMENT_REWARD_CLAIM_CALCULATION_NOT_FINALIZED"
  requireFinalizedText payload finalized "pool_allocation_operation_id"
    "DEVELOPMENT_REWARD_CLAIM_POOL_ALLOCATION_NOT_FINALIZED"
  requireFinalizedText payload finalized "reserve_operation_id"
    "DEVELOPMENT_REWARD_CLAIM_RESERVE_NOT_FINALIZED"
  requireFinalizedText payload finalized "unclaimed_operation_id"
    "DEVELOPMENT_REWARD_CLAIM_UNCLAIMED_NOT_FINALIZED"
  requireFinalizedText payload finalized "source_epoch_transition_operation_id"
    "DEVELOPMENT_REWARD_CLAIM_EPOCH_NOT_FINALIZED"
  let (allocation, reserve) ← claimSource payload evidence L
  let unclaimed ← claimedRecord payload L
  requireClaimEpoch payload claimEpoch unclaimed L
  let binding ← readWalletBinding payload
  require (binding.contributorId == unclaimed.payment.contributorId &&
      binding.walletAddress == payload.text "recipient_wallet")
    "DEVELOPMENT_REWARD_WALLET_BINDING_MISMATCH"
  let unclaimedId := payload.text "unclaimed_id"
  require (!L.development.isClaimed unclaimedId) "DEVELOPMENT_REWARD_CLAIM_DUPLICATE"
  require (!L.development.rewardClaimRecords.contains
      (developmentRewardClaimId unclaimedId binding.bindingId claimEpoch))
    "DEVELOPMENT_REWARD_CLAIM_DUPLICATE"
  let (reserveRemaining, poolRemaining) ← requireClaimRoom L.development
    (payloadSource payload evidence) allocation reserve unclaimed.payment.stage amount
  return ⟨unclaimed, env.operationId, payload.text "unclaimed_operation_id", claimEpoch, binding,
    reserveRemaining, poolRemaining⟩

/-! ## Expiries -/

def expirySource (payload : Fields) (evidence : CalculationEvidence) (L : LedgerState) :
    Except PyError (PoolAllocation × RewardReserve) := do
  requireCalculation "DEVELOPMENT_REWARD_EXPIRY" payload evidence L
  let source := payloadSource payload evidence
  let allocationOperation ← requireTyped L source.poolAllocationOperationId
    "DEVELOPMENT_POOL_ALLOCATE" "DEVELOPMENT_REWARD_EXPIRY_POOL_ALLOCATION_OPERATION_INVALID"
  let nestedAllocation ← nestedMember allocationOperation.payload "pool_allocation"
  require (isText nestedAllocation "allocation_id" source.poolAllocationId)
    "DEVELOPMENT_REWARD_EXPIRY_POOL_ALLOCATION_BINDING_INVALID"
  let allocation ← requireStored (L.development.poolAllocations.get? source.poolAllocationId)
    "DEVELOPMENT_REWARD_EXPIRY_POOL_ALLOCATION_NOT_FOUND"
  let reserveOperation ← requireTyped L source.reserveOperationId
    "DEVELOPMENT_REWARD_RESERVE" "DEVELOPMENT_REWARD_EXPIRY_RESERVE_OPERATION_INVALID"
  let nestedReserve ← nestedMember reserveOperation.payload "reward_reserve"
  require (isText nestedReserve "reserve_id" source.reserveId)
    "DEVELOPMENT_REWARD_EXPIRY_RESERVE_BINDING_INVALID"
  let reserve ← requireStored (L.development.rewardReserves.get? source.reserveId)
    "DEVELOPMENT_REWARD_EXPIRY_RESERVE_NOT_FOUND"
  require (reserve.belongsTo source && reserve.rewardId == payload.text "reward_id")
    "DEVELOPMENT_REWARD_EXPIRY_RESERVE_SOURCE_MISMATCH"
  return (allocation, reserve)

/-- What the operation that marked an unclaimed record says of it. -/
def RewardUnclaimedRecord.marked (u : RewardUnclaimedRecord) : Fields :=
  [("commitment_id", .str u.source.calculationCommitmentId), ("reserve_id",
    .str u.source.reserveId), ("reserve_operation_id", .str u.source.reserveOperationId),
    ("pool_allocation_id", .str u.source.poolAllocationId), ("pool_allocation_operation_id",
    .str u.source.poolAllocationOperationId), ("calculation_operation_id",
    .str u.source.calculationOperationId), ("calculation_root", .str u.source.calculationRoot),
    ("reward_id", .str u.payment.rewardId), ("contributor_id", .str u.payment.contributorId),
    ("role", .str u.payment.role)] ++ u.payment.stageFields

/-- The unclaimed record of an expiry: it is stored and repeated by the operation that marked
it and by the expiry. -/
def expiredRecord (payload : Fields) (L : LedgerState) : Except PyError RewardUnclaimedRecord := do
  let unclaimedId := payload.text "unclaimed_id"
  let unclaimed ← requireStored (L.development.rewardUnclaimedRecords.get? unclaimedId)
    "DEVELOPMENT_REWARD_EXPIRY_UNCLAIMED_NOT_FOUND"
  let operation ← requireTyped L (payload.text "unclaimed_operation_id")
    "DEVELOPMENT_REWARD_MARK_UNCLAIMED" "DEVELOPMENT_REWARD_EXPIRY_UNCLAIMED_OPERATION_INVALID"
  let marked ← nestedMember operation.payload "reward_payment"
  require (matchesFields operation.payload unclaimed.marked &&
      matchesFields marked (unclaimed.payment.toFields ++ unclaimed.payment.stageFields ++
        [("state", .str "UNCLAIMED")]))
    "DEVELOPMENT_REWARD_EXPIRY_UNCLAIMED_OPERATION_BINDING_INVALID"
  require (matchesFields payload
    (("unclaimed_id", .str unclaimed.unclaimedId) :: unclaimed.repeated))
    "DEVELOPMENT_REWARD_EXPIRY_UNCLAIMED_BINDING_INVALID"
  return unclaimed

def requireExpiryPayment (payload : Fields) (amount : Int) : Except PyError Unit := do
  let payment ← requireStored (RewardPayment.modelValidate (PyValue.get payload "reward_payment"))
    "declared field is invalid"
  require (payment.state == .unclaimed && payment.walletAddress.isNone &&
      payment.paymentHash == payment.computeHash &&
      payment.paymentHash == payload.text "payment_hash" && (payment.amountQAtoms : Int) == amount)
    "DEVELOPMENT_REWARD_EXPIRY_PAYMENT_BINDING_INVALID"

/-- The room that the reserve, its stage and its allocation have for a return. -/
def requireExpiryRoom (D : DevelopmentRecords) (source : RewardSource) (allocation : PoolAllocation)
    (reserve : RewardReserve) (stage : RewardStage) (amount : Int) :
      Except PyError (Int × Int) := do
  let reserveRemaining := reserve.reservedQAtoms - D.paid (ofReserve source.reserveId) -
    D.claimed (ofReserve source.reserveId) - D.expired (ofReserve source.reserveId) - amount
  require (0 ≤ reserveRemaining) "DEVELOPMENT_REWARD_EXPIRY_RESERVE_EXCEEDED"
  require (D.paid (ofStage source.reserveId stage) + D.claimed (ofStage source.reserveId stage) +
      D.expired (ofStage source.reserveId stage) + amount ≤ reserve.stageAmount stage)
    "DEVELOPMENT_REWARD_EXPIRY_STAGE_EXCEEDED"
  let allocated := D.reserved source.poolAllocationId
  let net := allocated - D.expired (ofAllocation source.poolAllocationId) - amount
  require (allocated ≤ allocation.allocatedQAtoms && 0 ≤ net && net ≤ allocation.allocatedQAtoms)
    "DEVELOPMENT_REWARD_EXPIRY_POOL_EXCEEDED"
  return (reserveRemaining, allocation.allocatedQAtoms - net)

/-- `validate_consensus_development_reward_expire_unclaimed` after the operation type. -/
def validateRewardExpireUnclaimed (env : Envelope) (finalized : FinalizedIds) (L : LedgerState) :
    Except PyError RewardExpiryRecord := do
  let evidence ← calculationPayload "DEVELOPMENT_REWARD_EXPIRE_UNCLAIMED" env none L
  let payload := env.payload
  requireTexts payload "DEVELOPMENT_REWARD_EXPIRY_FIELD_INVALID:"
    ["calculation_operation_id", "pool_allocation_id", "pool_allocation_operation_id",
      "reserve_id", "reserve_operation_id", "unclaimed_id", "unclaimed_operation_id",
      "source_epoch_transition_operation_id", "reward_id", "contribution_id", "role",
      "payment_hash"]
  require (isText payload "return_destination" "CARRYOVER")
    "DEVELOPMENT_REWARD_EXPIRY_DESTINATION_INVALID"
  let expiryEpoch ← requireInt payload "expiry_epoch" (0 ≤ ·)
    "DEVELOPMENT_REWARD_EXPIRY_EPOCH_INVALID"
  let amount ← requireInt payload "amount_q_atoms" (0 < ·)
    "DEVELOPMENT_REWARD_EXPIRY_AMOUNT_INVALID"
  requireFinalizedText payload finalized "calculation_operation_id"
    "DEVELOPMENT_REWARD_EXPIRY_CALCULATION_NOT_FINALIZED"
  requireFinalizedText payload finalized "pool_allocation_operation_id"
    "DEVELOPMENT_REWARD_EXPIRY_POOL_ALLOCATION_NOT_FINALIZED"
  requireFinalizedText payload finalized "reserve_operation_id"
    "DEVELOPMENT_REWARD_EXPIRY_RESERVE_NOT_FINALIZED"
  requireFinalizedText payload finalized "unclaimed_operation_id"
    "DEVELOPMENT_REWARD_EXPIRY_UNCLAIMED_NOT_FINALIZED"
  requireFinalizedText payload finalized "source_epoch_transition_operation_id"
    "DEVELOPMENT_REWARD_EXPIRY_EPOCH_NOT_FINALIZED"
  let (allocation, reserve) ← expirySource payload evidence L
  let unclaimed ← expiredRecord payload L
  require (unclaimed.claimExpirationEpoch < expiryEpoch) "DEVELOPMENT_REWARD_EXPIRY_NOT_REACHED"
  require (amount == unclaimed.payment.amountQAtoms) "DEVELOPMENT_REWARD_EXPIRY_AMOUNT_MISMATCH"
  let operation ← requireTyped L (payload.text "source_epoch_transition_operation_id")
    "EPOCH_TRANSITION" "DEVELOPMENT_REWARD_EXPIRY_EPOCH_INVALID"
  require (valueEqInt (PyValue.get operation.payload "opening_epoch") expiryEpoch)
    "DEVELOPMENT_REWARD_EXPIRY_EPOCH_INVALID"
  requireExpiryPayment payload amount
  require (!(L.development.rewardExpiryRecords.contains
      (developmentRewardExpiryId unclaimed.unclaimedId) ||
      L.development.isExpired unclaimed.unclaimedId)) "DEVELOPMENT_REWARD_EXPIRY_DUPLICATE"
  require (!L.development.isClaimed unclaimed.unclaimedId)
    "DEVELOPMENT_REWARD_EXPIRY_ALREADY_CLAIMED"
  let (reserveRemaining, poolRemaining) ← requireExpiryRoom L.development
    (payloadSource payload evidence) allocation reserve unclaimed.payment.stage amount
  return ⟨unclaimed, env.operationId, payload.text "unclaimed_operation_id",
    payload.text "source_epoch_transition_operation_id", expiryEpoch, reserveRemaining,
    poolRemaining⟩

end AidnSpec.Ledger
