import AidnSpec.Base.CanonicalJson
import AidnSpec.Base.Schema

/-!
# Records of development rewards

The records of `reward/development_pool.py`, `development_reserve.py`, `development_payment.py`,
`development_unclaimed.py`, `development_claim.py` and `development_expiry.py`, with the schedule
and the payment of `development_distribution.py:38–45, 187–215`. A record keeps the fields that it
does not determine itself: its identity and its hash are computed, and amounts that its model forces
to agree are kept once.
-/

namespace AidnSpec.Ledger

open Base

/-- `canonical_hash` of `reward/development_distribution.py`. -/
@[irreducible] def developmentHash (value : PyValue) : String :=
  "sha256:" ++ hexEncode false
    (sha256 (asciiBytes ("eco-0007-simulation.v1:".toList ++ canonicalText value)))

theorem isBlank_developmentHash (value : PyValue) : isBlank (developmentHash value) = false := by
  unfold developmentHash
  rw [isBlank, String.toList_append]
  rfl

theorem developmentHash_isEmpty (value : PyValue) : (developmentHash value).isEmpty = false := by
  unfold developmentHash
  rw [String.isEmpty_eq_false_iff]
  intro h
  have hlength := congrArg String.length h
  simp at hlength

inductive RewardStage where
  | immediate
  | maturityStageOne
  | maturityStageTwo
  deriving DecidableEq

namespace RewardStage

def toText : RewardStage → String
  | immediate => "IMMEDIATE"
  | maturityStageOne => "MATURITY_STAGE_ONE"
  | maturityStageTwo => "MATURITY_STAGE_TWO"

def ofText (text : String) : Option RewardStage :=
  [immediate, maturityStageOne, maturityStageTwo].find? (·.toText == text)

end RewardStage

/-- The state of a calculated payment. -/
inductive RewardPaymentState where
  | payable
  | reserved
  | unclaimed
  deriving DecidableEq

namespace RewardPaymentState

def toText : RewardPaymentState → String
  | payable => "PAYABLE"
  | reserved => "RESERVED"
  | unclaimed => "UNCLAIMED"

def ofText (text : String) : Option RewardPaymentState :=
  [payable, reserved, unclaimed].find? (·.toText == text)

end RewardPaymentState

/-- `DevelopmentRole`. -/
def developmentRoles : List String :=
  ["AUTHOR", "COAUTHOR", "ISSUE_DESIGNER", "SPECIFICATION_AUTHOR", "PRIMARY_REVIEWER",
    "SECONDARY_REVIEWER", "SECURITY_REVIEWER", "TEST_AUTHOR", "RELEASE_INTEGRATOR"]

/-- `DevelopmentRewardSchedule`. -/
structure RewardSchedule where
  rewardId : String
  contributionId : String
  contributionEpoch : Nat
  distributionEpoch : Nat
  grossRewardQAtoms : Nat
  immediateAmountQAtoms : Nat
  maturityStageOneAmountQAtoms : Nat
  maturityStageTwoAmountQAtoms : Nat
  immediateEpoch : Nat
  maturityStageOneEpoch : Nat
  maturityStageTwoEpoch : Nat
  scheduleHash : String

/-- `canonical_hash(schedule.model_dump(mode="json", exclude={"schedule_hash"}))`. -/
def RewardSchedule.computeHash (s : RewardSchedule) : String :=
  developmentHash (.dict
    [("reward_id", .str s.rewardId), ("contribution_id", .str s.contributionId),
      ("contribution_epoch", .int s.contributionEpoch),
      ("distribution_epoch", .int s.distributionEpoch),
      ("gross_reward_q_atoms", .int s.grossRewardQAtoms),
      ("immediate_amount_q_atoms", .int s.immediateAmountQAtoms),
      ("maturity_stage_one_amount_q_atoms", .int s.maturityStageOneAmountQAtoms),
      ("maturity_stage_two_amount_q_atoms", .int s.maturityStageTwoAmountQAtoms),
      ("immediate_epoch", .int s.immediateEpoch),
      ("maturity_stage_one_epoch", .int s.maturityStageOneEpoch),
      ("maturity_stage_two_epoch", .int s.maturityStageTwoEpoch)])

/-- `DevelopmentRewardPayment`. -/
structure RewardPayment where
  rewardId : String
  contributionId : String
  contributorId : String
  role : String
  walletAddress : Option String
  stage : RewardStage
  amountQAtoms : Nat
  state : RewardPaymentState
  paymentHash : String
  deriving DecidableEq

namespace RewardPayment

/-- `canonical_hash(payment.model_dump(mode="json", exclude={"payment_hash"}))`. -/
def computeHash (p : RewardPayment) : String :=
  developmentHash (.dict
    [("reward_id", .str p.rewardId), ("contribution_id", .str p.contributionId),
      ("contributor_id", .str p.contributorId), ("role", .str p.role),
      ("wallet_address", optText p.walletAddress), ("payment_stage", .str p.stage.toText),
      ("amount_q_atoms", .int p.amountQAtoms), ("state", .str p.state.toText)])

def modelValidate [Runtime] : PyValue → Option RewardPayment
  | .dict fields => do
    let rewardId ← fieldText fields "reward_id" true
    let contributionId ← fieldText fields "contribution_id" true
    let contributorId ← fieldText fields "contributor_id" true
    let role ← fieldLiteral fields "role" fun text => developmentRoles.find? (· == text)
    let walletAddress ← fieldOptText fields "wallet_address"
    let stage ← fieldLiteral fields "payment_stage" RewardStage.ofText
    let amountQAtoms ← fieldNat fields "amount_q_atoms"
    let state ← fieldLiteral fields "state" RewardPaymentState.ofText
    let paymentHash ← fieldText fields "payment_hash" true
    return ⟨rewardId, contributionId, contributorId, role, walletAddress, stage, amountQAtoms,
      state, paymentHash⟩
  | _ => none

/-- `model_dump(mode="json")`. -/
def toValue (p : RewardPayment) : PyValue :=
  .dict
    [("reward_id", .str p.rewardId), ("contribution_id", .str p.contributionId), ("contributor_id",
      .str p.contributorId), ("role", .str p.role), ("wallet_address", optText p.walletAddress),
      ("payment_stage", .str p.stage.toText), ("amount_q_atoms", .int p.amountQAtoms), ("state",
      .str p.state.toText), ("payment_hash", .str p.paymentHash)]

/-- A dumped payment reads back as itself. -/
theorem modelValidate_toValue [Runtime] {p : RewardPayment}
    (named : ∀ t ∈ [p.rewardId, p.contributionId, p.contributorId, p.paymentHash],
      t.isEmpty = false) (role : p.role ∈ developmentRoles) :
    modelValidate p.toValue = some p := by
  simp only [List.forall_mem_cons] at named
  obtain ⟨hreward, hcontribution, hcontributor, hhash, -⟩ := named
  have hrole : developmentRoles.find? (· == p.role) = some p.role := by
    cases hfind : developmentRoles.find? (· == p.role) with
    | none => exact absurd (beq_self_eq_true p.role) (List.find?_eq_none.mp hfind p.role role)
    | some text =>
      have heq := List.find?_some (p := fun x => x == p.role) hfind
      rw [beq_iff_eq.mp heq]
  have hstage : RewardStage.ofText p.stage.toText = some p.stage := by
    cases p.stage <;> rfl
  have hstate : RewardPaymentState.ofText p.state.toText = some p.state := by
    cases p.state <;> rfl
  cases hwallet : p.walletAddress with
  | none | some =>
    simp [modelValidate, toValue, fieldText, fieldNat, fieldInt, laxInt, fieldLiteral,
      fieldOptText, optText, List.lookup_cons, hreward, hcontribution, hcontributor, hhash, hrole,
      hstage, hstate, hwallet]
    rw [← hwallet]

end RewardPayment

/-! ## Allocations -/

/-- `DevelopmentPoolAllocation`: the authorized budget is allocated, and all of it remains. -/
structure PoolAllocation where
  poolId : String
  epoch : Nat
  calculationOperationId : String
  calculationCommitmentId : String
  calculationRoot : String
  sourceEpochTransitionOperationId : String
  sourcePoolBudgetReference : String
  allocatedQAtoms : Nat
  deriving DecidableEq

namespace PoolAllocation

/-- `DEVELOPMENT_POOL_ALLOCATION_VERSION`. -/
def version : String := "eco-0007-pool-allocation.v1"

/-- `development_pool_allocation_id`. -/
def allocationId (a : PoolAllocation) : String :=
  developmentHash (.dict
    [("allocation_version", .str version), ("pool_id", .str a.poolId), ("epoch", .int a.epoch),
      ("calculation_operation_id", .str a.calculationOperationId),
      ("calculation_root", .str a.calculationRoot),
      ("source_epoch_transition_operation_id", .str a.sourceEpochTransitionOperationId),
      ("source_pool_budget_reference", .str a.sourcePoolBudgetReference),
      ("allocated_q_atoms", .int a.allocatedQAtoms)])

/-- `unsigned_payload`. -/
def unsigned (a : PoolAllocation) : Fields :=
  [("allocation_version", .str version), ("allocation_id", .str a.allocationId), ("pool_id",
    .str a.poolId), ("epoch", .int a.epoch), ("calculation_operation_id",
    .str a.calculationOperationId), ("calculation_commitment_id", .str a.calculationCommitmentId),
    ("calculation_root", .str a.calculationRoot), ("source_epoch_transition_operation_id",
    .str a.sourceEpochTransitionOperationId), ("source_pool_budget_reference",
    .str a.sourcePoolBudgetReference), ("authorized_budget_q_atoms", .int a.allocatedQAtoms),
    ("allocated_q_atoms", .int a.allocatedQAtoms), ("remaining_q_atoms", .int a.allocatedQAtoms),
    ("state", .str "ALLOCATED")]

def computeHash (a : PoolAllocation) : String := developmentHash (.dict a.unsigned)

/-- `model_dump(mode="json")`. -/
def toValue (a : PoolAllocation) : PyValue :=
  .dict (a.unsigned ++ [("allocation_hash", .str a.computeHash)])

/-- `model_validate`: the allocation and the hash it declares. -/
def modelValidate [Runtime] : PyValue → Option (PoolAllocation × String)
  | .dict fields => do
    let declaredVersion ← fieldTextD fields "allocation_version" version
    let allocationId ← fieldText fields "allocation_id" true
    let poolId ← fieldText fields "pool_id" true
    let epoch ← fieldNat fields "epoch"
    let calculationOperationId ← fieldText fields "calculation_operation_id" true
    let calculationCommitmentId ← fieldText fields "calculation_commitment_id" true
    let calculationRoot ← fieldText fields "calculation_root" true
    let source ← fieldText fields "source_epoch_transition_operation_id" true
    let reference ← fieldText fields "source_pool_budget_reference" true
    let authorized ← fieldNat fields "authorized_budget_q_atoms"
    let allocated ← fieldNat fields "allocated_q_atoms"
    let remaining ← fieldNat fields "remaining_q_atoms"
    let state ← fieldTextD fields "state" "ALLOCATED"
    let allocationHash ← fieldText fields "allocation_hash" true
    let allocation : PoolAllocation :=
      ⟨poolId, epoch, calculationOperationId, calculationCommitmentId, calculationRoot, source,
        reference, allocated⟩
    guard (declaredVersion = version ∧ state = "ALLOCATED" ∧ 0 < authorized ∧ 0 < allocated ∧
      authorized = allocated ∧ remaining = allocated ∧ allocationId = allocation.allocationId)
    return (allocation, allocationHash)
  | _ => none

/-- A dumped allocation reads back as itself. -/
theorem modelValidate_toValue [Runtime] {a : PoolAllocation}
    (named : ∀ t ∈ [a.poolId, a.calculationOperationId, a.calculationCommitmentId,
      a.calculationRoot, a.sourceEpochTransitionOperationId, a.sourcePoolBudgetReference],
      t.isEmpty = false) (positive : 0 < a.allocatedQAtoms) :
    modelValidate a.toValue = some (a, a.computeHash) := by
  simp only [List.forall_mem_cons] at named
  obtain ⟨hpool, hoperation, hcommitment, hroot, htransition, hreference, -⟩ := named
  have hid : a.allocationId.isEmpty = false := developmentHash_isEmpty _
  have hhash : a.computeHash.isEmpty = false := developmentHash_isEmpty _
  have hchecks : version = version ∧ "ALLOCATED" = "ALLOCATED" ∧ 0 < a.allocatedQAtoms ∧
      0 < a.allocatedQAtoms ∧ a.allocatedQAtoms = a.allocatedQAtoms ∧
      a.allocatedQAtoms = a.allocatedQAtoms ∧ a.allocationId = a.allocationId :=
    ⟨rfl, rfl, positive, positive, rfl, rfl, rfl⟩
  rw [toValue, modelValidate, fieldTextD_of_lookup rfl, fieldText_of_filled rfl hid,
    fieldText_of_filled rfl hpool, fieldNat_of_lookup rfl, fieldText_of_filled rfl hoperation,
    fieldText_of_filled rfl hcommitment, fieldText_of_filled rfl hroot,
    fieldText_of_filled rfl htransition, fieldText_of_filled rfl hreference,
    fieldNat_of_lookup rfl, fieldNat_of_lookup rfl, fieldNat_of_lookup rfl,
    fieldTextD_of_lookup rfl, fieldText_of_filled rfl hhash]
  exact congrArg (· >>= fun _ => some (a, a.computeHash)) (if_pos hchecks)

end PoolAllocation

/-! ## Reserves -/

/-- `DevelopmentRewardReserve`: the reserved amount is the sum of its stages, and all of it
remains. -/
structure RewardReserve where
  poolAllocationId : String
  poolAllocationOperationId : String
  calculationOperationId : String
  calculationCommitmentId : String
  calculationRoot : String
  rewardId : String
  contributionId : String
  epoch : Nat
  scheduleHash : String
  immediateAmountQAtoms : Nat
  maturityStageOneAmountQAtoms : Nat
  maturityStageTwoAmountQAtoms : Nat
  deriving DecidableEq

namespace RewardReserve

/-- `DEVELOPMENT_REWARD_RESERVE_VERSION`. -/
def version : String := "eco-0007-reward-reserve.v1"

def reservedQAtoms (r : RewardReserve) : Nat :=
  r.immediateAmountQAtoms + r.maturityStageOneAmountQAtoms + r.maturityStageTwoAmountQAtoms

def stageAmount (r : RewardReserve) : RewardStage → Nat
  | .immediate => r.immediateAmountQAtoms
  | .maturityStageOne => r.maturityStageOneAmountQAtoms
  | .maturityStageTwo => r.maturityStageTwoAmountQAtoms

/-- `development_reward_reserve_id`. -/
def reserveId (r : RewardReserve) : String :=
  developmentHash (.dict
    [("reserve_version", .str version), ("pool_allocation_id", .str r.poolAllocationId),
      ("reward_id", .str r.rewardId), ("schedule_hash", .str r.scheduleHash)])

/-- `unsigned_payload`. -/
def unsigned (r : RewardReserve) : Fields :=
  [("reserve_version", .str version), ("reserve_id", .str r.reserveId), ("pool_allocation_id",
    .str r.poolAllocationId), ("pool_allocation_operation_id", .str r.poolAllocationOperationId),
    ("calculation_operation_id", .str r.calculationOperationId), ("calculation_commitment_id",
    .str r.calculationCommitmentId), ("calculation_root", .str r.calculationRoot), ("reward_id",
    .str r.rewardId), ("contribution_id", .str r.contributionId), ("epoch", .int r.epoch),
    ("schedule_hash", .str r.scheduleHash), ("gross_reward_q_atoms", .int r.reservedQAtoms),
    ("immediate_amount_q_atoms", .int r.immediateAmountQAtoms),
    ("maturity_stage_one_amount_q_atoms", .int r.maturityStageOneAmountQAtoms),
    ("maturity_stage_two_amount_q_atoms", .int r.maturityStageTwoAmountQAtoms), ("reserved_q_atoms",
    .int r.reservedQAtoms), ("remaining_q_atoms", .int r.reservedQAtoms), ("state",
    .str "RESERVED")]

def computeHash (r : RewardReserve) : String := developmentHash (.dict r.unsigned)

/-- `model_dump(mode="json")`. -/
def toValue (r : RewardReserve) : PyValue :=
  .dict (r.unsigned ++ [("reserve_hash", .str r.computeHash)])

/-- `model_validate`: the reserve and the hash it declares. -/
def modelValidate [Runtime] : PyValue → Option (RewardReserve × String)
  | .dict fields => do
    let declaredVersion ← fieldTextD fields "reserve_version" version
    let reserveId ← fieldText fields "reserve_id" true
    let poolAllocationId ← fieldText fields "pool_allocation_id" true
    let poolAllocationOperationId ← fieldText fields "pool_allocation_operation_id" true
    let calculationOperationId ← fieldText fields "calculation_operation_id" true
    let calculationCommitmentId ← fieldText fields "calculation_commitment_id" true
    let calculationRoot ← fieldText fields "calculation_root" true
    let rewardId ← fieldText fields "reward_id" true
    let contributionId ← fieldText fields "contribution_id" true
    let epoch ← fieldNat fields "epoch"
    let scheduleHash ← fieldText fields "schedule_hash" true
    let gross ← fieldNat fields "gross_reward_q_atoms"
    let immediate ← fieldNat fields "immediate_amount_q_atoms"
    let stageOne ← fieldNat fields "maturity_stage_one_amount_q_atoms"
    let stageTwo ← fieldNat fields "maturity_stage_two_amount_q_atoms"
    let reserved ← fieldNat fields "reserved_q_atoms"
    let remaining ← fieldNat fields "remaining_q_atoms"
    let state ← fieldTextD fields "state" "RESERVED"
    let reserveHash ← fieldText fields "reserve_hash" true
    let reserve : RewardReserve :=
      ⟨poolAllocationId, poolAllocationOperationId, calculationOperationId,
        calculationCommitmentId, calculationRoot, rewardId, contributionId, epoch, scheduleHash,
        immediate, stageOne, stageTwo⟩
    guard (declaredVersion = version ∧ state = "RESERVED" ∧ 0 < gross ∧ 0 < reserved ∧
      reserved = gross ∧ remaining = reserved ∧ gross = reserve.reservedQAtoms ∧
      reserveId = reserve.reserveId)
    return (reserve, reserveHash)
  | _ => none

/-- A dumped reserve reads back as itself. -/
theorem modelValidate_toValue [Runtime] {r : RewardReserve}
    (named : ∀ t ∈ [r.poolAllocationId, r.poolAllocationOperationId, r.calculationOperationId,
      r.calculationCommitmentId, r.calculationRoot, r.rewardId, r.contributionId,
      r.scheduleHash], t.isEmpty = false) (positive : 0 < r.reservedQAtoms) :
    modelValidate r.toValue = some (r, r.computeHash) := by
  simp only [List.forall_mem_cons] at named
  obtain ⟨hallocation, hallocationOperation, hoperation, hcommitment, hroot, hreward, hcontribution,
    hschedule, -⟩ := named
  have hid : r.reserveId.isEmpty = false := developmentHash_isEmpty _
  have hhash : r.computeHash.isEmpty = false := developmentHash_isEmpty _
  have hchecks : version = version ∧ "RESERVED" = "RESERVED" ∧ 0 < r.reservedQAtoms ∧
      0 < r.reservedQAtoms ∧ r.reservedQAtoms = r.reservedQAtoms ∧
      r.reservedQAtoms = r.reservedQAtoms ∧ r.reservedQAtoms = r.reservedQAtoms ∧
      r.reserveId = r.reserveId :=
    ⟨rfl, rfl, positive, positive, rfl, rfl, rfl, rfl⟩
  rw [toValue, modelValidate, fieldTextD_of_lookup rfl, fieldText_of_filled rfl hid,
    fieldText_of_filled rfl hallocation, fieldText_of_filled rfl hallocationOperation,
    fieldText_of_filled rfl hoperation, fieldText_of_filled rfl hcommitment,
    fieldText_of_filled rfl hroot, fieldText_of_filled rfl hreward,
    fieldText_of_filled rfl hcontribution, fieldNat_of_lookup rfl,
    fieldText_of_filled rfl hschedule, fieldNat_of_lookup rfl, fieldNat_of_lookup rfl,
    fieldNat_of_lookup rfl, fieldNat_of_lookup rfl, fieldNat_of_lookup rfl,
    fieldNat_of_lookup rfl, fieldTextD_of_lookup rfl, fieldText_of_filled rfl hhash]
  exact congrArg (· >>= fun _ => some (r, r.computeHash)) (if_pos hchecks)

end RewardReserve

/-! ## Consumption of a reserve -/

/-- The finalized records that a stage of a reward goes back to. -/
structure RewardSource where
  reserveId : String
  reserveOperationId : String
  poolAllocationId : String
  poolAllocationOperationId : String
  calculationOperationId : String
  calculationCommitmentId : String
  calculationRoot : String
  deriving DecidableEq

/-- The members of a record that name its source. -/
def RewardSource.toFields (s : RewardSource) : Fields :=
  [("reserve_id", .str s.reserveId), ("reserve_operation_id", .str s.reserveOperationId),
    ("pool_allocation_id", .str s.poolAllocationId), ("pool_allocation_operation_id",
    .str s.poolAllocationOperationId), ("calculation_operation_id", .str s.calculationOperationId),
    ("calculation_commitment_id", .str s.calculationCommitmentId), ("calculation_root",
    .str s.calculationRoot)]

/-- The members of a record that name the rewarded contribution. -/
def RewardPayment.toFields (p : RewardPayment) : Fields :=
  [("reward_id", .str p.rewardId), ("contribution_id", .str p.contributionId), ("contributor_id",
    .str p.contributorId), ("role", .str p.role)]

/-- The members of a record that name the stage and its amount. -/
def RewardPayment.stageFields (p : RewardPayment) : Fields :=
  [("payment_hash", .str p.paymentHash), ("payment_stage", .str p.stage.toText), ("amount_q_atoms",
    .int p.amountQAtoms)]

def hashedRecord (unsigned : Fields) : PyValue :=
  .dict (unsigned ++ [("record_hash", .str (developmentHash (.dict unsigned)))])

def developmentRewardPaymentId (reserveId paymentHash : String) (stage : RewardStage) : String :=
  developmentHash (.dict
    [("payment_version", .str "eco-0007-reward-payment.v1"), ("reserve_id", .str reserveId),
      ("payment_hash", .str paymentHash), ("payment_stage", .str stage.toText)])

/-- `DevelopmentRewardPaymentRecord`. -/
structure RewardPaymentRecord where
  source : RewardSource
  payment : RewardPayment
  walletAddress : String
  reserveRemainingQAtoms : Int
  poolRemainingQAtoms : Int
  deriving DecidableEq

namespace RewardPaymentRecord

def paymentId (r : RewardPaymentRecord) : String :=
  developmentRewardPaymentId r.source.reserveId r.payment.paymentHash r.payment.stage

/-- `model_dump(mode="json")`. -/
def toValue (r : RewardPaymentRecord) : PyValue :=
  hashedRecord ([("payment_version", .str "eco-0007-reward-payment.v1"),
      ("payment_id", .str r.paymentId)] ++ r.source.toFields ++ r.payment.toFields ++
    [("wallet_address", .str r.walletAddress)] ++ r.payment.stageFields ++
    [("reserve_remaining_q_atoms", .int r.reserveRemainingQAtoms),
      ("pool_remaining_q_atoms", .int r.poolRemainingQAtoms), ("state", .str "PAID")])

end RewardPaymentRecord

def developmentRewardUnclaimedId (reserveId paymentHash : String) (stage : RewardStage) : String :=
  developmentHash (.dict
    [("unclaimed_version", .str "eco-0007-reward-unclaimed.v1"), ("reserve_id", .str reserveId),
      ("payment_hash", .str paymentHash), ("payment_stage", .str stage.toText)])

/-- `DevelopmentRewardUnclaimedRecord`. -/
structure RewardUnclaimedRecord where
  source : RewardSource
  payment : RewardPayment
  distributionEpoch : Int
  claimExpirationEpoch : Int
  deriving DecidableEq

namespace RewardUnclaimedRecord

def unclaimedId (r : RewardUnclaimedRecord) : String :=
  developmentRewardUnclaimedId r.source.reserveId r.payment.paymentHash r.payment.stage

/-- `model_dump(mode="json")`. -/
def toValue (r : RewardUnclaimedRecord) : PyValue :=
  hashedRecord ([("unclaimed_version", .str "eco-0007-reward-unclaimed.v1"),
      ("unclaimed_id", .str r.unclaimedId)] ++ r.source.toFields ++ r.payment.toFields ++
    r.payment.stageFields ++
    [("distribution_epoch", .int r.distributionEpoch),
      ("claim_expiration_epoch", .int r.claimExpirationEpoch), ("state", .str "UNCLAIMED")])

end RewardUnclaimedRecord

def developmentRewardClaimId (unclaimedId walletBindingId : String) (claimEpoch : Int) : String :=
  developmentHash (.dict
    [("claim_version", .str "eco-0007-reward-claim.v1"), ("unclaimed_id", .str unclaimedId),
      ("wallet_binding_id", .str walletBindingId), ("claim_epoch", .int claimEpoch)])

/-- What a claim reads of a verified `DevelopmentRewardWalletBindingProof`. -/
structure WalletBinding where
  bindingId : String
  contributorId : String
  walletAddress : String
  bindingHash : String
  bindingVersion : Nat
  deriving DecidableEq

/-- `DevelopmentRewardClaimRecord`. -/
structure RewardClaimRecord where
  unclaimed : RewardUnclaimedRecord
  claimOperationId : String
  unclaimedOperationId : String
  claimEpoch : Int
  binding : WalletBinding
  reserveRemainingQAtoms : Int
  poolRemainingQAtoms : Int
  deriving DecidableEq

namespace RewardClaimRecord

def claimId (r : RewardClaimRecord) : String :=
  developmentRewardClaimId r.unclaimed.unclaimedId r.binding.bindingId r.claimEpoch

/-- `model_dump(mode="json")`. -/
def toValue (r : RewardClaimRecord) : PyValue :=
  hashedRecord ([("claim_version", .str "eco-0007-reward-claim.v1"), ("claim_id", .str r.claimId),
      ("claim_operation_id", .str r.claimOperationId),
      ("unclaimed_id", .str r.unclaimed.unclaimedId),
      ("unclaimed_operation_id", .str r.unclaimedOperationId)] ++
    r.unclaimed.source.toFields ++ r.unclaimed.payment.toFields ++
    r.unclaimed.payment.stageFields ++
    [("claim_epoch", .int r.claimEpoch),
      ("claim_expiration_epoch", .int r.unclaimed.claimExpirationEpoch),
      ("wallet_address", .str r.binding.walletAddress),
      ("wallet_binding_id", .str r.binding.bindingId),
      ("wallet_binding_hash", .str r.binding.bindingHash),
      ("wallet_binding_version", .int r.binding.bindingVersion),
      ("reserve_remaining_q_atoms", .int r.reserveRemainingQAtoms),
      ("pool_remaining_q_atoms", .int r.poolRemainingQAtoms), ("state", .str "CLAIMED")])

end RewardClaimRecord

def developmentRewardExpiryId (unclaimedId : String) : String :=
  developmentHash (.dict
    [("expiry_version", .str "eco-0007-reward-expiry.v1"), ("unclaimed_id", .str unclaimedId),
      ("return_destination", .str "CARRYOVER")])

/-- `DevelopmentRewardExpiryRecord`. -/
structure RewardExpiryRecord where
  unclaimed : RewardUnclaimedRecord
  expiryOperationId : String
  unclaimedOperationId : String
  sourceEpochTransitionOperationId : String
  expiryEpoch : Int
  reserveRemainingQAtoms : Int
  poolRemainingQAtoms : Int
  deriving DecidableEq

namespace RewardExpiryRecord

def expiryId (r : RewardExpiryRecord) : String := developmentRewardExpiryId r.unclaimed.unclaimedId

/-- `model_dump(mode="json")`. -/
def toValue (r : RewardExpiryRecord) : PyValue :=
  let s := r.unclaimed.source
  hashedRecord ([("expiry_version", .str "eco-0007-reward-expiry.v1"),
      ("expiry_id", .str r.expiryId), ("expiry_operation_id", .str r.expiryOperationId),
      ("unclaimed_id", .str r.unclaimed.unclaimedId),
      ("unclaimed_operation_id", .str r.unclaimedOperationId), ("reserve_id", .str s.reserveId),
      ("reserve_operation_id", .str s.reserveOperationId),
      ("pool_allocation_id", .str s.poolAllocationId),
      ("pool_allocation_operation_id", .str s.poolAllocationOperationId),
      ("calculation_operation_id", .str s.calculationOperationId),
      ("source_epoch_transition_operation_id", .str r.sourceEpochTransitionOperationId),
      ("calculation_commitment_id", .str s.calculationCommitmentId),
      ("calculation_root", .str s.calculationRoot)] ++
    r.unclaimed.payment.toFields ++ r.unclaimed.payment.stageFields ++
    [("distribution_epoch", .int r.unclaimed.distributionEpoch),
      ("claim_expiration_epoch", .int r.unclaimed.claimExpirationEpoch),
      ("expiry_epoch", .int r.expiryEpoch), ("return_destination", .str "CARRYOVER"),
      ("reserve_remaining_q_atoms", .int r.reserveRemainingQAtoms),
      ("pool_remaining_q_atoms", .int r.poolRemainingQAtoms), ("state", .str "EXPIRED_RETURNED")])

end RewardExpiryRecord

end AidnSpec.Ledger
