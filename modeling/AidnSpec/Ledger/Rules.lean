import AidnSpec.Ledger.Wallet

/-!
# Kinds of operations and the rules of the ledger

Families of operations that share their shape, and the validations that no result about amounts
depends on: they are a parameter, `LedgerRules`.
-/

namespace AidnSpec.Ledger

open Base

/-- Operations that record their envelope and change nothing else. -/
inductive RecordedKind where
  | validationEvidence
  | serviceVerification
  | epochScheduleRebase
  | epochScheduleCommit
  | epochResultManifest
  | reputationProfileUpdate
  | snapshotCommit
  | operatorWalletBind
  | testnetParticipationHeartbeat
  | walletIdentityRegister
  | endpointPublish
  | developmentRewardCalculate
  | developmentRewardActivationScopeExtend
  deriving DecidableEq

/-- The operation types that the validation of a recorded operation accepts. -/
def RecordedKind.operationTypes : RecordedKind → List String
  | validationEvidence =>
    ["VALIDATION_REPORT_COMMIT", "VALIDATION_REPORT_STORAGE_RECEIPT",
      "VALIDATION_REPORT_STORAGE_FAILURE", "VALIDATION_REPORT_AVAILABILITY_COMMIT",
      "VALIDATION_REPORT_CUSTODY_RELEASE"]
  | serviceVerification => ["SERVICE_VERIFICATION_COMMIT"]
  | epochScheduleRebase => ["EPOCH_SCHEDULE_REBASE"]
  | epochScheduleCommit => ["EPOCH_SCHEDULE_COMMIT"]
  | epochResultManifest => ["EPOCH_RESULT_MANIFEST_COMMIT"]
  | reputationProfileUpdate => ["REPUTATION_PROFILE_UPDATE"]
  | snapshotCommit => ["SNAPSHOT_COMMIT"]
  | operatorWalletBind => ["OPERATOR_WALLET_BIND"]
  | testnetParticipationHeartbeat => ["TESTNET_PARTICIPATION_HEARTBEAT"]
  | walletIdentityRegister => ["WALLET_IDENTITY_REGISTER"]
  | endpointPublish => ["ENDPOINT_PUBLISH"]
  | developmentRewardCalculate => ["DEVELOPMENT_REWARD_CALCULATE"]
  | developmentRewardActivationScopeExtend => ["DEVELOPMENT_REWARD_ACTIVATION_SCOPE_EXTEND"]

/-- The text of the exception for another operation type. -/
def RecordedKind.complaint : RecordedKind → String
  | validationEvidence => "unsupported Validation evidence operation"
  | serviceVerification =>
    "consensus service verification requires SERVICE_VERIFICATION_COMMIT"
  | epochScheduleRebase => "consensus epoch schedule rebase requires EPOCH_SCHEDULE_REBASE"
  | epochScheduleCommit => "consensus epoch schedule commit requires EPOCH_SCHEDULE_COMMIT"
  | epochResultManifest =>
    "consensus epoch result manifest requires EPOCH_RESULT_MANIFEST_COMMIT"
  | reputationProfileUpdate => "consensus Reputation update requires REPUTATION_PROFILE_UPDATE"
  | snapshotCommit => "consensus snapshot commit requires SNAPSHOT_COMMIT"
  | operatorWalletBind => "operator wallet bind requires OPERATOR_WALLET_BIND"
  | testnetParticipationHeartbeat =>
    "testnet participation heartbeat requires TESTNET_PARTICIPATION_HEARTBEAT"
  | walletIdentityRegister => "wallet identity registration requires WALLET_IDENTITY_REGISTER"
  | endpointPublish => "endpoint publication requires ENDPOINT_PUBLISH"
  | developmentRewardCalculate => "DEVELOPMENT_REWARD_CALCULATION_OPERATION_INVALID"
  | developmentRewardActivationScopeExtend =>
    "DEVELOPMENT_ACTIVATION_SCOPE_EXTENSION_OPERATION_INVALID"

/-- Development operations that keep a record and credit no wallet. -/
inductive DevelopmentKind where
  | poolAllocate
  | poolCarryover
  | bountyCreate
  | bountyReserve
  | bountyRelease
  | bountyExpire
  | rewardCancelUnvested
  | rewardCorrect
  | rewardReserve
  | rewardMarkUnclaimed
  | rewardExpireUnclaimed
  | rewardFinalizeCommitment

def DevelopmentKind.operationType : DevelopmentKind → String
  | poolAllocate => "DEVELOPMENT_POOL_ALLOCATE"
  | poolCarryover => "DEVELOPMENT_POOL_CARRYOVER"
  | bountyCreate => "DEVELOPMENT_BOUNTY_CREATE"
  | bountyReserve => "DEVELOPMENT_BOUNTY_RESERVE"
  | bountyRelease => "DEVELOPMENT_BOUNTY_RELEASE"
  | bountyExpire => "DEVELOPMENT_BOUNTY_EXPIRE"
  | rewardCancelUnvested => "DEVELOPMENT_REWARD_CANCEL_UNVESTED"
  | rewardCorrect => "DEVELOPMENT_REWARD_CORRECT"
  | rewardReserve => "DEVELOPMENT_REWARD_RESERVE"
  | rewardMarkUnclaimed => "DEVELOPMENT_REWARD_MARK_UNCLAIMED"
  | rewardExpireUnclaimed => "DEVELOPMENT_REWARD_EXPIRE_UNCLAIMED"
  | rewardFinalizeCommitment => "DEVELOPMENT_REWARD_FINALIZE_COMMITMENT"

/-- The text of the exception for another operation type. -/
def DevelopmentKind.complaint : DevelopmentKind → String
  | poolAllocate | rewardReserve | rewardMarkUnclaimed | rewardExpireUnclaimed
  | rewardFinalizeCommitment => "DEVELOPMENT_REWARD_CALCULATION_OPERATION_INVALID"
  | poolCarryover | bountyCreate | bountyReserve | bountyRelease | bountyExpire
  | rewardCancelUnvested | rewardCorrect => "DEVELOPMENT_REWARD_ADJUSTMENT_OPERATION_INVALID"

/-- Development operations that credit a wallet. -/
inductive PaymentKind where
  | payImmediate
  | payMaturity
  | claim

def PaymentKind.operationType : PaymentKind → String
  | payImmediate => "DEVELOPMENT_REWARD_PAY_IMMEDIATE"
  | payMaturity => "DEVELOPMENT_REWARD_PAY_MATURITY"
  | claim => "DEVELOPMENT_REWARD_CLAIM"

def PaymentKind.events : PaymentKind → List String
  | payImmediate => ["DevelopmentRewardPaidImmediate"]
  | payMaturity => ["DevelopmentRewardPaidMaturity"]
  | claim => ["DevelopmentRewardClaimed"]

/-- What the development operations read of the calculation, the commitment and the scope
extension in their payload. -/
structure CalculationEvidence where
  commitmentId : String
  calculationRoot : String
  epoch : Nat
  claimWindowEpochs : Nat
  baseAllocationQAtoms : Nat
  poolInQAtoms : Nat
  schedules : List RewardSchedule
  /-- The effective epoch of the scope extension that authorized the operation. -/
  scopeExtensionEpoch : Option Int

/-- The records that a carryover, a bounty, a finalized commitment, a cancellation or a
correction stores. -/
structure AdjustmentRecords where
  record : String × Fields
  /-- The adjustment snapshot of a cancellation or a correction. -/
  snapshot : String × Fields

/-- Validations whose outcome no amount depends on. -/
class LedgerRules where
  /-- The validation of a recorded operation, and the events it emits. -/
  recorded : RecordedKind → Envelope → FinalizedIds → LedgerState →
    Except PyError (List String)
  /-- The manifest a `TREASURY_MANIFEST_BIND` binds. -/
  treasuryManifest : Envelope → LedgerState → Except PyError Fields
  /-- Manifest bindings, authorization and replay checks of a `TREASURY_FUND`. -/
  treasuryAuthorization : Envelope → LedgerState → Except PyError Unit
  /-- The calculation, the commitment and the activation approval of a development payload,
  for an operation type. -/
  calculation : String → Envelope → FinalizedIds → LedgerState →
    Except PyError CalculationEvidence
  /-- `DevelopmentRewardWalletBindingProof.model_validate` and `verify_signature`. -/
  walletBinding : PyValue → Except PyError WalletBinding
  /-- The records of the other development operations. -/
  adjustment : DevelopmentKind → Envelope → FinalizedIds → LedgerState →
    Except PyError AdjustmentRecords
  /-- The result manifest that an epoch transition links. -/
  epochManifest : Envelope → FinalizedIds → LedgerState → Except PyError Unit
  /-- The committed epoch schedule that an epoch transition refers to. -/
  epochSchedule : Envelope → FinalizedIds → LedgerState → Except PyError Unit

end AidnSpec.Ledger
