import AidnSpec.Ledger.OperationLog

/-!
# From operation types to operations

`consensus/coverage.py` and the two branch tables that the executors share in substance: which
operation type is applied, and validated beforehand, by which method of the ledger. A type without
an entry is only recorded.
-/

namespace AidnSpec.Consensus

open Base Ledger

/-! ## Coverage -/

def supportedOperationVersions : List String := ["1.0.0"]

def validationEvidenceOperationTypes : List String :=
  ["VALIDATION_REPORT_COMMIT", "VALIDATION_REPORT_STORAGE_RECEIPT",
    "VALIDATION_REPORT_STORAGE_FAILURE", "VALIDATION_REPORT_AVAILABILITY_COMMIT",
    "VALIDATION_REPORT_CUSTODY_RELEASE"]

def consensusAppliedOperationTypes : List String :=
  ["EPOCH_TRANSITION", "EPOCH_SCHEDULE_COMMIT", "EPOCH_SCHEDULE_REBASE",
    "EPOCH_RESULT_MANIFEST_COMMIT", "WALLET_TRANSFER", "WALLET_IDENTITY_REGISTER",
    "OPERATOR_WALLET_BIND", "TESTNET_PARTICIPATION_HEARTBEAT", "ENDPOINT_PUBLISH",
    "SERVICE_VERIFICATION_COMMIT", "REPUTATION_PROFILE_UPDATE"] ++
  validationEvidenceOperationTypes ++
  ["SNAPSHOT_COMMIT", "SESSION_FAILURE_EVIDENCE", "CONSENSUS_VALIDATOR_SET_UPDATE",
    "TREASURY_FUND", "TREASURY_MANIFEST_BIND", "REWARD_MINT", "DEVELOPMENT_REWARD_CALCULATE",
    "DEVELOPMENT_REWARD_ACTIVATION_SCOPE_EXTEND", "DEVELOPMENT_POOL_ALLOCATE",
    "DEVELOPMENT_POOL_CARRYOVER", "DEVELOPMENT_BOUNTY_CREATE", "DEVELOPMENT_BOUNTY_RESERVE",
    "DEVELOPMENT_BOUNTY_RELEASE", "DEVELOPMENT_BOUNTY_EXPIRE", "DEVELOPMENT_REWARD_RESERVE",
    "DEVELOPMENT_REWARD_PAY_IMMEDIATE", "DEVELOPMENT_REWARD_PAY_MATURITY",
    "DEVELOPMENT_REWARD_MARK_UNCLAIMED", "DEVELOPMENT_REWARD_CLAIM",
    "DEVELOPMENT_REWARD_EXPIRE_UNCLAIMED", "DEVELOPMENT_REWARD_FINALIZE_COMMITMENT",
    "DEVELOPMENT_REWARD_CANCEL_UNVESTED", "DEVELOPMENT_REWARD_CORRECT", "PENALTY_APPLY",
    "SESSION_ESCROW_LOCK", "SESSION_OPEN", "SESSION_ACCEPT", "SESSION_ESCROW_EXTEND",
    "SESSION_ESCROW_RELEASE", "SESSION_CHECKPOINT_COMMIT", "SESSION_SETTLEMENT_READY_COMMIT",
    "SESSION_SETTLEMENT_PROPOSE", "SESSION_SETTLEMENT_ACCEPT", "SESSION_SETTLEMENT_DISPUTE",
    "SESSION_SETTLEMENT_PARTIAL_FINALIZE", "SESSION_SETTLEMENT_CORRECT",
    "SESSION_SETTLEMENT_FINALIZE", "SESSION_FORCE_SETTLE", "STAKE_LOCK", "UNSTAKE_REQUEST",
    "STAKE_RELEASE", "PARTICIPANT_SUSPEND", "PARTICIPANT_REINSTATE"]

/-- `LEGACY_OPERATION_TYPES`: with the applied ones these are `KNOWN_OPERATION_TYPES`. -/
def legacyOperationTypes : List String :=
  ["DEPOSIT_LOCK", "EPOCH_TASK", "REGISTRY_UPSERT", "SESSION_SETTLE", "SETTLEMENT_ACCEPT",
    "SETTLEMENT_PROPOSE", "VALIDATION_REPORT", "VALIDATION_REQUEST", "VALIDATOR_STAKE",
    "VALIDATOR_UNSTAKE"]

/-- `strict_operation_coverage_error`, without a custom handler. -/
def strictOperationCoverageError (operationType : String) : Option String :=
  if consensusAppliedOperationTypes.contains operationType then none
  else if legacyOperationTypes.contains operationType then
    some ("consensus operation transition is not implemented: " ++ operationType)
  else some ("consensus operation type is not registered: " ++ operationType)

def strictOperationVersionError (operationType operationVersion : String) : Option String :=
  if supportedOperationVersions.contains operationVersion then none
  else some ("unsupported operation version: " ++ operationType ++ ":" ++ operationVersion)

/-! ## The branch table -/

/-- How an operation is made of an envelope and the operations finalized before the block. -/
abbrev MakeOperation := Envelope → List String → ConsensusOp

/-- An operation that records its envelope and does not read the finalized operations. -/
def recordedAlone (kind : RecordedKind) : MakeOperation := fun env _ => .recorded kind env none

/-- An operation that records its envelope and reads the finalized operations. -/
def recordedAfter (kind : RecordedKind) : MakeOperation := fun env ids =>
  .recorded kind env (some ids)

def developmentAfter (kind : DevelopmentKind) : MakeOperation := fun env ids =>
  .development kind env (some ids)

def paymentAfter (kind : PaymentKind) : MakeOperation := fun env ids =>
  .developmentPayment kind env (some ids)

/-- The types that a strict executor applies and another one only records. -/
def strictlyTyped : List (String × MakeOperation) :=
  [("WALLET_TRANSFER", fun env _ => .walletTransfer env),
    ("SESSION_OPEN", fun env ids => .sessionOpen env (some ids)),
    ("SESSION_ACCEPT", fun env ids => .sessionAccept env (some ids))]

/-- The branch of the ABCI application alone. -/
def identityBranch : List (String × MakeOperation) :=
  [("WALLET_IDENTITY_REGISTER", recordedAlone .walletIdentityRegister)]

/-- The branches of types whose operation the ABCI application applies without having
validated it. -/
def unvalidatedBranches : List (String × MakeOperation) :=
  [("REPUTATION_PROFILE_UPDATE", recordedAfter .reputationProfileUpdate),
    ("VALIDATION_REPORT_COMMIT", recordedAfter .validationEvidence),
    ("VALIDATION_REPORT_STORAGE_RECEIPT", recordedAfter .validationEvidence),
    ("VALIDATION_REPORT_STORAGE_FAILURE", recordedAfter .validationEvidence),
    ("VALIDATION_REPORT_AVAILABILITY_COMMIT", recordedAfter .validationEvidence),
    ("VALIDATION_REPORT_CUSTODY_RELEASE", recordedAfter .validationEvidence)]

def commonBranches : List (String × MakeOperation) :=
  [("OPERATOR_WALLET_BIND", recordedAlone .operatorWalletBind),
    ("TESTNET_PARTICIPATION_HEARTBEAT", recordedAlone .testnetParticipationHeartbeat),
    ("ENDPOINT_PUBLISH", recordedAlone .endpointPublish),
    ("EPOCH_TRANSITION", fun env ids => .epochTransition env (some ids)),
    ("EPOCH_SCHEDULE_COMMIT", recordedAlone .epochScheduleCommit),
    ("EPOCH_SCHEDULE_REBASE", recordedAlone .epochScheduleRebase),
    ("EPOCH_RESULT_MANIFEST_COMMIT", recordedAlone .epochResultManifest),
    ("SERVICE_VERIFICATION_COMMIT", recordedAlone .serviceVerification),
    ("SNAPSHOT_COMMIT", recordedAlone .snapshotCommit),
    ("SESSION_FAILURE_EVIDENCE", fun env _ => .sessionFailureEvidence env),
    ("CONSENSUS_VALIDATOR_SET_UPDATE", fun env _ => .validatorSetUpdate env),
    ("TREASURY_MANIFEST_BIND", fun env _ => .treasuryManifestBind env),
    ("TREASURY_FUND", fun env _ => .treasuryFund env),
    ("REWARD_MINT", fun env ids => .rewardMint env ids),
    ("DEVELOPMENT_REWARD_CALCULATE", recordedAlone .developmentRewardCalculate),
    ("DEVELOPMENT_REWARD_ACTIVATION_SCOPE_EXTEND",
      recordedAfter .developmentRewardActivationScopeExtend),
    ("DEVELOPMENT_POOL_ALLOCATE", developmentAfter .poolAllocate),
    ("DEVELOPMENT_POOL_CARRYOVER", developmentAfter .poolCarryover),
    ("DEVELOPMENT_BOUNTY_CREATE", developmentAfter .bountyCreate),
    ("DEVELOPMENT_BOUNTY_RESERVE", developmentAfter .bountyReserve),
    ("DEVELOPMENT_BOUNTY_RELEASE", developmentAfter .bountyRelease),
    ("DEVELOPMENT_BOUNTY_EXPIRE", developmentAfter .bountyExpire),
    ("DEVELOPMENT_REWARD_RESERVE", developmentAfter .rewardReserve),
    ("DEVELOPMENT_REWARD_PAY_IMMEDIATE", paymentAfter .payImmediate),
    ("DEVELOPMENT_REWARD_PAY_MATURITY", paymentAfter .payMaturity),
    ("DEVELOPMENT_REWARD_MARK_UNCLAIMED", developmentAfter .rewardMarkUnclaimed),
    ("DEVELOPMENT_REWARD_CLAIM", paymentAfter .claim),
    ("DEVELOPMENT_REWARD_EXPIRE_UNCLAIMED", developmentAfter .rewardExpireUnclaimed),
    ("DEVELOPMENT_REWARD_FINALIZE_COMMITMENT", developmentAfter .rewardFinalizeCommitment),
    ("DEVELOPMENT_REWARD_CANCEL_UNVESTED", developmentAfter .rewardCancelUnvested),
    ("DEVELOPMENT_REWARD_CORRECT", developmentAfter .rewardCorrect),
    ("PENALTY_APPLY", fun env ids => .penaltyApply env ids),
    ("SESSION_ESCROW_LOCK", fun env _ => .sessionEscrowLock env),
    ("SESSION_ESCROW_EXTEND", fun env ids => .sessionEscrowExtend env (some ids)),
    ("SESSION_ESCROW_RELEASE", fun env ids => .sessionEscrowRelease env (some ids)),
    ("SESSION_CHECKPOINT_COMMIT", fun env ids => .sessionCheckpointCommit env (some ids)),
    ("SESSION_SETTLEMENT_READY_COMMIT", fun env ids => .settlementReadyCommit env (some ids)),
    ("SESSION_SETTLEMENT_PROPOSE", fun env ids => .settlementPropose env (some ids)),
    ("SESSION_SETTLEMENT_ACCEPT", fun env ids => .settlementAccept env (some ids)),
    ("SESSION_SETTLEMENT_DISPUTE", fun env ids => .settlementDispute env (some ids)),
    ("SESSION_SETTLEMENT_PARTIAL_FINALIZE",
      fun env ids => .settlementPartialFinalize env (some ids)),
    ("SESSION_SETTLEMENT_CORRECT", fun env ids => .settlementCorrect env (some ids)),
    ("SESSION_SETTLEMENT_FINALIZE", fun env ids => .settlementFinalize env (some ids)),
    ("SESSION_FORCE_SETTLE", fun env ids => .forceSettle env (some ids)),
    ("STAKE_LOCK", fun env _ => .stakeLock env),
    ("UNSTAKE_REQUEST", fun env _ => .unstakeRequest env),
    ("STAKE_RELEASE", fun env _ => .stakeRelease env),
    ("PARTICIPANT_SUSPEND", fun env ids => .participantSuspend env ids),
    ("PARTICIPANT_REINSTATE", fun env ids => .participantReinstate env ids)]

def branch (table : List (String × MakeOperation)) (env : Envelope) (ids : List String) :
    Option ConsensusOp :=
  (table.lookup env.operationType).map fun make => make env ids

variable [Runtime] [LedgerRules]

end AidnSpec.Consensus
