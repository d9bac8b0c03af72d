import AidnSpec.Reward.Adjustments

/-!
# Cancellation of unvested rewards

`reward/development_cancellation.py:15–327`: the record of a cancellation, the validation of a
history of records, and the construction of the next record.
-/

namespace AidnSpec.Reward

open Base Ledger

inductive CancellationReason where
  | ordinaryDefect
  | criticalDefect
  | securityDefect
  | intentionalGaming
  | duplicateReward
  | invalidAttestation
  | challengeResolution

def CancellationReason.toText : CancellationReason → String
  | ordinaryDefect => "ORDINARY_DEFECT"
  | criticalDefect => "CRITICAL_DEFECT"
  | securityDefect => "SECURITY_DEFECT"
  | intentionalGaming => "INTENTIONAL_GAMING"
  | duplicateReward => "DUPLICATE_REWARD"
  | invalidAttestation => "INVALID_ATTESTATION"
  | challengeResolution => "CHALLENGE_RESOLUTION"

/-- `DEVELOPMENT_REWARD_CANCELLATION_VERSION`. -/
def cancellationVersion : String := "eco-0007-reward-cancellation.v1"

/-- A text or the JSON `null`. -/
def optionalText : Option String → PyValue
  | none => .none
  | some text => .str text

/-- What `development_reward_cancellation_id` hashes. -/
def cancellationIdentity (sourceSnapshotId : String) (cancellationSequence : Nat)
    (previousCancellationId : Option String) (reason : CancellationReason)
    (stageOne stageTwo unclaimed : Int) : Fields :=
  [ ("cancellation_version", .str cancellationVersion), ("source_snapshot_id",
    .str sourceSnapshotId), ("cancellation_sequence", .int cancellationSequence),
    ("previous_cancellation_id", optionalText previousCancellationId), ("reason",
    .str reason.toText), ("cancelled_unpaid_maturity_stage_one_q_atoms", .int stageOne),
    ("cancelled_unpaid_maturity_stage_two_q_atoms", .int stageTwo), ("cancelled_unclaimed_q_atoms",
    .int unclaimed)]

def developmentRewardCancellationId (sourceSnapshotId : String) (cancellationSequence : Nat)
    (previousCancellationId : Option String) (reason : CancellationReason)
    (stageOne stageTwo unclaimed : Int) : Except PyError String :=
  dumpHash (.dict (cancellationIdentity sourceSnapshotId cancellationSequence
    previousCancellationId reason stageOne stageTwo unclaimed))

/-- `DevelopmentRewardCancellationRecord`. -/
@[ext]
structure DevelopmentRewardCancellationRecord where
  cancellationVersion : String
  cancellationId : String
  cancellationOperationId : String
  sourceSnapshotId : String
  sourceSnapshotHash : String
  sourceEvidenceRoot : String
  rewardId : String
  contributionId : String
  cancellationSequence : Nat
  previousCancellationId : Option String
  cancellationEpoch : Int
  reason : CancellationReason
  paidBeforeQAtoms : Int
  paidAfterQAtoms : Int
  unpaidImmediateBeforeQAtoms : Int
  unpaidImmediateAfterQAtoms : Int
  unpaidMaturityStageOneBeforeQAtoms : Int
  unpaidMaturityStageOneAfterQAtoms : Int
  unpaidMaturityStageTwoBeforeQAtoms : Int
  unpaidMaturityStageTwoAfterQAtoms : Int
  unclaimedBeforeQAtoms : Int
  unclaimedAfterQAtoms : Int
  cancelledBeforeQAtoms : Int
  cancelledAfterQAtoms : Int
  rewardLiabilityBeforeQAtoms : Int
  rewardLiabilityAfterQAtoms : Int
  cancelledUnpaidMaturityStageOneQAtoms : Int
  cancelledUnpaidMaturityStageTwoQAtoms : Int
  cancelledUnclaimedQAtoms : Int
  cancelledQAtoms : Int
  returnedToPoolQAtoms : Int
  state : String
  recordHash : String

namespace DevelopmentRewardCancellationRecord

variable (r : DevelopmentRewardCancellationRecord)

/-- The bounds of the declared fields. -/
def fieldChecks : List FieldCheck :=
  [ .nonEmpty "cancellation_id" r.cancellationId,
    .nonEmpty "cancellation_operation_id" r.cancellationOperationId,
    .nonEmpty "source_snapshot_id" r.sourceSnapshotId,
    .nonEmpty "source_snapshot_hash" r.sourceSnapshotHash,
    .nonEmpty "source_evidence_root" r.sourceEvidenceRoot, .nonEmpty "reward_id" r.rewardId,
    .nonEmpty "contribution_id" r.contributionId,
    .atLeast 1 "cancellation_sequence" r.cancellationSequence,
    .atLeast 0 "cancellation_epoch" r.cancellationEpoch,
    .atLeast 0 "paid_before_q_atoms" r.paidBeforeQAtoms,
    .atLeast 0 "paid_after_q_atoms" r.paidAfterQAtoms,
    .atLeast 0 "unpaid_immediate_before_q_atoms" r.unpaidImmediateBeforeQAtoms,
    .atLeast 0 "unpaid_immediate_after_q_atoms" r.unpaidImmediateAfterQAtoms,
    .atLeast 0 "unpaid_maturity_stage_one_before_q_atoms" r.unpaidMaturityStageOneBeforeQAtoms,
    .atLeast 0 "unpaid_maturity_stage_one_after_q_atoms" r.unpaidMaturityStageOneAfterQAtoms,
    .atLeast 0 "unpaid_maturity_stage_two_before_q_atoms" r.unpaidMaturityStageTwoBeforeQAtoms,
    .atLeast 0 "unpaid_maturity_stage_two_after_q_atoms" r.unpaidMaturityStageTwoAfterQAtoms,
    .atLeast 0 "unclaimed_before_q_atoms" r.unclaimedBeforeQAtoms,
    .atLeast 0 "unclaimed_after_q_atoms" r.unclaimedAfterQAtoms,
    .atLeast 0 "cancelled_before_q_atoms" r.cancelledBeforeQAtoms,
    .atLeast 0 "cancelled_after_q_atoms" r.cancelledAfterQAtoms,
    .atLeast 1 "reward_liability_before_q_atoms" r.rewardLiabilityBeforeQAtoms,
    .atLeast 0 "reward_liability_after_q_atoms" r.rewardLiabilityAfterQAtoms,
    .atLeast 0 "cancelled_unpaid_maturity_stage_one_q_atoms"
      r.cancelledUnpaidMaturityStageOneQAtoms,
    .atLeast 0 "cancelled_unpaid_maturity_stage_two_q_atoms"
      r.cancelledUnpaidMaturityStageTwoQAtoms,
    .atLeast 0 "cancelled_unclaimed_q_atoms" r.cancelledUnclaimedQAtoms,
    .atLeast 1 "cancelled_q_atoms" r.cancelledQAtoms,
    .atLeast 1 "returned_to_pool_q_atoms" r.returnedToPoolQAtoms,
    ⟨"state", r.state == "CANCELLED_UNVESTED"⟩, .nonEmpty "record_hash" r.recordHash]

/-- What the identity of the record is a hash of. -/
def identity : Fields :=
  cancellationIdentity r.sourceSnapshotId r.cancellationSequence r.previousCancellationId r.reason
    r.cancelledUnpaidMaturityStageOneQAtoms r.cancelledUnpaidMaturityStageTwoQAtoms
    r.cancelledUnclaimedQAtoms

/-- `validate_record`, after the checks of the declared fields. -/
def validateRecord : Except PyError Unit := do
  checkFields r.fieldChecks
  require (r.cancellationVersion == Reward.cancellationVersion)
    "DEVELOPMENT_REWARD_CANCELLATION_VERSION_INVALID"
  require (!isBlank r.cancellationOperationId) "DEVELOPMENT_REWARD_CANCELLATION_OPERATION_INVALID"
  require (r.cancelledQAtoms == r.cancelledUnpaidMaturityStageOneQAtoms +
      r.cancelledUnpaidMaturityStageTwoQAtoms + r.cancelledUnclaimedQAtoms)
    "DEVELOPMENT_REWARD_CANCELLATION_AMOUNT_INVALID"
  require (r.returnedToPoolQAtoms == r.cancelledQAtoms)
    "DEVELOPMENT_REWARD_CANCELLATION_RETURN_INVALID"
  require (r.paidAfterQAtoms == r.paidBeforeQAtoms)
    "DEVELOPMENT_REWARD_CANCELLATION_PAID_HISTORY_MUTATION"
  require (r.unpaidImmediateAfterQAtoms == r.unpaidImmediateBeforeQAtoms)
    "DEVELOPMENT_REWARD_CANCELLATION_IMMEDIATE_MUTATION"
  require (r.unpaidMaturityStageOneAfterQAtoms ==
      r.unpaidMaturityStageOneBeforeQAtoms - r.cancelledUnpaidMaturityStageOneQAtoms)
    "DEVELOPMENT_REWARD_CANCELLATION_STAGE_ONE_INVALID"
  require (r.unpaidMaturityStageTwoAfterQAtoms ==
      r.unpaidMaturityStageTwoBeforeQAtoms - r.cancelledUnpaidMaturityStageTwoQAtoms)
    "DEVELOPMENT_REWARD_CANCELLATION_STAGE_TWO_INVALID"
  require (r.unclaimedAfterQAtoms == r.unclaimedBeforeQAtoms - r.cancelledUnclaimedQAtoms)
    "DEVELOPMENT_REWARD_CANCELLATION_UNCLAIMED_INVALID"
  require (r.cancelledAfterQAtoms == r.cancelledBeforeQAtoms + r.cancelledQAtoms)
    "DEVELOPMENT_REWARD_CANCELLATION_CANCELLED_BALANCE_INVALID"
  require (r.rewardLiabilityBeforeQAtoms == r.paidBeforeQAtoms + r.unpaidImmediateBeforeQAtoms +
      r.unpaidMaturityStageOneBeforeQAtoms + r.unpaidMaturityStageTwoBeforeQAtoms +
      r.unclaimedBeforeQAtoms)
    "DEVELOPMENT_REWARD_CANCELLATION_CONSERVATION_INVALID"
  require (r.rewardLiabilityAfterQAtoms == r.paidAfterQAtoms + r.unpaidImmediateAfterQAtoms +
      r.unpaidMaturityStageOneAfterQAtoms + r.unpaidMaturityStageTwoAfterQAtoms +
      r.unclaimedAfterQAtoms)
    "DEVELOPMENT_REWARD_CANCELLATION_CONSERVATION_INVALID"
  require (r.rewardLiabilityBeforeQAtoms - r.rewardLiabilityAfterQAtoms == r.returnedToPoolQAtoms)
    "DEVELOPMENT_REWARD_CANCELLATION_RETURN_CONSERVATION_INVALID"
  let expectedId ← dumpHash (.dict r.identity)
  require (r.cancellationId == expectedId) "DEVELOPMENT_REWARD_CANCELLATION_ID_INVALID"

def unsignedPayload : Fields :=
  [ ("cancellation_version", .str r.cancellationVersion), ("cancellation_id",
    .str r.cancellationId), ("cancellation_operation_id", .str r.cancellationOperationId),
    ("source_snapshot_id", .str r.sourceSnapshotId), ("source_snapshot_hash",
    .str r.sourceSnapshotHash), ("source_evidence_root", .str r.sourceEvidenceRoot), ("reward_id",
    .str r.rewardId), ("contribution_id", .str r.contributionId), ("cancellation_sequence",
    .int r.cancellationSequence), ("previous_cancellation_id",
    optionalText r.previousCancellationId), ("cancellation_epoch", .int r.cancellationEpoch),
    ("reason", .str r.reason.toText), ("paid_before_q_atoms", .int r.paidBeforeQAtoms),
    ("paid_after_q_atoms", .int r.paidAfterQAtoms), ("unpaid_immediate_before_q_atoms",
    .int r.unpaidImmediateBeforeQAtoms), ("unpaid_immediate_after_q_atoms",
    .int r.unpaidImmediateAfterQAtoms), ("unpaid_maturity_stage_one_before_q_atoms",
    .int r.unpaidMaturityStageOneBeforeQAtoms), ("unpaid_maturity_stage_one_after_q_atoms",
    .int r.unpaidMaturityStageOneAfterQAtoms), ("unpaid_maturity_stage_two_before_q_atoms",
    .int r.unpaidMaturityStageTwoBeforeQAtoms), ("unpaid_maturity_stage_two_after_q_atoms",
    .int r.unpaidMaturityStageTwoAfterQAtoms), ("unclaimed_before_q_atoms",
    .int r.unclaimedBeforeQAtoms), ("unclaimed_after_q_atoms", .int r.unclaimedAfterQAtoms),
    ("cancelled_before_q_atoms", .int r.cancelledBeforeQAtoms), ("cancelled_after_q_atoms",
    .int r.cancelledAfterQAtoms), ("reward_liability_before_q_atoms",
    .int r.rewardLiabilityBeforeQAtoms), ("reward_liability_after_q_atoms",
    .int r.rewardLiabilityAfterQAtoms), ("cancelled_unpaid_maturity_stage_one_q_atoms",
    .int r.cancelledUnpaidMaturityStageOneQAtoms), ("cancelled_unpaid_maturity_stage_two_q_atoms",
    .int r.cancelledUnpaidMaturityStageTwoQAtoms), ("cancelled_unclaimed_q_atoms",
    .int r.cancelledUnclaimedQAtoms), ("cancelled_q_atoms", .int r.cancelledQAtoms),
    ("returned_to_pool_q_atoms", .int r.returnedToPoolQAtoms), ("state", .str r.state)]

/-- `verify_integrity`. A `ValueError` of the validation is an answer, one of the hash is not. -/
def verifyIntegrity : Except PyError Bool :=
  match r.validateRecord with
  | .error _ => .ok false
  | .ok () => do
    let hash ← dumpHash (.dict r.unsignedPayload)
    pure (r.recordHash == hash)

end DevelopmentRewardCancellationRecord

open DevelopmentRewardCancellationRecord

variable (source : DevelopmentRewardStateSnapshot)

/-- A record whose identity is known already is a duplicate or a conflict. -/
def refuseKnown (byId : List DevelopmentRewardCancellationRecord)
    (record : DevelopmentRewardCancellationRecord) : Except PyError Unit :=
  match byId.find? fun existing => existing.cancellationId == record.cancellationId with
  | none => .ok ()
  | some existing =>
    if existing.recordHash == record.recordHash then
      raiseValue "DEVELOPMENT_REWARD_CANCELLATION_DUPLICATE"
    else raiseValue "DEVELOPMENT_REWARD_CANCELLATION_CONFLICT"

/-- What one pass of the first loop of `validate_cancellation_history` checks. -/
def checkSourced (record : DevelopmentRewardCancellationRecord) : Except PyError Unit := do
  require (record.sourceSnapshotId == source.snapshotId)
    "DEVELOPMENT_REWARD_CANCELLATION_SOURCE_MISMATCH"
  require (record.sourceSnapshotHash == source.snapshotHash)
    "DEVELOPMENT_REWARD_CANCELLATION_SOURCE_HASH_MISMATCH"
  require (record.sourceEvidenceRoot == source.sourceEvidenceRoot)
    "DEVELOPMENT_REWARD_CANCELLATION_EVIDENCE_MISMATCH"
  require (record.rewardId == source.rewardId && record.contributionId == source.contributionId)
    "DEVELOPMENT_REWARD_CANCELLATION_REWARD_MISMATCH"

/-- The first loop: the values of `by_id` in the order of their insertion. -/
def collectById (byId : List DevelopmentRewardCancellationRecord) :
    List DevelopmentRewardCancellationRecord →
      Except PyError (List DevelopmentRewardCancellationRecord)
  | [] => .ok byId
  | record :: records => do
    let intact ← record.verifyIntegrity
    require intact "DEVELOPMENT_REWARD_CANCELLATION_RECORD_INVALID"
    refuseKnown byId record
    checkSourced source record
    collectById (byId ++ [record]) records

/-- The second loop: sequence numbers and links. -/
def checkLinks (expectedSequence : Nat) (previousId : Option String) :
    List DevelopmentRewardCancellationRecord → Except PyError Unit
  | [] => .ok ()
  | record :: records => do
    require (record.cancellationSequence == expectedSequence)
      "DEVELOPMENT_REWARD_CANCELLATION_SEQUENCE_INVALID"
    require (record.previousCancellationId == previousId)
      "DEVELOPMENT_REWARD_CANCELLATION_CHAIN_INVALID"
    checkLinks (expectedSequence + 1) (some record.cancellationId) records

/-- The balances that a cancellation moves. -/
structure Buckets where
  stageOne : Int
  stageTwo : Int
  unclaimed : Int
  cancelled : Int

/-- The balances of the source. -/
def DevelopmentRewardStateSnapshot.buckets : Buckets :=
  ⟨source.unpaidMaturityStageOneQAtoms, source.unpaidMaturityStageTwoQAtoms,
    source.unclaimedQAtoms, source.cancelledQAtoms⟩

def DevelopmentRewardCancellationRecord.bucketsBefore (r : DevelopmentRewardCancellationRecord) :
    Buckets :=
  ⟨r.unpaidMaturityStageOneBeforeQAtoms, r.unpaidMaturityStageTwoBeforeQAtoms,
    r.unclaimedBeforeQAtoms, r.cancelledBeforeQAtoms⟩

def DevelopmentRewardCancellationRecord.bucketsAfter (r : DevelopmentRewardCancellationRecord) :
    Buckets :=
  ⟨r.unpaidMaturityStageOneAfterQAtoms, r.unpaidMaturityStageTwoAfterQAtoms,
    r.unclaimedAfterQAtoms, r.cancelledAfterQAtoms⟩

/-- The last loop: every record starts from the balances that its predecessor leaves. -/
def checkBalances (expected : Buckets) :
    List DevelopmentRewardCancellationRecord → Except PyError Unit
  | [] => .ok ()
  | record :: records => do
    require (record.paidBeforeQAtoms == source.paidQAtoms)
      "DEVELOPMENT_REWARD_CANCELLATION_PAID_HISTORY_MUTATION"
    require (record.unpaidImmediateBeforeQAtoms == source.unpaidImmediateQAtoms)
      "DEVELOPMENT_REWARD_CANCELLATION_IMMEDIATE_MUTATION"
    require (record.unpaidMaturityStageOneBeforeQAtoms == expected.stageOne)
      "DEVELOPMENT_REWARD_CANCELLATION_CHAIN_CONSERVATION_INVALID"
    require (record.unpaidMaturityStageTwoBeforeQAtoms == expected.stageTwo)
      "DEVELOPMENT_REWARD_CANCELLATION_CHAIN_CONSERVATION_INVALID"
    require (record.unclaimedBeforeQAtoms == expected.unclaimed)
      "DEVELOPMENT_REWARD_CANCELLATION_CHAIN_CONSERVATION_INVALID"
    require (record.cancelledBeforeQAtoms == expected.cancelled)
      "DEVELOPMENT_REWARD_CANCELLATION_CHAIN_CONSERVATION_INVALID"
    checkBalances record.bucketsAfter records

section Sums

variable (records : List DevelopmentRewardCancellationRecord)

/-- What a history has cancelled of the first maturity stage. -/
def stageOneCancelled : Int := (records.map (·.cancelledUnpaidMaturityStageOneQAtoms)).sum

/-- What a history has cancelled of the second maturity stage. -/
def stageTwoCancelled : Int := (records.map (·.cancelledUnpaidMaturityStageTwoQAtoms)).sum

def unclaimedCancelled : Int := (records.map (·.cancelledUnclaimedQAtoms)).sum

def totalCancelled : Int := (records.map (·.cancelledQAtoms)).sum

end Sums

def validateCancellationHistory (records : List DevelopmentRewardCancellationRecord) :
    Except PyError (List DevelopmentRewardCancellationRecord) := do
  let byId ← collectById source [] records
  let ordered := byId.mergeSort fun a b => a.cancellationSequence ≤ b.cancellationSequence
  checkLinks 1 none ordered
  require (stageOneCancelled ordered ≤ source.unpaidMaturityStageOneQAtoms)
    "DEVELOPMENT_REWARD_CANCELLATION_STAGE_ONE_OVERPAID"
  require (stageTwoCancelled ordered ≤ source.unpaidMaturityStageTwoQAtoms)
    "DEVELOPMENT_REWARD_CANCELLATION_STAGE_TWO_OVERPAID"
  require (unclaimedCancelled ordered ≤ source.unclaimedQAtoms)
    "DEVELOPMENT_REWARD_CANCELLATION_UNCLAIMED_OVERPAID"
  checkBalances source source.buckets ordered
  pure ordered

/-- The arguments of `build_development_reward_cancellation` beside the source and the history. -/
structure CancellationRequest where
  cancellationOperationId : String
  cancellationEpoch : Int
  reason : CancellationReason
  stageOne : Int := 0
  stageTwo : Int := 0
  unclaimed : Int := 0

/-- The record that is built after a validated history, its hash apart. -/
def cancellationPayload (request : CancellationRequest)
    (previous : List DevelopmentRewardCancellationRecord) (cancellationId : String) :
    DevelopmentRewardCancellationRecord :=
  let stageOneBefore := source.unpaidMaturityStageOneQAtoms - stageOneCancelled previous
  let stageTwoBefore := source.unpaidMaturityStageTwoQAtoms - stageTwoCancelled previous
  let unclaimedBefore := source.unclaimedQAtoms - unclaimedCancelled previous
  let cancelled := request.stageOne + request.stageTwo + request.unclaimed
  let cancelledBefore := source.cancelledQAtoms + totalCancelled previous
  let liabilityBefore := source.paidQAtoms + source.unpaidImmediateQAtoms + stageOneBefore +
    stageTwoBefore + unclaimedBefore
  { cancellationVersion := cancellationVersion
    cancellationId := cancellationId
    cancellationOperationId := request.cancellationOperationId
    sourceSnapshotId := source.snapshotId
    sourceSnapshotHash := source.snapshotHash
    sourceEvidenceRoot := source.sourceEvidenceRoot
    rewardId := source.rewardId
    contributionId := source.contributionId
    cancellationSequence := previous.length + 1
    previousCancellationId := previous.getLast?.map (·.cancellationId)
    cancellationEpoch := request.cancellationEpoch
    reason := request.reason
    paidBeforeQAtoms := source.paidQAtoms
    paidAfterQAtoms := source.paidQAtoms
    unpaidImmediateBeforeQAtoms := source.unpaidImmediateQAtoms
    unpaidImmediateAfterQAtoms := source.unpaidImmediateQAtoms
    unpaidMaturityStageOneBeforeQAtoms := stageOneBefore
    unpaidMaturityStageOneAfterQAtoms := stageOneBefore - request.stageOne
    unpaidMaturityStageTwoBeforeQAtoms := stageTwoBefore
    unpaidMaturityStageTwoAfterQAtoms := stageTwoBefore - request.stageTwo
    unclaimedBeforeQAtoms := unclaimedBefore
    unclaimedAfterQAtoms := unclaimedBefore - request.unclaimed
    cancelledBeforeQAtoms := cancelledBefore
    cancelledAfterQAtoms := cancelledBefore + cancelled
    rewardLiabilityBeforeQAtoms := liabilityBefore
    rewardLiabilityAfterQAtoms := liabilityBefore - cancelled
    cancelledUnpaidMaturityStageOneQAtoms := request.stageOne
    cancelledUnpaidMaturityStageTwoQAtoms := request.stageTwo
    cancelledUnclaimedQAtoms := request.unclaimed
    cancelledQAtoms := cancelled
    returnedToPoolQAtoms := cancelled
    state := "CANCELLED_UNVESTED"
    recordHash := "" }

def buildDevelopmentRewardCancellation (request : CancellationRequest)
    (previousCancellations : List DevelopmentRewardCancellationRecord) :
    Except PyError DevelopmentRewardCancellationRecord := do
  let intact ← source.verifyIntegrity
  require intact "DEVELOPMENT_REWARD_ADJUSTMENT_SOURCE_INVALID"
  require (0 ≤ request.cancellationEpoch) "DEVELOPMENT_REWARD_CANCELLATION_EPOCH_INVALID"
  require (0 ≤ request.stageOne && 0 ≤ request.stageTwo && 0 ≤ request.unclaimed)
    "DEVELOPMENT_REWARD_CANCELLATION_NEGATIVE_AMOUNT"
  let previous ← validateCancellationHistory source previousCancellations
  require (request.stageOne ≤ source.unpaidMaturityStageOneQAtoms - stageOneCancelled previous)
    "DEVELOPMENT_REWARD_CANCELLATION_STAGE_ONE_OVERPAID"
  require (request.stageTwo ≤ source.unpaidMaturityStageTwoQAtoms - stageTwoCancelled previous)
    "DEVELOPMENT_REWARD_CANCELLATION_STAGE_TWO_OVERPAID"
  require (request.unclaimed ≤ source.unclaimedQAtoms - unclaimedCancelled previous)
    "DEVELOPMENT_REWARD_CANCELLATION_UNCLAIMED_OVERPAID"
  require (0 < request.stageOne + request.stageTwo + request.unclaimed)
    "DEVELOPMENT_REWARD_CANCELLATION_AMOUNT_REQUIRED"
  let cancellationId ← developmentRewardCancellationId source.snapshotId (previous.length + 1)
    (previous.getLast?.map (·.cancellationId)) request.reason request.stageOne request.stageTwo
    request.unclaimed
  let payload := cancellationPayload source request previous cancellationId
  let recordHash ← dumpHash (.dict payload.unsignedPayload)
  let record := { payload with recordHash }
  record.validateRecord
  pure record

end AidnSpec.Reward
