import AidnSpec.Base.FieldChecks
import AidnSpec.Base.DigestInjection
import AidnSpec.Ledger.DevelopmentRecords

/-!
# The source state of reward adjustments

`reward/development_adjustments.py:24–174`: the snapshot that a cancellation is built on, and the
checks that every snapshot passes.
-/

namespace AidnSpec.Reward

open Base Ledger

/-- `canonical_hash`: `json.dumps` raises on an integer of more than 4300 digits. -/
def dumpHash (value : PyValue) : Except PyError String :=
  if value.dumpable then .ok (developmentHash value)
  else raiseValue "Exceeds the limit (4300 digits) for integer string conversion"

theorem dumpHash_eq_ok {value : PyValue} {hash : String} :
    dumpHash value = .ok hash ↔ value.dumpable = true ∧ hash = developmentHash value := by
  unfold dumpHash
  split_ifs with h
  · simp [h, eq_comm]
  · simp [h, raiseValue]

/-- What `canonical_hash` gives to SHA-256. -/
def developmentBytes (value : PyValue) : Bytes :=
  asciiBytes ("eco-0007-simulation.v1:".toList ++ canonicalText value)

/-- The bytes with the members put in order one by one, as the kernel reduces them. -/
theorem developmentBytes_eq_ordered (value : PyValue) : developmentBytes value =
    asciiBytes ("eco-0007-simulation.v1:".toList ++ orderedText value) := by
  rw [developmentBytes, orderedText_eq]

theorem developmentHash_eq_ordered (value : PyValue) : developmentHash value =
    "sha256:" ++ hexEncode false (forcedSha256
      (asciiBytes ("eco-0007-simulation.v1:".toList ++ orderedText value))) := by
  rw [developmentHash, forcedSha256_eq, ← developmentBytes_eq_ordered, developmentBytes]

/-- SHA-256 is injective on what `canonical_hash` gives to it for these values. -/
def HashesApart (values : List PyValue) : Prop := CollisionFree (values.map developmentBytes)

instance (values : List PyValue) : Decidable (HashesApart values) :=
  decidable_of_iff (CollisionFree (values.map fun value =>
      asciiBytes ("eco-0007-simulation.v1:".toList ++ orderedText value))) (by
    rw [HashesApart, funext developmentBytes_eq_ordered])

/-- Equal hashes of plain dictionaries: the members with one key agree. -/
theorem HashesApart.lookup_eq {values : List PyValue} (h : HashesApart values)
    {first second : Fields} (hfirst : .dict first ∈ values) (hsecond : .dict second ∈ values)
    (hfirstPlain : (PyValue.dict first).Plain) (hsecondPlain : (PyValue.dict second).Plain)
    (heq : developmentHash (.dict first) = developmentHash (.dict second)) (key : String) :
    (first.lookup key).map PyValue.sorted = (second.lookup key).map PyValue.sorted := by
  unfold developmentHash at heq
  rw [String.append_right_inj] at heq
  have hbytes := h _ (List.mem_map_of_mem hfirst) _ (List.mem_map_of_mem hsecond)
    (hexEncode_inj heq)
  simp only [developmentBytes, asciiBytes, List.map_append] at hbytes
  exact lookup_eq_of_canonicalBytes hfirstPlain hsecondPlain (List.append_cancel_left hbytes) key

structure DevelopmentRewardStateSnapshot where
  sourceVersion : String
  snapshotId : String
  rewardId : String
  contributionId : String
  scheduleHash : String
  sourceCommitmentId : String
  sourceRecordHashes : List String
  sourceEvidenceRoot : String
  grossRewardQAtoms : Int
  authorizedMaxRewardQAtoms : Int
  paidQAtoms : Int
  unpaidImmediateQAtoms : Int
  unpaidMaturityStageOneQAtoms : Int
  unpaidMaturityStageTwoQAtoms : Int
  unclaimedQAtoms : Int
  cancelledQAtoms : Int
  snapshotHash : String

namespace DevelopmentRewardStateSnapshot

/-- `DEVELOPMENT_REWARD_ADJUSTMENT_SOURCE_VERSION`. -/
def version : String := "eco-0007-reward-adjustment-source.v1"

def developmentRewardSourceEvidenceRoot (scheduleHash sourceCommitmentId : String)
    (sourceRecordHashes : List String) : Except PyError String :=
  dumpHash (.dict
    [ ("source_version", .str version), ("schedule_hash", .str scheduleHash),
      ("source_commitment_id", .str sourceCommitmentId), ("source_record_hashes",
        .list ((sourceRecordHashes.mergeSort fun a b => a ≤ b).map PyValue.str))])

variable (s : DevelopmentRewardStateSnapshot)

def amounts : Fields :=
  [ ("gross_reward_q_atoms", .int s.grossRewardQAtoms), ("authorized_max_reward_q_atoms",
    .int s.authorizedMaxRewardQAtoms), ("paid_q_atoms", .int s.paidQAtoms),
    ("unpaid_immediate_q_atoms", .int s.unpaidImmediateQAtoms),
    ("unpaid_maturity_stage_one_q_atoms", .int s.unpaidMaturityStageOneQAtoms),
    ("unpaid_maturity_stage_two_q_atoms", .int s.unpaidMaturityStageTwoQAtoms),
    ("unclaimed_q_atoms", .int s.unclaimedQAtoms), ("cancelled_q_atoms", .int s.cancelledQAtoms)]

/-- What the identity of a snapshot is a hash of. -/
def identity : Fields :=
  [ ("source_version", .str version), ("reward_id", .str s.rewardId), ("contribution_id",
    .str s.contributionId), ("schedule_hash", .str s.scheduleHash), ("source_commitment_id",
    .str s.sourceCommitmentId), ("source_evidence_root", .str s.sourceEvidenceRoot)] ++ s.amounts

/-- `development_reward_state_snapshot_id` of the fields of a snapshot. -/
def developmentRewardStateSnapshotId : Except PyError String := dumpHash (.dict s.identity)

/-- The bounds of the declared fields. -/
def fieldChecks : List FieldCheck :=
  [ .nonEmpty "snapshot_id" s.snapshotId, .nonEmpty "reward_id" s.rewardId,
    .nonEmpty "contribution_id" s.contributionId, .nonEmpty "schedule_hash" s.scheduleHash,
    .nonEmpty "source_commitment_id" s.sourceCommitmentId, ⟨"source_record_hashes",
    !s.sourceRecordHashes.isEmpty⟩, .nonEmpty "source_evidence_root" s.sourceEvidenceRoot,
    .atLeast 1 "gross_reward_q_atoms" s.grossRewardQAtoms,
    .atLeast 0 "authorized_max_reward_q_atoms" s.authorizedMaxRewardQAtoms,
    .atLeast 0 "paid_q_atoms" s.paidQAtoms,
    .atLeast 0 "unpaid_immediate_q_atoms" s.unpaidImmediateQAtoms,
    .atLeast 0 "unpaid_maturity_stage_one_q_atoms" s.unpaidMaturityStageOneQAtoms,
    .atLeast 0 "unpaid_maturity_stage_two_q_atoms" s.unpaidMaturityStageTwoQAtoms,
    .atLeast 0 "unclaimed_q_atoms" s.unclaimedQAtoms,
    .atLeast 0 "cancelled_q_atoms" s.cancelledQAtoms, .nonEmpty "snapshot_hash" s.snapshotHash]

/-- `validate_snapshot`, after the checks of the declared fields. -/
def validateSnapshot : Except PyError Unit := do
  checkFields s.fieldChecks
  require (s.sourceVersion == version) "DEVELOPMENT_REWARD_ADJUSTMENT_SOURCE_VERSION_INVALID"
  require (s.sourceRecordHashes.all fun value => !isBlank value)
    "DEVELOPMENT_REWARD_ADJUSTMENT_SOURCE_RECORD_INVALID"
  require (decide s.sourceRecordHashes.Nodup)
    "DEVELOPMENT_REWARD_ADJUSTMENT_SOURCE_RECORD_DUPLICATE"
  let expectedEvidenceRoot ← developmentRewardSourceEvidenceRoot s.scheduleHash
    s.sourceCommitmentId s.sourceRecordHashes
  require (s.sourceEvidenceRoot == expectedEvidenceRoot)
    "DEVELOPMENT_REWARD_ADJUSTMENT_SOURCE_ROOT_INVALID"
  require (s.grossRewardQAtoms ≤ s.authorizedMaxRewardQAtoms)
    "DEVELOPMENT_REWARD_ADJUSTMENT_AUTHORIZED_CAP_INVALID"
  require (s.paidQAtoms + s.unpaidImmediateQAtoms + s.unpaidMaturityStageOneQAtoms +
      s.unpaidMaturityStageTwoQAtoms + s.unclaimedQAtoms + s.cancelledQAtoms ==
        s.grossRewardQAtoms)
    "DEVELOPMENT_REWARD_ADJUSTMENT_SOURCE_CONSERVATION_INVALID"
  let expectedId ← s.developmentRewardStateSnapshotId
  require (s.snapshotId == expectedId) "DEVELOPMENT_REWARD_ADJUSTMENT_SOURCE_ID_INVALID"

def unsignedPayload : Fields :=
  [ ("source_version", .str s.sourceVersion), ("snapshot_id", .str s.snapshotId), ("reward_id",
    .str s.rewardId), ("contribution_id", .str s.contributionId), ("schedule_hash",
    .str s.scheduleHash), ("source_commitment_id", .str s.sourceCommitmentId),
    ("source_record_hashes", .list (s.sourceRecordHashes.map PyValue.str)), ("source_evidence_root",
    .str s.sourceEvidenceRoot)] ++ s.amounts

/-- `verify_integrity`. A `ValueError` of the validation is an answer, one of the hash is not. -/
def verifyIntegrity : Except PyError Bool :=
  match s.validateSnapshot with
  | .error _ => .ok false
  | .ok () => do
    let hash ← dumpHash (.dict s.unsignedPayload)
    pure (s.snapshotHash == hash)

def rewardLiabilityQAtoms : Int := s.grossRewardQAtoms - s.cancelledQAtoms

variable {s}

/-- The liability of a valid snapshot is what its buckets hold. -/
theorem rewardLiabilityQAtoms_eq (h : s.validateSnapshot = .ok ()) :
    s.rewardLiabilityQAtoms = s.paidQAtoms + s.unpaidImmediateQAtoms +
      s.unpaidMaturityStageOneQAtoms + s.unpaidMaturityStageTwoQAtoms + s.unclaimedQAtoms := by
  unfold validateSnapshot at h
  simp only [bind_eq_ok, checkFields_eq_ok, require_eq_ok, exists_unit, beq_iff_eq] at h
  obtain ⟨-, -, -, -, root, -, -, -, hconserved, -⟩ := h
  rw [rewardLiabilityQAtoms]
  omega

/-- The buckets of a valid snapshot are not negative. -/
theorem buckets_nonneg (h : s.validateSnapshot = .ok ()) :
    0 ≤ s.unpaidMaturityStageOneQAtoms ∧ 0 ≤ s.unpaidMaturityStageTwoQAtoms ∧
      0 ≤ s.unclaimedQAtoms := by
  unfold validateSnapshot at h
  obtain ⟨_, hfields, -⟩ := bind_eq_ok.mp h
  simp only [checkFields_eq_ok, fieldChecks, List.mem_cons, List.not_mem_nil, or_false,
    forall_eq_or_imp, forall_eq, FieldCheck.met_atLeast, FieldCheck.met_nonEmpty] at hfields
  obtain ⟨-, -, -, -, -, -, -, -, -, -, -, hone, htwo, hunclaimed, -⟩ := hfields
  exact ⟨hone, htwo, hunclaimed⟩

end DevelopmentRewardStateSnapshot

/-- A snapshot that its model has accepted. -/
structure SourceSnapshot extends DevelopmentRewardStateSnapshot where
  valid : toDevelopmentRewardStateSnapshot.validateSnapshot = .ok ()

end AidnSpec.Reward
