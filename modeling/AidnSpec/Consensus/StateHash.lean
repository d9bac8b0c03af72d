import AidnSpec.Consensus.Admission
import AidnSpec.Ledger.Operation

/-!
# The application hash

`consensus/epoch_schedule.py` and `consensus/abci.py:2035–2127`: the epoch schedule, the snapshot of
the settlement state and the hash that commits an application to its state. The hash leaves out what
the snapshot of an older application did not have while it is empty, and the transport hashes of the
operations.
-/

namespace AidnSpec.Consensus

open Base Ledger

/-! ## Epoch schedules -/

structure EpochSchedule where
  schemaVersion : String
  genesisStartTime : String
  epochDurationSeconds : Int
  parameterVersion : String
  taskSetVersion : String
  protocolVersion : String
  scheduleHash : String

namespace EpochSchedule

/-- `EPOCH_SCHEDULE_VERSION`. -/
def version : String := "aidn.epoch-schedule.v1"

def unsignedPayload (s : EpochSchedule) : Fields :=
  [("schema_version", .str s.schemaVersion), ("genesis_start_time", .str s.genesisStartTime),
    ("epoch_duration_seconds", .int s.epochDurationSeconds), ("parameter_version",
    .str s.parameterVersion), ("task_set_version", .str s.taskSetVersion), ("protocol_version",
    .str s.protocolVersion)]

/-- `model_dump(mode="json")`. -/
def dump (s : EpochSchedule) : Fields :=
  s.unsignedPayload ++ [("schedule_hash", .str s.scheduleHash)]

/-- `_schedule_hash`. -/
@[irreducible] def computeHash (payload : Fields) : String :=
  "sha256:" ++ hexEncode false
    (sha256 (asciiBytes (version.toList ++ ':' :: canonicalText (.dict payload))))

/-- `EpochSchedule.model_validate`; `none` stands for its exception. -/
def modelValidate [Runtime] (value : PyValue) : Option EpochSchedule := do
  let .dict fields := value | none
  let schemaVersion ← fieldLiteralD fields "schema_version" some version
  let genesisStartTime ← fieldText fields "genesis_start_time" true
  let epochDurationSeconds ← fieldInt fields "epoch_duration_seconds"
  let parameterVersion ← fieldText fields "parameter_version" true
  let taskSetVersion ← fieldText fields "task_set_version" true
  let protocolVersion ← fieldText fields "protocol_version" true
  let scheduleHash ← fieldText fields "schedule_hash" false
  let schedule : EpochSchedule :=
    { schemaVersion, genesisStartTime, epochDurationSeconds, parameterVersion, taskSetVersion,
      protocolVersion, scheduleHash }
  let declared := schedule.dump.map Prod.fst
  guard (fields.all fun member => declared.contains member.1)
  guard (0 < epochDurationSeconds)
  guard (schemaVersion = version)
  guard (parseTimestamp genesisStartTime).toBool
  guard (scheduleHash = computeHash schedule.unsignedPayload)
  return schedule

/-- `boundary_for(active_epoch=0, active_start_time=genesis_start_time, …).boundary_reached`;
the inner `none` stands for a `ValueError`. -/
def genesisBoundaryReached [Runtime] (s : EpochSchedule) (blockTime : String) :
    Except PyError (Option Bool) := do
  match ← parseTimestamps s.genesisStartTime blockTime with
  | some (start, current) =>
    return some ((← plusSeconds start s.epochDurationSeconds) ≤ current)
  | none => return none

end EpochSchedule

/-! ## The settlement state -/

/-- A model with a self-hash, dumped. -/
def withHash (value : PyValue) (key hash : String) : PyValue :=
  match value with
  | .dict members => .dict (members ++ [(key, .str hash)])
  | other => other

def stakeStateText : StakeState → String
  | .locked => "LOCKED"
  | .unbonding => "UNBONDING"
  | .released => "RELEASED"
  | .slashed => "SLASHED"

def optInt : Option Int → PyValue
  | none => .none
  | some n => .int n

/-- A stake record; the members that later operations add are there once they are set. -/
def stakeValue (s : StakeRecord) : PyValue :=
  .dict ([("stake_id", .str s.stakeId), ("stake_type", .str s.stakeType), ("amount", .int s.amount),
    ("beneficiary_object_id", .str s.beneficiaryObjectId),
    ("lock_policy_version", .str s.lockPolicyVersion), ("owner_wallet", .str s.ownerWallet),
    ("state", .str (stakeStateText s.state)),
    ("locked_by_operation_id", .str s.lockedByOperationId),
    ("unbonding_start_epoch", optInt s.unbondingStartEpoch),
    ("release_epoch", optInt s.releaseEpoch), ("penalty_blocked", .bool s.penaltyBlocked)] ++
    ((s.unstakeRequestOperationId.map fun id => ("unstake_request_operation_id",
      PyValue.str id)).toList ++
    ((s.releasedByOperationId.map fun id => ("released_by_operation_id", PyValue.str id)).toList ++
    if s.slashedAmount = 0 then [] else [("slashed_amount", .int s.slashedAmount)])))

/-- The records of a collection in the order of their identities. -/
def sortedValues {α : Type} (d : Dict String α) (f : α → PyValue) : PyValue :=
  .list ((d.sortKeys (· ≤ ·)).values.map f)

/-- The records of a collection in the order in which they were stored. -/
def storedValues {α : Type} (d : Dict String α) (f : α → PyValue) : PyValue :=
  .list (d.values.map f)

/-- `snapshot_settlement_state`. -/
def settlementState (L : LedgerState) : Fields :=
  [("wallet_q_atom_balances", .dict (L.walletQAtomBalances.entries.map fun e => (e.1, .int e.2))),
    ("recyclable_q_atoms", .int L.recyclableQAtoms),
    ("burned_q_atoms", .int L.burnedQAtoms),
    ("stake_records", sortedValues L.stakeRecords stakeValue),
    ("participant_suspensions", sortedValues L.participantSuspensions .dict),
    ("session_funding_accounts",
      storedValues L.sessionFundingAccounts fun a => .dict a.toFundingFields.dump),
    ("settlement_ready_commits", storedValues L.settlementReadyCommits fun x =>
      withHash x.toValue "commitment_hash" x.commitmentHash),
    ("settlement_proposals", storedValues L.settlementProposals (·.toValue)),
    ("settlement_acceptances", storedValues L.settlementAcceptances fun x =>
      withHash x.toValue "acceptance_hash" x.acceptanceHash),
    ("session_checkpoints", storedValues L.sessionCheckpoints fun x =>
      withHash x.toValue "checkpoint_hash" x.checkpointHash),
    ("settlement_disputes", storedValues L.settlementDisputes fun x =>
      withHash x.toValue "dispute_hash" x.disputeHash),
    ("settlement_corrections", storedValues L.settlementCorrections fun x =>
      withHash x.toValue "correction_hash" x.correctionHash),
    ("settlement_transition_hashes",
      .dict (L.settlementTransitionHashes.entries.map fun e => (e.1, .str e.2))),
    ("development_pool_allocations", storedValues L.development.poolAllocations (·.toValue)),
    ("development_pool_carryovers", storedValues L.development.poolCarryovers .dict),
    ("development_bounty_states", storedValues L.development.bountyStates .dict),
    ("development_reward_reserves", storedValues L.development.rewardReserves (·.toValue)),
    ("development_reward_payment_records",
      storedValues L.development.rewardPaymentRecords (·.toValue)),
    ("development_reward_unclaimed_records",
      storedValues L.development.rewardUnclaimedRecords (·.toValue)),
    ("development_reward_claim_records", storedValues L.development.rewardClaimRecords (·.toValue)),
    ("development_reward_expiry_records",
      storedValues L.development.rewardExpiryRecords (·.toValue)),
    ("development_reward_finalized_commitments",
      storedValues L.development.rewardFinalizedCommitments .dict),
    ("development_reward_adjustment_snapshots",
      storedValues L.development.rewardAdjustmentSnapshots .dict),
    ("development_reward_cancellations", storedValues L.development.rewardCancellations .dict),
    ("development_reward_corrections", storedValues L.development.rewardCorrections .dict)]

/-- The members of the settlement state that the hash always covers. -/
def alwaysHashed : List String :=
  ["wallet_q_atom_balances", "session_funding_accounts", "settlement_proposals",
    "settlement_acceptances", "settlement_transition_hashes"]

/-- `_canonical_settlement_state_for_hash`: an extension with its empty default is absent. -/
def canonicalSettlementState (state : Fields) : Fields :=
  state.filter fun member =>
    alwaysHashed.contains member.1 || (member.2 != .list [] && member.2 != .int 0)

def localOnlyOperationTypes : List String := ["SESSION_RUNTIME_EVIDENCE_COMMIT"]

def withoutTransactionHash (r : LedgerOperationRecord) : PyValue :=
  match r.toValue with
  | .dict members => .dict (members.filter fun member => member.1 != "transaction_hash")
  | other => other

/-- `_canonical_operations_for_hash`. -/
def canonicalOperations (L : LedgerState) : PyValue :=
  .list ((L.operations.filter fun r => !localOnlyOperationTypes.contains r.operationType).map
    withoutTransactionHash)

/-- `snapshot_consensus_state`. -/
def consensusState (L : LedgerState) : PyValue :=
  .dict [("active_validator_set", .dict ((L.activeValidatorSet.sortKeys (· ≤ ·)).entries.map
      fun e => (e.1, .dict e.2))),
    ("active_validator_set_epoch", optInt L.activeValidatorSetEpoch),
    ("activated_validator_set_epochs",
      .list ((L.activatedValidatorSetEpochs.mergeSort (· ≤ ·)).map .int))]

/-- What an application commits to. -/
def stateValue (L : LedgerState) (treasuryManifest : Option Fields)
    (epochSchedule : Option EpochSchedule) : PyValue :=
  .dict ([("operations", canonicalOperations L),
    ("wallet_sequences", .dict (L.walletNextSequences.entries.map fun e => (e.1, .int e.2))),
    ("settlement_state", .dict (canonicalSettlementState (settlementState L)))] ++
    (if L.activeValidatorSet.entries.isEmpty && L.activeValidatorSetEpoch.isNone &&
        L.activatedValidatorSetEpochs.isEmpty then []
      else [("consensus_state", consensusState L)]) ++
    (treasuryManifest.map fun m => ("genesis_treasury_manifest", PyValue.dict m)).toList ++
    (epochSchedule.map fun s => ("epoch_schedule", PyValue.dict s.dump)).toList)

@[irreducible] def computeStateHash (L : LedgerState) (treasuryManifest : Option Fields)
    (epochSchedule : Option EpochSchedule) : Bytes :=
  sha256 (asciiBytes (canonicalText (stateValue L treasuryManifest epochSchedule)))

end AidnSpec.Consensus
