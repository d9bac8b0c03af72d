import AidnSpec.Ledger.ForceSettle
import AidnSpec.Ledger.Issuance

/-!
# Consensus operations and runs

Every `apply_consensus_*` method of `LedgerOperationService` as one step of the ledger, and the runs
they make. A raising operation ends its step too: the state it leaves is the one the next operation
meets.
-/

namespace AidnSpec.Ledger

open Base

/-- A call of one `apply_consensus_*` method with its arguments. -/
inductive ConsensusOp where
  | treasuryManifestBind (env : Envelope)
  | treasuryFund (env : Envelope)
  | walletTransfer (env : Envelope)
  | stakeLock (env : Envelope)
  | unstakeRequest (env : Envelope)
  | stakeRelease (env : Envelope)
  | participantSuspend (env : Envelope) (finalized : List String)
  | participantReinstate (env : Envelope) (finalized : List String)
  | recorded (kind : RecordedKind) (env : Envelope) (finalized : FinalizedIds)
  | validatorSetUpdate (env : Envelope)
  | development (kind : DevelopmentKind) (env : Envelope) (finalized : FinalizedIds)
  | developmentPayment (kind : PaymentKind) (env : Envelope) (finalized : FinalizedIds)
  | epochTransition (env : Envelope) (finalized : FinalizedIds)
  | rewardMint (env : Envelope) (finalized : List String)
  | penaltyApply (env : Envelope) (finalized : List String)
  | sessionEscrowLock (env : Envelope)
  | sessionOpen (env : Envelope) (finalized : FinalizedIds)
  | sessionAccept (env : Envelope) (finalized : FinalizedIds)
  | sessionEscrowExtend (env : Envelope) (finalized : FinalizedIds)
  | sessionEscrowRelease (env : Envelope) (finalized : FinalizedIds)
  | sessionCheckpointCommit (env : Envelope) (finalized : FinalizedIds)
  | sessionFailureEvidence (env : Envelope)
  | settlementReadyCommit (env : Envelope) (finalized : FinalizedIds)
  | settlementPropose (env : Envelope) (finalized : FinalizedIds)
  | settlementAccept (env : Envelope) (finalized : FinalizedIds)
  | settlementDispute (env : Envelope) (finalized : FinalizedIds)
  | settlementPartialFinalize (env : Envelope) (finalized : FinalizedIds)
  | settlementCorrect (env : Envelope) (finalized : FinalizedIds)
  | settlementFinalize (env : Envelope) (finalized : FinalizedIds)
  | forceSettle (env : Envelope) (finalized : FinalizedIds)

variable [Runtime] [LedgerRules]

namespace ConsensusOp

def apply : ConsensusOp → LedgerM LedgerOperationRecord
  | treasuryManifestBind env => applyTreasuryManifestBind env
  | treasuryFund env => applyTreasuryFund env
  | walletTransfer env => applyWalletTransfer env
  | stakeLock env => applyStakeLock env
  | unstakeRequest env => applyUnstakeRequest env
  | stakeRelease env => applyStakeRelease env
  | participantSuspend env finalized => applyParticipantSuspend env finalized
  | participantReinstate env finalized => applyParticipantReinstate env finalized
  | recorded kind env finalized => applyRecorded kind env finalized
  | validatorSetUpdate env => applyValidatorSetUpdate env
  | development kind env finalized => applyDevelopment kind env finalized
  | developmentPayment kind env finalized => applyDevelopmentPayment kind env finalized
  | epochTransition env finalized => applyEpochTransition env finalized
  | rewardMint env finalized => applyRewardMint env finalized
  | penaltyApply env finalized => applyPenaltyApply env finalized
  | sessionEscrowLock env => applySessionEscrowLock env
  | sessionOpen env finalized => applySessionOpen env finalized
  | sessionAccept env finalized => applySessionAccept env finalized
  | sessionEscrowExtend env finalized => applySessionEscrowExtend env finalized
  | sessionEscrowRelease env finalized => applySessionEscrowRelease env finalized
  | sessionCheckpointCommit env finalized => applySessionCheckpointCommit env finalized
  | sessionFailureEvidence env => applySessionFailureEvidence env
  | settlementReadyCommit env finalized => applySettlementReadyCommit env finalized
  | settlementPropose env finalized => applySettlementPropose env finalized
  | settlementAccept env finalized => applySettlementAccept env finalized
  | settlementDispute env finalized => applySettlementDispute env finalized
  | settlementPartialFinalize env finalized => applySettlementPartialFinalize env finalized
  | settlementCorrect env finalized => applySettlementCorrect env finalized
  | settlementFinalize env finalized => applySettlementFinalize env finalized
  | forceSettle env finalized => applyForceSettle env finalized

/-- The state that an operation leaves, whether it returned or raised. -/
def after (op : ConsensusOp) (L : LedgerState) : LedgerState :=
  match op.apply L with
  | .ok _ L' => L'
  | .error _ L' => L'

theorem after_of_ok {op : ConsensusOp} {L L' : LedgerState} {record : LedgerOperationRecord}
    (h : op.apply L = .ok record L') : op.after L = L' := by
  rw [after, h]

theorem after_of_error {op : ConsensusOp} {L L' : LedgerState} {e : PyError}
    (h : op.apply L = .error e L') : op.after L = L' := by
  rw [after, h]

end ConsensusOp

/-- Run a validation for its exceptions. -/
def outcome {α : Type} (x : Except PyError α) : Except PyError Unit := x.map fun _ => ()

/-- The `validate_consensus_*` method of an operation. -/
def validateOperation : ConsensusOp → LedgerState → Except PyError Unit
  | .treasuryManifestBind env, L => outcome (validateTreasuryManifestBind env L)
  | .treasuryFund env, L => outcome (validateTreasuryFund env L)
  | .walletTransfer env, L => outcome (validateWalletTransfer env L)
  | .stakeLock env, L => outcome (validateStakeLock env L)
  | .unstakeRequest env, L => outcome (validateUnstakeRequest env L)
  | .stakeRelease env, L => outcome (validateStakeRelease env L)
  | .participantSuspend env ids, L => outcome (validateParticipantSuspend env ids L)
  | .participantReinstate env ids, L => outcome (validateParticipantReinstate env ids L)
  | .recorded kind env ids, L => outcome (validateRecorded kind env ids L)
  | .validatorSetUpdate env, L => outcome (validateValidatorSetUpdate env true L)
  | .development kind env ids, L => outcome (validateDevelopment kind env ids L)
  | .developmentPayment kind env ids, L => outcome (validateDevelopmentPayment kind env ids L)
  | .epochTransition env ids, L => outcome (validateEpochTransition env ids L)
  | .rewardMint env ids, L => outcome (validateRewardMint env ids L)
  | .penaltyApply env ids, L => outcome (validatePenaltyApply env ids L)
  | .sessionEscrowLock env, L => outcome (validateSessionEscrowLock env L)
  | .sessionOpen env ids, L => outcome (validateSessionOpen env ids L)
  | .sessionAccept env ids, L => outcome (validateSessionAccept env ids L)
  | .sessionEscrowExtend env ids, L => outcome (validateSessionEscrowExtend env ids L)
  | .sessionEscrowRelease env ids, L => outcome (validateSessionEscrowRelease env ids L)
  | .sessionCheckpointCommit env ids, L => outcome (validateSessionCheckpointCommit env ids L)
  | .sessionFailureEvidence env, L => outcome (validateSessionFailureEvidence env L)
  | .settlementReadyCommit env ids, L => outcome (validateSettlementReadyCommit env ids L)
  | .settlementPropose env ids, L => outcome (validateSettlementPropose env ids L)
  | .settlementAccept env ids, L => outcome (validateSettlementAccept env ids L)
  | .settlementDispute env ids, L => outcome (validateSettlementDispute env ids L)
  | .settlementPartialFinalize env ids, L => outcome (validateSettlementPartialFinalize env ids L)
  | .settlementCorrect env ids, L => outcome (validateSettlementCorrect env ids L)
  | .settlementFinalize env ids, L => outcome (validateSettlementFinalize env ids L)
  | .forceSettle env ids, L => outcome (validateForceSettle env ids L)

/-- A ledger before its first operation: the genesis allocation of the wallets, and the
treasury declaration when one is configured. -/
def genesis (balances : Dict String Int) (manifest : Option Fields) : LedgerState :=
  { walletQAtomBalances := balances, faucetTreasuryManifest := manifest }

/-- The state after a sequence of operations. -/
def runOps (L : LedgerState) : List ConsensusOp → LedgerState
  | [] => L
  | op :: rest => runOps (op.after L) rest

/-- A state that some sequence of operations leads to, from some genesis. -/
def Reachable (L : LedgerState) : Prop :=
  ∃ balances manifest ops, L = runOps (genesis balances manifest) ops

theorem runOps_append (L : LedgerState) (ops more : List ConsensusOp) :
    runOps L (ops ++ more) = runOps (runOps L ops) more := by
  induction ops generalizing L with
  | nil => rfl
  | cons op ops ih => exact ih (op.after L)

/-- An invariant of every step that holds at genesis holds in every reachable state. -/
theorem Reachable.induct {P : LedgerState → Prop}
    (initial : ∀ balances manifest, P (genesis balances manifest))
    (step : ∀ (L : LedgerState) (op : ConsensusOp), P L → P (op.after L)) {L : LedgerState}
    (h : Reachable L) : P L := by
  obtain ⟨balances, manifest, ops, rfl⟩ := h
  suffices ∀ L, P L → P (runOps L ops) from this _ (initial balances manifest)
  induction ops with
  | nil => exact fun _ h => h
  | cons op ops ih => exact fun L h => ih _ (step L op h)

theorem Reachable.after {L : LedgerState} (h : Reachable L) (op : ConsensusOp) :
    Reachable (op.after L) := by
  obtain ⟨balances, manifest, ops, rfl⟩ := h
  exact ⟨balances, manifest, ops ++ [op], by rw [runOps_append]; rfl⟩

end AidnSpec.Ledger
