import AidnSpec.Ledger.OperationLog

/-!
# What operations leave alone

The stakes change only by the stake operations and penalties, and the usage checkpoints only by a
checkpoint commit. Both are cases of one frame rule for every operation.
-/

namespace AidnSpec.Ledger

open Base

/-- A view of the ledger in which only stakes and usage checkpoints may show. -/
structure IgnoresRecords {γ : Type} (view : LedgerState → γ) : Prop extends
    IgnoresFunds view where
  log : ∀ L env events next, view (LedgerState.admitted L env events next) = view L
  manifest : ∀ L x, view { L with faucetTreasuryManifest := x } = view L
  suspensions : ∀ L x, view { L with participantSuspensions := x } = view L
  openings : ∀ L x, view { L with sessionOpenRecords := x } = view L
  sessionAcceptances : ∀ L x, view { L with sessionAcceptRecords := x } = view L
  readyCommits : ∀ L x, view { L with settlementReadyCommits := x } = view L
  proposals : ∀ L x, view { L with settlementProposals := x } = view L
  acceptances : ∀ L x, view { L with settlementAcceptances := x } = view L
  disputes : ∀ L x, view { L with settlementDisputes := x } = view L
  corrections : ∀ L x, view { L with settlementCorrections := x } = view L
  development : ∀ L x, view { L with development := x } = view L

namespace ConsensusOp

def storesStake : ConsensusOp → Bool
  | stakeLock _ | unstakeRequest _ | stakeRelease _ | penaltyApply _ _ => true
  | _ => false

def storesCheckpoint : ConsensusOp → Bool
  | sessionCheckpointCommit _ _ => true
  | _ => false

end ConsensusOp

section Frame

variable {α γ : Type} {view : LedgerState → γ} {validate : LedgerState → Except PyError α}
  {emittedEvents : α → List String} {env : Envelope} {effect : α → LedgerM Unit}

/-- Recording does not show, so an operation keeps what its effect keeps. -/
theorem IgnoresRecords.applyConsensus (h : IgnoresRecords view)
    (kept : ∀ v, Keeps view (effect v)) :
    Keeps view (applyConsensus validate emittedEvents env effect) := by
  refine Keeps.bind (keeps_check _) fun v => Keeps.bind ?_ fun record =>
    (kept v).bind fun _ => keeps_pure _
  intro L
  rw [leaves, recordAdmittedEnvelope]
  cases hadmitted : admitEnvelope L env (emittedEvents v) with
  | error e => rfl
  | ok pair =>
    obtain ⟨next, -, -, hstate⟩ := admitEnvelope_eq_ok.mp hadmitted
    show view pair.2 = view L
    rw [hstate]
    exact h.log L env _ next

end Frame

variable [Runtime] [LedgerRules]

/-- An operation keeps every such view unless it stores a stake or a checkpoint that shows. -/
theorem ConsensusOp.keeps (op : ConsensusOp) {γ : Type} {view : LedgerState → γ}
    (h : IgnoresRecords view)
    (stakes : op.storesStake = true → ∀ L x, view { L with stakeRecords := x } = view L)
    (checkpoints : op.storesCheckpoint = true →
      ∀ L x, view { L with sessionCheckpoints := x } = view L) :
    Keeps view op.apply := by
  cases op with
  | treasuryManifestBind env =>
    exact h.applyConsensus fun _ => keeps_modify fun L => h.manifest L _
  | treasuryFund env => exact h.applyConsensus fun _ => h.creditWalletQAtoms _ _
  | walletTransfer env =>
    exact h.applyConsensus fun _ => (h.debitWalletQAtoms _ _).bind fun _ =>
      (h.creditWalletQAtoms _ _).bind fun _ => keeps_modify fun L => h.recyclable L _
  | stakeLock env =>
    exact h.applyConsensus fun _ => (h.debitWalletQAtoms _ _).bind fun _ =>
      keeps_putStake (stakes rfl) _ _
  | unstakeRequest env => exact h.applyConsensus fun _ => keeps_putStake (stakes rfl) _ _
  | stakeRelease env =>
    exact h.applyConsensus fun _ => (h.creditWalletQAtoms _ _).bind fun _ =>
      keeps_putStake (stakes rfl) _ _
  | participantSuspend | participantReinstate =>
    exact h.applyConsensus fun _ => keeps_modify fun L => h.suspensions L _
  | recorded | validatorSetUpdate | epochTransition | sessionFailureEvidence =>
    exact h.applyConsensus fun _ => keeps_pure _
  | development kind env finalized =>
    exact h.applyConsensus fun _ => keeps_modify fun L => h.development L _
  | developmentPayment kind env finalized =>
    exact h.applyConsensus fun _ => Keeps.bind (keeps_modify fun L => h.development L _) fun _ =>
      h.creditWalletQAtoms _ _
  | rewardMint env finalized => exact h.applyConsensus fun _ => h.creditWalletQAtoms _ _
  | penaltyApply env finalized =>
    refine h.applyConsensus fun penalty => ?_
    split
    · exact (keeps_putStake (stakes rfl) _ _).bind fun _ => h.collectPenalty _ _
    · exact (h.debitWalletQAtoms _ _).bind fun _ => h.collectPenalty _ _
  | sessionEscrowLock env => exact h.applyConsensus fun _ => h.lockFunding _
  | sessionOpen env finalized =>
    exact h.applyConsensus fun _ => keeps_modify fun L => h.openings L _
  | sessionAccept env finalized =>
    exact h.applyConsensus fun _ => keeps_modify fun L => h.sessionAcceptances L _
  | sessionEscrowExtend env finalized =>
    exact h.applyConsensus fun _ => (h.takeFromWallet _ _).bind fun _ =>
      (h.noteLock _ _).bind fun _ => h.putFunding _ _
  | sessionEscrowRelease env finalized =>
    exact h.applyConsensus fun _ => (h.creditForSession _ _ _ _).bind fun _ => h.putFunding _ _
  | sessionCheckpointCommit env finalized =>
    exact h.applyConsensus fun _ => keeps_modify fun L => checkpoints rfl L _
  | settlementReadyCommit env finalized =>
    exact h.applyConsensus fun _ => keeps_modify fun L => h.readyCommits L _
  | settlementPropose env finalized =>
    exact h.applyConsensus fun _ => keeps_modify fun L => h.proposals L _
  | settlementAccept env finalized =>
    exact h.applyConsensus fun _ => keeps_modify fun L => h.acceptances L _
  | settlementDispute env finalized =>
    exact h.applyConsensus fun _ => keeps_modify fun L => h.disputes L _
  | settlementPartialFinalize env finalized => exact h.applyConsensus fun _ => h.distribute _ _
  | settlementCorrect env finalized =>
    refine h.applyConsensus fun _ => (h.creditForSession _ _ _ _).bind fun _ => ?_
    refine (h.creditForSession _ _ _ _).bind fun _ => ?_
    refine Keeps.bind (keeps_check _) fun _ => ?_
    exact (h.putFunding _ _).bind fun _ => keeps_modify fun L => h.corrections L _
  | settlementFinalize env finalized => exact h.applyConsensus fun _ => h.distribute _ _
  | forceSettle env finalized => exact h.applyConsensus fun forced => h.payForced forced.1 forced.2

end AidnSpec.Ledger
