import AidnSpec.Ledger.SessionRefinement

/-!
# Every operation as a step of the economy

The kind of step that each consensus operation takes, and the one case in which an operation raises
after it was recorded. From the two follow what an operation does to the economy in any well-formed
state, and the shape of every reachable state.
-/

namespace AidnSpec.Ledger

open Base

variable [Runtime]

/-- A forced settlement that consumes network fees is recorded and pays both parties before
the rebuilt account raises. -/
theorem applyForceSettle_late {env : Envelope} {finalized : FinalizedIds} {L L₁ : LedgerState}
    {transition : AtomicSettlementTransition} {funding : SessionFundingAccount}
    {record : LedgerOperationRecord}
    (validated : validateForceSettle env finalized L = .ok (transition, funding))
    (consumes : transition.consumeNetworkFees ≠ 0)
    (admitted : admitEnvelope L env ["SessionForcedSettlementAuthorized", "SessionRefunded"] =
      .ok (record, L₁)) :
    applyForceSettle env finalized L =
      .error ⟨.value, "Network Fee Reserve conservation failed"⟩
        (L₁.creditAll (forcedCredits transition funding)) := by
  obtain ⟨-, hforces⟩ := validateForceSettle_spec validated
  refine applyConsensus_eq_error.mpr (.inr (.inr ⟨_, record, L₁, validated, admitted, ?_⟩))
  refine (creditForced_eq transition funding _ L₁).trans ?_
  simp only [bind, EStateM.bind, rebuildFunding, check, hforces.forced_error consumes, raiseValue]

namespace ConsensusOp

omit [Runtime] in
/-- The kind of step that an operation takes. -/
def label : ConsensusOp → Label
  | treasuryFund env | rewardMint env _ => .issue (env.payload.int "amount")
  | developmentPayment _ env _ => .issue (env.payload.int "amount_q_atoms")
  | sessionEscrowLock _ => .lock
  | sessionEscrowExtend _ _ => .extend
  | sessionEscrowRelease _ _ => .payout .release
  | settlementPartialFinalize _ _ => .payout .partialFinalize
  | settlementCorrect _ _ => .payout .correct
  | settlementFinalize _ _ => .payout .finalize
  | forceSettle _ _ => .payout .force
  | _ => .neutral

/-- The operation is a forced settlement that consumes network fees, and both its
validation and its recording pass. -/
def RaisesLate : ConsensusOp → LedgerState → Prop
  | forceSettle env finalized, L => ForcedFees env finalized L ∧ ∃ next, Admits L env next
  | _, _ => False

/-- A forced settlement that does not raise late takes its step. -/
theorem takes_forceSettle_of_not_raisesLate {env : Envelope} {finalized : FinalizedIds}
    {L : LedgerState} (wf : L.economy.WellFormed) (h : ¬ (forceSettle env finalized).RaisesLate L) :
    Takes (.payout .force) (applyForceSettle env finalized) L := by
  by_cases hfees : ForcedFees env finalized L
  · -- the recording fails, so nothing happens at all
    have hrefused : ∀ {events recorded}, admitEnvelope L env events ≠ .ok recorded := by
      intro events recorded ha
      obtain ⟨next, hadmits, -, -⟩ := admitEnvelope_eq_ok.mp ha
      exact h ⟨hfees, next, hadmits⟩
    constructor
    · intro record L' hok
      obtain ⟨v, L₁, -, ha, -⟩ := applyConsensus_eq_ok.mp hok
      exact absurd ha hrefused
    · intro e L' herr
      rcases applyConsensus_eq_error.mp herr with ⟨-, hL⟩ | ⟨-, -, -, hL⟩ | ⟨v, r, L₁, -, ha, -⟩
      · exact hL
      · exact hL
      · exact absurd ha hrefused
  · exact takes_forceSettle env finalized wf hfees

variable [LedgerRules]

/-- Every operation that does not raise late takes the step of its kind or leaves the
ledger as it was. -/
theorem takes {op : ConsensusOp} {L : LedgerState} (wf : L.economy.WellFormed)
    (h : ¬ op.RaisesLate L) : Takes op.label op.apply L := by
  cases op with
  | treasuryManifestBind env => exact takes_treasuryManifestBind env L
  | treasuryFund env => exact takes_treasuryFund env L
  | walletTransfer env => exact takes_walletTransfer env L
  | stakeLock env => exact takes_stakeLock env L
  | unstakeRequest env => exact takes_unstakeRequest env wf
  | stakeRelease env => exact takes_stakeRelease env wf
  | participantSuspend env finalized => exact takes_participantSuspend env finalized L
  | participantReinstate env finalized => exact takes_participantReinstate env finalized L
  | recorded kind env finalized => exact takes_recorded kind env finalized L
  | validatorSetUpdate env => exact takes_validatorSetUpdate env L
  | development kind env finalized => exact takes_development kind env finalized L
  | developmentPayment kind env finalized => exact takes_developmentPayment kind env finalized L
  | epochTransition env finalized => exact takes_epochTransition env finalized L
  | rewardMint env finalized => exact takes_rewardMint env finalized L
  | penaltyApply env finalized => exact takes_penaltyApply env finalized wf
  | sessionEscrowLock env => exact takes_sessionEscrowLock env L
  | sessionOpen env finalized => exact takes_sessionOpen env finalized L
  | sessionAccept env finalized => exact takes_sessionAccept env finalized L
  | sessionEscrowExtend env finalized => exact takes_sessionEscrowExtend env finalized wf
  | sessionEscrowRelease env finalized => exact takes_sessionEscrowRelease env finalized wf
  | sessionCheckpointCommit env finalized => exact takes_sessionCheckpointCommit env finalized L
  | sessionFailureEvidence env => exact takes_sessionFailureEvidence env L
  | settlementReadyCommit env finalized => exact takes_settlementReadyCommit env finalized L
  | settlementPropose env finalized => exact takes_settlementPropose env finalized L
  | settlementAccept env finalized => exact takes_settlementAccept env finalized L
  | settlementDispute env finalized => exact takes_settlementDispute env finalized L
  | settlementPartialFinalize env finalized =>
    exact takes_settlementPartialFinalize env finalized wf
  | settlementCorrect env finalized => exact takes_settlementCorrect env finalized wf
  | settlementFinalize env finalized => exact takes_settlementFinalize env finalized wf
  | forceSettle env finalized => exact takes_forceSettle_of_not_raisesLate wf h

/-- An operation that raises late has paid a session, and nothing but its credits shows in
the economy. -/
theorem apply_of_raisesLate {op : ConsensusOp} {L : LedgerState} (wf : L.economy.WellFormed)
    (h : op.RaisesLate L) :
    ∃ e L' a cs, op.apply L = .error e L' ∧ L'.economy = L.economy.creditAll cs ∧
      L.operations.length < L'.operations.length ∧
      L.sessionFundingAccounts.get? a.sessionId = some a ∧ a.activeDisputeReserve = 0 ∧
      ∀ c ∈ cs, c.sessionId = a.sessionId := by
  cases op with
  | forceSettle env finalized =>
    obtain ⟨⟨transition, funding, hv, hconsumes⟩, next, hadmits⟩ := h
    have ha := hadmits.admitEnvelope ["SessionForcedSettlementAuthorized", "SessionRefunded"]
    obtain ⟨stored, hforces⟩ := validateForceSettle_spec hv
    refine ⟨_, _, funding, forcedCredits transition funding, applyForceSettle_late hv hconsumes ha,
      ?_, ?_, ?_, hforces.undisputed, ?_⟩
    · rw [economy_creditAll, economy_of_admitEnvelope ha]
    · rw [operations_creditAll]
      simp [LedgerState.admitted]
    · rw [wf.accounts stored]
      exact stored
    · exact forcedCredits_own transition funding
  | _ => exact absurd h id

/-- What an operation does to the economy: the step of its kind, nothing, or the credits of
a forced settlement that raises late. -/
theorem after_cases (op : ConsensusOp) {L : LedgerState} (wf : L.economy.WellFormed) :
    (∃ record, op.apply L = .ok record (op.after L) ∧
        Economy.Step op.label L.economy (op.after L).economy) ∨
      ((∃ e, op.apply L = .error e L) ∧ op.after L = L) ∨
      (op.RaisesLate L ∧ ∃ a cs, (op.after L).economy = L.economy.creditAll cs ∧
        L.sessionFundingAccounts.get? a.sessionId = some a ∧ a.activeDisputeReserve = 0 ∧
        ∀ c ∈ cs, c.sessionId = a.sessionId) := by
  by_cases hlate : op.RaisesLate L
  · obtain ⟨e, L', a, cs, happly, heconomy, -, stored, hdispute, hown⟩ :=
      apply_of_raisesLate wf hlate
    refine .inr (.inr ⟨hlate, a, cs, ?_, stored, hdispute, hown⟩)
    rw [after_of_error happly]
    exact heconomy
  · have htakes := takes wf hlate
    rw [after]
    cases happly : op.apply L with
    | ok record L' => exact .inl ⟨record, rfl, htakes.step happly⟩
    | error e L' =>
      have hL := htakes.atomic happly
      exact .inr (.inl ⟨⟨e, by rw [hL]⟩, hL⟩)

/-- Every operation keeps the shape of the economy. -/
theorem wellFormed_after (op : ConsensusOp) {L : LedgerState} (wf : L.economy.WellFormed) :
    (op.after L).economy.WellFormed := by
  rcases op.after_cases wf with ⟨-, -, hstep⟩ | ⟨-, hL⟩ | ⟨-, a, cs, heconomy, -⟩
  · exact hstep.wellFormed wf
  · rw [hL]
    exact wf
  · rw [heconomy]
    exact wf.of_eq (by simp) (by simp) (by simp)

end ConsensusOp

variable [LedgerRules]

/-- The economy of every reachable state is well formed. -/
theorem Reachable.wellFormed {L : LedgerState} (h : Reachable L) : L.economy.WellFormed := by
  refine Reachable.induct (P := fun L => L.economy.WellFormed) ?_
    (fun L op => op.wellFormed_after) h
  intro balances manifest
  constructor
  · intro s a ha
    cases ha
  · intro k st hst
    cases hst
  · intro i p hp
    cases hp

/-! ## Runs -/

/-- A condition holds at every step of a run. -/
def EachStep (P : ConsensusOp → LedgerState → Prop) : LedgerState → List ConsensusOp → Prop
  | _, [] => True
  | L, op :: rest => P op L ∧ EachStep P (op.after L) rest

/-- What every step meeting a condition keeps, the whole run keeps. -/
theorem runOps_induct {P : ConsensusOp → LedgerState → Prop} {I : LedgerState → Prop}
    (step : ∀ L op, P op L → I L → I (op.after L)) {L : LedgerState} {ops : List ConsensusOp}
    (h : EachStep P L ops) (initial : I L) : I (runOps L ops) := by
  induction ops generalizing L with
  | nil => exact initial
  | cons op ops ih => exact ih h.2 (step L op h.1 initial)

end AidnSpec.Ledger
