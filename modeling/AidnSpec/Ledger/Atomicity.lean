import AidnSpec.Ledger.Supply

/-!
# Atomicity of the funding operations

Seven operations store a session account. Each validates, records its envelope, pays the parties and
then stores the account it rebuilt. That the rebuilt account conserves its reserves follows from the
validation, with one exception: a forced settlement whose transition consumes network fees is
recorded and paid, and then raises.
-/

namespace AidnSpec.Ledger

open Base ConsensusOp

def ConsensusOp.storesAccount : ConsensusOp → Bool
  | .sessionEscrowLock _ | .sessionEscrowExtend _ _ | .sessionEscrowRelease _ _
  | .settlementPartialFinalize _ _ | .settlementCorrect _ _ | .settlementFinalize _ _
  | .forceSettle _ _ => true
  | _ => false

/-- Both reserve-conservation equations. -/
structure SessionFundingAccount.Conserves (a : SessionFundingAccount) : Prop where
  payment : a.releasedToEndpoint + a.consumerPaymentRefund + a.activeDisputeReserve +
    a.unsettledPaymentReserve = a.endpointPaymentReserve
  fees : a.consumedNetworkFees + a.consumerFeeRefund + a.unsettledFeeReserve =
    a.networkFeeReserve

/-- Locks, extensions and payouts store the account of one session. -/
theorem Economy.Step.stores {label : Label} {E E' : Economy} (step : Economy.Step label E E')
    (h : label = .lock ∨ label = .extend ∨ ∃ kind, label = .payout kind) :
    ∃ a, E'.accounts = E.accounts.set a.sessionId a := by
  cases step with
  | lock _ a fresh untouched => exact ⟨a, by simp⟩
  | extend _ a a' amount stored extended =>
    refine ⟨a', ?_⟩
    rw [extended.covers.session]
    rfl
  | payout kind _ a a' cs stored pays =>
    refine ⟨a', ?_⟩
    rw [pays.session]
    simp
  | _ => simp at h

variable [Runtime] [LedgerRules]

/-- An operation raises and leaves the ledger as it was, or returns with the account of one
session stored, which conserves both reserves. -/
def ConsensusOp.Atomic (op : ConsensusOp) (L : LedgerState) : Prop :=
  match op.apply L with
  | .error _ L' => L' = L
  | .ok _ L' => ∃ a : SessionFundingAccount,
      L'.sessionFundingAccounts = L.sessionFundingAccounts.set a.sessionId a ∧ a.Conserves

/-- In every reachable state a funding operation is atomic if and only if it is not a
forced settlement that passes its validation, can be recorded and consumes network fees. -/
theorem funding_operation_atomic_iff {L : LedgerState} (reachable : Reachable L)
    {op : ConsensusOp} (stores : op.storesAccount = true) :
    op.Atomic L ↔ ¬ op.RaisesLate L := by
  have wf := reachable.wellFormed
  unfold ConsensusOp.Atomic
  constructor
  · intro hatomic hlate
    obtain ⟨e, L', -, -, happly, -, hlog, -⟩ := apply_of_raisesLate wf hlate
    rw [happly] at hatomic
    rw [hatomic] at hlog
    exact absurd hlog (Nat.lt_irrefl _)
  · intro hlate
    have htakes := takes wf hlate
    cases happly : op.apply L with
    | error e L' => exact htakes.atomic happly
    | ok record L' =>
      have hlabel : op.label = .lock ∨ op.label = .extend ∨ ∃ kind, op.label = .payout kind := by
        cases op <;> simp [storesAccount, ConsensusOp.label] at stores ⊢
      obtain ⟨a, ha⟩ := (htakes.step happly).stores hlabel
      exact ⟨a, ha, a.payment_eq, a.fee_eq⟩

/-! ## Forced settlements with a network fee and without -/

omit [Runtime] [LedgerRules]

def evidenceEnvelope (operationId : String) : Envelope where
  operationType := "SESSION_FAILURE_EVIDENCE"
  originType := .evidenceTriggered
  initiatorId := some "session-1"
  feeClass := .session
  createdAt := "2026-01-01T00:00:00Z"
  payload := [("session_id", .str "session-1"), ("failure_class", .str "CONSUMER_DISCONNECTED"),
    ("failure_evidence_root", .str "failure-root")]
  evidenceReferences := ["failure-root"]
  operationId := operationId

/-- Five of the ten Q atoms to the endpoint, the others back to the consumer, less a fee. -/
def forcedTransition (fee : Bool) : AtomicSettlementTransition where
  sessionId := "session-1"
  settlementId := "settlement-1"
  endpointPaymentBeneficiary := "endpoint"
  consumerRefundBeneficiary := "consumer"
  previouslyReleasedToEndpoint := 0
  previouslyRefundedToConsumer := 0
  previouslyConsumedNetworkFees := 0
  creditEndpoint := 5
  creditConsumer := if fee then 4 else 5
  consumeNetworkFees := if fee then 1 else 0
  retainDisputeReserve := 0
  postpaidObligation := 0
  totalLockedAmount := 10
  conserved := by cases fee <;> rfl

def evidenceId : String := "a3a9d1e04602fbcb004f50ba70fbd96bf0a9a5bb30d87e1d03a855acac49a62e"

def forceEnvelope (fee : Bool) : Envelope where
  operationType := "SESSION_FORCE_SETTLE"
  originType := .evidenceTriggered
  feePayer := some "consumer"
  feeClass := .session
  createdAt := "2026-01-01T00:00:00Z"
  payload :=
    [("session_id", .str "session-1"),
      ("failure_class", .str "CONSUMER_TIMEOUT_AFTER_COMPLETED_FIXED_PRICE"),
      ("requested_at", .str "2026-01-01T00:00:00Z"), ("force_after", .str "2026-01-01T00:00:00Z"),
      ("observed_at", .str "2026-01-01T00:00:00Z"), ("failure_evidence_root", .str "failure-root"),
      ("failure_evidence_operation_id", .str evidenceId),
      ("funding_lock_operation_id", .str prepaidId), ("request_settlement_root", .str "requests"),
      ("usage_chain_root", .str "usage"), ("checkpoint_root", .str "checkpoints"),
      ("settlement_input_root", .str "inputs"), ("initiator_wallet", .str "endpoint"),
      ("initiator_signature", .str "signature"), ("requested_payment_q_atoms", .int 5),
      ("requested_refund_q_atoms", .int (if fee then 4 else 5)), ("request_evidence", .list [.dict
        [("request_id", .str "request-1"), ("terminal_state", .str "COMPLETED"),
          ("final_usage_report_hash", .str "usage-1"), ("record_hash", .str "record-1"),
          ("dispute_state", .str "NONE"), ("capped_request_charge_q_atoms", .int 5)]]),
      ("transition", .dict
        [("session_id", .str "session-1"), ("settlement_id", .str "settlement-1"),
          ("endpoint_payment_beneficiary", .str "endpoint"),
          ("consumer_refund_beneficiary", .str "consumer"),
          ("previously_released_to_endpoint_q_atoms", .int 0),
          ("previously_refunded_to_consumer_q_atoms", .int 0),
          ("previously_consumed_network_fees_q_atoms", .int 0),
          ("credit_endpoint_q_atoms", .int 5),
          ("credit_consumer_q_atoms", .int (if fee then 4 else 5)),
          ("consume_network_fees_q_atoms", .int (if fee then 1 else 0)),
          ("retain_dispute_reserve_q_atoms", .int 0), ("postpaid_obligation_q_atoms", .int 0),
          ("total_locked_amount_q_atoms", .int 10)])]
  evidenceReferences := [prepaidId, evidenceId, "failure-root", "requests", "inputs", "usage-1",
    "record-1", "settlement-1"]
  operationId :=
    if fee then "f2e238e2afc309ffda75a4d581de3a91a2ffbda590fc4678182840bfcea0b588"
    else "7e7b21653aef2fe56c9811f36cf3d7b701541c9a87a13999d3be7d527b5be6e0"

def evidencedLedger : LedgerState :=
  (lockedLedger .escrowPrepaid prepaidId).admitted (evidenceEnvelope evidenceId)
    ["SessionFailureEvidenceCommitted"] none

theorem apply_evidence [Runtime] [LedgerRules] :
    apply (.sessionFailureEvidence (evidenceEnvelope evidenceId))
        (lockedLedger .escrowPrepaid prepaidId) =
      .ok (admittedRecord (lockedLedger .escrowPrepaid prepaidId) (evidenceEnvelope evidenceId)
        ["SessionFailureEvidenceCommitted"] none) evidencedLedger := by
  have hadmits : Admits (lockedLedger .escrowPrepaid prepaidId) (evidenceEnvelope evidenceId)
      none := by decide
  refine applyConsensus_eq_ok.mpr ⟨(), _, ?_, hadmits.admitEnvelope _, rfl⟩
  simp [validateSessionFailureEvidence, evidenceEnvelope, requireTexts, Fields.hasText,
    Fields.text, PyValue.get, List.lookup_cons, consensusFailureClasses, committedFailure,
    lockedLedger, LedgerState.admitted, hundredAtoms, genesis, admittedRecord, lockEnvelope]
  rfl

theorem validate_forceEnvelope (fee : Bool) :
    letI := sampleRuntime
    validateForceSettle (forceEnvelope fee) none evidencedLedger =
      .ok (forcedTransition fee, tenAtoms .escrowPrepaid) := by
  let _ := sampleRuntime
  have hfunding : evidencedLedger.sessionFundingAccounts.get?
      ((forceEnvelope fee).payload.text "session_id") =
        some (tenAtoms .escrowPrepaid) := rfl
  have hlock : requireFinalizedDependency evidencedLedger
      ((forceEnvelope fee).payload.text "funding_lock_operation_id")
      "SESSION_ESCROW_LOCK" none "Forced Settlement escrow lock is not finalized" =
        .ok (admittedRecord hundredAtoms (lockEnvelope .escrowPrepaid prepaidId)
          ["SessionEscrowLocked"] (some 2)) := rfl
  have hfailure : requireFinalizedOperation evidencedLedger
      ((forceEnvelope fee).payload.text "failure_evidence_operation_id") none
      "Forced Settlement failure evidence is not finalized" =
        .ok (admittedRecord (lockedLedger .escrowPrepaid prepaidId) (evidenceEnvelope evidenceId)
          ["SessionFailureEvidenceCommitted"] none) := rfl
  have hbinding : (PyValue.get (tenAtoms .escrowPrepaid).dump "session_id" == .str "session-1" &&
      PyValue.get (tenAtoms .escrowPrepaid).dump "funding_state_hash" ==
        .str (tenAtoms .escrowPrepaid).fundingStateHash) = true := by
    simp [FundingFields.dump, FundingFields.members, PyValue.get, List.lookup_cons, tenAtoms]
  have htime : requireTimeoutElapsed (forceEnvelope fee).payload = .ok () := by
    have hzulu : replaceZulu "2026-01-01T00:00:00Z" = "2026-01-01T00:00:00+00:00" := by decide
    simp [requireTimeoutElapsed, forceEnvelope, Fields.text, PyValue.get, List.lookup_cons, hzulu,
      requireStored]
    rfl
  simp only [validateForceSettle, requireFunding, checks_eq_ok, exists_and_left, exists_const]
  cases fee <;> exact ⟨rfl, rfl, rfl, by decide, .consumerTimeout, rfl, _, rfl, forcedTransition _,
    rfl, 5, ⟨rfl, rfl⟩, _, ⟨rfl, rfl⟩, (), htime, _, hfunding, rfl, rfl, rfl, rfl, _, hlock, _,
    hfailure, hbinding, rfl, (), rfl, (), rfl, rfl, rfl, rfl, rfl, rfl, rfl, rfl, (), rfl, rfl,
    rfl, rfl, rfl, rfl⟩

theorem admits_forceEnvelope (fee : Bool) : Admits evidencedLedger (forceEnvelope fee) none := by
  cases fee <;> decide

/-- The lock and the evidence lead from the genesis to the ledger of the forced
settlement. -/
theorem runOps_evidencedLedger [Runtime] [LedgerRules] :
    runOps hundredAtoms [lockOp .escrowPrepaid prepaidId,
      .sessionFailureEvidence (evidenceEnvelope evidenceId)] = evidencedLedger := by
  have hnamed : isBlank prepaidId = false := by decide
  have hlock := after_of_ok (apply_lockOp .escrowPrepaid hnamed)
  have hevidence := after_of_ok apply_evidence
  simp only [runOps, hlock, hevidence]

/-- The ledger that the forced settlement leaves when it raises. -/
def forcedLedger : LedgerState :=
  (evidencedLedger.admitted (forceEnvelope true)
    ["SessionForcedSettlementAuthorized", "SessionRefunded"] none).creditAll
      (forcedCredits (forcedTransition true) (tenAtoms .escrowPrepaid))

theorem apply_forceEnvelope :
    letI := sampleRuntime
    letI := noRules
    apply (.forceSettle (forceEnvelope true) none) evidencedLedger =
      .error ⟨.value, "Network Fee Reserve conservation failed"⟩ forcedLedger :=
  letI := sampleRuntime
  applyForceSettle_late (validate_forceEnvelope true) (by decide)
    ((admits_forceEnvelope true).admitEnvelope _)

/-- A forced settlement that consumes one Q atom of fees raises with its operation in the
log, five Q atoms in the wallet of the endpoint and the account as it was. -/
theorem forced_fee_raises_late :
    letI := sampleRuntime
    letI := noRules
    ∃ (L L' : LedgerState) (op : ConsensusOp) (e : PyError), Reachable L ∧
      op.storesAccount = true ∧ ¬ op.Atomic L ∧ op.apply L = .error e L' ∧
      L'.operations.length = L.operations.length + 1 ∧
      L'.walletQAtomBalance "endpoint" = L.walletQAtomBalance "endpoint" + 5 ∧
      L'.sessionFundingAccounts = L.sessionFundingAccounts := by
  let _ := sampleRuntime
  let _ := noRules
  refine ⟨evidencedLedger, forcedLedger, .forceSettle (forceEnvelope true) none, _,
    ⟨_, none, _, runOps_evidencedLedger.symm⟩, rfl, ?_, apply_forceEnvelope, rfl, rfl, rfl⟩
  rw [ConsensusOp.Atomic, apply_forceEnvelope]
  intro hsame
  have hlog : forcedLedger.operations.length = evidencedLedger.operations.length :=
    congrArg (fun L => L.operations.length) hsame
  exact absurd hlog (by decide)

/-- Without the fee the forced settlement is atomic: it returns, with the endpoint paid. -/
theorem forced_settlement_atomic :
    letI := sampleRuntime
    letI := noRules
    let op := forceSettle (forceEnvelope false) none
    op.Atomic evidencedLedger ∧ ∃ record L', op.apply evidencedLedger = .ok record L' ∧
      L'.walletQAtomBalance "endpoint" = 5 := by
  let _ := sampleRuntime
  let _ := noRules
  intro op
  have hreachable : Reachable evidencedLedger := ⟨_, none, _, runOps_evidencedLedger.symm⟩
  have hvalid := validate_forceEnvelope false
  have hlate : ¬ op.RaisesLate evidencedLedger := by
    rintro ⟨⟨t, a, hvalid', hfees⟩, -⟩
    rw [hvalid] at hvalid'
    cases hvalid'
    exact hfees rfl
  exact ⟨(funding_operation_atomic_iff hreachable rfl).mpr hlate, _, _,
    applyConsensus_eq_ok.mpr ⟨_, _, hvalid, (admits_forceEnvelope false).admitEnvelope _, rfl⟩,
    rfl⟩

end AidnSpec.Ledger
