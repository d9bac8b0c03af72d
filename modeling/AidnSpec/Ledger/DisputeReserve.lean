import AidnSpec.Ledger.SessionBooks

/-!
# Reserves under dispute

A partial finalization keeps the disputed amount of a session as a reserve. Corrections spend it by
design. Every other operation leaves it alone, except the finalization of another accepted proposal
of the same session, whose validation does not look at the state of the account beyond `RELEASED`
and `REFUNDED`.
-/

namespace AidnSpec.Ledger

open Base ConsensusOp

variable [Runtime]

/-- The operation is a finalization of the session that passes its validation and can be
recorded. -/
def ConsensusOp.Finalizes (s : String) : ConsensusOp → LedgerState → Prop
  | .settlementFinalize env finalized, L =>
      (∃ d, validateSettlementFinalize env finalized L = .ok d ∧ d.transition.sessionId = s) ∧
        ∃ next, Admits L env next
  | _, _ => False

def ConsensusOp.isCorrection : ConsensusOp → Bool
  | .settlementCorrect _ _ => true
  | _ => false

/-- The reserve and the state of an account are as before, and its session was not paid. -/
structure Frozen (s : String) (a : SessionFundingAccount) (L L' : LedgerState) : Prop where
  account : ∃ a', L'.sessionFundingAccounts.get? s = some a' ∧
    a'.activeDisputeReserve = a.activeDisputeReserve ∧ a'.fundingState = a.fundingState
  credits : creditsOf s L'.sessionCredits = creditsOf s L.sessionCredits

variable {s : String} {a : SessionFundingAccount} {L L' : LedgerState} {op : ConsensusOp}

omit [Runtime] in
theorem frozen_of_keeps (stored : L.sessionFundingAccounts.get? s = some a)
    (h : Economy.Keeps s L.economy L'.economy) : Frozen s a L L' :=
  ⟨⟨a, h.1.trans stored, rfl, rfl⟩, h.2⟩

variable [LedgerRules]

/-- A finalization of the session releases its account. -/
theorem released_of_finalizes (wf : L.economy.WellFormed) (h : op.Finalizes s L) :
    ∃ a, (op.after L).sessionFundingAccounts.get? s = some a ∧ a.fundingState = .released := by
  cases op with
  | settlementFinalize env finalized =>
    obtain ⟨⟨d, hv, rfl⟩, next, hadmits⟩ := h
    have ha := hadmits.admitEnvelope ["SessionSettlementFinalized"]
    obtain ⟨a, ⟨L', heffect, heconomy⟩, -, hreleased⟩ :=
      finalize_payout hv wf (economy_of_admitEnvelope ha)
    have hok : ConsensusOp.apply (.settlementFinalize env finalized) L = .ok _ L' :=
      applyConsensus_eq_ok.mpr ⟨d, _, hv, ha, heffect⟩
    refine ⟨a, ?_, hreleased⟩
    rw [after_of_ok hok]
    have haccounts : L'.sessionFundingAccounts = _ := congrArg Economy.accounts heconomy
    rw [haccounts]
    simp
  | _ => exact absurd h id

omit [LedgerRules] in
/-- A finalization that returns is one of the session whose account it stores. -/
theorem finalizes_of_released {env : Envelope} {finalized : FinalizedIds}
    {record : LedgerOperationRecord} (wf : L.economy.WellFormed)
    (hok : applySettlementFinalize env finalized L = .ok record L') {a' : SessionFundingAccount}
    (stored : L.sessionFundingAccounts.get? s = some a)
    (stored' : L'.sessionFundingAccounts.get? s = some a')
    (changed : a.fundingState ≠ a'.fundingState) :
    ConsensusOp.Finalizes s (.settlementFinalize env finalized) L := by
  obtain ⟨d, L₁, hv, ha, he⟩ := applyConsensus_eq_ok.mp hok
  obtain ⟨next, hadmits, -, -⟩ := admitEnvelope_eq_ok.mp ha
  obtain ⟨b, ⟨L₂, he₂, heconomy⟩, -, -⟩ := finalize_payout hv wf (economy_of_admitEnvelope ha)
  rw [he] at he₂
  cases he₂
  refine ⟨⟨d, hv, ?_⟩, next, hadmits⟩
  by_contra hne
  have haccounts : L'.sessionFundingAccounts = _ := congrArg Economy.accounts heconomy
  rw [haccounts, Economy.putAccount_accounts, Dict.get?_set_of_ne _ _ (Ne.symm hne),
    Economy.creditAll_accounts] at stored'
  have hsame : some a = some a' := stored.symm.trans stored'
  cases hsame
  exact changed rfl

/-- What one operation does to a reserved account. -/
theorem ConsensusOp.frozen_iff (wf : L.economy.WellFormed)
    (stored : L.sessionFundingAccounts.get? s = some a) (reserved : a.Reserved)
    (correction : op.isCorrection = false) : Frozen s a L (op.after L) ↔ ¬ op.Finalizes s L := by
  constructor
  · intro hfrozen hfinalizes
    obtain ⟨a', ha', -, hstate⟩ := hfrozen.account
    obtain ⟨b, hb, hreleased⟩ := released_of_finalizes wf hfinalizes
    rw [ha'] at hb
    cases hb
    rw [hreleased, reserved.1] at hstate
    cases hstate
  · intro hfinalizes
    rcases op.after_cases wf with ⟨record, hok, hstep⟩ | ⟨-, hL⟩ | ⟨-, b, cs, heconomy, hb, hzero,
      hown⟩
    · rcases hstep.reserved wf stored reserved with hkeeps | hcorrect | ⟨hfinal, a', ha', hstate⟩
      · exact frozen_of_keeps stored hkeeps
      · cases op <;> simp [label, isCorrection] at hcorrect correction
      · cases op with
        | settlementFinalize env finalized =>
          refine absurd (finalizes_of_released wf hok stored ha' ?_) hfinalizes
          rw [reserved.1, hstate]
          exact fun h => by cases h
        | _ => cases hfinal
    · rw [hL]
      exact frozen_of_keeps stored ⟨rfl, rfl⟩
    · -- the session that a late exception paid has no reserve, so it is another one
      have hne : s ≠ b.sessionId := by
        rintro rfl
        rw [hb] at stored
        cases stored
        have hpos := reserved.2
        omega
      apply frozen_of_keeps stored
      rw [heconomy]
      refine ⟨by simp, ?_⟩
      simp [Economy.creditsOf_append, Economy.creditsOf_own hown, hne]

/-- In every reachable state with a reserved account, an operation other than a correction
leaves the reserve frozen if and only if it is not a finalization of that session; so the
reserve stays frozen along every run of operations that are neither. -/
theorem dispute_reserve_frozen_iff {L : LedgerState} (reachable : Reachable L) {s : String}
    {a : SessionFundingAccount} (stored : L.sessionFundingAccounts.get? s = some a)
    (reserved : a.Reserved) :
    (∀ op : ConsensusOp, op.isCorrection = false →
      (Frozen s a L (op.after L) ↔ ¬ op.Finalizes s L)) ∧
    ∀ ops, EachStep (fun op L => op.isCorrection = false ∧ ¬ op.Finalizes s L) L ops →
      Frozen s a L (runOps L ops) := by
  constructor
  · intro op correction
    exact frozen_iff reachable.wellFormed stored reserved correction
  · intro ops run
    have hfrozen : (runOps L ops).economy.WellFormed ∧ Frozen s a L (runOps L ops) := by
      refine runOps_induct (I := fun L' => L'.economy.WellFormed ∧ Frozen s a L L') ?_ run
        ⟨reachable.wellFormed, frozen_of_keeps stored ⟨rfl, rfl⟩⟩
      rintro L' op ⟨correction, hfinalizes⟩ ⟨wf, hfrozen⟩
      obtain ⟨a', ha', hreserve, hstate⟩ := hfrozen.account
      have reserved' : a'.Reserved := ⟨hstate.trans reserved.1, hreserve ▸ reserved.2⟩
      have hstep := (frozen_iff wf ha' reserved' correction).mpr hfinalizes
      obtain ⟨b, hb, hbreserve, hbstate⟩ := hstep.account
      exact ⟨op.wellFormed_after wf, ⟨b, hb, hbreserve.trans hreserve, hbstate.trans hstate⟩,
        hstep.credits.trans hfrozen.credits⟩
    exact hfrozen.2

/-! ## Two accepted proposals of one session

The session of ten Q atoms gets two accepted proposals: `disputedProposal` reserves three
Q atoms for a dispute, `plainProposal` reserves none. After the partial finalization of the
first, the finalization of the second pays the reserve to the endpoint. -/

omit [Runtime] [LedgerRules]

/-- A proposal for the session, by what it pays the endpoint and reserves for a dispute. -/
def sampleProposal (settlementId : String) (payment reserve : Nat) (mode : SettlementMode) :
    SessionSettlementProposal where
  settlementId := settlementId
  settlementSequence := 1
  sessionId := "session-1"
  settlementInputRoot := "inputs"
  requestSettlementRoot := "requests"
  usageChainRoot := "usage"
  checkpointRoot := "checkpoints"
  grossSessionCharge := 6
  cappedSessionCharge := 6
  finalEndpointPayment := payment
  requestedEndpointPayment := payment
  consumerPaymentRefund := 2
  actualNetworkFees := 1
  consumerFeeRefund := 1
  disputedAmount := reserve
  disputeReserve := reserve
  endpointAbsorbedAmount := 0
  settlementMode := mode
  proposalExpiration := none

def plainProposal : SessionSettlementProposal :=
  sampleProposal "plain" 6 0 .cooperativeFinal

def disputedProposal : SessionSettlementProposal :=
  sampleProposal "disputed" 3 3 .partialUndisputed

def sampleAcceptance (p : SessionSettlementProposal) : SessionSettlementAcceptance where
  settlementId := p.settlementId
  sessionId := "session-1"
  settlementInputRoot := "inputs"
  acceptedEndpointPayment := p.finalEndpointPayment
  acceptedConsumerRefund := 3
  acceptedNetworkFees := 1
  consumerSignature := "signature"
  acceptedAt := "2026-01-01T00:00:00Z"

def sampleDispute : SettlementDispute where
  disputeId := "dispute-1"
  settlementId := "disputed"
  sessionId := "session-1"
  disputedRequestIds := []
  disputedUsageReportIds := []
  disputedCheckpointIds := []
  disputeClass := "USAGE"
  claimedEndpointPayment := 6
  acceptedEndpointPayment := 3
  disputedAmount := 3
  evidenceRoot := "dispute-root"
  openedAt := "2026-01-01T00:00:00Z"
  claimantSignature := "signature"

def partialTransition : AtomicSettlementTransition where
  sessionId := "session-1"
  settlementId := "disputed"
  endpointPaymentBeneficiary := "endpoint"
  consumerRefundBeneficiary := "consumer"
  previouslyReleasedToEndpoint := 0
  previouslyRefundedToConsumer := 0
  previouslyConsumedNetworkFees := 0
  creditEndpoint := 3
  creditConsumer := 3
  consumeNetworkFees := 1
  retainDisputeReserve := 3
  postpaidObligation := 0
  totalLockedAmount := 10
  conserved := rfl

def finalTransition : AtomicSettlementTransition where
  sessionId := "session-1"
  settlementId := "plain"
  endpointPaymentBeneficiary := "endpoint"
  consumerRefundBeneficiary := "consumer"
  previouslyReleasedToEndpoint := 3
  previouslyRefundedToConsumer := 3
  previouslyConsumedNetworkFees := 1
  creditEndpoint := 3
  creditConsumer := 0
  consumeNetworkFees := 0
  retainDisputeReserve := 0
  postpaidObligation := 0
  totalLockedAmount := 10
  conserved := rfl

def settlementEnvelope (operationType : String) (payload : Fields) (references : List String)
    (operationId : String) : Envelope where
  operationType := operationType
  originType := .multiParty
  feePayer := some "consumer"
  feeClass := .session
  createdAt := "2026-01-01T00:00:00Z"
  payload := payload
  evidenceReferences := references
  operationId := operationId

def proposeEnvelope (p : SessionSettlementProposal) (operationId : String) : Envelope :=
  settlementEnvelope "SESSION_SETTLEMENT_PROPOSE"
    [("session_id", .str "session-1"), ("proposal", p.toValue), ("funding_predecessor_operation_id",
      .str prepaidId), ("funding_state_reference", .str (tenAtoms .escrowPrepaid).fundingStateHash),
      ("endpoint_payment_beneficiary", .str "endpoint"), ("consumer_refund_beneficiary",
      .str "consumer")]
    [prepaidId, "inputs"] operationId

def acceptEnvelope (p : SessionSettlementProposal) (proposalId operationId : String) : Envelope :=
  settlementEnvelope "SESSION_SETTLEMENT_ACCEPT"
    [("acceptance", (sampleAcceptance p).toValue), ("proposal_operation_id", .str proposalId),
      ("consumer_wallet", .str "consumer")]
    [proposalId, "inputs"] operationId

def plainProposalId : String := "216628c8073cd29c2ae684265a38365af2c1fb4f0bc706294fbba18a9850a915"

def plainAcceptanceId : String := "9b429f2ec5f8c7107bcb8622c5daabb64eb0aac6fb20ddd6786558e7beb49dc6"

def disputedProposalId : String :=
  "383392889e3fca0a752e5c62d4195ed837ef949e4b44e3e929d2c2c9bdc5ee44"

def disputedAcceptanceId : String :=
  "790863917e3b6190362fce95a8c02ff5f0cdf765b884891dcf8bb551ef7aa992"

def disputeEnvelope (operationId : String) : Envelope :=
  settlementEnvelope "SESSION_SETTLEMENT_DISPUTE"
    [("session_id", .str "session-1"), ("settlement_id", .str "disputed"), ("settlement_input_root",
      .str "inputs"), ("proposal_operation_id", .str disputedProposalId), ("claimant_wallet",
      .str "consumer"), ("dispute", sampleDispute.toValue)]
    [disputedProposalId, "inputs", "dispute-1", "dispute-root", sampleDispute.disputeHash]
    operationId

def disputeOperationId : String :=
  "f521c1b4682c506b868c79f7231f82a4952ed9b8eb7e66d52786e76258bad08c"

def partialEnvelope (operationId : String) : Envelope :=
  settlementEnvelope "SESSION_SETTLEMENT_PARTIAL_FINALIZE"
    [("session_id", .str "session-1"), ("settlement_input_root", .str "inputs"),
      ("proposal_operation_id", .str disputedProposalId), ("acceptance_operation_id",
      .str disputedAcceptanceId), ("dispute_operation_id", .str disputeOperationId),
      ("acceptance_hash", .str (sampleAcceptance disputedProposal).acceptanceHash), ("dispute_hash",
      .str sampleDispute.disputeHash), ("transition", partialTransition.toValue)]
    [disputedProposalId, disputedAcceptanceId, disputeOperationId, "inputs", "disputed",
      "dispute-root", (sampleAcceptance disputedProposal).acceptanceHash, sampleDispute.disputeHash]
    operationId

def partialOperationId : String :=
  "7d693728aa532e9c25fb9237bf40b858ea0ae76944de7611dd3626790d556422"

def finalizeEnvelope (operationId : String) : Envelope :=
  settlementEnvelope "SESSION_SETTLEMENT_FINALIZE"
    [("session_id", .str "session-1"), ("settlement_input_root", .str "inputs"),
      ("proposal_operation_id", .str plainProposalId),
      ("acceptance_operation_id", .str plainAcceptanceId),
      ("acceptance_hash", .str (sampleAcceptance plainProposal).acceptanceHash),
      ("transition", finalTransition.toValue)]
    [plainProposalId, plainAcceptanceId, "plain", "inputs"] operationId

def finalOperationId : String := "e4fa4f62945bbcec1ed6887b35810da5d7430672f0bff0a7b60c8123143237f2"

def escrowed : LedgerState := lockedLedger .escrowPrepaid prepaidId

def withProposal (L : LedgerState) (p : SessionSettlementProposal) (operationId : String) :
    LedgerState :=
  { L.admitted (proposeEnvelope p operationId) ["SessionSettlementProposed"] none with
    settlementProposals := L.settlementProposals.set p.settlementId p }

def withAcceptance (L : LedgerState) (p : SessionSettlementProposal)
    (proposalId operationId : String) : LedgerState :=
  { L.admitted (acceptEnvelope p proposalId operationId) ["SessionSettlementAccepted"] none with
    settlementAcceptances := L.settlementAcceptances.set p.settlementId (sampleAcceptance p) }

def plainProposed : LedgerState := withProposal escrowed plainProposal plainProposalId

def plainAccepted : LedgerState :=
  withAcceptance plainProposed plainProposal plainProposalId plainAcceptanceId

def bothProposed : LedgerState := withProposal plainAccepted disputedProposal disputedProposalId

def bothAccepted : LedgerState :=
  withAcceptance bothProposed disputedProposal disputedProposalId disputedAcceptanceId

def underDispute : LedgerState :=
  { bothAccepted.admitted (disputeEnvelope disputeOperationId) ["SessionSettlementDisputed"]
    none with
    settlementDisputes := bothAccepted.settlementDisputes.set "disputed" sampleDispute }

def lockRecord : LedgerOperationRecord :=
  admittedRecord hundredAtoms (lockEnvelope .escrowPrepaid prepaidId) ["SessionEscrowLocked"]
    (some 2)

theorem hasText_proposeEnvelope (p : SessionSettlementProposal) (operationId : String) :
    ∀ key ∈ ["funding_state_reference", "endpoint_payment_beneficiary",
      "consumer_refund_beneficiary"],
      (proposeEnvelope p operationId).payload.hasText key = true := by
  simp only [List.forall_mem_cons, List.not_mem_nil, IsEmpty.forall_iff, implies_true, and_true]
  refine ⟨?_, rfl, rfl⟩
  have hblank := isBlank_canonicalHash (.dict (tenAtoms .escrowPrepaid).members)
  simp [proposeEnvelope, settlementEnvelope, Fields.hasText, PyValue.get, List.lookup_cons,
    FundingFields.fundingStateHash, hblank]

/-- The lock precedes every proposal for the session. -/
theorem requireFundingPredecessor_lock {complaint : String}
    (h : requireFinalizedOperation L prepaidId none complaint = .ok lockRecord) :
    requireFundingPredecessor L prepaidId (tenAtoms .escrowPrepaid) none [prepaidId, "inputs"]
      complaint = .ok () := by
  have hsession : PyValue.get lockRecord.payload "session_id" =
      .str (tenAtoms .escrowPrepaid).sessionId := rfl
  have hhash : PyValue.get lockRecord.payload "funding_state_hash" =
      .str (tenAtoms .escrowPrepaid).fundingStateHash := by
    simp [lockRecord, admittedRecord, lockEnvelope, FundingFields.dump, FundingFields.members,
      PyValue.get, List.lookup_cons]
  have htype : lockRecord.operationType = "SESSION_ESCROW_LOCK" := rfl
  simp only [requireFundingPredecessor, checks_eq_ok, exists_unit, h, Except.ok.injEq,
    exists_eq_left', htype, if_true, hsession, hhash, decide_true]
  exact ⟨rfl, rfl, trivial, trivial⟩

section Validations

variable [Runtime]

theorem validate_proposePlain : validateSettlementPropose
    (proposeEnvelope plainProposal plainProposalId) none escrowed = .ok plainProposal := by
  simp only [validateSettlementPropose, requireFunding, checks_eq_ok, exists_and_left, exists_const]
  refine ⟨rfl, rfl, rfl, _, rfl, hasText_proposeEnvelope _ _, prepaidId, rfl, plainProposal, rfl,
    by decide, rfl, tenAtoms .escrowPrepaid, rfl, rfl, beq_self_eq_true _, rfl, ?_⟩
  rw [if_neg (by decide)]
  simp only [checks_eq_ok, exists_and_left, exists_const, and_true]
  exact ⟨rfl, (), requireFundingPredecessor_lock rfl, rfl, (), rfl, rfl, rfl, (), rfl⟩

theorem validate_acceptPlain : validateSettlementAccept
    (acceptEnvelope plainProposal plainProposalId plainAcceptanceId) none plainProposed =
      .ok (sampleAcceptance plainProposal) := by
  simp only [validateSettlementAccept, requireProposal, requireFunding, checks_eq_ok, exists_unit]
  exact ⟨rfl, rfl, rfl, _, rfl, _, rfl, _, rfl, _, rfl, plainProposal, rfl, _, rfl, _, rfl, _,
    rfl, rfl, rfl, rfl, rfl, rfl, rfl, rfl, rfl⟩

theorem validate_proposeDisputed : validateSettlementPropose
    (proposeEnvelope disputedProposal disputedProposalId) none plainAccepted =
      .ok disputedProposal := by
  simp only [validateSettlementPropose, requireFunding, checks_eq_ok, exists_and_left, exists_const]
  refine ⟨rfl, rfl, rfl, _, rfl, hasText_proposeEnvelope _ _, prepaidId, rfl, disputedProposal, rfl,
    by decide, rfl, tenAtoms .escrowPrepaid, rfl, rfl, beq_self_eq_true _, rfl, ?_⟩
  rw [if_pos (by decide)]
  simp only [checks_eq_ok, exists_and_left, exists_const, and_true]
  exact ⟨rfl, (), requireFundingPredecessor_lock rfl, rfl, (), rfl, rfl, rfl, (), rfl⟩

theorem validate_acceptDisputed : validateSettlementAccept
    (acceptEnvelope disputedProposal disputedProposalId disputedAcceptanceId) none bothProposed =
      .ok (sampleAcceptance disputedProposal) := by
  simp only [validateSettlementAccept, requireProposal, requireFunding, checks_eq_ok, exists_unit]
  exact ⟨rfl, rfl, rfl, _, rfl, _, rfl, _, rfl, _, rfl, disputedProposal, rfl, _, rfl, _, rfl, _,
    rfl, rfl, rfl, rfl, rfl, rfl, rfl, rfl, rfl⟩

theorem validate_dispute : validateSettlementDispute (disputeEnvelope disputeOperationId) none
    bothAccepted = .ok sampleDispute := by
  have hreferenced : requireReferenced (disputeEnvelope disputeOperationId).evidenceReferences
      "Settlement dispute evidence is not referenced"
      [disputedProposalId, "inputs", "dispute-1", sampleDispute.disputeHash, "dispute-root"] =
        .ok () := by
    simp [requireReferenced, disputeEnvelope, settlementEnvelope]
    rfl
  simp only [validateSettlementDispute, requireProposal, requireFunding, checks_eq_ok,
    exists_and_left, exists_const]
  exact ⟨rfl, rfl, rfl, by decide, _, rfl, sampleDispute, rfl, disputedProposal, rfl,
    tenAtoms .escrowPrepaid, rfl, rfl, rfl, rfl, rfl, rfl, rfl, rfl, rfl, rfl, _, rfl,
    disputedProposal, rfl, rfl, (), hreferenced, rfl⟩

theorem validate_partial : validateSettlementPartialFinalize (partialEnvelope partialOperationId)
    none underDispute = .ok ⟨partialTransition, disputedProposal, tenAtoms .escrowPrepaid⟩ := by
  have htexts : ∀ key ∈ ["session_id", "settlement_input_root", "proposal_operation_id",
      "acceptance_operation_id", "dispute_operation_id", "acceptance_hash", "dispute_hash"],
      (partialEnvelope partialOperationId).payload.hasText key = true := by
    have hacceptance := isBlank_canonicalHash (sampleAcceptance disputedProposal).toValue
    have hdispute := isBlank_canonicalHash sampleDispute.toValue
    simp only [List.forall_mem_cons, List.not_mem_nil, IsEmpty.forall_iff, implies_true, and_true]
    refine ⟨rfl, rfl, rfl, rfl, rfl, ?_, ?_⟩
    · simp [partialEnvelope, settlementEnvelope, Fields.hasText, PyValue.get, List.lookup_cons,
        SessionSettlementAcceptance.acceptanceHash, hacceptance]
    · simp [partialEnvelope, settlementEnvelope, Fields.hasText, PyValue.get, List.lookup_cons,
        SettlementDispute.disputeHash, hdispute]
  have hbinding : ((partialEnvelope partialOperationId).payload.text "session_id" ==
      disputedProposal.sessionId &&
      (partialEnvelope partialOperationId).payload.text "settlement_input_root" ==
        disputedProposal.settlementInputRoot &&
      (partialEnvelope partialOperationId).payload.text "acceptance_hash" ==
        (sampleAcceptance disputedProposal).acceptanceHash &&
      (partialEnvelope partialOperationId).payload.text "dispute_hash" ==
        sampleDispute.disputeHash &&
      partialTransition.sessionId == disputedProposal.sessionId) = true := by
    simp [partialEnvelope, settlementEnvelope, Fields.text, PyValue.get, List.lookup_cons,
      disputedProposal, sampleProposal, partialTransition]
  have hreferenced : requireReferenced (partialEnvelope partialOperationId).evidenceReferences
      "Settlement partial-finalize evidence is not referenced"
      [disputedProposalId, disputedAcceptanceId, disputeOperationId, "inputs", "disputed",
        (sampleAcceptance disputedProposal).acceptanceHash, sampleDispute.disputeHash,
        "dispute-root"] = .ok () := by
    simp [requireReferenced, partialEnvelope, settlementEnvelope]
    rfl
  simp only [validateSettlementPartialFinalize, requireProposal, requireFunding, checks_eq_ok,
    exists_and_left, exists_const]
  exact ⟨rfl, rfl, rfl, _, rfl, htexts, partialTransition, rfl, disputedProposal, rfl,
    sampleAcceptance disputedProposal, rfl, sampleDispute, rfl, tenAtoms .escrowPrepaid, rfl, rfl,
    rfl, rfl, rfl, rfl, _, rfl, _, rfl, _, rfl, disputedProposal, rfl, _, rfl, _, rfl, rfl,
    hbinding, (), hreferenced, (), rfl, (), rfl, rfl⟩

end Validations

def reservedAccount : SessionFundingAccount where
  toFundingFields :=
    distributed disputedProposal .disputeReserved (tenAtoms .escrowPrepaid).toFundingFields
  nonneg := by constructor <;> simp [distributed, disputedProposal, sampleProposal, tenAtoms]
  total_eq := rfl
  payment_eq := rfl
  fee_eq := rfl

def partialCredits : List SessionCredit :=
  [⟨"session-1", .endpoint, "endpoint", 3⟩, ⟨"session-1", .consumer, "consumer", 3⟩]

def reservedLedger : LedgerState :=
  { (underDispute.admitted (partialEnvelope partialOperationId)
      ["SessionSettlementPartiallyFinalized"] none).creditAll partialCredits with
    sessionFundingAccounts := underDispute.sessionFundingAccounts.set "session-1" reservedAccount
    settlementTransitionHashes := underDispute.settlementTransitionHashes.set "disputed"
      partialTransition.transitionHash }

theorem validate_final [Runtime] :
    validateSettlementFinalize (finalizeEnvelope finalOperationId) none reservedLedger =
      .ok ⟨finalTransition, plainProposal, reservedAccount⟩ := by
  have htexts : ∀ key ∈ ["proposal_operation_id", "acceptance_operation_id", "acceptance_hash"],
      (finalizeEnvelope finalOperationId).payload.hasText key = true := by
    have hacceptance := isBlank_canonicalHash (sampleAcceptance plainProposal).toValue
    simp only [List.forall_mem_cons, List.not_mem_nil, IsEmpty.forall_iff, implies_true, and_true]
    refine ⟨rfl, rfl, ?_⟩
    simp [finalizeEnvelope, settlementEnvelope, Fields.hasText, PyValue.get, List.lookup_cons,
      SessionSettlementAcceptance.acceptanceHash, hacceptance]
  have hbinding : (PyValue.get (finalizeEnvelope finalOperationId).payload "session_id" ==
      .str plainProposal.sessionId &&
      PyValue.get (finalizeEnvelope finalOperationId).payload "settlement_input_root" ==
        .str plainProposal.settlementInputRoot &&
      (finalizeEnvelope finalOperationId).payload.text "acceptance_hash" ==
        (sampleAcceptance plainProposal).acceptanceHash &&
      finalTransition.sessionId == plainProposal.sessionId) = true := by
    simp [finalizeEnvelope, settlementEnvelope, Fields.text, PyValue.get, List.lookup_cons,
      plainProposal, sampleProposal, finalTransition]
  simp only [validateSettlementFinalize, requireProposal, requireFunding, checks_eq_ok,
    orRaise_eq_ok, exists_and_left, exists_const]
  exact ⟨rfl, rfl, rfl, _, rfl, htexts, finalTransition, rfl, plainProposal, rfl,
    sampleAcceptance plainProposal, rfl, reservedAccount, rfl, _, rfl, _, rfl, _, rfl, _, rfl,
    plainProposal, rfl, _, rfl, rfl, rfl, hbinding, rfl, rfl, rfl, rfl, (), rfl, (), rfl, rfl,
    rfl, rfl⟩

def disputeRun : List ConsensusOp :=
  [lockOp .escrowPrepaid prepaidId,
    .settlementPropose (proposeEnvelope plainProposal plainProposalId) none,
    .settlementAccept (acceptEnvelope plainProposal plainProposalId plainAcceptanceId) none,
    .settlementPropose (proposeEnvelope disputedProposal disputedProposalId) none,
    .settlementAccept (acceptEnvelope disputedProposal disputedProposalId disputedAcceptanceId)
      none, .settlementDispute (disputeEnvelope disputeOperationId) none,
    .settlementPartialFinalize (partialEnvelope partialOperationId) none]

theorem runOps_disputeRun [Runtime] [LedgerRules] :
    runOps hundredAtoms disputeRun = reservedLedger := by
  have hlock : (lockOp .escrowPrepaid prepaidId).after hundredAtoms = escrowed :=
    after_of_ok (apply_lockOp .escrowPrepaid (by decide))
  have hproposePlain : after
      (.settlementPropose (proposeEnvelope plainProposal plainProposalId) none) escrowed =
        plainProposed :=
    after_of_ok (applyConsensus_eq_ok.mpr ⟨_, _, validate_proposePlain,
      (show Admits _ _ none by decide).admitEnvelope _, rfl⟩)
  have hacceptPlain : after (.settlementAccept
      (acceptEnvelope plainProposal plainProposalId plainAcceptanceId) none) plainProposed =
        plainAccepted :=
    after_of_ok (applyConsensus_eq_ok.mpr ⟨_, _, validate_acceptPlain,
      (show Admits _ _ none by decide).admitEnvelope _, rfl⟩)
  have hproposeDisputed : after
      (.settlementPropose (proposeEnvelope disputedProposal disputedProposalId) none)
        plainAccepted = bothProposed :=
    after_of_ok (applyConsensus_eq_ok.mpr ⟨_, _, validate_proposeDisputed,
      (show Admits _ _ none by decide).admitEnvelope _, rfl⟩)
  have hacceptDisputed : after (.settlementAccept
      (acceptEnvelope disputedProposal disputedProposalId disputedAcceptanceId) none)
        bothProposed = bothAccepted :=
    after_of_ok (applyConsensus_eq_ok.mpr ⟨_, _, validate_acceptDisputed,
      (show Admits _ _ none by decide).admitEnvelope _, rfl⟩)
  have hdispute : after (.settlementDispute (disputeEnvelope disputeOperationId) none)
      bothAccepted = underDispute :=
    after_of_ok (applyConsensus_eq_ok.mpr ⟨_, _, validate_dispute,
      (show Admits _ _ none by decide).admitEnvelope _, rfl⟩)
  have hpartial : after
      (.settlementPartialFinalize (partialEnvelope partialOperationId) none) underDispute =
        reservedLedger :=
    after_of_ok (applyConsensus_eq_ok.mpr ⟨_, _, validate_partial,
      (show Admits _ _ none by decide).admitEnvelope _, rfl⟩)
  simp only [disputeRun, runOps, hlock, hproposePlain, hacceptPlain, hproposeDisputed,
    hacceptDisputed, hdispute, hpartial]

/-- The partial finalization and the final one pay the session once, and a repetition of the last
changes nothing. -/
theorem dispute_settled_once :
    letI := sampleRuntime
    letI := noRules
    let final := settlementFinalize (finalizeEnvelope finalOperationId) none
    let L := runOps hundredAtoms (disputeRun ++ [final])
    EachStep (fun op L => ¬ op.RaisesLate L) hundredAtoms (disputeRun ++ [final] ++ [final]) ∧
      ∃ a, L.sessionFundingAccounts.get? "session-1" = some a ∧ a.fundingState = .released ∧
        a.releasedToEndpoint = 6 ∧ SettledOnce L "session-1" a ∧
        creditsOf "session-1" (runOps L [final]).sessionCredits =
          creditsOf "session-1" L.sessionCredits := by
  let _ := sampleRuntime
  let _ := noRules
  intro final L
  have hrun : EachStep (fun op L => ¬ op.RaisesLate L) hundredAtoms
      (disputeRun ++ [final] ++ [final]) :=
    ⟨id, id, id, id, id, id, id, id, id, trivial⟩
  have hpaid : ∃ a, L.sessionFundingAccounts.get? "session-1" = some a ∧
      a.fundingState = .released ∧ a.releasedToEndpoint = 6 := by
    have hfinal : ∃ record L', final.apply reservedLedger = .ok record L' ∧
        ∃ a, L'.sessionFundingAccounts.get? "session-1" = some a ∧
          a.fundingState = .released ∧ a.releasedToEndpoint = 6 :=
      ⟨_, _, applyConsensus_eq_ok.mpr ⟨_, _, validate_final, (show Admits _ _ none
        by decide).admitEnvelope _, rfl⟩, _, rfl, rfl, rfl⟩
    obtain ⟨record, L', happly, a, ha⟩ := hfinal
    have hL : L = L' := by
      show runOps hundredAtoms (disputeRun ++ [final]) = L'
      rw [runOps_append, runOps_disputeRun]
      exact after_of_ok happly
    exact ⟨a, hL ▸ ha⟩
  obtain ⟨a, hstored, hreleased, hsix⟩ := hpaid
  have hbooks := no_double_settlement (Dict.empty.set "consumer" 100) none (disputeRun ++ [final])
    hrun.append.1
  have hkept := (no_double_settlement (Dict.empty.set "consumer" 100) none
    (disputeRun ++ [final] ++ [final]) hrun).2.2 (disputeRun ++ [final]) [final] rfl "session-1" a
      hstored (.inl hreleased)
  rw [runOps_append] at hkept
  exact ⟨hrun, a, hstored, hreleased, hsix, hbooks.1 "session-1" a hstored, hkept.2⟩

theorem reservedAccount_reserved : reservedAccount.Reserved := ⟨rfl, by decide⟩

/-- The finalization of the plain proposal releases the account of the disputed one. -/
theorem plain_finalization_thaws_reserve :
    letI := sampleRuntime
    letI := noRules
    ∃ (L : LedgerState) (a : SessionFundingAccount) (op : ConsensusOp), Reachable L ∧
      L.sessionFundingAccounts.get? "session-1" = some a ∧ a.Reserved ∧
      op.isCorrection = false ∧ ¬ Frozen "session-1" a L (op.after L) := by
  let _ := sampleRuntime
  let _ := noRules
  have hreachable : Reachable reservedLedger :=
    ⟨Dict.empty.set "consumer" 100, none, disputeRun, runOps_disputeRun.symm⟩
  have hfinalizes : ConsensusOp.Finalizes "session-1"
      (.settlementFinalize (finalizeEnvelope finalOperationId) none) reservedLedger :=
    ⟨⟨_, validate_final, rfl⟩, none,
      by decide⟩
  refine ⟨reservedLedger, reservedAccount,
    .settlementFinalize (finalizeEnvelope finalOperationId) none, hreachable, rfl,
    reservedAccount_reserved, rfl, ?_⟩
  intro hfrozen
  exact (frozen_iff hreachable.wellFormed rfl reservedAccount_reserved rfl).mp hfrozen
    hfinalizes

/-- Another partial finalization leaves the reserve frozen. -/
theorem partial_finalization_keeps_reserve :
    letI := sampleRuntime
    letI := noRules
    let op := settlementPartialFinalize (partialEnvelope partialOperationId) none
    Frozen "session-1" reservedAccount reservedLedger (op.after reservedLedger) ∧
      Frozen "session-1" reservedAccount reservedLedger (runOps reservedLedger [op]) := by
  let _ := sampleRuntime
  let _ := noRules
  have hreachable : Reachable reservedLedger :=
    ⟨Dict.empty.set "consumer" 100, none, disputeRun, runOps_disputeRun.symm⟩
  have hstored : reservedLedger.sessionFundingAccounts.get? "session-1" = some reservedAccount :=
    rfl
  obtain ⟨hstep, hrun⟩ := dispute_reserve_frozen_iff hreachable hstored reservedAccount_reserved
  intro op
  have hneither : op.isCorrection = false ∧ ¬ op.Finalizes "session-1" reservedLedger := ⟨rfl, id⟩
  exact ⟨(hstep op hneither.1).mpr hneither.2, hrun [op] ⟨hneither, trivial⟩⟩

end AidnSpec.Ledger
