import AidnSpec.Ledger.SettlementEvidence

/-!
# Settlements with correct evidence

The operations that settle a session are a proposal, its acceptance, the dispute over its reserve
when it keeps one, and the finalization that pays it out. When their envelopes carry what the
validations ask for, whether each of them is admitted depends on the proposal, its account and the
state alone.
-/

namespace AidnSpec.Ledger

open Base Fields SessionSettlementProposal List

variable [Runtime]

/-! ## Evidence -/

/-- An envelope of both parties of a session, at the cost of its consumer. -/
structure Joint (a : SessionFundingAccount) (type : String) (env : Envelope) : Prop where
  operationType : env.operationType = type
  origin : env.originType = .multiParty
  feeClass : env.feeClass = .session
  feePayer : env.feePayer = some a.consumerFundingAccount
  declared : [env.operationVersion, env.protocolVersion, env.createdAt].any (·.isEmpty) = false
  named : isBlank env.operationId = false

/-- What the validation of a proposal asks of the account of its session. -/
structure Proposable (L : LedgerState) (a : SessionFundingAccount) : Prop where
  stored : L.sessionFundingAccounts.get? a.sessionId = some a
  unsettled : a.fundingState.isFinal = false
  session : isBlank a.sessionId = false
  consumer : a.consumerFundingAccount ≠ ""
  endpoint : isBlank a.endpointPaymentBeneficiary = false
  refund : isBlank a.consumerRefundBeneficiary = false

/-- The texts of a proposal that must not be blank, and its sequence. -/
structure SessionSettlementProposal.Filled (p : SessionSettlementProposal) : Prop where
  settlement : isBlank p.settlementId = false
  inputs : isBlank p.settlementInputRoot = false
  requests : isBlank p.requestSettlementRoot = false
  usage : isBlank p.usageChainRoot = false
  checkpoints : isBlank p.checkpointRoot = false
  sequence : 1 ≤ p.settlementSequence

/-- The envelope proposes the settlement of an account with finalized evidence. -/
structure ProposeEvidence (L : LedgerState) (a : SessionFundingAccount)
    (p : SessionSettlementProposal) (env : Envelope) (finalized : FinalizedIds) : Prop extends
    Joint a "SESSION_SETTLEMENT_PROPOSE" env where
  proposal : PyValue.get env.payload "proposal" = p.toValue
  session : PyValue.get env.payload "session_id" = .str p.sessionId
  fundingState : PyValue.get env.payload "funding_state_reference" = .str a.fundingStateHash
  endpoint : PyValue.get env.payload "endpoint_payment_beneficiary" =
    .str a.endpointPaymentBeneficiary
  refund : PyValue.get env.payload "consumer_refund_beneficiary" =
    .str a.consumerRefundBeneficiary
  inputs : p.settlementInputRoot ∈ env.evidenceReferences
  predecessor : ∃ predecessor, proposalPredecessor env.payload = .ok predecessor ∧
    requireFundingPredecessor L predecessor a finalized env.evidenceReferences
      "Settlement proposal funding predecessor is not finalized" = .ok ()
  readiness : requireReadiness L env finalized p = .ok ()

/-- The acceptance repeats what the proposal settles. -/
structure Accepts (p : SessionSettlementProposal) (x : SessionSettlementAcceptance) : Prop where
  settlement : x.settlementId = p.settlementId
  session : x.sessionId = p.sessionId
  inputs : x.settlementInputRoot = p.settlementInputRoot
  payment : x.acceptedEndpointPayment = p.finalEndpointPayment
  refund : x.acceptedConsumerRefund = p.consumerPaymentRefund + p.consumerFeeRefund
  fees : x.acceptedNetworkFees = p.actualNetworkFees

/-- The envelope accepts what another one proposed. -/
structure AcceptEvidence (a : SessionFundingAccount) (p : SessionSettlementProposal)
    (x : SessionSettlementAcceptance) (proposed env : Envelope) (finalized : FinalizedIds) :
    Prop extends Joint a "SESSION_SETTLEMENT_ACCEPT" env where
  accepts : Accepts p x
  filled : x.Filled
  acceptance : PyValue.get env.payload "acceptance" = x.toValue
  operation : PyValue.get env.payload "proposal_operation_id" = .str proposed.operationId
  wallet : PyValue.get env.payload "consumer_wallet" = .str a.consumerFundingAccount
  references : ∀ text ∈ [proposed.operationId, p.settlementInputRoot],
    text ∈ env.evidenceReferences
  names : Names finalized proposed

/-- The envelope disputes the reserve of what another one proposed. -/
structure DisputeEvidence (a : SessionFundingAccount) (p : SessionSettlementProposal)
    (d : SettlementDispute) (proposed env : Envelope) (finalized : FinalizedIds) :
    Prop extends Joint a "SESSION_SETTLEMENT_DISPUTE" env where
  filled : d.Filled
  sameSettlement : d.settlementId = p.settlementId
  sameSession : d.sessionId = p.sessionId
  amount : d.disputedAmount = p.disputeReserve
  dispute : PyValue.get env.payload "dispute" = d.toValue
  session : PyValue.get env.payload "session_id" = .str p.sessionId
  settlement : PyValue.get env.payload "settlement_id" = .str p.settlementId
  inputs : PyValue.get env.payload "settlement_input_root" = .str p.settlementInputRoot
  operation : PyValue.get env.payload "proposal_operation_id" = .str proposed.operationId
  claimant : ∃ wallet ∈ [a.consumerFundingAccount, a.endpointPaymentBeneficiary],
    PyValue.get env.payload "claimant_wallet" = .str wallet
  references : ∀ text ∈ [proposed.operationId, p.settlementInputRoot, d.disputeId,
    d.disputeHash, d.evidenceRoot], text ∈ env.evidenceReferences
  names : Names finalized proposed

structure PayoutEvidence (type : String) (a : SessionFundingAccount)
    (p : SessionSettlementProposal) (x : SessionSettlementAcceptance)
    (t : AtomicSettlementTransition) (proposed accepted env : Envelope)
    (finalized : FinalizedIds) : Prop extends Joint a type env where
  sameSettlement : t.settlementId = p.settlementId
  sameSession : t.sessionId = p.sessionId
  transition : PyValue.get env.payload "transition" = t.toValue
  session : PyValue.get env.payload "session_id" = .str p.sessionId
  inputs : PyValue.get env.payload "settlement_input_root" = .str p.settlementInputRoot
  proposal : PyValue.get env.payload "proposal_operation_id" = .str proposed.operationId
  acceptance : PyValue.get env.payload "acceptance_operation_id" = .str accepted.operationId
  acceptanceHash : PyValue.get env.payload "acceptance_hash" = .str x.acceptanceHash
  references : ∀ text ∈ [proposed.operationId, accepted.operationId, p.settlementInputRoot,
    p.settlementId], text ∈ env.evidenceReferences
  names : Names finalized proposed ∧ Names finalized accepted

/-- The envelope pays out what is not under dispute. -/
structure PartialEvidence (a : SessionFundingAccount) (p : SessionSettlementProposal)
    (x : SessionSettlementAcceptance) (d : SettlementDispute) (t : AtomicSettlementTransition)
    (proposed accepted disputed env : Envelope) (finalized : FinalizedIds) : Prop extends
    PayoutEvidence "SESSION_SETTLEMENT_PARTIAL_FINALIZE" a p x t proposed accepted env finalized
    where
  dispute : PyValue.get env.payload "dispute_operation_id" = .str disputed.operationId
  disputeHash : PyValue.get env.payload "dispute_hash" = .str d.disputeHash
  disputeReferences : ∀ text ∈ [disputed.operationId, x.acceptanceHash, d.disputeHash,
    d.evidenceRoot], text ∈ env.evidenceReferences
  namesDispute : Names finalized disputed

/-! ## What the state keeps of a settlement -/

/-- A recorded envelope of a type, with a dumped model under a key. -/
structure Carries (L : LedgerState) (env : Envelope) (type key : String) (members : Fields) :
    Prop where
  recorded : Recorded L env
  operationType : env.operationType = type
  payload : PyValue.get env.payload key = .dict members
  named : isBlank env.operationId = false

omit [Runtime] in
/-- What a recorded envelope carries is found by the operations that name it. -/
theorem Carries.dependency {L : LedgerState} {env : Envelope} {type key : String}
    {members : Fields} {finalized : FinalizedIds} (h : Carries L env type key members)
    (names : Names finalized env) :
    ∃ r, (∀ complaint, requireFinalizedDependency L env.operationId type finalized complaint =
        .ok r) ∧
      (∀ complaint, requireDict r.payload key complaint = .ok members) ∧
      ∀ {α : Type} {modelValidate : Fields → Except PyError α} {x : α},
        modelValidate members = .ok x → ∀ incomplete invalid,
          recordedModel r key modelValidate incomplete invalid = .ok x := by
  obtain ⟨r, hpayload, hdependency⟩ := h.recorded.dependency names
  refine ⟨r, fun complaint => h.operationType ▸ hdependency complaint, fun complaint => ?_,
    fun hvalid incomplete invalid => recordedModel_of_payload hpayload h.payload hvalid⟩
  rw [hpayload]
  exact requireDict_of_get h.payload complaint

/-- A proposal stands: it is stored, its operation is recorded, and its account is the one it
settles. -/
structure Proposed (L : LedgerState) (a : SessionFundingAccount) (p : SessionSettlementProposal)
    (env : Envelope) : Prop where
  account : L.sessionFundingAccounts.get? p.sessionId = some a
  proposal : L.settlementProposals.get? p.settlementId = some p
  operation : ∃ members, p.toValue = .dict members ∧
    Carries L env "SESSION_SETTLEMENT_PROPOSE" "proposal" members

/-- The acceptance of a proposal stands. -/
structure Accepted (L : LedgerState) (p : SessionSettlementProposal)
    (x : SessionSettlementAcceptance) (env : Envelope) : Prop where
  acceptance : L.settlementAcceptances.get? p.settlementId = some x
  operation : ∃ members, x.toValue = .dict members ∧
    Carries L env "SESSION_SETTLEMENT_ACCEPT" "acceptance" members

/-- The dispute over a proposal stands. -/
structure Disputed (L : LedgerState) (p : SessionSettlementProposal) (d : SettlementDispute)
    (env : Envelope) : Prop where
  dispute : L.settlementDisputes.get? p.settlementId = some d
  operation : ∃ members, d.toValue = .dict members ∧
    Carries L env "SESSION_SETTLEMENT_DISPUTE" "dispute" members

/-- The amounts under dispute fit the mode of a proposal. -/
def SessionSettlementProposal.ModeFits (p : SessionSettlementProposal) : Prop :=
  if p.settlementMode = .partialUndisputed then
    0 < p.disputedAmount ∧ 0 < p.disputeReserve ∧ p.disputedAmount = p.disputeReserve
  else p.disputedAmount = 0 ∧ p.disputeReserve = 0

variable {L : LedgerState} {a : SessionFundingAccount} {p : SessionSettlementProposal}
  {env : Envelope} {finalized : FinalizedIds} {type : String}

omit [Runtime] in
theorem Joint.hasSessionFeePayer (h : Joint a type env) (consumer : a.consumerFundingAccount ≠ "") :
    hasSessionFeePayer env = true := by
  simp [Ledger.hasSessionFeePayer, h.feeClass, h.feePayer, consumer]

omit [Runtime] in
theorem Joint.admits (h : Joint a type env) (typed : isBlank type = false) (counted : Counted L)
    (fresh : L.finalizedOperationRegistry.get? env.operationId = none) : Admits L env none where
  fresh := fresh
  sequence := by rw [nextWalletSequence, h.origin]
  declared := by
    have hdeclared := h.declared
    simp only [any_cons, any_nil, Bool.or_false, Bool.or_eq_false_iff] at hdeclared
    obtain ⟨hversion, hprotocol, htime⟩ := hdeclared
    simp [hversion, hprotocol, htime, ne_empty_of_isBlank h.named, h.operationType,
      ne_empty_of_isBlank typed]
  named := h.named
  typed := h.operationType ▸ typed
  counted := counted.positive
  unused := by
    rw [any_eq_false]
    intro r hr
    have hlt := counted.unused r hr
    simp only [beq_iff_eq]
    omega

/-- A proposal with correct evidence is valid when it is new and its amounts fit. -/
theorem validateSettlementPropose_iff (h : ProposeEvidence L a p env finalized)
    (proposable : Proposable L a) (session : p.sessionId = a.sessionId) (filled : p.Filled)
    {q : SessionSettlementProposal} :
    validateSettlementPropose env finalized L = .ok q ↔
      q = p ∧ p.ModeFits ∧ L.settlementProposals.get? p.settlementId = none ∧
        requireProposedAmounts p a = .ok () := by
  obtain ⟨predecessor, hpredecessor, hfunding⟩ := h.predecessor
  have hdict := requireDict_of_get h.proposal
  have hvalid := modelValidate_dump (p := p) rfl filled.sequence
  have htexts : ∀ key ∈ ["funding_state_reference", "endpoint_payment_beneficiary",
      "consumer_refund_beneficiary"], env.payload.hasText key = true := by
    simp only [forall_mem_cons, not_mem_nil, IsEmpty.forall_iff, implies_true, and_true]
    exact ⟨hasText_of_get h.fundingState (isBlank_canonicalHash _),
      hasText_of_get h.endpoint proposable.endpoint, hasText_of_get h.refund proposable.refund⟩
  have hnames : ∀ c ∈ [("settlement_id", !isBlank p.settlementId), ("session_id",
      !isBlank p.sessionId), ("settlement_input_root", !isBlank p.settlementInputRoot),
      ("request_settlement_root", !isBlank p.requestSettlementRoot), ("usage_chain_root",
      !isBlank p.usageChainRoot), ("checkpoint_root", !isBlank p.checkpointRoot)], c.2 = true := by
    simp [filled.settlement, filled.inputs, filled.requests, filled.usage, filled.checkpoints,
      session, proposable.session]
  have hstored : L.sessionFundingAccounts.get? p.sessionId = some a := session ▸ proposable.stored
  have hinputs : env.evidenceReferences.contains p.settlementInputRoot = true :=
    contains_iff_mem.mpr h.inputs
  simp only [validateSettlementPropose, requireFunding, h.operationType, h.origin,
    h.hasSessionFeePayer proposable.consumer, hdict, hvalid, hpredecessor, h.session, h.feePayer,
    text_of_get h.fundingState, text_of_get h.endpoint, text_of_get h.refund, hstored, checks_eq_ok,
    exists_unit, Except.ok.injEq, Option.some.injEq, exists_eq_left', beq_self_eq_true,
    Bool.and_self, true_and]
  rw [and_iff_right htexts, and_iff_right hnames]
  -- the two branches differ in the check of the amounts under dispute only
  by_cases hmode : p.settlementMode = .partialUndisputed
  · simp only [SessionSettlementProposal.ModeFits, if_pos hmode, hfunding, hinputs, h.readiness,
      proposable.unsettled, Dict.not_contains, checks_eq_ok, exists_unit, Bool.not_false, true_and,
      Bool.and_eq_true, decide_eq_true_eq, beq_iff_eq, and_assoc]
    tauto
  · simp only [SessionSettlementProposal.ModeFits, if_neg hmode, hfunding, hinputs, h.readiness,
      proposable.unsettled, Dict.not_contains, checks_eq_ok, exists_unit, Bool.not_false, true_and,
      Bool.and_eq_true, beq_iff_eq, and_assoc]
    tauto

variable {x : SessionSettlementAcceptance} {proposed accepted : Envelope} {e : SettlementDispute}
  {t : AtomicSettlementTransition} {d : Distribution}

/-- An acceptance with correct evidence is valid when it is the first one and the consumer has a
name. -/
theorem validateSettlementAccept_iff (h : AcceptEvidence a p x proposed env finalized)
    (consumer : a.consumerFundingAccount ≠ "") (stands : Proposed L a p proposed)
    (filled : p.Filled) {y : SessionSettlementAcceptance} :
    validateSettlementAccept env finalized L = .ok y ↔
      y = x ∧ isBlank a.consumerFundingAccount = false ∧
        L.settlementAcceptances.get? p.settlementId = none := by
  obtain ⟨members, hvalue, hcarries⟩ := stands.operation
  obtain ⟨r, hdependency, -, hmodel⟩ := hcarries.dependency h.names
  have hrecorded := hmodel (modelValidate_dump hvalue filled.sequence)
  have hdict := requireDict_of_get h.acceptance
  have hvalid := SessionSettlementAcceptance.modelValidate_dump (x := x) rfl h.filled
  have hoperation : ∀ complaint, requireText env.payload "proposal_operation_id" complaint =
      .ok proposed.operationId := fun _ => requireText_of_get h.operation hcarries.named
  have hreferences := h.references
  simp only [forall_mem_cons, not_mem_nil, IsEmpty.forall_iff, implies_true,
    and_true] at hreferences
  have hproposed : env.evidenceReferences.contains proposed.operationId = true :=
    contains_iff_mem.mpr hreferences.1
  have hinputs : env.evidenceReferences.contains p.settlementInputRoot = true :=
    contains_iff_mem.mpr hreferences.2
  have hwallet : ∀ complaint wallet, requireText env.payload "consumer_wallet" complaint =
      .ok wallet ↔
        isBlank a.consumerFundingAccount = false ∧ a.consumerFundingAccount = wallet := by
    intro complaint wallet
    simp only [requireText, hasText, h.wallet, text_of_get h.wallet, checks_eq_ok, exists_and_left,
      exists_const, Bool.not_eq_true']
  simp only [validateSettlementAccept, requireFunding, requireProposal, h.operationType, h.origin,
    h.hasSessionFeePayer consumer, hdict, hvalid, hoperation, hwallet, h.feePayer, checks_eq_ok,
    exists_and_left, exists_const, Except.ok.injEq, exists_eq_left', and_assoc, beq_self_eq_true,
    true_and]
  simp only [h.accepts.settlement, h.accepts.session, h.accepts.inputs, h.accepts.payment,
    h.accepts.refund, h.accepts.fees, stands.proposal, stands.account, hdependency, hrecorded,
    hproposed, hinputs, Dict.not_contains, Option.some.injEq, Except.ok.injEq, exists_eq_left',
    beq_self_eq_true, Bool.and_self, true_and]
  constructor
  · rintro ⟨hfilled, hnew, rfl⟩
    exact ⟨rfl, hfilled, hnew⟩
  · rintro ⟨rfl, hfilled, hnew⟩
    exact ⟨hfilled, hnew, rfl⟩

/-- A dispute with correct evidence is valid when it is the first one over a proposal that keeps a
reserve, and the account is not under dispute. -/
theorem validateSettlementDispute_iff {d : SettlementDispute}
    (h : DisputeEvidence a p d proposed env finalized) (proposable : Proposable L a)
    (consumer : isBlank a.consumerFundingAccount = false) (stands : Proposed L a p proposed)
    (filled : p.Filled) (session : p.sessionId = a.sessionId)
    (mode : p.settlementMode = .partialUndisputed) (fits : p.ModeFits)
    (fresh : ∀ other ∈ L.settlementDisputes.values, other.disputeId ≠ d.disputeId) :
    validateSettlementDispute env finalized L = .ok e ↔
      e = d ∧ a.activeDisputeReserve = 0 ∧ a.fundingState ≠ .disputeReserved ∧
        L.settlementDisputes.get? p.settlementId = none := by
  obtain ⟨members, hvalue, hcarries⟩ := stands.operation
  obtain ⟨r, hdependency, -, hmodel⟩ := hcarries.dependency h.names
  have hrecorded := hmodel (modelValidate_dump hvalue filled.sequence)
  have hdict := requireDict_of_get h.dispute
  have hvalid := SettlementDispute.modelValidate_dump (d := d) rfl h.filled
  obtain ⟨wallet, hmem, hwallet⟩ := h.claimant
  have hclaims : (wallet == a.consumerFundingAccount || wallet == a.endpointPaymentBeneficiary) =
      true := by
    simpa using hmem
  have hnamed : isBlank wallet = false := by
    rcases mem_pair.mp hmem with rfl | rfl
    · exact consumer
    · exact proposable.endpoint
  have htexts : ∀ key ∈ ["session_id", "settlement_id", "settlement_input_root",
      "proposal_operation_id", "claimant_wallet"], env.payload.hasText key = true := by
    simp only [forall_mem_cons, not_mem_nil, IsEmpty.forall_iff, implies_true, and_true]
    exact ⟨hasText_of_get h.session (session ▸ proposable.session),
      hasText_of_get h.settlement filled.settlement, hasText_of_get h.inputs filled.inputs,
      hasText_of_get h.operation hcarries.named, hasText_of_get hwallet hnamed⟩
  have hunused : (L.settlementDisputes.values.any (·.disputeId == d.disputeId)) = false := by
    rw [any_eq_false]
    intro other hother
    simpa using fresh other hother
  have hcontains : L.settlementDisputes.contains p.settlementId = false ↔
      L.settlementDisputes.get? p.settlementId = none := by
    rw [← Dict.not_contains, Bool.not_eq_true']
  rw [SessionSettlementProposal.ModeFits, if_pos mode] at fits
  obtain ⟨hdisputed, hreserve, hamount⟩ := fits
  have hreferenced : ∀ complaint, requireReferenced env.evidenceReferences complaint
      [proposed.operationId, p.settlementInputRoot, d.disputeId, d.disputeHash, d.evidenceRoot] =
        .ok () := fun _ => requireReferenced_eq_ok.mpr h.references
  simp only [validateSettlementDispute, requireFunding, requireProposal, h.operationType, h.origin,
    h.hasSessionFeePayer proposable.consumer, hdict, hvalid, h.feePayer, text_of_get h.session,
    text_of_get h.settlement, text_of_get h.inputs, text_of_get h.operation, text_of_get hwallet,
    checks_eq_ok, exists_and_left, exists_const, Except.ok.injEq, exists_eq_left', beq_self_eq_true,
    true_and]
  rw [and_iff_right htexts]
  simp only [h.sameSettlement, h.sameSession, stands.proposal, stands.account, hclaims, mode,
    h.amount, hamount, hreserve, hdependency, hrecorded, hreferenced, hunused,
    proposable.unsettled, hcontains, Option.some.injEq, Except.ok.injEq, exists_eq_left',
    exists_const, beq_self_eq_true, Bool.and_self, Bool.false_or, Bool.not_false, decide_true,
    true_and, beq_iff_eq, Bool.not_eq_true', beq_eq_false_iff_ne]
  constructor
  · rintro ⟨hactive, hstate, hnew, rfl⟩
    exact ⟨rfl, hactive, hstate, hnew⟩
  · rintro ⟨rfl, hactive, hstate, hnew⟩
    exact ⟨hactive, hstate, hnew, rfl⟩

/-- A finalization with correct evidence is valid when the settlement is not paid out yet, keeps no
reserve, and its transition pays what the proposal adds to the account. -/
theorem validateSettlementFinalize_iff
    (h : PayoutEvidence "SESSION_SETTLEMENT_FINALIZE" a p x t proposed accepted env finalized)
    (proposable : Proposable L a) (stands : Proposed L a p proposed)
    (agreed : Accepted L p x accepted) (filled : p.Filled) (acceptance : x.Filled) :
    validateSettlementFinalize env finalized L = .ok d ↔
      d = ⟨t, p, a⟩ ∧ p.disputeReserve = 0 ∧
        L.settlementTransitionHashes.get? p.settlementId = none ∧
        requirePriorAmounts "Settlement finalization" t a = .ok () ∧
        requireProposedCredits "Settlement finalization" t p a = .ok () := by
  obtain ⟨members, hvalue, hcarries⟩ := stands.operation
  obtain ⟨r, hdependency, hmembers, -⟩ := hcarries.dependency h.names.1
  have hproposal := modelValidate_dump hvalue filled.sequence
  obtain ⟨members', hvalue', hcarries'⟩ := agreed.operation
  obtain ⟨r', hdependency', hmembers', -⟩ := hcarries'.dependency h.names.2
  have hacceptance := SessionSettlementAcceptance.modelValidate_dump hvalue' acceptance
  have hdict := requireDict_of_get h.transition
  have hvalid := AtomicSettlementTransition.modelValidate_dump (t := t) rfl
  have htexts : ∀ key ∈ ["proposal_operation_id", "acceptance_operation_id", "acceptance_hash"],
      env.payload.hasText key = true := by
    simp only [forall_mem_cons, not_mem_nil, IsEmpty.forall_iff, implies_true, and_true]
    exact ⟨hasText_of_get h.proposal hcarries.named, hasText_of_get h.acceptance hcarries'.named,
      hasText_of_get h.acceptanceHash (isBlank_canonicalHash _)⟩
  have hreferences := h.references
  simp only [forall_mem_cons, not_mem_nil, IsEmpty.forall_iff, implies_true,
    and_true] at hreferences
  simp only [← contains_iff_mem] at hreferences
  obtain ⟨hproposed, haccepted, hinputs, hsettlement⟩ := hreferences
  simp only [validateSettlementFinalize, requireFunding, requireProposal, h.operationType, h.origin,
    h.hasSessionFeePayer proposable.consumer, hdict, hvalid, h.feePayer, h.session, h.inputs,
    text_of_get h.proposal, text_of_get h.acceptance, text_of_get h.acceptanceHash, checks_eq_ok,
    orRaise_eq_ok, exists_and_left, exists_const, Except.ok.injEq, exists_eq_left',
    beq_self_eq_true, true_and]
  rw [and_iff_right htexts]
  simp only [h.sameSettlement, h.sameSession, stands.proposal, stands.account,
    agreed.acceptance, hdependency, hdependency', hmembers, hmembers', hproposal, hacceptance,
    hproposed, haccepted, hinputs, hsettlement, proposable.unsettled, Option.some.injEq,
    Except.ok.injEq, exists_eq_left', beq_self_eq_true, Bool.and_self, Bool.not_false, true_and,
    beq_iff_eq, Option.isNone_iff_eq_none]
  constructor
  · rintro ⟨hreserve, hunpaid, u, hprior, v, hcredits, rfl⟩
    exact ⟨rfl, hreserve, hunpaid, hprior, hcredits⟩
  · rintro ⟨rfl, hreserve, hunpaid, hprior, hcredits⟩
    exact ⟨hreserve, hunpaid, (), hprior, (), hcredits, rfl⟩

/-- A partial finalization with correct evidence is valid when the settlement is not paid out yet,
the account is not under dispute, and the transition pays what the proposal adds to it. -/
theorem validateSettlementPartialFinalize_iff {disputed : Envelope}
    (h : PartialEvidence a p x e t proposed accepted disputed env finalized)
    (proposable : Proposable L a) (stands : Proposed L a p proposed)
    (agreed : Accepted L p x accepted) (contested : Disputed L p e disputed) (filled : p.Filled)
    (acceptance : x.Filled) (dispute : e.Filled) (amount : e.disputedAmount = p.disputeReserve)
    (session : p.sessionId = a.sessionId) (mode : p.settlementMode = .partialUndisputed)
    (fits : p.ModeFits) :
    validateSettlementPartialFinalize env finalized L = .ok d ↔
      d = ⟨t, p, a⟩ ∧ a.fundingState ≠ .disputeReserved ∧
        L.settlementTransitionHashes.get? p.settlementId = none ∧
        requirePriorAmounts "Settlement partial-finalize" t a = .ok () ∧
        requireProposedCredits "Settlement partial-finalize" t p a = .ok () := by
  obtain ⟨members, hvalue, hcarries⟩ := stands.operation
  obtain ⟨r, hdependency, -, hmodel⟩ := hcarries.dependency h.names.1
  have hproposal := hmodel (modelValidate_dump hvalue filled.sequence)
  obtain ⟨members', hvalue', hcarries'⟩ := agreed.operation
  obtain ⟨r', hdependency', -, hmodel'⟩ := hcarries'.dependency h.names.2
  have hacceptance := hmodel' (SessionSettlementAcceptance.modelValidate_dump hvalue' acceptance)
  obtain ⟨members'', hvalue'', hcarries''⟩ := contested.operation
  obtain ⟨r'', hdependency'', -, hmodel''⟩ := hcarries''.dependency h.namesDispute
  have hdispute := hmodel'' (SettlementDispute.modelValidate_dump hvalue'' dispute)
  have hdict := requireDict_of_get h.transition
  have hvalid := AtomicSettlementTransition.modelValidate_dump (t := t) rfl
  have htexts : ∀ key ∈ ["session_id", "settlement_input_root", "proposal_operation_id",
      "acceptance_operation_id", "dispute_operation_id", "acceptance_hash", "dispute_hash"],
      env.payload.hasText key = true := by
    simp only [forall_mem_cons, not_mem_nil, IsEmpty.forall_iff, implies_true, and_true]
    exact ⟨hasText_of_get h.session (session ▸ proposable.session),
      hasText_of_get h.inputs filled.inputs, hasText_of_get h.proposal hcarries.named,
      hasText_of_get h.acceptance hcarries'.named, hasText_of_get h.dispute hcarries''.named,
      hasText_of_get h.acceptanceHash (isBlank_canonicalHash _),
      hasText_of_get h.disputeHash (isBlank_canonicalHash _)⟩
  have hreferenced : ∀ complaint, requireReferenced env.evidenceReferences complaint
      [proposed.operationId, accepted.operationId, disputed.operationId, p.settlementInputRoot,
        p.settlementId, x.acceptanceHash, e.disputeHash, e.evidenceRoot] = .ok () := by
    intro complaint
    have hfirst := h.references
    have hsecond := h.disputeReferences
    rw [requireReferenced_eq_ok]
    simp only [forall_mem_cons, not_mem_nil, IsEmpty.forall_iff, implies_true,
      and_true] at hfirst hsecond ⊢
    exact ⟨hfirst.1, hfirst.2.1, hsecond.1, hfirst.2.2.1, hfirst.2.2.2, hsecond.2⟩
  rw [SessionSettlementProposal.ModeFits, if_pos mode] at fits
  obtain ⟨-, hreserve, hamount⟩ := fits
  simp only [validateSettlementPartialFinalize, requireFunding, requireProposal, h.operationType,
    h.origin, h.hasSessionFeePayer proposable.consumer, hdict, hvalid, h.feePayer,
    text_of_get h.session, text_of_get h.inputs, text_of_get h.proposal, text_of_get h.acceptance,
    text_of_get h.dispute, text_of_get h.acceptanceHash, text_of_get h.disputeHash, checks_eq_ok,
    exists_and_left, exists_const, Except.ok.injEq, exists_eq_left', beq_self_eq_true, true_and]
  rw [and_iff_right htexts]
  simp only [h.sameSettlement, h.sameSession, stands.proposal, stands.account,
    agreed.acceptance, contested.dispute, hdependency, hdependency', hdependency'', hproposal,
    hacceptance, hdispute, hreferenced, mode, amount, hamount, hreserve, proposable.unsettled,
    Option.some.injEq, Except.ok.injEq, exists_eq_left', exists_const, beq_self_eq_true,
    Bool.and_self, Bool.false_or, decide_true, true_and, beq_iff_eq, Option.isNone_iff_eq_none,
    Bool.not_eq_true', beq_eq_false_iff_ne]
  constructor
  · rintro ⟨hstate, hunpaid, u, hprior, v, hcredits, rfl⟩
    exact ⟨rfl, hstate, hunpaid, hprior, hcredits⟩
  · rintro ⟨rfl, hstate, hunpaid, hprior, hcredits⟩
    exact ⟨hstate, hunpaid, (), hprior, (), hcredits, rfl⟩

end AidnSpec.Ledger
