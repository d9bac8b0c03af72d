import AidnSpec.Settlement.Evaluation

/-!
# Admitting what the engine evaluates

An evaluation of a reachable account, sent to the ledger with correct evidence, is settled to the
end exactly when it is admissible. Every settlement has correct evidence, and an endpoint that is
owed on credit is never paid by it.
-/

namespace AidnSpec.Settlement

open Base Ledger

/-! ## Evaluations that the ledger settles -/

/-- The credits of an evaluation's transition, in the order they are made. -/
def SettlementEvaluation.credits (e : SettlementEvaluation) : List SessionCredit :=
  [⟨e.transition.sessionId, .endpoint, e.transition.endpointPaymentBeneficiary,
      e.transition.creditEndpoint⟩, ⟨e.transition.sessionId, .consumer,
      e.transition.consumerRefundBeneficiary, e.transition.creditConsumer⟩]

/-- What is left of the payment reserve covers the disputed charges of the requests. -/
def Covered (a : SessionFundingAccount) (evidence : SessionEvidence) : Prop :=
  ∀ records, evaluateInputs a evidence = .ok records →
    requestedDispute a records ≤ availableDisputeReserve a records evidence.maximumSessionCharge

section Admission

variable [Runtime] [LedgerRules] {L : LedgerState} {a : SessionFundingAccount}
  {evidence : SessionEvidence} {e : SettlementEvaluation} {s : SettlementScript}

/-- An evaluation in the default mode whose disputes are covered, with correct evidence and
origin, is proposed, accepted and paid out with exactly the credits of its transition if and only
if it is admissible. -/
theorem evaluation_settles_iff (reachable : Reachable L) (proposable : Proposable L a)
    (mode : evidence.settlementMode = none) (evaluated : evaluateSession a evidence = .ok e)
    (covered : Covered a evidence) (correct : s.Correct L a e.proposal e.transition) :
    Settles L (s.operations e.proposal) e.credits ↔ Admissible L a e := by
  obtain ⟨records, hrecords, h⟩ := evaluateSession_spec evaluated
  rw [← h.settleable_iff mode (covered records hrecords)]
  exact settles_iff reachable proposable h.proposal.session h.proposal.filled correct

end Admission

/-! ## Correct evidence -/

section Scripts

variable (a : SessionFundingAccount) (p : SessionSettlementProposal)
  (t : AtomicSettlementTransition)

def jointEnvelope (operationType : String) (payload : Fields) (references : List String)
    (operationId : String) : Envelope where
  operationType := operationType
  originType := .multiParty
  feePayer := some a.consumerFundingAccount
  feeClass := .session
  createdAt := "2026-01-01T00:00:00Z"
  payload := payload
  evidenceReferences := references
  operationId := operationId

def acceptanceOf : SessionSettlementAcceptance where
  settlementId := p.settlementId
  sessionId := p.sessionId
  settlementInputRoot := p.settlementInputRoot
  acceptedEndpointPayment := p.finalEndpointPayment
  acceptedConsumerRefund := p.consumerPaymentRefund + p.consumerFeeRefund
  acceptedNetworkFees := p.actualNetworkFees
  consumerSignature := "consumer-signature"
  acceptedAt := "2026-01-01T00:00:00Z"

def disputeOf : SettlementDispute where
  disputeId := "dispute-1"
  settlementId := p.settlementId
  sessionId := p.sessionId
  disputedRequestIds := []
  disputedUsageReportIds := []
  disputedCheckpointIds := []
  disputeClass := "USAGE"
  claimedEndpointPayment := p.disputeReserve
  acceptedEndpointPayment := 0
  disputedAmount := p.disputeReserve
  evidenceRoot := "dispute-root"
  openedAt := "2026-01-01T00:00:00Z"
  claimantSignature := "consumer-signature"

/-- The identities of the operations of a settlement, and of the lock before them. -/
structure ScriptIds where
  lock : String
  propose : String
  accept : String
  dispute : String
  finalize : String

variable (ids : ScriptIds)

def proposeOf : Envelope :=
  jointEnvelope a "SESSION_SETTLEMENT_PROPOSE"
    [("session_id", .str p.sessionId), ("proposal", p.toValue), ("funding_predecessor_operation_id",
      .str ids.lock), ("funding_state_reference", .str a.fundingStateHash),
      ("endpoint_payment_beneficiary", .str a.endpointPaymentBeneficiary),
      ("consumer_refund_beneficiary", .str a.consumerRefundBeneficiary)]
    [ids.lock, p.settlementInputRoot] ids.propose

def acceptOf : Envelope :=
  jointEnvelope a "SESSION_SETTLEMENT_ACCEPT"
    [("acceptance", (acceptanceOf p).toValue), ("proposal_operation_id", .str ids.propose),
      ("consumer_wallet", .str a.consumerFundingAccount)]
    [ids.propose, p.settlementInputRoot] ids.accept

def contestOf : Envelope :=
  jointEnvelope a "SESSION_SETTLEMENT_DISPUTE"
    [("session_id", .str p.sessionId), ("settlement_id", .str p.settlementId),
      ("settlement_input_root", .str p.settlementInputRoot),
      ("proposal_operation_id", .str ids.propose),
      ("claimant_wallet", .str a.consumerFundingAccount), ("dispute", (disputeOf p).toValue)]
    [ids.propose, p.settlementInputRoot, (disputeOf p).disputeId, (disputeOf p).disputeHash,
      (disputeOf p).evidenceRoot] ids.dispute

def payoutOf : Envelope :=
  jointEnvelope a
    (if p.disputeReserve = 0 then "SESSION_SETTLEMENT_FINALIZE"
      else "SESSION_SETTLEMENT_PARTIAL_FINALIZE")
    [("session_id", .str p.sessionId), ("settlement_input_root", .str p.settlementInputRoot),
      ("proposal_operation_id", .str ids.propose), ("acceptance_operation_id", .str ids.accept),
      ("dispute_operation_id", .str ids.dispute),
      ("acceptance_hash", .str (acceptanceOf p).acceptanceHash),
      ("dispute_hash", .str (disputeOf p).disputeHash), ("transition", t.toValue)]
    [ids.propose, ids.accept, ids.dispute, p.settlementInputRoot, p.settlementId,
      (acceptanceOf p).acceptanceHash, (disputeOf p).disputeHash, (disputeOf p).evidenceRoot]
    ids.finalize

/-- A settlement whose operations say what the ledger asks for. -/
def scriptOf : SettlementScript where
  propose := ⟨proposeOf a p ids, none⟩
  accept := ⟨acceptOf a p ids, none⟩
  dispute := ⟨contestOf a p ids, none⟩
  finalize := ⟨payoutOf a p t ids, none⟩
  acceptance := acceptanceOf p
  contested := disputeOf p

variable {a p t ids}

/-- The identities of a script can be given to its operations. -/
structure ScriptIds.Fresh (ids : ScriptIds) (L : LedgerState) : Prop where
  named : ∀ operationId ∈ [ids.lock, ids.propose, ids.accept, ids.dispute, ids.finalize],
    isBlank operationId = false
  fresh : ∀ operationId ∈ [ids.propose, ids.accept, ids.dispute, ids.finalize],
    L.finalizedOperationRegistry.get? operationId = none
  distinct : [ids.propose, ids.accept, ids.dispute, ids.finalize].Nodup

theorem isEmpty_of_isBlank {text : String} (h : isBlank text = false) : text.isEmpty = false := by
  rw [String.isEmpty_eq_false_iff]
  rintro rfl
  cases h

theorem joint_jointEnvelope {operationType operationId : String} {payload : Fields}
    {references : List String} (named : isBlank operationId = false) :
    Joint a operationType (jointEnvelope a operationType payload references operationId) :=
  ⟨rfl, rfl, rfl, rfl, rfl, named⟩

theorem names_none {env : Envelope} : Names none env := fun _ h => by cases h

theorem acceptanceOf_filled (filled : p.Filled) (session : isBlank p.sessionId = false) :
    (acceptanceOf p).Filled where
  settlement := isEmpty_of_isBlank filled.settlement
  session := isEmpty_of_isBlank session
  root := isEmpty_of_isBlank filled.inputs
  signature := rfl
  time := rfl

theorem disputeOf_filled (filled : p.Filled) (session : isBlank p.sessionId = false)
    (kept : p.disputeReserve ≠ 0) : (disputeOf p).Filled where
  dispute := rfl
  settlement := isEmpty_of_isBlank filled.settlement
  session := isEmpty_of_isBlank session
  disputeClass := rfl
  root := rfl
  time := rfl
  signature := rfl
  positive := Nat.one_le_iff_ne_zero.mpr kept
  within := by simp [disputeOf]

section Evidence

variable {L : LedgerState}

theorem proposeOf_evidence [Runtime] (h : ids.Fresh L)
    (predecessor : requireFundingPredecessor L ids.lock a none [ids.lock, p.settlementInputRoot]
      "Settlement proposal funding predecessor is not finalized" = .ok ())
    (ready : L.settlementReadyCommits.get? p.sessionId = none) :
    ProposeEvidence L a p (proposeOf a p ids) none where
  toJoint := joint_jointEnvelope (h.named _ (by simp))
  proposal := rfl
  session := rfl
  fundingState := rfl
  endpoint := rfl
  refund := rfl
  inputs := by simp [proposeOf, jointEnvelope]
  predecessor := by
    have hlock := h.named ids.lock (by simp)
    refine ⟨ids.lock, ?_, predecessor⟩
    rw [proposalPredecessor, Fields.hasText_of_get rfl hlock]
    rfl
  readiness := by
    rw [requireReadiness, ready]
    rfl

theorem acceptOf_evidence (h : ids.Fresh L) (filled : p.Filled)
    (session : isBlank p.sessionId = false) :
    AcceptEvidence a p (acceptanceOf p) (proposeOf a p ids) (acceptOf a p ids) none where
  toJoint := joint_jointEnvelope (h.named _ (by simp))
  accepts := ⟨rfl, rfl, rfl, rfl, rfl, rfl⟩
  filled := acceptanceOf_filled filled session
  acceptance := rfl
  operation := rfl
  wallet := rfl
  references := by simp [acceptOf, proposeOf, jointEnvelope]
  names := names_none

theorem contestOf_evidence (h : ids.Fresh L) (filled : p.Filled)
    (session : isBlank p.sessionId = false) (kept : p.disputeReserve ≠ 0) :
    DisputeEvidence a p (disputeOf p) (proposeOf a p ids) (contestOf a p ids) none where
  toJoint := joint_jointEnvelope (h.named _ (by simp))
  filled := disputeOf_filled filled session kept
  sameSettlement := rfl
  sameSession := rfl
  amount := rfl
  dispute := rfl
  session := rfl
  settlement := rfl
  inputs := rfl
  operation := rfl
  claimant := ⟨a.consumerFundingAccount, List.mem_cons_self .., rfl⟩
  references := by simp [contestOf, proposeOf, jointEnvelope]
  names := names_none

theorem payoutOf_evidence {operationType : String} (h : ids.Fresh L)
    (settlementId : t.settlementId = p.settlementId) (sessionId : t.sessionId = p.sessionId)
    (typed : (payoutOf a p t ids).operationType = operationType) :
    PayoutEvidence operationType a p (acceptanceOf p) t (proposeOf a p ids) (acceptOf a p ids)
      (payoutOf a p t ids) none where
  toJoint := typed ▸ joint_jointEnvelope (h.named _ (by simp))
  sameSettlement := settlementId
  sameSession := sessionId
  transition := rfl
  session := rfl
  inputs := rfl
  proposal := rfl
  acceptance := rfl
  acceptanceHash := rfl
  references := by simp [payoutOf, acceptOf, proposeOf, jointEnvelope]
  names := ⟨names_none, names_none⟩

/-- Every settlement of an account that an operation funded has correct evidence. -/
theorem scriptOf_correct [Runtime] (h : ids.Fresh L) (filled : p.Filled)
    (session : p.sessionId = a.sessionId) (named : isBlank a.sessionId = false)
    (settlementId : t.settlementId = p.settlementId) (sessionId : t.sessionId = p.sessionId)
    (predecessor : requireFundingPredecessor L ids.lock a none [ids.lock, p.settlementInputRoot]
      "Settlement proposal funding predecessor is not finalized" = .ok ())
    (ready : L.settlementReadyCommits.get? p.sessionId = none)
    (undisputed : ∀ other ∈ L.settlementDisputes.values, other.disputeId ≠ "dispute-1") :
    (scriptOf a p t ids).Correct L a p t := by
  have hsession : isBlank p.sessionId = false := session ▸ named
  have hids : ((scriptOf a p t ids).operationIds p).Sublist
      [ids.propose, ids.accept, ids.dispute, ids.finalize] := by
    rw [SettlementScript.operationIds, SettlementScript.payoutIds]
    apply List.Sublist.cons_cons
    apply List.Sublist.cons_cons
    split
    · exact List.sublist_cons_self _ _
    · exact List.Sublist.refl _
  constructor
  · exact proposeOf_evidence h predecessor ready
  · exact acceptOf_evidence h filled hsession
  · intro hwhole
    exact payoutOf_evidence h settlementId sessionId (if_pos hwhole)
  · intro hkept
    refine ⟨contestOf_evidence h filled hsession hkept, ?_, undisputed⟩
    refine ⟨payoutOf_evidence h settlementId sessionId (if_neg hkept), rfl, rfl, ?_, names_none⟩
    simp [scriptOf, payoutOf, contestOf, jointEnvelope]
  · exact fun operationId hmem => h.fresh operationId (hids.subset hmem)
  · exact h.distinct.sublist hids

end Evidence

end Scripts

/-! ## A postpaid session -/

/-- The account of a session on credit: five Q atoms are the limit, and none is locked. -/
def onCredit : SessionFundingAccount where
  sessionId := "session-1"
  sessionContractHash := some "contract-1"
  fundingClass := .trustedPostpaid
  consumerFundingAccount := "consumer"
  endpointPaymentBeneficiary := "endpoint"
  consumerRefundBeneficiary := "consumer"
  totalLockedAmount := 0
  endpointPaymentReserve := 0
  networkFeeReserve := 0
  postpaidCreditLimit := 5
  activeDisputeReserve := 0
  releasedToEndpoint := 0
  consumerPaymentRefund := 0
  consumedNetworkFees := 0
  consumerFeeRefund := 0
  unsettledPaymentReserve := 0
  unsettledFeeReserve := 0
  fundingState := .locked
  nonneg := by constructor <;> simp
  total_eq := rfl
  payment_eq := rfl
  fee_eq := rfl

/-- Accounting terms that charge three Q atoms for a request. -/
def threeAtoms : SettlementAccountingTerms where
  accountingContractHash := "accounting-1"
  components := [{ componentId := "fixed", fixedAmount := some 3 }]

def completedRequest : RequestSettlementInput where
  sessionId := "session-1"
  requestId := "request-1"
  requestChargeCeiling := 4
  accountingContractHash := "accounting-1"
  terminalState := .completed

def oneRequest (maximum : Int) : SessionEvidence where
  sessionContractHash := "contract-1"
  effectiveTermsHash := "terms-1"
  requestInputs := [completedRequest]
  termsByHash := Dict.empty.set "accounting-1" threeAtoms
  maximumSessionCharge := maximum
  actualNetworkFees := 0
  sessionCloseReference := "close-1"

/-- An operation that locked an account precedes the proposals for its session. -/
theorem requireFundingPredecessor_of_recorded {L : LedgerState} {a : SessionFundingAccount}
    {env : Envelope} {root complaint : String} (h : Recorded L env)
    (operationType : env.operationType = "SESSION_ESCROW_LOCK") (payload : env.payload = a.dump) :
    requireFundingPredecessor L env.operationId a none [env.operationId, root] complaint =
      .ok () := by
  obtain ⟨r, hr, htype, hpayload⟩ := h.known
  rw [operationType] at htype
  rw [payload] at hpayload
  have hoperation : requireFinalizedOperation L env.operationId none complaint = .ok r := by
    simp only [requireFinalizedOperation, h.registered, hr, checks_eq_ok, exists_const, and_self]
  have hsession : PyValue.get a.dump "session_id" = .str a.sessionId := rfl
  have hhash : PyValue.get a.dump "funding_state_hash" = .str a.fundingStateHash := by
    simp [FundingFields.dump, FundingFields.members, PyValue.get, List.lookup_cons]
  simp only [requireFundingPredecessor, hoperation, htype, hpayload, hsession, hhash, checks_eq_ok,
    exists_unit, Except.ok.injEq, exists_eq_left', if_true, decide_true, List.contains_iff_mem,
    List.mem_cons, true_or, and_true]

def creditId : String := "393b0fa258adf8f5c3285055b1292a2287612a0ae4eeff3e3ed2f52219702f64"

def creditEnvelope : Envelope :=
  { lockEnvelope .trustedPostpaid creditId with payload := onCredit.dump }

def creditLedger : LedgerState :=
  { hundredAtoms.admitted creditEnvelope ["SessionEscrowLocked"] (some 2) with
    sessionLocks := [⟨"session-1", 0⟩]
    sessionFundingAccounts := Dict.empty.set "session-1" onCredit }

theorem apply_creditEnvelope [Runtime] [LedgerRules] :
    (ConsensusOp.sessionEscrowLock creditEnvelope).apply hundredAtoms =
      .ok (admittedRecord hundredAtoms creditEnvelope ["SessionEscrowLocked"] (some 2))
        creditLedger := by
  have hnamed : onCredit.Named := by constructor <;> simp [onCredit]
  have hvalid : validateSessionEscrowLock creditEnvelope hundredAtoms = .ok onCredit :=
    validateSessionEscrowLock_dump hnamed ⟨rfl, rfl, rfl, rfl, rfl, rfl⟩ rfl rfl rfl rfl rfl rfl
      rfl fun hprepaid => by cases hprepaid
  have hadmits : Admits hundredAtoms creditEnvelope (some 2) := by decide
  exact applyConsensus_eq_ok.mpr ⟨onCredit, _, hvalid, hadmits.admitEnvelope _, rfl⟩

def creditIds : ScriptIds where
  lock := creditId
  propose := "f20429ba7c62eee31bff8b62e2ebf4315b4e3af6fb10bd6d426a5f2af941062c"
  accept := "fd030e70a2457e79ad2b3ea66e4b48825de885c00f80a9148f55d847e366c19b"
  dispute := "a87de304696c0b73122b7182de8ec6917350b4b472c64018f781f63ae246b928"
  finalize := "f7c13dfae96d3e060980871c7e3826332e98b42b9e3b43e6fbd4acc279c8f3f5"

def prepaidIds : ScriptIds where
  lock := prepaidId
  propose := "e70c69278c070fbe7be6802c9152045557e7f9a0fc7818180f402b17f91e5129"
  accept := "de8c756d2e2b8562285b8c2ebac4110fd3d28a2f914bcfa181158a20db4047d5"
  dispute := "9238f4707828f1efd64b6b6c8ab239241acd1b254b1cd8198afc3b54ef230a99"
  finalize := "b871be473318acc559ac27f6c1de7c7c0de33c9b0f4de6b244cb0431b75437d5"

/-- An evaluation of an account that an operation locked has correct evidence. -/
theorem Evaluates.correct [Runtime] {L : LedgerState} {a : SessionFundingAccount}
    {evidence : SessionEvidence} {records : List RequestSettlementRecord}
    {e : SettlementEvaluation} {env : Envelope} {ids : ScriptIds}
    (h : Evaluates a evidence records e) (recorded : Recorded L env)
    (operationType : env.operationType = "SESSION_ESCROW_LOCK") (payload : env.payload = a.dump)
    (lock : ids.lock = env.operationId) (fresh : ids.Fresh L) (named : isBlank a.sessionId = false)
    (ready : L.settlementReadyCommits.get? a.sessionId = none)
    (undisputed : L.settlementDisputes.values = []) :
    (scriptOf a e.proposal e.transition ids).Correct L a e.proposal e.transition := by
  apply scriptOf_correct fresh h.proposal.filled h.proposal.session named h.transition.settlement
    (h.transition.session.trans h.proposal.session.symm)
  · rw [lock]
    exact requireFundingPredecessor_of_recorded recorded operationType payload
  · rw [h.proposal.session]
    exact ready
  · rw [undisputed]
    exact fun other hother => by cases hother

/-- The evaluation of three Q atoms on credit keeps nothing and has correct evidence, and the
ledger refuses to settle it. -/
theorem credit_evaluation_refused :
    letI := sampleRuntime
    letI := noRules
    ∃ L a evidence e, ∃ s : SettlementScript, Reachable L ∧ Proposable L a ∧
      evidence.settlementMode = none ∧ evaluateSession a evidence = .ok e ∧
      Covered a evidence ∧ s.Correct L a e.proposal e.transition ∧
      ¬ Settles L (s.operations e.proposal) e.credits := by
  let _ := sampleRuntime
  let _ := noRules
  have hreachable : Reachable creditLedger :=
    ⟨Dict.empty.set "consumer" 100, none, [.sessionEscrowLock creditEnvelope],
      (ConsensusOp.after_of_ok apply_creditEnvelope).symm⟩
  have hproposable : Proposable creditLedger onCredit :=
    ⟨rfl, rfl, by decide, by decide, by decide, by decide⟩
  have hcovered : Covered onCredit (oneRequest 5) := by
    intro records hrecords
    obtain rfl := Except.ok.inj hrecords
    decide
  obtain ⟨e, hevaluated, hrefused⟩ : ∃ e, evaluateSession onCredit (oneRequest 5) = .ok e ∧
      requireProposedAmounts e.proposal onCredit =
        raiseValue "Settlement charge exceeds Endpoint Payment reserve" := ⟨_, rfl, rfl⟩
  obtain ⟨records, -, h⟩ := evaluateSession_spec hevaluated
  have hrecorded : Recorded creditLedger creditEnvelope := Logged.recorded ⟨_, _, rfl⟩
  have hids : creditIds.Fresh creditLedger := ⟨by decide, by decide, by decide⟩
  have hcorrect := h.correct hrecorded rfl rfl rfl hids (by decide) rfl rfl
  refine ⟨creditLedger, onCredit, oneRequest 5, e, _, hreachable, hproposable, rfl, hevaluated,
    hcovered, hcorrect, ?_⟩
  intro hsettles
  have hamounts := ((settles_iff hreachable hproposable h.proposal.session h.proposal.filled
    hcorrect).mp hsettles).amounts
  rw [hrefused] at hamounts
  cases hamounts

/-- The evaluation of three Q atoms of a prepaid session is settled: they go to the endpoint, and
the consumer gets seven back. -/
theorem prepaid_evaluation_settles :
    letI := sampleRuntime
    letI := noRules
    ∃ L a evidence e, ∃ s : SettlementScript, Reachable L ∧ evaluateSession a evidence = .ok e ∧
      e.credits = [⟨"session-1", .endpoint, "endpoint", 3⟩,
        ⟨"session-1", .consumer, "consumer", 7⟩] ∧
      s.Correct L a e.proposal e.transition ∧ Settles L (s.operations e.proposal) e.credits := by
  let _ := sampleRuntime
  let _ := noRules
  have hreachable : Reachable (lockedLedger .escrowPrepaid prepaidId) :=
    ⟨Dict.empty.set "consumer" 100, none, [lockOp .escrowPrepaid prepaidId],
      (ConsensusOp.after_of_ok (apply_lockOp .escrowPrepaid (by decide))).symm⟩
  have hproposable : Proposable (lockedLedger .escrowPrepaid prepaidId) (tenAtoms .escrowPrepaid) :=
    ⟨rfl, rfl, by decide, by decide, by decide, by decide⟩
  have hcovered : Covered (tenAtoms .escrowPrepaid) (oneRequest 5) := by
    intro records hrecords
    obtain rfl := Except.ok.inj hrecords
    decide
  obtain ⟨e, hevaluated, hcredits, hkept⟩ :
      ∃ e, evaluateSession (tenAtoms .escrowPrepaid) (oneRequest 5) = .ok e ∧
        e.credits = [⟨"session-1", .endpoint, "endpoint", 3⟩,
          ⟨"session-1", .consumer, "consumer", 7⟩] ∧ e.proposal.disputeReserve = 0 :=
    ⟨_, rfl, rfl, rfl⟩
  obtain ⟨records, -, h⟩ := evaluateSession_spec hevaluated
  have hrecorded : Recorded (lockedLedger .escrowPrepaid prepaidId)
      (lockEnvelope .escrowPrepaid prepaidId) := Logged.recorded ⟨_, _, rfl⟩
  have hids : prepaidIds.Fresh (lockedLedger .escrowPrepaid prepaidId) :=
    ⟨by decide, by decide, by decide⟩
  have hcorrect := h.correct hrecorded rfl rfl rfl hids (by decide) rfl rfl
  have hadmissible : Admissible (lockedLedger .escrowPrepaid prepaidId) (tenAtoms .escrowPrepaid)
      e := ⟨rfl, rfl, rfl, by decide, (fun hpostpaid => by cases hpostpaid),
        fun hreserve => absurd hkept hreserve⟩
  exact ⟨_, _, _, e, _, hreachable, hevaluated, hcredits, hcorrect, (evaluation_settles_iff
    hreachable hproposable rfl hevaluated hcovered hcorrect).mpr hadmissible⟩

end AidnSpec.Settlement
