import AidnSpec.Ledger.SettlementScripts

/-!
# Running a settlement

The operations of a settlement one after another, from the proposal to the payout. With correct
evidence the whole run is admitted and pays the credits of its transition if and only if the first
state and the amounts allow it.
-/

namespace AidnSpec.Ledger

open Base

variable [Runtime]

/-! ## Running a settlement -/

/-- An envelope, and the identities it takes for finalized. -/
structure Submission where
  env : Envelope
  finalized : FinalizedIds

/-- The operations that settle a session, and what two of them carry beside the proposal. -/
structure SettlementScript where
  propose : Submission
  accept : Submission
  dispute : Submission
  finalize : Submission
  acceptance : SessionSettlementAcceptance
  contested : SettlementDispute

namespace SettlementScript

/-- The operations after the acceptance: a proposal that keeps a reserve is disputed and partially
finalized. -/
def payout (s : SettlementScript) (p : SessionSettlementProposal) : List ConsensusOp :=
  if p.disputeReserve = 0 then [.settlementFinalize s.finalize.env s.finalize.finalized]
  else [.settlementDispute s.dispute.env s.dispute.finalized,
    .settlementPartialFinalize s.finalize.env s.finalize.finalized]

def operations (s : SettlementScript) (p : SessionSettlementProposal) : List ConsensusOp :=
  .settlementPropose s.propose.env s.propose.finalized ::
    .settlementAccept s.accept.env s.accept.finalized :: s.payout p

/-- The identities of the operations after the acceptance. -/
def payoutIds (s : SettlementScript) (p : SessionSettlementProposal) : List String :=
  if p.disputeReserve = 0 then [s.finalize.env.operationId]
  else [s.dispute.env.operationId, s.finalize.env.operationId]

def operationIds (s : SettlementScript) (p : SessionSettlementProposal) : List String :=
  s.propose.env.operationId :: s.accept.env.operationId :: s.payoutIds p

/-- Evidence and origin of every operation are correct, and their identities are new. -/
structure Correct (s : SettlementScript) (L : LedgerState) (a : SessionFundingAccount)
    (p : SessionSettlementProposal) (t : AtomicSettlementTransition) : Prop where
  propose : ProposeEvidence L a p s.propose.env s.propose.finalized
  accept : AcceptEvidence a p s.acceptance s.propose.env s.accept.env s.accept.finalized
  finalize : p.disputeReserve = 0 → PayoutEvidence "SESSION_SETTLEMENT_FINALIZE" a p s.acceptance t
    s.propose.env s.accept.env s.finalize.env s.finalize.finalized
  dispute : p.disputeReserve ≠ 0 →
    DisputeEvidence a p s.contested s.propose.env s.dispute.env s.dispute.finalized ∧
    PartialEvidence a p s.acceptance s.contested t s.propose.env s.accept.env s.dispute.env
      s.finalize.env s.finalize.finalized ∧
    ∀ other ∈ L.settlementDisputes.values, other.disputeId ≠ s.contested.disputeId
  fresh : ∀ operationId ∈ s.operationIds p,
    L.finalizedOperationRegistry.get? operationId = none
  distinct : (s.operationIds p).Nodup

end SettlementScript

/-- Every operation of a run returns. -/
def Returns [LedgerRules] : LedgerState → List ConsensusOp → LedgerState → Prop
  | L, [], L' => L' = L
  | L, op :: ops, L' => ∃ record L₁, op.apply L = .ok record L₁ ∧ Returns L₁ ops L'

/-- The operations are admitted one after another, and together they make these credits and no
others. -/
def Settles [LedgerRules] (L : LedgerState) (ops : List ConsensusOp)
    (credits : List SessionCredit) : Prop :=
  ∃ L', Returns L ops L' ∧
    L'.walletQAtomBalances = (L.economy.creditAll credits).balances ∧
    L'.sessionCredits = credits.reverse ++ L.sessionCredits

/-- The state and the amounts allow a settlement: its identity is new, the proposal fits the
account, the transition pays what the proposal adds, and a reserve finds no earlier dispute. -/
structure Settleable (L : LedgerState) (a : SessionFundingAccount) (p : SessionSettlementProposal)
    (t : AtomicSettlementTransition) : Prop where
  mode : p.ModeFits
  unproposed : L.settlementProposals.get? p.settlementId = none
  amounts : requireProposedAmounts p a = .ok ()
  consumer : isBlank a.consumerFundingAccount = false
  unaccepted : L.settlementAcceptances.get? p.settlementId = none
  unpaid : L.settlementTransitionHashes.get? p.settlementId = none
  endpoint : t.endpointPaymentBeneficiary = a.endpointPaymentBeneficiary
  refund : t.consumerRefundBeneficiary = a.consumerRefundBeneficiary
  balanced : Distribution.Balanced ⟨t, p, a⟩
  undisputed : p.disputeReserve ≠ 0 → a.activeDisputeReserve = 0 ∧
    a.fundingState ≠ .disputeReserved ∧ L.settlementDisputes.get? p.settlementId = none

/-! ## The states of a settlement -/

def LedgerState.proposed (L : LedgerState) (env : Envelope) (p : SessionSettlementProposal) :
    LedgerState :=
  { L.admitted env ["SessionSettlementProposed"] none with
    settlementProposals := L.settlementProposals.set p.settlementId p }

def LedgerState.accepted (L : LedgerState) (env : Envelope) (x : SessionSettlementAcceptance) :
    LedgerState :=
  { L.admitted env ["SessionSettlementAccepted"] none with
    settlementAcceptances := L.settlementAcceptances.set x.settlementId x }

def LedgerState.disputed (L : LedgerState) (env : Envelope) (d : SettlementDispute) :
    LedgerState :=
  { L.admitted env ["SessionSettlementDisputed"] none with
    settlementDisputes := L.settlementDisputes.set d.settlementId d }

section Steps

variable {L L' : LedgerState} {a : SessionFundingAccount} {p : SessionSettlementProposal}
  {env : Envelope} {finalized : FinalizedIds}

variable {C : Prop}

omit [Runtime] in
/-- An operation that can be recorded returns when its validation passes and its effect does. -/
theorem applyConsensus_eq_ok_of_admits {α : Type} {validate : LedgerState → Except PyError α}
    {events : α → List String} {effect : α → LedgerM Unit} (hadmits : Admits L env none) {v : α}
    (hvalid : ∀ {w}, validate L = .ok w ↔ w = v ∧ C) :
    (∃ record, applyConsensus validate events env effect L = .ok record L') ↔
      C ∧ effect v (L.admitted env (events v) none) = .ok () L' := by
  constructor
  · rintro ⟨record, h⟩
    obtain ⟨w, L₁, hw, hadmitted, heffect⟩ := applyConsensus_eq_ok.mp h
    obtain ⟨rfl, hC⟩ := hvalid.mp hw
    rw [hadmits.admitEnvelope] at hadmitted
    obtain ⟨-, rfl⟩ := Prod.mk.inj (Except.ok.inj hadmitted)
    exact ⟨hC, heffect⟩
  · rintro ⟨hC, heffect⟩
    exact ⟨_, applyConsensus_eq_ok.mpr
      ⟨v, _, hvalid.mpr ⟨rfl, hC⟩, hadmits.admitEnvelope _, heffect⟩⟩

omit [Runtime] in
theorem modify_eq_ok {f : LedgerState → LedgerState} :
    (modify f : LedgerM Unit) L = .ok () L' ↔ f L = L' := by
  show EStateM.Result.ok () (f L) = .ok () L' ↔ f L = L'
  simp

omit [Runtime] in
/-- Credits change balances alike whatever else the economy holds. -/
theorem Economy.creditAll_balances_congr {E F : Economy} (h : E.balances = F.balances)
    (cs : List SessionCredit) : (E.creditAll cs).balances = (F.creditAll cs).balances := by
  induction cs generalizing E F with
  | nil => exact h
  | cons c cs ih =>
    apply ih
    simp only [Economy.credit, Economy.pay, Economy.balance, h]

/-- A first operation that makes no credit settles when it is admitted and the rest does. -/
theorem settles_cons [LedgerRules] {op : ConsensusOp} {ops : List ConsensusOp} {Q : Prop}
    {L₁ : LedgerState} {credits : List SessionCredit} (reachable : Reachable L)
    (applies : ∀ {L₂}, (∃ record, op.apply L = .ok record L₂) ↔ C ∧ L₁ = L₂)
    (balances : L₁.economy.balances = L.economy.balances)
    (sessionCredits : L₁.sessionCredits = L.sessionCredits)
    (rest : C → Reachable L₁ → (Settles L₁ ops credits ↔ Q)) :
    Settles L (op :: ops) credits ↔ C ∧ Q := by
  have hcredits := Economy.creditAll_balances_congr balances credits
  constructor
  · rintro ⟨L', ⟨record, L₂, happly, hrest⟩, hbalances, hmade⟩
    obtain ⟨hC, rfl⟩ := applies.mp ⟨record, happly⟩
    have hreachable : Reachable L₁ := ConsensusOp.after_of_ok happly ▸ reachable.after op
    rw [← hcredits] at hbalances
    rw [← sessionCredits] at hmade
    exact ⟨hC, (rest hC hreachable).mp ⟨L', hrest, hbalances, hmade⟩⟩
  · rintro ⟨hC, hQ⟩
    obtain ⟨record, happly⟩ := applies.mpr ⟨hC, rfl⟩
    have hreachable : Reachable L₁ := ConsensusOp.after_of_ok happly ▸ reachable.after op
    obtain ⟨L', hrest, hbalances, hmade⟩ := (rest hC hreachable).mpr hQ
    rw [hcredits] at hbalances
    rw [sessionCredits] at hmade
    exact ⟨L', ⟨record, L₁, happly, hrest⟩, hbalances, hmade⟩

omit [Runtime] in
/-- The checks of a payout compare the transition with the account and the proposal. -/
theorem payoutChecks_iff {t : AtomicSettlementTransition} (label : String) :
    (requirePriorAmounts label t a = .ok () ∧ requireProposedCredits label t p a = .ok ()) ↔
      t.endpointPaymentBeneficiary = a.endpointPaymentBeneficiary ∧
        t.consumerRefundBeneficiary = a.consumerRefundBeneficiary ∧
        Distribution.Balanced ⟨t, p, a⟩ := by
  constructor
  · rintro ⟨hprior, hcredits⟩
    have hbalanced : Distribution.Balanced ⟨t, p, a⟩ := Distribution.balanced_of hprior hcredits
    simp only [requirePriorAmounts, checks_eq_ok, exists_unit, Bool.and_eq_true,
      beq_iff_eq] at hprior
    exact ⟨hprior.1.1, hprior.1.2, hbalanced⟩
  · rintro ⟨hendpoint, hrefund, h⟩
    constructor
    · simp only [requirePriorAmounts, checks_eq_ok, exists_unit, Bool.and_eq_true, beq_iff_eq]
      exact ⟨⟨hendpoint, hrefund⟩, h.total, h.priorReleased, h.priorRefunded, h.priorConsumed⟩
    · simp only [requireProposedCredits, checks_eq_ok, exists_unit, beq_iff_eq]
      exact ⟨h.endpoint, h.consumer, h.consumed, h.retained⟩

end Steps

/-! ## What stands after each step -/

section Standing

variable {L : LedgerState} {a : SessionFundingAccount} {p : SessionSettlementProposal}
  {env other : Envelope}

omit [Runtime]

theorem logged_proposed : Logged L env (L.proposed env p) := ⟨_, none, rfl⟩

variable {x : SessionSettlementAcceptance} {d : SettlementDispute} {finalized : FinalizedIds}

theorem logged_accepted : Logged L env (L.accepted env x) :=
  ⟨_, none, rfl⟩

theorem logged_disputed : Logged L env (L.disputed env d) :=
  ⟨_, none, rfl⟩

theorem Carries.next {type key : String} {members : Fields} {L' : LedgerState}
    (h : Carries L other type key members) (logged : Logged L env L')
    (fresh : L.finalizedOperationRegistry.get? env.operationId = none) :
    Carries L' other type key members :=
  ⟨h.recorded.next logged fresh, h.operationType, h.payload, h.named⟩

/-- A recorded proposal stands. -/
theorem ProposeEvidence.stands [Runtime] (h : ProposeEvidence L a p env finalized)
    (proposable : Proposable L a) (session : p.sessionId = a.sessionId) :
    Proposed (L.proposed env p) a p env where
  account := session ▸ proposable.stored
  proposal := Dict.get?_set_self _ _ _
  operation := ⟨_, rfl, logged_proposed.recorded, h.operationType, h.proposal, h.named⟩

/-- A proposal stands after its acceptance. -/
theorem Proposed.accepted (h : Proposed L a p other)
    (fresh : L.finalizedOperationRegistry.get? env.operationId = none) :
    Proposed (L.accepted env x) a p other := by
  obtain ⟨members, hvalue, hcarries⟩ := h.operation
  exact ⟨h.account, h.proposal, members, hvalue, hcarries.next logged_accepted fresh⟩

/-- A proposal stands after its dispute. -/
theorem Proposed.disputed (h : Proposed L a p other)
    (fresh : L.finalizedOperationRegistry.get? env.operationId = none) :
    Proposed (L.disputed env d) a p other := by
  obtain ⟨members, hvalue, hcarries⟩ := h.operation
  exact ⟨h.account, h.proposal, members, hvalue, hcarries.next logged_disputed fresh⟩

/-- A recorded acceptance stands. -/
theorem AcceptEvidence.stands (h : AcceptEvidence a p x other env finalized) :
    Accepted (L.accepted env x) p x env where
  acceptance := by
    rw [LedgerState.accepted, h.accepts.settlement]
    exact Dict.get?_set_self _ _ _
  operation := ⟨_, rfl, logged_accepted.recorded, h.operationType, h.acceptance, h.named⟩

/-- An acceptance stands after a dispute. -/
theorem Accepted.disputed (h : Accepted L p x other)
    (fresh : L.finalizedOperationRegistry.get? env.operationId = none) :
    Accepted (L.disputed env d) p x other := by
  obtain ⟨members, hvalue, hcarries⟩ := h.operation
  exact ⟨h.acceptance, members, hvalue, hcarries.next logged_disputed fresh⟩

/-- A recorded dispute stands. -/
theorem DisputeEvidence.stands (h : DisputeEvidence a p d other env finalized) :
    Disputed (L.disputed env d) p d env where
  dispute := by
    rw [LedgerState.disputed, h.sameSettlement]
    exact Dict.get?_set_self _ _ _
  operation := ⟨_, rfl, logged_disputed.recorded, h.operationType, h.dispute, h.named⟩

end Standing

/-! ## The whole run -/

variable [LedgerRules] {L : LedgerState} {a : SessionFundingAccount}
  {p : SessionSettlementProposal} {t : AtomicSettlementTransition} {s : SettlementScript}

variable {env proposed accepted : Envelope} {finalized : FinalizedIds} {L' : LedgerState}
  {x : SessionSettlementAcceptance}

/-- A last operation makes the credits of its effect when it is admitted. -/
theorem settles_of_yields {op : ConsensusOp} {C : Prop} {effect : LedgerM Unit}
    {L₁ : LedgerState} {credits : List SessionCredit}
    (happlies : ∀ {L'}, (∃ record, op.apply L = .ok record L') ↔ C ∧ effect L₁ = .ok () L')
    (hyields : C → ∃ sessionId next, Yields effect L₁
      ((L.economy.creditAll credits).putAccount sessionId next)) :
    Settles L [op] credits ↔ C := by
  constructor
  · rintro ⟨L', ⟨record, L₂, happly, -⟩, -⟩
    exact (happlies.mp ⟨record, happly⟩).1
  · intro hC
    obtain ⟨sessionId, next, L', heffect, heconomy⟩ := hyields hC
    obtain ⟨record, happly⟩ := happlies.mpr ⟨hC, heffect⟩
    refine ⟨L', ⟨record, L', happly, rfl⟩, ?_, ?_⟩
    · exact congrArg Economy.balances heconomy
    · have hcredits := congrArg Economy.credits heconomy
      rw [Economy.putAccount_credits, Economy.creditAll_credits] at hcredits
      exact hcredits

section

variable (counted : Counted L)
  (fresh : L.finalizedOperationRegistry.get? env.operationId = none)

include counted fresh

/-- A proposal with correct evidence is recorded when it is valid. -/
theorem apply_settlementPropose_iff (h : ProposeEvidence L a p env finalized)
    (proposable : Proposable L a) (session : p.sessionId = a.sessionId) (filled : p.Filled) :
    (∃ record, (ConsensusOp.settlementPropose env finalized).apply L = .ok record L') ↔
      (p.ModeFits ∧ L.settlementProposals.get? p.settlementId = none ∧
        requireProposedAmounts p a = .ok ()) ∧ L.proposed env p = L' :=
  (applyConsensus_eq_ok_of_admits (h.toJoint.admits (by decide) counted fresh)
    (validateSettlementPropose_iff h proposable session filled)).trans
      (and_congr_right' modify_eq_ok)

/-- An acceptance with correct evidence is recorded when it is valid. -/
theorem apply_settlementAccept_iff (h : AcceptEvidence a p x proposed env finalized)
    (consumer : a.consumerFundingAccount ≠ "") (stands : Proposed L a p proposed)
    (filled : p.Filled) :
    (∃ record, (ConsensusOp.settlementAccept env finalized).apply L = .ok record L') ↔
      (isBlank a.consumerFundingAccount = false ∧
        L.settlementAcceptances.get? p.settlementId = none) ∧ L.accepted env x = L' :=
  (applyConsensus_eq_ok_of_admits (h.toJoint.admits (by decide) counted fresh)
    (validateSettlementAccept_iff h consumer stands filled)).trans (and_congr_right' modify_eq_ok)

/-- A dispute with correct evidence is recorded when it is valid. -/
theorem apply_settlementDispute_iff {d : SettlementDispute}
    (h : DisputeEvidence a p d proposed env finalized) (proposable : Proposable L a)
    (consumer : isBlank a.consumerFundingAccount = false) (stands : Proposed L a p proposed)
    (filled : p.Filled) (session : p.sessionId = a.sessionId)
    (mode : p.settlementMode = .partialUndisputed) (fits : p.ModeFits)
    (unused : ∀ other ∈ L.settlementDisputes.values, other.disputeId ≠ d.disputeId) :
    (∃ record, (ConsensusOp.settlementDispute env finalized).apply L = .ok record L') ↔
      (a.activeDisputeReserve = 0 ∧ a.fundingState ≠ .disputeReserved ∧
        L.settlementDisputes.get? p.settlementId = none) ∧ L.disputed env d = L' :=
  (applyConsensus_eq_ok_of_admits (h.toJoint.admits (by decide) counted fresh)
    (validateSettlementDispute_iff h proposable consumer stands filled session mode fits
      unused)).trans (and_congr_right' modify_eq_ok)

/-- A finalization pays its transition out when the settlement keeps no reserve, is not paid out
yet, and the transition pays what the proposal adds to the account. -/
theorem settles_finalize_iff
    (h : PayoutEvidence "SESSION_SETTLEMENT_FINALIZE" a p x t proposed accepted env finalized)
    (proposable : Proposable L a) (stands : Proposed L a p proposed)
    (agreed : Accepted L p x accepted) (filled : p.Filled) (acceptance : x.Filled)
    (wf : L.economy.WellFormed) :
    Settles L [.settlementFinalize env finalized] (Distribution.credits ⟨t, p, a⟩) ↔
      p.disputeReserve = 0 ∧ L.settlementTransitionHashes.get? p.settlementId = none ∧
        requirePriorAmounts "Settlement finalization" t a = .ok () ∧
        requireProposedCredits "Settlement finalization" t p a = .ok () := by
  have hadmits := h.toJoint.admits (by decide) counted fresh
  have hvalid {d : Distribution} := validateSettlementFinalize_iff (d := d) h proposable stands
    agreed filled acceptance
  refine settles_of_yields (applyConsensus_eq_ok_of_admits hadmits hvalid) fun hC => ?_
  have hadmitted : (L.admitted env ["SessionSettlementFinalized"] none).economy = L.economy := rfl
  obtain ⟨next, hyields, -⟩ := finalize_payout (hvalid.mpr ⟨rfl, hC⟩) wf hadmitted
  exact ⟨_, next, hyields⟩

/-- A partial finalization pays its transition out when the account is not under dispute, the
settlement is not paid out yet, and the transition pays what the proposal adds to the account. -/
theorem settles_partialFinalize_iff {e : SettlementDispute} {disputed : Envelope}
    (h : PartialEvidence a p x e t proposed accepted disputed env finalized)
    (proposable : Proposable L a) (stands : Proposed L a p proposed)
    (agreed : Accepted L p x accepted) (contested : Disputed L p e disputed) (filled : p.Filled)
    (acceptance : x.Filled) (dispute : e.Filled) (amount : e.disputedAmount = p.disputeReserve)
    (session : p.sessionId = a.sessionId) (mode : p.settlementMode = .partialUndisputed)
    (fits : p.ModeFits) (wf : L.economy.WellFormed) :
    Settles L [.settlementPartialFinalize env finalized] (Distribution.credits ⟨t, p, a⟩) ↔
      a.fundingState ≠ .disputeReserved ∧
        L.settlementTransitionHashes.get? p.settlementId = none ∧
        requirePriorAmounts "Settlement partial-finalize" t a = .ok () ∧
        requireProposedCredits "Settlement partial-finalize" t p a = .ok () := by
  have hadmits := h.toJoint.admits (by decide) counted fresh
  have hvalid {d : Distribution} := validateSettlementPartialFinalize_iff (d := d) h proposable
    stands agreed contested filled acceptance dispute amount session mode fits
  refine settles_of_yields (applyConsensus_eq_ok_of_admits hadmits hvalid) fun hC => ?_
  have hadmitted : (L.admitted env ["SessionSettlementPartiallyFinalized"] none).economy =
      L.economy := rfl
  obtain ⟨hd, hstate⟩ := validateSettlementPartialFinalize_spec (hvalid.mpr ⟨rfl, hC⟩)
  obtain ⟨next, hyields, -⟩ := hd.payout wf hadmitted .partialFinalize .disputeReserved
    (.inr (.inr fun hreserved => hstate hreserved.1)) (fun hk => by cases hk)
  exact ⟨_, next, hyields⟩

end

/-- What the payout of an agreement needs, with the dispute before it when the proposal keeps a
reserve. -/
theorem settles_payout_iff {L₀ : LedgerState} (h : s.Correct L₀ a p t) (reachable : Reachable L)
    (proposable : Proposable L a) (consumer : isBlank a.consumerFundingAccount = false)
    (session : p.sessionId = a.sessionId) (filled : p.Filled) (fits : p.ModeFits)
    (stands : Proposed L a p s.propose.env) (agreed : Accepted L p s.acceptance s.accept.env)
    (disputes : L.settlementDisputes = L₀.settlementDisputes)
    (fresh : ∀ operationId ∈ s.payoutIds p, L.finalizedOperationRegistry.get? operationId = none) :
    Settles L (s.payout p) (Distribution.credits ⟨t, p, a⟩) ↔
      (p.disputeReserve ≠ 0 → a.activeDisputeReserve = 0 ∧ a.fundingState ≠ .disputeReserved ∧
          L.settlementDisputes.get? p.settlementId = none) ∧
        L.settlementTransitionHashes.get? p.settlementId = none ∧
        t.endpointPaymentBeneficiary = a.endpointPaymentBeneficiary ∧
        t.consumerRefundBeneficiary = a.consumerRefundBeneficiary ∧
        Distribution.Balanced ⟨t, p, a⟩ := by
  have hcounted := reachable.counted
  have hacceptance := h.accept.filled
  by_cases hreserve : p.disputeReserve = 0
  · rw [SettlementScript.payoutIds, if_pos hreserve] at fresh
    have hfinalize := settles_finalize_iff hcounted (fresh _ (List.mem_singleton_self _))
      (h.finalize hreserve) proposable stands agreed filled hacceptance reachable.wellFormed
    rw [SettlementScript.payout, if_pos hreserve, hfinalize, payoutChecks_iff]
    simp only [hreserve, ne_eq, not_true_eq_false, false_implies, true_and]
  · rw [SettlementScript.payoutIds, if_neg hreserve] at fresh
    obtain ⟨hdispute, hpartial, hunused⟩ := h.dispute hreserve
    have hmode : p.settlementMode = .partialUndisputed := by
      by_contra hmode
      rw [SessionSettlementProposal.ModeFits, if_neg hmode] at fits
      exact hreserve fits.2
    have hne : s.dispute.env.operationId ≠ s.finalize.env.operationId := by
      have hdistinct := h.distinct
      rw [SettlementScript.operationIds, SettlementScript.payoutIds, if_neg hreserve] at hdistinct
      simp only [List.nodup_cons, List.mem_cons, not_or] at hdistinct
      exact hdistinct.2.2.1.1
    have hnew := fresh s.dispute.env.operationId (List.mem_cons_self ..)
    rw [SettlementScript.payout, if_neg hreserve]
    refine (settles_cons reachable
      (apply_settlementDispute_iff hcounted hnew hdispute proposable consumer stands filled session
        hmode fits (disputes ▸ hunused)) rfl rfl
      fun _ hreachable => settles_partialFinalize_iff hreachable.counted
        (logged_disputed.fresh hne (fresh _ (by simp))) hpartial
        { proposable with stored := proposable.stored } (stands.disputed hnew)
        (agreed.disputed hnew) hdispute.stands filled hacceptance hdispute.filled hdispute.amount
        session hmode fits hreachable.wellFormed).trans ?_
    rw [payoutChecks_iff]
    constructor
    · rintro ⟨hundisputed, -, hunpaid, hchecks⟩
      exact ⟨fun _ => hundisputed, hunpaid, hchecks⟩
    · rintro ⟨hundisputed, hunpaid, hchecks⟩
      exact ⟨hundisputed hreserve, (hundisputed hreserve).2.1, hunpaid, hchecks⟩

/-- A settlement with correct evidence is admitted to the end and makes the credits of its
transition exactly when the state and the amounts allow it. -/
theorem settles_iff (reachable : Reachable L) (proposable : Proposable L a)
    (session : p.sessionId = a.sessionId) (filled : p.Filled) (h : s.Correct L a p t) :
    Settles L (s.operations p) (Distribution.credits ⟨t, p, a⟩) ↔ Settleable L a p t := by
  have hfresh := h.fresh
  simp only [SettlementScript.operationIds, List.forall_mem_cons] at hfresh
  obtain ⟨hproposeFresh, hacceptFresh, hpayoutFresh⟩ := hfresh
  have hdistinct := h.distinct
  simp only [SettlementScript.operationIds, List.nodup_cons, List.mem_cons, not_or] at hdistinct
  obtain ⟨⟨hne, hproposeNew⟩, hacceptNew, -⟩ := hdistinct
  have hstands := h.propose.stands proposable session
  have hacceptFresh' : (L.proposed s.propose.env p).finalizedOperationRegistry.get?
      s.accept.env.operationId = none := logged_proposed.fresh hne hacceptFresh
  have hpayoutFresh' : ∀ operationId ∈ s.payoutIds p,
      ((L.proposed s.propose.env p).accepted s.accept.env
        s.acceptance).finalizedOperationRegistry.get? operationId = none := fun operationId hmem =>
    logged_accepted.fresh (fun heq => hacceptNew (heq ▸ hmem)) (logged_proposed.fresh
      (fun heq => hproposeNew (heq ▸ hmem)) (hpayoutFresh operationId hmem))
  refine (settles_cons reachable
    (apply_settlementPropose_iff reachable.counted hproposeFresh h.propose proposable session
      filled) rfl rfl fun hproposed hreachable => settles_cons hreachable
    (apply_settlementAccept_iff hreachable.counted hacceptFresh' h.accept proposable.consumer
      hstands filled) rfl rfl fun haccepted hreachable' =>
    settles_payout_iff h hreachable' { proposable with stored := proposable.stored } haccepted.1
      session filled hproposed.1 (hstands.accepted hacceptFresh') h.accept.stands rfl
      hpayoutFresh').trans ?_
  constructor
  · rintro ⟨⟨hfits, hunproposed, hamounts⟩, ⟨hconsumer, hunaccepted⟩, hundisputed, hunpaid,
      hendpoint, hrefund, hbalanced⟩
    exact ⟨hfits, hunproposed, hamounts, hconsumer, hunaccepted, hunpaid, hendpoint, hrefund,
      hbalanced, hundisputed⟩
  · intro hs
    exact ⟨⟨hs.mode, hs.unproposed, hs.amounts⟩, ⟨hs.consumer, hs.unaccepted⟩, hs.undisputed,
      hs.unpaid, hs.endpoint, hs.refund, hs.balanced⟩

end AidnSpec.Ledger
