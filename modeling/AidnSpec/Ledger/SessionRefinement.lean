import AidnSpec.Ledger.Operation
import AidnSpec.Ledger.Refinement

/-!
# Session operations as steps of the economy

Locks, extensions, releases, proposals and payouts refine the session steps of the economy. A payout
rebuilds the account after its credits; that it conserves both reserves follows from the bounds of
the stored proposal and the equation of the transition, except for a forced settlement that consumes
network fees.
-/

namespace AidnSpec.Ledger

open Base

variable [Runtime]

/-! ## Lock and extension -/

variable {env : Envelope} {L L₁ : LedgerState} {funding : SessionFundingAccount}
  {finalized : FinalizedIds} {change : EscrowChange} {proposal : SessionSettlementProposal}
  {u : Unit} {d : Distribution} {correction : SettlementCorrection} {requestedPayment : Int}
  {transition : AtomicSettlementTransition}

theorem validateSessionEscrowLock_spec (h : validateSessionEscrowLock env L = .ok funding) :
    SessionFundingAccount.modelValidate env.payload = .ok funding ∧ Untouched funding ∧
      L.sessionFundingAccounts.get? funding.sessionId = none := by
  simp only [validateSessionEscrowLock, checks_eq_ok, exists_unit, Bool.and_eq_true, beq_iff_eq,
    Option.isNone_iff_eq_none] at h
  obtain ⟨-, sender, -, -, -, f, hmodel, hlocked, -, -, ⟨⟨⟨⟨hr, hp⟩, hd⟩, hc⟩, hf⟩, hnew, -,
    rfl⟩ := h
  exact ⟨hmodel, ⟨hlocked, hr, hp, hd, hc, hf⟩, hnew⟩

omit [Runtime] in
/-- The effect of a lock opens the account. -/
theorem yields_lock (funding : SessionFundingAccount) (L : LedgerState) :
    Yields (lockFunding funding) L (L.economy.openAccount funding) := by
  unfold Economy.openAccount
  by_cases hc : funding.fundingClass = .escrowPrepaid
  · rw [if_pos hc]
    simp only [lockFunding, hc, if_true]
    refine .bind rfl (.bind rfl (yields_modify ?_))
    rfl
  · rw [if_neg hc]
    simp only [lockFunding, hc, if_false]
    exact .bind rfl (yields_modify rfl)

theorem takes_sessionEscrowLock (env : Envelope) (L : LedgerState) :
    Takes .lock (applySessionEscrowLock env) L := by
  apply takes_applyConsensus
  intro funding L₁ hv hL
  obtain ⟨-, huntouched, hnew⟩ := validateSessionEscrowLock_spec hv
  refine ⟨_, yields_lock funding L₁, ?_⟩
  rw [hL]
  exact .lock L.economy funding hnew huntouched

theorem validateSessionEscrowExtend_spec
    (h : validateSessionEscrowExtend env finalized L = .ok change) :
    (∃ s, L.sessionFundingAccounts.get? s = some change.current) ∧
      Extends change.current change.next change.amount := by
  simp only [validateSessionEscrowExtend, requireFunding, checks_eq_ok, exists_unit,
    decide_eq_true_eq, beq_iff_eq] at h
  obtain ⟨-, sender, -, -, -, payment, ⟨-, hp⟩, fees, ⟨-, hf⟩, -, members, -, next, -, current,
    hcurrent, -, hlocked, -, -, -, hsession, hnext, -, hexpected, hunchanged, -, -, u, -, v, -,
    rfl⟩ := h
  simp only [List.forall_mem_cons, beq_iff_eq, List.not_mem_nil, IsEmpty.forall_iff,
    implies_true, and_true] at hexpected hunchanged
  obtain ⟨htotal, hpay, hfee, -, -⟩ := hexpected
  obtain ⟨-, hreleased, hrefund, hconsumed, hfeeRefund⟩ := hunchanged
  refine ⟨⟨_, hcurrent⟩, ⟨hsession, ?_, ?_⟩, hlocked, hnext, ?_, hreleased, hrefund, hfeeRefund,
    hconsumed⟩
  · show current.endpointPaymentReserve ≤ next.endpointPaymentReserve
    rw [hpay]
    omega
  · show current.networkFeeReserve ≤ next.networkFeeReserve
    rw [hfee]
    omega
  · show next.totalLockedAmount = current.totalLockedAmount + (payment + fees)
    rw [htotal]
    omega

theorem takes_sessionEscrowExtend (env : Envelope) (finalized : FinalizedIds)
    (wf : L.economy.WellFormed) : Takes .extend (applySessionEscrowExtend env finalized) L := by
  apply takes_applyConsensus
  intro change L₁ hv hL
  obtain ⟨⟨s, stored⟩, hextends⟩ := validateSessionEscrowExtend_spec hv
  have hs : change.current.sessionId = s := wf.accounts stored
  refine ⟨_, .bind rfl (.bind rfl (yields_modify rfl)), ?_⟩
  rw [← hL]
  apply Economy.Step.extend L₁.economy change.current change.next change.amount
  · rw [hL, hs]
    exact stored
  · exact hextends

/-! ## Release -/

theorem validateSessionEscrowRelease_spec
    (h : validateSessionEscrowRelease env finalized L = .ok change) :
    (∃ s, L.sessionFundingAccounts.get? s = some change.current) ∧ 0 ≤ change.amount ∧
      (change.current.fundingState = .locked ∨
        change.current.fundingState = .partiallyReleased) ∧
      Pays change.current change.next [⟨change.current.sessionId, .consumer,
        change.current.consumerRefundBeneficiary, change.amount⟩] := by
  simp only [validateSessionEscrowRelease, requireFunding, checks_eq_ok, exists_unit,
    decide_eq_true_eq, beq_iff_eq, Bool.and_eq_true, Bool.or_eq_true] at h
  obtain ⟨-, -, -, -, -, payment, ⟨-, hp⟩, fees, ⟨-, hf⟩, -, members, -, next, -, current,
    hcurrent, hstate, -, -, -, hsession, -, hunchanged, -, -, ⟨⟨⟨hrefund, hfeeRefund⟩, -⟩, -⟩, -, -,
    u, -, v, -, rfl⟩ := h
  simp only [List.forall_mem_cons, beq_iff_eq, List.not_mem_nil, IsEmpty.forall_iff,
    implies_true, and_true] at hunchanged
  obtain ⟨-, -, -, -, -, -, hpay, hfee, -, hreleased, -⟩ := hunchanged
  refine ⟨⟨_, hcurrent⟩, Int.add_nonneg hp hf, hstate, hsession, hpay, hfee, by simp, ?_, ?_⟩
  · simp [paidTo, hreleased]
  · simp only [paidTo, hrefund, hfeeRefund]
    simp
    omega

/-- Pay a wallet on behalf of a session. -/
def LedgerState.credit (L : LedgerState) (c : SessionCredit) : LedgerState :=
  { L.pay c.walletId c.amount with sessionCredits := c :: L.sessionCredits }

def LedgerState.creditAll (L : LedgerState) (cs : List SessionCredit) : LedgerState :=
  cs.foldl LedgerState.credit L

omit [Runtime] in
theorem economy_creditAll (L : LedgerState) (cs : List SessionCredit) :
    (L.creditAll cs).economy = L.economy.creditAll cs := by
  induction cs generalizing L with
  | nil => rfl
  | cons c cs ih => exact ih (L.credit c)

omit [Runtime] in
theorem operations_creditAll (L : LedgerState) (cs : List SessionCredit) :
    (L.creditAll cs).operations = L.operations := by
  induction cs generalizing L with
  | nil => rfl
  | cons c cs ih => exact ih (L.credit c)

omit [Runtime] in
/-- A credit on behalf of a session cannot raise when its amount is not negative. -/
theorem creditForSession_eq {sessionId : String} {role : SessionRole} {wallet : String}
    {amount : Int} (h : 0 ≤ amount) (L : LedgerState) :
    creditForSession sessionId role wallet amount L =
      .ok () (L.credit ⟨sessionId, role, wallet, amount⟩) :=
  bind_run (creditWalletQAtoms_eq h L)

theorem takes_sessionEscrowRelease (env : Envelope) (finalized : FinalizedIds)
    (wf : L.economy.WellFormed) :
    Takes (.payout .release) (applySessionEscrowRelease env finalized) L := by
  apply takes_applyConsensus
  intro change L₁ hv hL
  obtain ⟨⟨s, stored⟩, hnonneg, hstate, hpays⟩ := validateSessionEscrowRelease_spec hv
  have hs : change.current.sessionId = s := wf.accounts stored
  refine ⟨_, .bind (creditForSession_eq hnonneg L₁) (yields_modify rfl), ?_⟩
  rw [← hL]
  apply Economy.Step.payout .release L₁.economy change.current change.next _ _ hpays
  · rcases hstate with h | h <;> rw [h] <;> rfl
  · refine .inr (.inr ?_)
    rintro ⟨hreserved, -⟩
    rcases hstate with h | h <;> rw [h] at hreserved <;> cases hreserved
  · exact fun h => by cases h
  · rw [hL, hs]
    exact stored

/-! ## Operations that keep a record -/

omit [Runtime] in
theorem takes_sessionOpen (env : Envelope) (finalized : FinalizedIds) (L : LedgerState) :
    Takes .neutral (applySessionOpen env finalized) L :=
  takes_unseen _ (fun _ _ => rfl) (fun _ _ => rfl)

omit [Runtime] in
theorem takes_sessionAccept (env : Envelope) (finalized : FinalizedIds) (L : LedgerState) :
    Takes .neutral (applySessionAccept env finalized) L :=
  takes_unseen _ (fun _ _ => rfl) (fun _ _ => rfl)

theorem takes_sessionCheckpointCommit (env : Envelope) (finalized : FinalizedIds)
    (L : LedgerState) : Takes .neutral (applySessionCheckpointCommit env finalized) L :=
  takes_unseen _ (fun _ _ => rfl) (fun _ _ => rfl)

omit [Runtime] in
theorem takes_sessionFailureEvidence (env : Envelope) (L : LedgerState) :
    Takes .neutral (applySessionFailureEvidence env) L := takes_recordOnly

theorem takes_settlementReadyCommit (env : Envelope) (finalized : FinalizedIds)
    (L : LedgerState) : Takes .neutral (applySettlementReadyCommit env finalized) L :=
  takes_unseen _ (fun _ _ => rfl) (fun _ _ => rfl)

theorem takes_settlementAccept (env : Envelope) (finalized : FinalizedIds) (L : LedgerState) :
    Takes .neutral (applySettlementAccept env finalized) L :=
  takes_unseen _ (fun _ _ => rfl) (fun _ _ => rfl)

theorem takes_settlementDispute (env : Envelope) (finalized : FinalizedIds) (L : LedgerState) :
    Takes .neutral (applySettlementDispute env finalized) L :=
  takes_unseen _ (fun _ _ => rfl) (fun _ _ => rfl)

/-! ## Proposal -/

omit [Runtime] in
theorem requireProposedAmounts_spec (h : requireProposedAmounts proposal funding = .ok u) :
    Fits proposal funding := by
  simp only [requireProposedAmounts, checks_eq_ok, exists_unit, beq_iff_eq] at h
  obtain ⟨-, -, -, -, -, hpayment, hfees, -⟩ := h
  exact ⟨Int.le_of_eq hpayment, Int.le_of_eq hfees⟩

theorem validateSettlementPropose_spec
    (h : validateSettlementPropose env finalized L = .ok proposal) :
    ∃ funding, L.sessionFundingAccounts.get? proposal.sessionId = some funding ∧
      Fits proposal funding := by
  simp only [validateSettlementPropose, requireFunding, checks_eq_ok, exists_and_left, exists_const,
    beq_iff_eq] at h
  obtain ⟨-, -, -, members, -, -, predecessor, -, p, -, -, -, funding, hfunding, -, -, -, h⟩ := h
  have hfits : proposal = p ∧ Fits p funding := by
    split at h
    all_goals
      simp only [checks_eq_ok, exists_and_left, exists_const] at h
      obtain ⟨-, u, -, -, v, -, -, -, w, hamounts, rfl⟩ := h
      exact ⟨rfl, requireProposedAmounts_spec hamounts⟩
  obtain ⟨rfl, hfits⟩ := hfits
  exact ⟨funding, hfunding, hfits⟩

theorem takes_settlementPropose (env : Envelope) (finalized : FinalizedIds) (L : LedgerState) :
    Takes .neutral (applySettlementPropose env finalized) L := by
  apply takes_applyConsensus
  intro proposal L₁ hv hL
  obtain ⟨funding, stored, hfits⟩ := validateSettlementPropose_spec hv
  refine ⟨_, yields_modify rfl, ?_⟩
  rw [← hL]
  apply Economy.Step.propose L₁.economy proposal funding _ hfits
  rw [hL]
  exact stored

/-! ## Payouts -/

section

omit [Runtime]

/-- Updates that keep the reserves and conserve both pass the validating constructor. -/
theorem withFundingUpdates_ok (funding : SessionFundingAccount)
    (updates : FundingFields → FundingFields) (nonneg : (updates funding.toFundingFields).Nonneg)
    (total : (updates funding.toFundingFields).totalLockedAmount = funding.totalLockedAmount)
    (payment : (updates funding.toFundingFields).endpointPaymentReserve =
      funding.endpointPaymentReserve)
    (fees : (updates funding.toFundingFields).networkFeeReserve = funding.networkFeeReserve)
    (payment_eq : (updates funding.toFundingFields).releasedToEndpoint +
      (updates funding.toFundingFields).consumerPaymentRefund +
      (updates funding.toFundingFields).activeDisputeReserve +
      (updates funding.toFundingFields).unsettledPaymentReserve = funding.endpointPaymentReserve)
    (fee_eq : (updates funding.toFundingFields).consumedNetworkFees +
      (updates funding.toFundingFields).consumerFeeRefund +
      (updates funding.toFundingFields).unsettledFeeReserve = funding.networkFeeReserve) :
    ∃ next, withFundingUpdates funding updates = .ok next ∧
      next.toFundingFields = updates funding.toFundingFields := by
  obtain ⟨next, hnext⟩ := SessionFundingAccount.exists_validateConservation_iff.mpr
    ⟨nonneg, by rw [total, payment, fees, funding.total_eq], by rw [payment_eq, payment],
      by rw [fee_eq, fees]⟩
  exact ⟨next, hnext, SessionFundingAccount.validateConservation_eq_ok.mp hnext⟩

/-- Rebuilding an account reads no state. -/
theorem rebuildFunding_eq {next : SessionFundingAccount} {updates : FundingFields → FundingFields}
    (h : withFundingUpdates funding updates = .ok next) (L : LedgerState) :
    rebuildFunding funding updates L = .ok next L := by
  simp only [rebuildFunding, check, h]

/-- A distribution whose transition repeats the account and the proposal. -/
structure Distribution.Balanced (d : Distribution) : Prop where
  total : (d.transition.totalLockedAmount : Int) = d.funding.totalLockedAmount
  priorReleased : (d.transition.previouslyReleasedToEndpoint : Int) = d.funding.releasedToEndpoint
  priorRefunded : (d.transition.previouslyRefundedToConsumer : Int) =
    d.funding.consumerPaymentRefund + d.funding.consumerFeeRefund
  priorConsumed : (d.transition.previouslyConsumedNetworkFees : Int) =
    d.funding.consumedNetworkFees
  endpoint : (d.transition.creditEndpoint : Int) =
    d.proposal.finalEndpointPayment - d.funding.releasedToEndpoint
  consumer : (d.transition.creditConsumer : Int) =
    d.proposal.consumerPaymentRefund + d.proposal.consumerFeeRefund -
      d.funding.consumerPaymentRefund - d.funding.consumerFeeRefund
  consumed : (d.transition.consumeNetworkFees : Int) =
    d.proposal.actualNetworkFees - d.funding.consumedNetworkFees
  retained : d.transition.retainDisputeReserve = d.proposal.disputeReserve

/-- The two credits of a distribution, in the order they are made. -/
def Distribution.credits (d : Distribution) : List SessionCredit :=
  [⟨d.transition.sessionId, .endpoint, d.transition.endpointPaymentBeneficiary,
      d.transition.creditEndpoint⟩, ⟨d.transition.sessionId, .consumer,
      d.transition.consumerRefundBeneficiary, d.transition.creditConsumer⟩]

theorem Distribution.balanced_of {label label' : String} {v : Unit}
    (hprior : requirePriorAmounts label d.transition d.funding = .ok u)
    (hcredits : requireProposedCredits label' d.transition d.proposal d.funding = .ok v) :
    d.Balanced := by
  simp only [requirePriorAmounts, checks_eq_ok, exists_unit, beq_iff_eq] at hprior
  simp only [requireProposedCredits, checks_eq_ok, exists_unit, beq_iff_eq] at hcredits
  obtain ⟨-, htotal, hreleased, hrefunded, hconsumed⟩ := hprior
  obtain ⟨hendpoint, hconsumer, hfees, hdispute⟩ := hcredits
  exact ⟨htotal, hreleased, hrefunded, hconsumed, hendpoint, hconsumer, hfees, hdispute⟩

/-- A balanced distribution by a fitting proposal conserves both reserves: the transition
spends all that was locked, so neither bound of the proposal can be strict. -/
theorem Distribution.Balanced.conserves (h : d.Balanced) (fits : Fits d.proposal d.funding) :
    (d.proposal.finalEndpointPayment : Int) + d.proposal.consumerPaymentRefund +
        d.proposal.disputeReserve = d.funding.endpointPaymentReserve ∧
      (d.proposal.actualNetworkFees : Int) + d.proposal.consumerFeeRefund =
        d.funding.networkFeeReserve := by
  have hspent : (d.transition.previouslyReleasedToEndpoint : Int) +
      d.transition.previouslyRefundedToConsumer + d.transition.previouslyConsumedNetworkFees +
      d.transition.creditEndpoint + d.transition.creditConsumer +
      d.transition.consumeNetworkFees + d.transition.retainDisputeReserve =
        d.transition.totalLockedAmount := by
    exact_mod_cast d.transition.conserved
  rw [h.priorReleased, h.priorRefunded, h.priorConsumed, h.endpoint, h.consumer, h.consumed,
    h.retained, h.total, d.funding.total_eq] at hspent
  have hpayment := fits.payment
  have hfees := fits.fees
  constructor <;> omega

/-- The rebuilt account of a balanced distribution. -/
theorem Distribution.Balanced.exists_distributed (h : d.Balanced)
    (fits : Fits d.proposal d.funding) (session : d.transition.sessionId = d.funding.sessionId)
    (state : FundingState) :
    ∃ next, withFundingUpdates d.funding (distributed d.proposal state) = .ok next ∧
      Pays d.funding next d.credits ∧ next.fundingState = state := by
  obtain ⟨hpayment, hfees⟩ := h.conserves fits
  have hn := d.funding.nonneg
  obtain ⟨next, hnext, hfields⟩ := withFundingUpdates_ok d.funding (distributed d.proposal state)
    ⟨hn.totalLockedAmount, hn.endpointPaymentReserve, hn.networkFeeReserve,
      hn.postpaidCreditLimit, Int.natCast_nonneg _, Int.natCast_nonneg _, Int.natCast_nonneg _,
      Int.natCast_nonneg _, Int.natCast_nonneg _, Int.le_refl 0, Int.le_refl 0⟩
    rfl rfl rfl ((Int.add_zero _).trans hpayment) ((Int.add_zero _).trans hfees)
  refine ⟨next, hnext, ?_, by rw [hfields]; rfl⟩
  constructor
  · rw [hfields]
    rfl
  · rw [hfields]
    rfl
  · rw [hfields]
    rfl
  · simp [Distribution.credits, session]
  · rw [hfields]
    simp [distributed, Distribution.credits, paidTo, h.endpoint]
  · rw [hfields]
    simp [distributed, Distribution.credits, paidTo, h.consumer]

/-- A distribution that its validation accepts. -/
structure Distribution.Valid (d : Distribution) (L : LedgerState) : Prop where
  proposed : L.settlementProposals.get? d.transition.settlementId = some d.proposal
  stored : L.sessionFundingAccounts.get? d.transition.sessionId = some d.funding
  session : d.transition.sessionId = d.proposal.sessionId
  unsettled : d.funding.fundingState.isFinal = false
  balanced : d.Balanced

/-- A valid distribution pays the session out and leaves its account in the given state. -/
theorem Distribution.Valid.payout (h : d.Valid L) (wf : L.economy.WellFormed)
    (hL : L₁.economy = L.economy) (kind : PayoutKind) (state : FundingState)
    (unreserved : kind = .correct ∨ kind = .finalize ∨ ¬ d.funding.Reserved)
    (settles : kind = .finalize → state = .released) :
    ∃ next, Yields (distribute d state) L₁
        ((L.economy.creditAll d.credits).putAccount d.transition.sessionId next) ∧
      Economy.Step (.payout kind) L.economy
        ((L.economy.creditAll d.credits).putAccount d.transition.sessionId next) ∧
      next.fundingState = state := by
  have hs : d.funding.sessionId = d.transition.sessionId := wf.accounts h.stored
  obtain ⟨a, ha, hfits⟩ := wf.proposals h.proposed
  have hfits : Fits d.proposal d.funding := by
    have ha' : some a = some d.funding := by rw [← h.stored, h.session]; exact ha.symm
    cases ha'
    exact hfits
  obtain ⟨next, hnext, hpays, hstate⟩ := h.balanced.exists_distributed hfits hs.symm state
  refine ⟨next, ?_, ?_, hstate⟩
  · rw [← hL]
    exact .bind (creditForSession_eq (Int.natCast_nonneg _) L₁)
      (.bind (creditForSession_eq (Int.natCast_nonneg _) _)
        (.bind (rebuildFunding_eq hnext _) (.bind rfl (yields_modify rfl))))
  · have hstep := Economy.Step.payout kind L.economy d.funding next d.credits
      (by rw [hs]; exact h.stored) hpays h.unsettled unreserved
      (fun hk => hstate.trans (settles hk))
    rw [hs] at hstep
    exact hstep

end

theorem validateSettlementPartialFinalize_spec
    (h : validateSettlementPartialFinalize env finalized L = .ok d) :
    d.Valid L ∧ d.funding.fundingState ≠ .disputeReserved := by
  simp only [validateSettlementPartialFinalize, requireProposal, requireFunding, checks_eq_ok,
    exists_and_left, exists_const, beq_iff_eq, Bool.and_eq_true, Bool.not_eq_true',
    Bool.or_eq_false_iff] at h
  obtain ⟨-, -, -, members, -, -, transition, -, proposal, hproposal, acceptance, -, dispute, -,
    funding, hfunding, -, -, -, ⟨hfinal, hreserved⟩, -, o₁, -, o₂, -, o₃, -, r₁, -, r₂, -, r₃, -,
    -, ⟨-, hsession⟩, u, -, v, hprior, w, hcredits, rfl⟩ := h
  refine ⟨⟨hproposal, hfunding, hsession, hfinal, Distribution.balanced_of hprior hcredits⟩, ?_⟩
  simpa using hreserved

theorem takes_settlementPartialFinalize (env : Envelope) (finalized : FinalizedIds)
    (wf : L.economy.WellFormed) :
    Takes (.payout .partialFinalize) (applySettlementPartialFinalize env finalized) L := by
  apply takes_applyConsensus
  intro d L₁ hv hL
  obtain ⟨hvalid, hstate⟩ := validateSettlementPartialFinalize_spec hv
  obtain ⟨next, hyields, hstep, -⟩ := hvalid.payout wf hL .partialFinalize .disputeReserved
    (.inr (.inr fun hreserved => hstate hreserved.1)) (fun hk => by cases hk)
  exact ⟨_, hyields, hstep⟩

theorem validateSettlementFinalize_spec (h : validateSettlementFinalize env finalized L = .ok d) :
    d.Valid L ∧ d.proposal.disputeReserve = 0 := by
  simp only [validateSettlementFinalize, requireProposal, requireFunding, checks_eq_ok,
    exists_and_left, exists_const, beq_iff_eq, Bool.and_eq_true, Bool.not_eq_true'] at h
  obtain ⟨-, -, -, members, -, -, transition, -, proposal, hproposal, acceptance, -, funding,
    hfunding, o₁, -, o₂, -, m₁, -, m₂, -, r₁, -, r₂, -, -, -, ⟨-, hsession⟩, -, hfinal, hdispute,
    -, u, hprior, v, hcredits, -, -, rfl⟩ := h
  exact ⟨⟨hproposal, hfunding, hsession, hfinal, Distribution.balanced_of hprior hcredits⟩,
    hdispute⟩

/-- What a validated finalization does: it pays the session out and releases its account. -/
theorem finalize_payout (hv : validateSettlementFinalize env finalized L = .ok d)
    (wf : L.economy.WellFormed) (hL : L₁.economy = L.economy) :
    ∃ next, Yields (distribute d
          (if d.proposal.disputeReserve ≠ 0 then .disputeReserved else .released)) L₁
        ((L.economy.creditAll d.credits).putAccount d.transition.sessionId next) ∧
      Economy.Step (.payout .finalize) L.economy
        ((L.economy.creditAll d.credits).putAccount d.transition.sessionId next) ∧
      next.fundingState = .released := by
  obtain ⟨hvalid, hdispute⟩ := validateSettlementFinalize_spec hv
  rw [if_neg (by simpa using hdispute)]
  exact hvalid.payout wf hL .finalize .released (.inr (.inl rfl)) (fun _ => rfl)

theorem takes_settlementFinalize (env : Envelope) (finalized : FinalizedIds)
    (wf : L.economy.WellFormed) :
    Takes (.payout .finalize) (applySettlementFinalize env finalized) L := by
  apply takes_applyConsensus
  intro d L₁ hv hL
  obtain ⟨next, hyields, hstep, -⟩ := finalize_payout hv wf hL
  exact ⟨_, hyields, hstep⟩

/-! ## Correction -/

/-- A correction that its validation accepts: it spends the dispute reserve. -/
structure Corrects (correction : SettlementCorrection) (funding : SessionFundingAccount) :
    Prop where
  reserved : funding.fundingState = .disputeReserved
  endpoint : 0 ≤ correction.endpointPaymentDelta
  consumer : 0 ≤ correction.consumerRefundDelta
  spends : correction.endpointPaymentDelta + correction.consumerRefundDelta =
    funding.activeDisputeReserve

theorem validateSettlementCorrect_spec
    (h : validateSettlementCorrect env finalized L = .ok (correction, funding)) :
    L.sessionFundingAccounts.get? (env.payload.text "session_id") = some funding ∧
      Corrects correction funding := by
  simp only [validateSettlementCorrect, requireProposal, requireFunding, checks_eq_ok,
    exists_and_left, exists_const, beq_iff_eq, Bool.and_eq_true, decide_eq_true_eq] at h
  obtain ⟨-, -, -, -, -, members, -, c, -, proposal, -, dispute, -, f, hfunding, -, -, -, -, -,
    hstate, -, -, -, -, -, -, -, ⟨⟨hendpoint, hconsumer⟩, hspends⟩, o, -, t, -, -, -, u, -,
    hpair⟩ := h
  cases hpair
  exact ⟨hfunding, hstate, hendpoint, hconsumer, hspends⟩

omit [Runtime] in
/-- The rebuilt account of a correction. -/
theorem Corrects.exists_corrected (h : Corrects correction funding) :
    ∃ next, withFundingUpdates funding (corrected correction funding) = .ok next ∧
      Pays funding next
        [⟨funding.sessionId, .endpoint, funding.endpointPaymentBeneficiary,
            correction.endpointPaymentDelta⟩, ⟨funding.sessionId, .consumer,
            funding.consumerRefundBeneficiary, correction.consumerRefundDelta⟩] := by
  have hn := funding.nonneg
  have hspends := h.spends
  have hpayment := funding.payment_eq
  obtain ⟨next, hnext, hfields⟩ := withFundingUpdates_ok funding (corrected correction funding)
    ⟨hn.totalLockedAmount, hn.endpointPaymentReserve, hn.networkFeeReserve,
      hn.postpaidCreditLimit, Int.le_refl 0, Int.add_nonneg hn.releasedToEndpoint h.endpoint,
      Int.add_nonneg hn.consumerPaymentRefund h.consumer, hn.consumedNetworkFees,
      hn.consumerFeeRefund, hn.unsettledPaymentReserve, hn.unsettledFeeReserve⟩
    rfl rfl rfl (by simp only [corrected]; omega) funding.fee_eq
  refine ⟨next, hnext, ?_⟩
  constructor
  · rw [hfields]
    rfl
  · rw [hfields]
    rfl
  · rw [hfields]
    rfl
  · simp
  · rw [hfields]
    simp [corrected, paidTo]
  · rw [hfields]
    simp [corrected, paidTo]
    omega

theorem takes_settlementCorrect (env : Envelope) (finalized : FinalizedIds)
    (wf : L.economy.WellFormed) :
    Takes (.payout .correct) (applySettlementCorrect env finalized) L := by
  apply takes_applyConsensus
  rintro ⟨correction, funding⟩ L₁ hv hL
  obtain ⟨stored, hcorrects⟩ := validateSettlementCorrect_spec hv
  obtain ⟨next, hnext, hpays⟩ := hcorrects.exists_corrected
  refine ⟨_, .bind (creditForSession_eq hcorrects.endpoint L₁)
    (.bind (creditForSession_eq hcorrects.consumer _)
      (.bind (rebuildFunding_eq hnext _) (.bind rfl (yields_modify rfl)))), ?_⟩
  rw [← hL]
  refine Economy.Step.payout .correct L₁.economy funding next _ ?_ hpays ?_ (.inl rfl) ?_
  · rw [hL, wf.accounts stored]
    exact stored
  · rw [hcorrects.reserved]
    rfl
  · exact fun hk => by cases hk

/-! ## Forced settlement -/

/-- The credits of a forced settlement; amounts of zero are not credited. -/
def forcedCredits (transition : AtomicSettlementTransition) (funding : SessionFundingAccount) :
    List SessionCredit :=
  (if transition.creditEndpoint ≠ 0 then
    [⟨funding.sessionId, .endpoint, transition.endpointPaymentBeneficiary,
      transition.creditEndpoint⟩] else []) ++
  (if transition.creditConsumer ≠ 0 then
    [⟨funding.sessionId, .consumer, transition.consumerRefundBeneficiary,
      transition.creditConsumer⟩] else [])

/-- A forced settlement that its validation accepts: it retains nothing, and all that is
left goes to the endpoint, the consumer and the network. -/
structure Forces (transition : AtomicSettlementTransition) (funding : SessionFundingAccount) :
    Prop where
  unsettled : funding.fundingState.isFinal = false
  undisputed : funding.activeDisputeReserve = 0
  retains : transition.retainDisputeReserve = 0
  endpoint : funding.releasedToEndpoint + transition.creditEndpoint ≤
    funding.endpointPaymentReserve
  fees : funding.consumedNetworkFees + transition.consumeNetworkFees ≤ funding.networkFeeReserve
  consumer : (transition.creditConsumer : Int) + transition.creditEndpoint +
    transition.consumeNetworkFees = remainingLocked funding

omit [Runtime] in
theorem requireEvidencedPayment_spec
    (h : requireEvidencedPayment env requestedPayment transition funding = .ok u) :
    transition.retainDisputeReserve = 0 ∧
      funding.releasedToEndpoint + funding.consumerPaymentRefund + transition.creditEndpoint ≤
        funding.endpointPaymentReserve ∧
      funding.consumedNetworkFees + transition.consumeNetworkFees ≤ funding.networkFeeReserve := by
  simp only [requireEvidencedPayment] at h
  split at h
  · simp only [checks_eq_ok, exists_unit, beq_iff_eq, Bool.and_eq_true, decide_eq_true_eq] at h
    obtain ⟨items, -, -, root, -, -, charge, -, -, -, hretain, -, ⟨hpayment, hfees⟩, -⟩ := h
    refine ⟨hretain, ?_, ?_⟩ <;> omega
  · cases h

omit [Runtime] in
theorem requireForcedCredits_spec {failureClass : FailureClass}
    (h : requireForcedCredits env failureClass requestedPayment transition funding = .ok u)
    (total : (transition.totalLockedAmount : Int) = funding.totalLockedAmount)
    (released : (transition.previouslyReleasedToEndpoint : Int) = funding.releasedToEndpoint)
    (refunded : (transition.previouslyRefundedToConsumer : Int) =
      funding.consumerPaymentRefund + funding.consumerFeeRefund)
    (consumed : (transition.previouslyConsumedNetworkFees : Int) = funding.consumedNetworkFees)
    (unsettled : funding.fundingState.isFinal = false)
    (undisputed : funding.activeDisputeReserve = 0) : Forces transition funding := by
  have hspent : (transition.previouslyReleasedToEndpoint : Int) +
      transition.previouslyRefundedToConsumer + transition.previouslyConsumedNetworkFees +
      transition.creditEndpoint + transition.creditConsumer +
      transition.consumeNetworkFees + transition.retainDisputeReserve =
        transition.totalLockedAmount := by
    exact_mod_cast transition.conserved
  have hpayment := funding.payment_eq
  have hfee := funding.fee_eq
  have hn := funding.nonneg
  have hrefund := hn.consumerPaymentRefund
  have hpaymentLeft := hn.unsettledPaymentReserve
  have hfeeRefund := hn.consumerFeeRefund
  have hfeeLeft := hn.unsettledFeeReserve
  have hremaining : remainingLocked funding = funding.totalLockedAmount -
    funding.releasedToEndpoint - funding.consumerPaymentRefund - funding.consumerFeeRefund -
    funding.consumedNetworkFees := rfl
  unfold requireForcedCredits at h
  split at h
  · simp only [checks_eq_ok, exists_unit, beq_iff_eq, Bool.and_eq_true] at h
    obtain ⟨⟨⟨hendpoint, hconsume⟩, hretain⟩, hconsumer, -⟩ := h
    refine ⟨unsettled, undisputed, hretain, ?_, ?_, ?_⟩ <;> omega
  · split at h
    · obtain ⟨hretain, hendpoint, hfees⟩ := requireEvidencedPayment_spec h
      refine ⟨unsettled, undisputed, hretain, ?_, ?_, ?_⟩ <;> omega
    · simp only [checks_eq_ok, exists_unit, beq_iff_eq] at h
      obtain ⟨hendpoint, hconsumer⟩ := h
      refine ⟨unsettled, undisputed, ?_, ?_, ?_, ?_⟩ <;> omega

theorem validateForceSettle_spec
    (h : validateForceSettle env finalized L = .ok (transition, funding)) :
    L.sessionFundingAccounts.get? (env.payload.text "session_id") = some funding ∧
      Forces transition funding := by
  simp only [validateForceSettle, requireFunding, checks_eq_ok, exists_and_left, exists_const,
    beq_iff_eq, Bool.not_eq_true'] at h
  obtain ⟨-, -, -, -, failureClass, -, members, -, t, -, payment, -, refund, -, u, -, f, hfunding,
    -, -, hfinal, hdispute, lock, -, failure, -, -, -, v, -, w, -, -, -, -, htotal, hreleased,
    hrefunded, hconsumed, x, hcredits, -, -, -, -, hpair⟩ := h
  cases hpair
  exact ⟨hfunding, requireForcedCredits_spec hcredits htotal hreleased hrefunded hconsumed hfinal
    hdispute⟩

section

omit [Runtime]

/-- No amount of a forced account is negative. -/
theorem Forces.nonneg (h : Forces transition funding) :
    (forced transition funding funding.toFundingFields).Nonneg := by
  have hn := funding.nonneg
  have hretain := h.retains
  have hendpoint := h.endpoint
  have hfees := h.fees
  exact ⟨hn.totalLockedAmount, hn.endpointPaymentReserve, hn.networkFeeReserve,
    hn.postpaidCreditLimit, Int.natCast_nonneg _,
    Int.add_nonneg hn.releasedToEndpoint (Int.natCast_nonneg _), by simp only [forced]; omega,
    hn.consumedNetworkFees, by simp only [forced]; omega, Int.natCast_nonneg _, Int.le_refl 0⟩

/-- A forced account conserves its payment reserve. -/
theorem Forces.payment_eq (h : Forces transition funding) :
    (forced transition funding funding.toFundingFields).releasedToEndpoint +
      (forced transition funding funding.toFundingFields).consumerPaymentRefund +
      (forced transition funding funding.toFundingFields).activeDisputeReserve +
      (forced transition funding funding.toFundingFields).unsettledPaymentReserve =
        funding.endpointPaymentReserve := by
  have hretain := h.retains
  simp only [forced]
  omega

/-- A forced account falls short of its fee reserve by the fees it should have consumed. -/
theorem forced_fee (transition : AtomicSettlementTransition) (funding : SessionFundingAccount) :
    (forced transition funding funding.toFundingFields).consumedNetworkFees +
      (forced transition funding funding.toFundingFields).consumerFeeRefund +
      (forced transition funding funding.toFundingFields).unsettledFeeReserve =
        funding.networkFeeReserve - transition.consumeNetworkFees := by
  simp only [forced]
  omega

/-- A forced settlement credits its own session only. -/
theorem forcedCredits_own (transition : AtomicSettlementTransition)
    (funding : SessionFundingAccount) :
    ∀ c ∈ forcedCredits transition funding, c.sessionId = funding.sessionId := by
  intro c hc
  simp only [forcedCredits, List.mem_append] at hc
  rcases hc with hc | hc <;> split at hc <;> simp_all

/-- The credits of a forced settlement by role. -/
theorem paidTo_forcedCredits (transition : AtomicSettlementTransition)
    (funding : SessionFundingAccount) :
    paidTo .endpoint (forcedCredits transition funding) = transition.creditEndpoint ∧
      paidTo .consumer (forcedCredits transition funding) = transition.creditConsumer := by
  unfold forcedCredits
  by_cases h₁ : transition.creditEndpoint = 0 <;> by_cases h₂ : transition.creditConsumer = 0 <;>
    simp [paidTo, h₁, h₂]

/-- The rebuilt account of a forced settlement that consumes no network fees. -/
theorem Forces.exists_forced (h : Forces transition funding)
    (hfree : transition.consumeNetworkFees = 0) :
    ∃ next, withFundingUpdates funding (forced transition funding) = .ok next ∧
      Pays funding next (forcedCredits transition funding) := by
  obtain ⟨next, hnext, hfields⟩ := withFundingUpdates_ok funding (forced transition funding)
    h.nonneg rfl rfl rfl h.payment_eq (by rw [forced_fee, hfree]; omega)
  obtain ⟨hendpoint, hconsumer⟩ := paidTo_forcedCredits transition funding
  refine ⟨next, hnext, ?_⟩
  constructor
  · rw [hfields]
    rfl
  · rw [hfields]
    rfl
  · rw [hfields]
    rfl
  · exact forcedCredits_own transition funding
  · rw [hfields, hendpoint]
    rfl
  · rw [hfields, hconsumer]
    have hrest := h.consumer
    have hretain := h.retains
    have htotal := funding.total_eq
    rw [remainingLocked] at hrest
    simp only [forced]
    omega

/-- A forced settlement that consumes network fees leaves them out of the rebuilt account,
which then conserves its fee reserve no longer. -/
theorem Forces.forced_error (h : Forces transition funding)
    (hconsume : transition.consumeNetworkFees ≠ 0) :
    withFundingUpdates funding (forced transition funding) =
      raiseValue "Network Fee Reserve conservation failed" := by
  have htotal : (forced transition funding funding.toFundingFields).totalLockedAmount =
      (forced transition funding funding.toFundingFields).endpointPaymentReserve +
        (forced transition funding funding.toFundingFields).networkFeeReserve := funding.total_eq
  have hshort : ¬ (forced transition funding funding.toFundingFields).consumedNetworkFees +
      (forced transition funding funding.toFundingFields).consumerFeeRefund +
      (forced transition funding funding.toFundingFields).unsettledFeeReserve =
        (forced transition funding funding.toFundingFields).networkFeeReserve := by
    rw [forced_fee]
    simp only [forced]
    omega
  have hpayment : (forced transition funding funding.toFundingFields).releasedToEndpoint +
      (forced transition funding funding.toFundingFields).consumerPaymentRefund +
      (forced transition funding funding.toFundingFields).activeDisputeReserve +
      (forced transition funding funding.toFundingFields).unsettledPaymentReserve =
        (forced transition funding funding.toFundingFields).endpointPaymentReserve := h.payment_eq
  rw [withFundingUpdates, SessionFundingAccount.validateConservation, dif_pos h.nonneg,
    dif_pos htotal, dif_pos hpayment, dif_neg hshort]

/-- The conditional credits of a forced settlement, one after the other. -/
theorem creditForced_eq (transition : AtomicSettlementTransition)
    (funding : SessionFundingAccount) (rest : LedgerM Unit) (L : LedgerState) :
    (do
      if transition.creditEndpoint ≠ 0 then
        creditForSession funding.sessionId .endpoint transition.endpointPaymentBeneficiary
          transition.creditEndpoint
      if transition.creditConsumer ≠ 0 then
        creditForSession funding.sessionId .consumer transition.consumerRefundBeneficiary
          transition.creditConsumer
      rest : LedgerM Unit) L = rest (L.creditAll (forcedCredits transition funding)) := by
  unfold forcedCredits
  by_cases h₁ : transition.creditEndpoint = 0 <;> by_cases h₂ : transition.creditConsumer = 0
  · simp [h₁, h₂, LedgerState.creditAll]
  · simp only [h₁, h₂, ne_eq, not_true_eq_false, not_false_eq_true, if_true, if_false]
    exact bind_run (creditForSession_eq (Int.natCast_nonneg _) L)
  · simp only [h₁, h₂, ne_eq, not_true_eq_false, not_false_eq_true, if_true, if_false]
    exact bind_run (creditForSession_eq (Int.natCast_nonneg _) L)
  · simp only [h₁, h₂, ne_eq, not_false_eq_true, if_true]
    exact (bind_run (creditForSession_eq (Int.natCast_nonneg _) L)).trans
      (bind_run (creditForSession_eq (Int.natCast_nonneg _) _))

end

/-- A forced settlement passes its validation and consumes network fees. -/
def ForcedFees (env : Envelope) (finalized : FinalizedIds) (L : LedgerState) : Prop :=
  ∃ transition funding, validateForceSettle env finalized L = .ok (transition, funding) ∧
    transition.consumeNetworkFees ≠ 0

theorem takes_forceSettle (env : Envelope) (finalized : FinalizedIds) (wf : L.economy.WellFormed)
    (hfree : ¬ ForcedFees env finalized L) :
    Takes (.payout .force) (applyForceSettle env finalized) L := by
  apply takes_applyConsensus
  rintro ⟨transition, funding⟩ L₁ hv hL
  obtain ⟨stored, hforces⟩ := validateForceSettle_spec hv
  have hconsume : transition.consumeNetworkFees = 0 := by
    by_contra hne
    exact hfree ⟨transition, funding, hv, hne⟩
  obtain ⟨next, hnext, hpays⟩ := hforces.exists_forced hconsume
  refine ⟨_, ⟨_, (creditForced_eq transition funding _ L₁).trans
    ((bind_run (rebuildFunding_eq hnext _)).trans ((bind_run rfl).trans rfl)), rfl⟩, ?_⟩
  have hstep := Economy.Step.payout .force L₁.economy funding next _
    (by rw [hL, wf.accounts stored]; exact stored) hpays hforces.unsettled
    (.inr (.inr fun hreserved => by
      have hdispute := hforces.undisputed
      have hpos := hreserved.2
      omega))
    (fun hk => by cases hk)
  rw [← economy_creditAll] at hstep
  rw [← hL]
  exact hstep

end AidnSpec.Ledger
