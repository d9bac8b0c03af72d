import AidnSpec.Ledger.SettlementRuns
import AidnSpec.Settlement.Engine

/-!
# What an evaluation says

The proposal and the transition of an evaluation that is returned, field by field from the split of
the account's reserves, and when the two agree with what the ledger asks of an account.
-/

namespace AidnSpec.Settlement

open Base Ledger

variable {a : SessionFundingAccount} {evidence : SessionEvidence}
  {records : List RequestSettlementRecord} {inputSet : SettlementInputSet} {split : SessionSplit}

/-! ## The declared models -/

/-- A proposal with the amounts of a split. -/
structure Proposes (a : SessionFundingAccount) (evidence : SessionEvidence)
    (inputSet : SettlementInputSet) (split : SessionSplit) (p : SessionSettlementProposal) :
    Prop where
  settlement : p.settlementId = settlementIdOf evidence inputSet
  session : p.sessionId = a.sessionId
  sequence : 1 ≤ p.settlementSequence
  inputs : p.settlementInputRoot = inputSet.settlementInputRoot
  requests : p.requestSettlementRoot = inputSet.requestSettlementRoot
  usage : p.usageChainRoot = inputSet.usageChainRoot
  checkpoints : p.checkpointRoot = inputSet.checkpointRoot
  capped : (p.cappedSessionCharge : Int) = split.cappedSessionCharge
  payment : (p.finalEndpointPayment : Int) = split.finalEndpointPayment
  requested : (p.requestedEndpointPayment : Int) = split.requestedEndpointPayment
  refund : (p.consumerPaymentRefund : Int) = split.consumerPaymentRefund
  fees : (p.actualNetworkFees : Int) = evidence.actualNetworkFees
  feeRefund : (p.consumerFeeRefund : Int) = split.consumerFeeRefund
  disputed : (p.disputedAmount : Int) = split.requestedDispute
  reserve : (p.disputeReserve : Int) = split.disputeReserve
  mode : p.settlementMode = evidence.settlementMode.getD (defaultMode a split)

theorem declareProposal_spec {p : SessionSettlementProposal}
    (h : declareProposal a evidence inputSet split = .ok p) :
    Proposes a evidence inputSet split p := by
  simp only [declareProposal, checks_eq_ok, declaredNat_eq_ok] at h
  obtain ⟨sequence, ⟨hpositive, hsequence⟩, gross, -, capped, ⟨-, hcapped⟩, payment,
    ⟨-, hpayment⟩, requested, ⟨-, hrequested⟩, refund, ⟨-, hrefund⟩, fees, ⟨-, hfees⟩, feeRefund,
    ⟨-, hfeeRefund⟩, disputed, ⟨-, hdisputed⟩, reserve, ⟨-, hreserve⟩, absorbed, -, rfl⟩ := h
  have hone : 1 ≤ sequence := by omega
  exact ⟨rfl, rfl, hone, rfl, rfl, rfl, rfl, hcapped, hpayment, hrequested, hrefund, hfees,
    hfeeRefund, hdisputed, hreserve, rfl⟩

/-- The texts of a declared proposal are not blank when its session has a name. -/
theorem Proposes.filled {p : SessionSettlementProposal} (h : Proposes a evidence inputSet split p) :
    p.Filled where
  settlement := h.settlement ▸ isBlank_canonicalHash _
  inputs := h.inputs ▸ isBlank_canonicalHash _
  requests := h.requests ▸ isBlank_canonicalHash _
  usage := h.usage ▸ isBlank_canonicalHash _
  checkpoints := h.checkpoints ▸ isBlank_canonicalHash _
  sequence := h.sequence

/-- A transition with the amounts of a split. -/
structure Distributes (a : SessionFundingAccount) (settlementId : String) (split : SessionSplit)
    (t : AtomicSettlementTransition) : Prop where
  session : t.sessionId = a.sessionId
  settlement : t.settlementId = settlementId
  endpoint : t.endpointPaymentBeneficiary = a.endpointPaymentBeneficiary
  refund : t.consumerRefundBeneficiary = a.consumerRefundBeneficiary
  priorReleased : (t.previouslyReleasedToEndpoint : Int) = a.releasedToEndpoint
  priorRefunded : (t.previouslyRefundedToConsumer : Int) =
    a.consumerPaymentRefund + a.consumerFeeRefund
  priorConsumed : (t.previouslyConsumedNetworkFees : Int) = a.consumedNetworkFees
  creditEndpoint : (t.creditEndpoint : Int) = split.requestedEndpointPayment
  creditConsumer : (t.creditConsumer : Int) = split.additionalConsumerRefund
  consumed : (t.consumeNetworkFees : Int) = split.additionalNetworkFees
  retained : (t.retainDisputeReserve : Int) = split.disputeReserve
  total : (t.totalLockedAmount : Int) = a.totalLockedAmount

theorem declareTransition_spec {settlementId : String} {t : AtomicSettlementTransition}
    (h : declareTransition a settlementId split = .ok t) : Distributes a settlementId split t := by
  simp only [declareTransition, bind_eq_ok, declaredNat_eq_ok] at h
  obtain ⟨released, ⟨-, hreleased⟩, refunded, ⟨-, hrefunded⟩, consumed, ⟨-, hconsumed⟩, endpoint,
    ⟨-, hendpoint⟩, consumer, ⟨-, hconsumer⟩, fees, ⟨-, hfees⟩, retained, ⟨-, hretained⟩, postpaid,
    -, total, ⟨-, htotal⟩, h⟩ := h
  split at h
  · cases h
    exact ⟨rfl, rfl, rfl, rfl, hreleased, hrefunded, hconsumed, hendpoint, hconsumer, hfees,
      hretained, htotal⟩
  · cases h

/-! ## The evaluation -/

/-- What stands behind an evaluation that is returned. -/
structure Evaluates (a : SessionFundingAccount) (evidence : SessionEvidence)
    (records : List RequestSettlementRecord) (e : SettlementEvaluation) : Prop where
  maximum : evidence.maximumSessionCharge ≤ paymentLimit a
  proposal : Proposes a evidence e.inputSet
    (sessionSplit a records evidence.maximumSessionCharge evidence.actualNetworkFees) e.proposal
  transition : Distributes a e.proposal.settlementId
    (sessionSplit a records evidence.maximumSessionCharge evidence.actualNetworkFees) e.transition
  released : a.releasedToEndpoint ≤ e.proposal.finalEndpointPayment

theorem evaluateSession_spec {e : SettlementEvaluation} (h : evaluateSession a evidence = .ok e) :
    ∃ records, evaluateInputs a evidence = .ok records ∧ Evaluates a evidence records e := by
  simp only [evaluateSession, splitSession, checks_eq_ok, ensure_eq_ok, exists_unit,
    decide_eq_true_eq] at h
  obtain ⟨hmaximum, -, records, hrecords, inputSet, -, split, ⟨hreleased, -, -, rfl⟩, proposal,
    hproposal, transition, htransition, rfl⟩ := h
  have hproposes := declareProposal_spec hproposal
  exact ⟨records, hrecords, hmaximum, hproposes, declareTransition_spec htransition,
    hproposes.payment ▸ hreleased⟩

/-! ## Agreement with the ledger -/

/-- The state lets an evaluation settle: its settlement is new, the consumer's account has a name,
a postpaid endpoint is due what it was released, and a reserve finds no earlier dispute. -/
structure Admissible (L : LedgerState) (a : SessionFundingAccount) (e : SettlementEvaluation) :
    Prop where
  unproposed : L.settlementProposals.get? e.proposal.settlementId = none
  unaccepted : L.settlementAcceptances.get? e.proposal.settlementId = none
  unpaid : L.settlementTransitionHashes.get? e.proposal.settlementId = none
  consumer : isBlank a.consumerFundingAccount = false
  due : a.fundingClass = .trustedPostpaid →
    (e.proposal.finalEndpointPayment : Int) = a.releasedToEndpoint
  undisputed : e.proposal.disputeReserve ≠ 0 → a.activeDisputeReserve = 0 ∧
    a.fundingState ≠ .disputeReserved ∧
    L.settlementDisputes.get? e.proposal.settlementId = none

section Split

variable {maximum fees : Int}

/-- A payment within the limit of its account is within the reserve, unless it is made on
credit. -/
theorem finalEndpointPayment_le (within : maximum ≤ paymentLimit a)
    (due : a.fundingClass = .trustedPostpaid →
      finalEndpointPayment a records maximum = a.releasedToEndpoint) :
    finalEndpointPayment a records maximum ≤ a.endpointPaymentReserve := by
  have hn := a.nonneg
  have hreserve := hn.endpointPaymentReserve
  by_cases hpostpaid : a.fundingClass = .trustedPostpaid
  · rw [due hpostpaid]
    have hpayment := a.payment_eq
    have hrefund := hn.consumerPaymentRefund
    have hactive := hn.activeDisputeReserve
    have hleft := hn.unsettledPaymentReserve
    omega
  · rw [paymentLimit, if_neg hpostpaid] at within
    unfold finalEndpointPayment
    split
    · exact hreserve
    · omega

/-- The reserve covers the disputes, so all of what they ask for is kept. -/
theorem sessionSplit_disputeReserve
    (covered : requestedDispute a records ≤ availableDisputeReserve a records maximum) :
    (sessionSplit a records maximum fees).disputeReserve =
      (sessionSplit a records maximum fees).requestedDispute :=
  min_eq_left covered

end Split

/-- The default mode is partial exactly when something is kept of a session that pays. -/
theorem defaultMode_eq_partialUndisputed :
    defaultMode a split = .partialUndisputed ↔
      paysNothing a = false ∧ 0 < split.disputeReserve := by
  have hnothing : paysNothing a = false ↔
      a.fundingClass ≠ .validation ∧ a.fundingClass ≠ .free := by
    simp [paysNothing]
  rw [hnothing, defaultMode]
  by_cases hvalidation : a.fundingClass = .validation
  · simp [hvalidation]
  by_cases hfree : a.fundingClass = .free
  · simp [hfree]
  by_cases hpositive : 0 < split.disputeReserve
  · have hkept : ¬ (split.finalEndpointPayment = 0 ∧ split.disputeReserve = 0) := by omega
    simp [hvalidation, hfree, hpositive, hkept]
  · rw [if_neg hvalidation, if_neg hpositive]
    split_ifs <;> simp [hpositive]

namespace Evaluates

variable {e : SettlementEvaluation} {L : LedgerState}

variable (h : Evaluates a evidence records e)

include h

/-- The amounts under dispute fit the default mode when the reserve covers them. -/
theorem modeFits (mode : evidence.settlementMode = none) (covered : requestedDispute a records ≤
      availableDisputeReserve a records evidence.maximumSessionCharge) :
    e.proposal.ModeFits := by
  have hdisputed : (e.proposal.disputedAmount : Int) = requestedDispute a records :=
    h.proposal.disputed
  have hreserve := h.proposal.reserve
  have hkept : e.proposal.disputedAmount = e.proposal.disputeReserve := by
    rw [sessionSplit_disputeReserve covered] at hreserve
    exact_mod_cast hdisputed.trans hreserve.symm
  have hmode := h.proposal.mode
  rw [mode, Option.getD_none] at hmode
  rw [SessionSettlementProposal.ModeFits, hmode, hkept]
  simp only [defaultMode_eq_partialUndisputed, ← hreserve]
  split
  next hpartial =>
    have hpositive := hpartial.2
    exact ⟨by omega, by omega, trivial⟩
  next hwhole =>
    suffices hzero : e.proposal.disputeReserve = 0 from ⟨hzero, hzero⟩
    by_contra hpositive
    have hpays : paysNothing a = true := by
      rw [← Bool.not_eq_false]
      intro hpays
      exact hwhole ⟨hpays, by omega⟩
    rw [requestedDispute, if_pos hpays] at hdisputed
    omega

/-- An evaluation whose payment is within the reserve spends both reserves. -/
theorem conserves (within : finalEndpointPayment a records evidence.maximumSessionCharge ≤
      a.endpointPaymentReserve) :
    (e.proposal.finalEndpointPayment : Int) + e.proposal.consumerPaymentRefund +
          e.proposal.disputeReserve = a.endpointPaymentReserve ∧
      (e.proposal.actualNetworkFees : Int) + e.proposal.consumerFeeRefund =
        a.networkFeeReserve := by
  have hprior := a.nonneg.consumerPaymentRefund
  rw [h.proposal.payment, h.proposal.refund, h.proposal.reserve, h.proposal.fees,
    h.proposal.feeRefund]
  simp only [sessionSplit, availableDisputeReserve]
  constructor <;> omega

/-- A postpaid evaluation whose endpoint is due what it was released splits to that payment. -/
theorem final_of_due (due : a.fundingClass = .trustedPostpaid →
      (e.proposal.finalEndpointPayment : Int) = a.releasedToEndpoint) :
    a.fundingClass = .trustedPostpaid →
      finalEndpointPayment a records evidence.maximumSessionCharge = a.releasedToEndpoint :=
  fun hpostpaid => h.proposal.payment.symm.trans (due hpostpaid)

/-- The requested payment is what the final one adds to the releases, unless it is owed for on
credit. -/
theorem requested_iff :
    (e.proposal.requestedEndpointPayment : Int) =
        e.proposal.finalEndpointPayment - a.releasedToEndpoint ↔
      (a.fundingClass = .trustedPostpaid →
        (e.proposal.finalEndpointPayment : Int) = a.releasedToEndpoint) := by
  have hrequested := h.proposal.requested
  have hpayment := h.proposal.payment
  simp only [sessionSplit] at hrequested hpayment
  by_cases hpostpaid : a.fundingClass = .trustedPostpaid
  · rw [if_pos hpostpaid] at hrequested
    rw [hrequested, forall_prop_of_true hpostpaid]
    omega
  · rw [if_neg hpostpaid] at hrequested
    simp only [hpostpaid, IsEmpty.forall_iff, iff_true]
    omega

/-- The final payment is the capped charge, unless the session pays nothing. -/
theorem payment_cases :
    (paysNothing a = true ∧ e.proposal.finalEndpointPayment = 0) ∨
      e.proposal.finalEndpointPayment = e.proposal.cappedSessionCharge := by
  have hpayment := h.proposal.payment
  have hcapped := h.proposal.capped
  simp only [sessionSplit, finalEndpointPayment] at hpayment hcapped
  by_cases hnothing : paysNothing a = true
  · rw [if_pos hnothing] at hpayment
    exact .inl ⟨hnothing, by omega⟩
  · rw [if_neg hnothing] at hpayment
    exact .inr (by omega)

/-- The capped charge is within the reserve of the account. -/
theorem capped_le (within : (e.proposal.finalEndpointPayment : Int) ≤ a.endpointPaymentReserve) :
    (e.proposal.cappedSessionCharge : Int) ≤ a.endpointPaymentReserve := by
  rcases h.payment_cases with ⟨hnothing, -⟩ | hpayment
  · have hprepaid : a.fundingClass ≠ .trustedPostpaid := by
      intro hpostpaid
      rw [paysNothing, hpostpaid] at hnothing
      cases hnothing
    have hmaximum := h.maximum
    have hcapped := h.proposal.capped
    rw [paymentLimit, if_neg hprepaid] at hmaximum
    simp only [sessionSplit] at hcapped
    omega
  · rw [← hpayment]
    exact within

/-- The amounts of an evaluation pass the checks of the ledger when its endpoint is due what the
account can pay. -/
theorem amounts (due : a.fundingClass = .trustedPostpaid →
      (e.proposal.finalEndpointPayment : Int) = a.releasedToEndpoint) :
    requireProposedAmounts e.proposal a = .ok () := by
  have hwithin := finalEndpointPayment_le h.maximum (h.final_of_due due)
  obtain ⟨hpayment, hfees⟩ := h.conserves hwithin
  have hconsumer := h.transition.creditConsumer
  have hconsumed := h.transition.consumed
  simp only [requireProposedAmounts, checks_eq_ok, exists_unit, decide_eq_true_eq, beq_iff_eq]
  refine ⟨?_, ?_, h.released, ?_, ?_, hpayment, hfees, h.requested_iff.mpr due⟩
  · apply h.capped_le
    rw [h.proposal.payment]
    exact hwithin
  · rcases h.payment_cases with ⟨-, hzero⟩ | hpayment
    · exact hzero ▸ Nat.zero_le _
    · exact hpayment.le
  · rw [h.proposal.refund, h.proposal.feeRefund]
    simp only [sessionSplit] at hconsumer ⊢
    omega
  · rw [h.proposal.fees]
    simp only [sessionSplit] at hconsumed
    omega

/-- The transition of an evaluation pays what its proposal adds to the account. -/
theorem balanced (due : a.fundingClass = .trustedPostpaid →
      (e.proposal.finalEndpointPayment : Int) = a.releasedToEndpoint) :
    Distribution.Balanced ⟨e.transition, e.proposal, a⟩ where
  total := h.transition.total
  priorReleased := h.transition.priorReleased
  priorRefunded := h.transition.priorRefunded
  priorConsumed := h.transition.priorConsumed
  endpoint := by
    rw [← h.requested_iff.mpr due, h.proposal.requested]
    exact h.transition.creditEndpoint
  consumer := by
    rw [h.proposal.refund, h.proposal.feeRefund]
    exact h.transition.creditConsumer
  consumed := by
    rw [h.proposal.fees]
    exact h.transition.consumed
  retained := by
    exact_mod_cast h.transition.retained.trans h.proposal.reserve.symm

/-- The ledger settles an evaluation whose disputes are covered exactly when it is admissible. -/
theorem settleable_iff (mode : evidence.settlementMode = none)
    (covered : requestedDispute a records ≤
      availableDisputeReserve a records evidence.maximumSessionCharge) :
    Settleable L a e.proposal e.transition ↔ Admissible L a e := by
  constructor
  · intro hs
    have hamounts := hs.amounts
    simp only [requireProposedAmounts, checks_eq_ok, exists_unit, beq_iff_eq] at hamounts
    obtain ⟨-, -, -, -, -, -, -, hrequested⟩ := hamounts
    exact ⟨hs.unproposed, hs.unaccepted, hs.unpaid, hs.consumer, h.requested_iff.mp hrequested,
      hs.undisputed⟩
  · intro hs
    exact ⟨h.modeFits mode covered, hs.unproposed, h.amounts hs.due, hs.consumer, hs.unaccepted,
      hs.unpaid, h.transition.endpoint, h.transition.refund, h.balanced hs.due, hs.undisputed⟩

end Evaluates

end AidnSpec.Settlement
