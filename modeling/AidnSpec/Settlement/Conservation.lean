import AidnSpec.Base.Postconditions
import AidnSpec.Settlement.Admission

/-!
# Conservation of the escrow

What `evaluate_session` (`settlement/service.py:148–354`) returns distributes the whole locked
amount. The refunds are compared with the earlier ones as one sum, and beside `SettlementError` the
declared models and the arithmetic of usage values raise exceptions of their own.
-/

namespace AidnSpec.Settlement

open Base Ledger

variable {a : SessionFundingAccount} {evidence : SessionEvidence}
  {records : List RequestSettlementRecord} {split : SessionSplit}

/-- The references of an input set that must not be empty. -/
def SessionEvidence.references (evidence : SessionEvidence) (a : SessionFundingAccount) :
    List String :=
  [a.sessionId, evidence.sessionContractHash, evidence.effectiveTermsHash,
    a.endpointPaymentBeneficiary, a.consumerRefundBeneficiary, evidence.sessionCloseReference]

section Requests

variable {request : RequestSettlementInput} {terms : SettlementAccountingTerms}
  {component : SettlementChargeComponent}

variable {d : UsageDimensionEvidence}

end Requests

/-- The whole locked amount is distributed, and the final payment is within the cap. -/
structure Conserved (a : SessionFundingAccount) (evidence : SessionEvidence)
    (e : SettlementEvaluation) : Prop where
  locked : a.releasedToEndpoint + (a.consumerPaymentRefund + a.consumerFeeRefund) +
    a.consumedNetworkFees + e.transition.creditEndpoint + e.transition.creditConsumer +
    e.transition.consumeNetworkFees + e.transition.retainDisputeReserve = a.totalLockedAmount
  capped : (e.proposal.finalEndpointPayment : Int) ≤ evidence.maximumSessionCharge

variable {e : SettlementEvaluation}

theorem Evaluates.conserved (h : Evaluates a evidence records e) : Conserved a evidence e where
  locked := by
    rw [← h.transition.total, ← h.transition.priorReleased, ← h.transition.priorRefunded,
      ← h.transition.priorConsumed]
    exact_mod_cast e.transition.conserved
  capped := by
    have hcapped := h.proposal.capped
    simp only [sessionSplit] at hcapped
    rcases h.payment_cases with ⟨-, hzero⟩ | hpayment <;> omega

end AidnSpec.Settlement
