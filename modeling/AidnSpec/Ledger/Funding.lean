import AidnSpec.Base.CanonicalJson
import AidnSpec.Base.Schema

/-!
# Session funding accounts and settlement records

`settlement/models.py`: the declared models that session operations carry in their payloads. All
amounts are Q atoms. A `SessionFundingAccount` value carries the two reserve-conservation equations
of `_validate_conservation` (93–121), and an `AtomicSettlementTransition` the equation of
`_validate_atomic_conservation`, so neither can be built without them.
-/

namespace AidnSpec.Ledger

open Base

inductive FundingClass where
  | escrowPrepaid
  | trustedPostpaid
  | free
  | internal
  | validation
  deriving DecidableEq

namespace FundingClass

def toText : FundingClass → String
  | escrowPrepaid => "ESCROW_PREPAID"
  | trustedPostpaid => "TRUSTED_POSTPAID"
  | free => "FREE"
  | internal => "INTERNAL"
  | validation => "VALIDATION"

def ofText (s : String) : Option FundingClass :=
  [escrowPrepaid, trustedPostpaid, free, internal, validation].find? (·.toText == s)

@[simp] theorem ofText_toText (c : FundingClass) : ofText c.toText = some c := by
  cases c <;> decide

end FundingClass

inductive FundingState where
  | unfunded
  | lockPending
  | locked
  | extensionPending
  | partiallyReleased
  | disputeReserved
  | releasePending
  | released
  | refunded
  | failed
  deriving DecidableEq

namespace FundingState

def toText : FundingState → String
  | unfunded => "UNFUNDED"
  | lockPending => "LOCK_PENDING"
  | locked => "LOCKED"
  | extensionPending => "EXTENSION_PENDING"
  | partiallyReleased => "PARTIALLY_RELEASED"
  | disputeReserved => "DISPUTE_RESERVED"
  | releasePending => "RELEASE_PENDING"
  | released => "RELEASED"
  | refunded => "REFUNDED"
  | failed => "FAILED"

def ofText (s : String) : Option FundingState :=
  [unfunded, lockPending, locked, extensionPending, partiallyReleased, disputeReserved,
    releasePending, released, refunded, failed].find? (·.toText == s)

@[simp] theorem ofText_toText (s : FundingState) : ofText s.toText = some s := by
  cases s <;> decide

/-- `funding_state in {"RELEASED", "REFUNDED"}`. -/
def isFinal : FundingState → Bool
  | released | refunded => true
  | _ => false

end FundingState

/-! ## Funding account -/

/-- The declared fields of `SessionFundingAccount`, before any check. -/
structure FundingFields where
  sessionId : String
  sessionContractHash : Option String
  fundingClass : FundingClass
  consumerFundingAccount : String
  endpointPaymentBeneficiary : String
  consumerRefundBeneficiary : String
  totalLockedAmount : Int
  endpointPaymentReserve : Int
  networkFeeReserve : Int
  postpaidCreditLimit : Int
  activeDisputeReserve : Int
  releasedToEndpoint : Int
  consumerPaymentRefund : Int
  consumedNetworkFees : Int
  consumerFeeRefund : Int
  unsettledPaymentReserve : Int
  unsettledFeeReserve : Int
  fundingState : FundingState
  deriving DecidableEq

namespace FundingFields

/-- Every amount has `ge=0`. -/
structure Nonneg (f : FundingFields) : Prop where
  totalLockedAmount : 0 ≤ f.totalLockedAmount
  endpointPaymentReserve : 0 ≤ f.endpointPaymentReserve
  networkFeeReserve : 0 ≤ f.networkFeeReserve
  postpaidCreditLimit : 0 ≤ f.postpaidCreditLimit
  activeDisputeReserve : 0 ≤ f.activeDisputeReserve
  releasedToEndpoint : 0 ≤ f.releasedToEndpoint
  consumerPaymentRefund : 0 ≤ f.consumerPaymentRefund
  consumedNetworkFees : 0 ≤ f.consumedNetworkFees
  consumerFeeRefund : 0 ≤ f.consumerFeeRefund
  unsettledPaymentReserve : 0 ≤ f.unsettledPaymentReserve
  unsettledFeeReserve : 0 ≤ f.unsettledFeeReserve

instance (f : FundingFields) : Decidable f.Nonneg :=
  decidable_of_iff (0 ≤ f.totalLockedAmount ∧ 0 ≤ f.endpointPaymentReserve ∧
      0 ≤ f.networkFeeReserve ∧ 0 ≤ f.postpaidCreditLimit ∧ 0 ≤ f.activeDisputeReserve ∧
      0 ≤ f.releasedToEndpoint ∧ 0 ≤ f.consumerPaymentRefund ∧ 0 ≤ f.consumedNetworkFees ∧
      0 ≤ f.consumerFeeRefund ∧ 0 ≤ f.unsettledPaymentReserve ∧ 0 ≤ f.unsettledFeeReserve)
    ⟨fun ⟨a, b, c, d, e, f, g, h, i, j, k⟩ => ⟨a, b, c, d, e, f, g, h, i, j, k⟩,
      fun ⟨a, b, c, d, e, f, g, h, i, j, k⟩ => ⟨a, b, c, d, e, f, g, h, i, j, k⟩⟩

/-- `model_dump(mode="json", exclude={"funding_state_hash"})`. -/
def members (f : FundingFields) : Fields :=
  [("session_id", .str f.sessionId), ("session_contract_hash", optText f.sessionContractHash),
    ("funding_class", .str f.fundingClass.toText), ("consumer_funding_account",
    .str f.consumerFundingAccount), ("endpoint_payment_beneficiary",
    .str f.endpointPaymentBeneficiary), ("consumer_refund_beneficiary",
    .str f.consumerRefundBeneficiary), ("total_locked_amount_q_atoms", .int f.totalLockedAmount),
    ("endpoint_payment_reserve_q_atoms", .int f.endpointPaymentReserve),
    ("network_fee_reserve_q_atoms", .int f.networkFeeReserve), ("postpaid_credit_limit_q_atoms",
    .int f.postpaidCreditLimit), ("active_dispute_reserve_q_atoms", .int f.activeDisputeReserve),
    ("released_to_endpoint_q_atoms", .int f.releasedToEndpoint), ("consumer_payment_refund_q_atoms",
    .int f.consumerPaymentRefund), ("consumed_network_fees_q_atoms", .int f.consumedNetworkFees),
    ("consumer_fee_refund_q_atoms", .int f.consumerFeeRefund), ("unsettled_payment_reserve_q_atoms",
    .int f.unsettledPaymentReserve), ("unsettled_fee_reserve_q_atoms", .int f.unsettledFeeReserve),
    ("funding_state", .str f.fundingState.toText)]

/-- The hash `_validate_conservation` stores or compares. -/
def fundingStateHash (f : FundingFields) : String := canonicalHash (.dict f.members)

/-- `model_dump(mode="json")`. -/
def dump (f : FundingFields) : Fields :=
  f.members ++ [("funding_state_hash", .str f.fundingStateHash)]

/-- The texts with `min_length=1`. -/
structure Named (f : FundingFields) : Prop where
  session : f.sessionId ≠ ""
  consumer : f.consumerFundingAccount ≠ ""
  endpoint : f.endpointPaymentBeneficiary ≠ ""
  refund : f.consumerRefundBeneficiary ≠ ""

end FundingFields

/-- `SessionFundingAccount`: fields that passed `_validate_conservation`. -/
structure SessionFundingAccount extends FundingFields where
  nonneg : toFundingFields.Nonneg
  total_eq : totalLockedAmount = endpointPaymentReserve + networkFeeReserve
  payment_eq : releasedToEndpoint + consumerPaymentRefund + activeDisputeReserve +
    unsettledPaymentReserve = endpointPaymentReserve
  fee_eq : consumedNetworkFees + consumerFeeRefund + unsettledFeeReserve = networkFeeReserve
  deriving DecidableEq

namespace SessionFundingAccount

/-- The range checks of the declared fields, then `_validate_conservation`. -/
def validateConservation (f : FundingFields) : Except PyError SessionFundingAccount :=
  if hn : f.Nonneg then
    if ht : f.totalLockedAmount = f.endpointPaymentReserve + f.networkFeeReserve then
      if hp : f.releasedToEndpoint + f.consumerPaymentRefund + f.activeDisputeReserve +
          f.unsettledPaymentReserve = f.endpointPaymentReserve then
        if hf : f.consumedNetworkFees + f.consumerFeeRefund + f.unsettledFeeReserve =
            f.networkFeeReserve then .ok ⟨f, hn, ht, hp, hf⟩
        else raiseValue "Network Fee Reserve conservation failed"
      else raiseValue "Endpoint Payment Reserve conservation failed"
    else raiseValue "locked amount must equal payment plus fee reserves"
  else raiseValue "Input should be greater than or equal to 0"

/-- The constructor succeeds exactly on conserving fields, and keeps them. -/
theorem validateConservation_eq_ok {f : FundingFields} {a : SessionFundingAccount} :
    validateConservation f = .ok a ↔ a.toFundingFields = f := by
  constructor
  · intro h
    unfold validateConservation at h
    split_ifs at h <;> cases h
    rfl
  · rintro rfl
    rw [validateConservation, dif_pos a.nonneg, dif_pos a.total_eq, dif_pos a.payment_eq,
      dif_pos a.fee_eq]

/-- The constructor fails exactly when one of the equations or ranges does. -/
theorem exists_validateConservation_iff {f : FundingFields} :
    (∃ a, validateConservation f = .ok a) ↔ f.Nonneg ∧
      f.totalLockedAmount = f.endpointPaymentReserve + f.networkFeeReserve ∧
      f.releasedToEndpoint + f.consumerPaymentRefund + f.activeDisputeReserve +
        f.unsettledPaymentReserve = f.endpointPaymentReserve ∧
      f.consumedNetworkFees + f.consumerFeeRefund + f.unsettledFeeReserve =
        f.networkFeeReserve := by
  constructor
  · rintro ⟨a, h⟩
    rw [validateConservation_eq_ok] at h
    subst h
    exact ⟨a.nonneg, a.total_eq, a.payment_eq, a.fee_eq⟩
  · rintro ⟨hn, ht, hp, hf⟩
    exact ⟨⟨f, hn, ht, hp, hf⟩, validateConservation_eq_ok.mpr rfl⟩

/-- Q atoms that an account still holds back from every wallet. -/
def held (a : SessionFundingAccount) : Int :=
  a.unsettledPaymentReserve + a.unsettledFeeReserve + a.activeDisputeReserve +
    a.consumedNetworkFees

/-- What an account holds and what it has paid out is what was locked for it. -/
theorem held_add_paid (a : SessionFundingAccount) :
    a.held + (a.releasedToEndpoint + (a.consumerPaymentRefund + a.consumerFeeRefund)) =
      a.totalLockedAmount := by
  have ht := a.total_eq
  have hp := a.payment_eq
  have hf := a.fee_eq
  rw [held]
  omega

variable [Runtime]

/-- The declared fields of a payload, if all of them can be read. -/
def readFields (fields : Fields) : Option FundingFields := do
  let sessionId ← fieldText fields "session_id" true
  let sessionContractHash ← fieldOptText fields "session_contract_hash"
  let fundingClass ← fieldLiteral fields "funding_class" FundingClass.ofText
  let consumerFundingAccount ← fieldText fields "consumer_funding_account" true
  let endpointPaymentBeneficiary ← fieldText fields "endpoint_payment_beneficiary" true
  let consumerRefundBeneficiary ← fieldText fields "consumer_refund_beneficiary" true
  let totalLockedAmount ← fieldInt fields "total_locked_amount_q_atoms"
  let endpointPaymentReserve ← fieldInt fields "endpoint_payment_reserve_q_atoms"
  let networkFeeReserve ← fieldInt fields "network_fee_reserve_q_atoms"
  let postpaidCreditLimit ← fieldIntD fields "postpaid_credit_limit_q_atoms" 0
  let activeDisputeReserve ← fieldIntD fields "active_dispute_reserve_q_atoms" 0
  let releasedToEndpoint ← fieldIntD fields "released_to_endpoint_q_atoms" 0
  let consumerPaymentRefund ← fieldIntD fields "consumer_payment_refund_q_atoms" 0
  let consumedNetworkFees ← fieldIntD fields "consumed_network_fees_q_atoms" 0
  let consumerFeeRefund ← fieldIntD fields "consumer_fee_refund_q_atoms" 0
  let unsettledPaymentReserve ← fieldIntD fields "unsettled_payment_reserve_q_atoms" 0
  let unsettledFeeReserve ← fieldIntD fields "unsettled_fee_reserve_q_atoms" 0
  let fundingState ← fieldLiteralD fields "funding_state" FundingState.ofText .locked
  return {
    sessionId, sessionContractHash, fundingClass, consumerFundingAccount,
    endpointPaymentBeneficiary, consumerRefundBeneficiary, totalLockedAmount,
    endpointPaymentReserve, networkFeeReserve, postpaidCreditLimit, activeDisputeReserve,
    releasedToEndpoint, consumerPaymentRefund, consumedNetworkFees, consumerFeeRefund,
    unsettledPaymentReserve, unsettledFeeReserve, fundingState }

def modelValidate (fields : Fields) : Except PyError SessionFundingAccount := do
  match readFields fields with
  | none => raiseValue "Session Funding Account field is invalid"
  | some f =>
    let account ← validateConservation f
    require (hashMatches fields "funding_state_hash" f.fundingStateHash)
      "funding_state_hash does not match Funding Account"
    return account

/-- The declared fields of a dump are those that were dumped. -/
theorem readFields_dump {f : FundingFields} (h : f.Named) : readFields f.dump = some f := by
  have hcontract : fieldOptText f.dump "session_contract_hash" = some f.sessionContractHash := by
    cases hc : f.sessionContractHash <;>
      simp [FundingFields.dump, FundingFields.members, fieldOptText, List.lookup_cons, optText, hc]
  simp only [readFields, hcontract]
  simp [FundingFields.dump, FundingFields.members, fieldText, fieldLiteral, fieldInt, fieldIntD,
    fieldLiteralD, List.lookup_cons, laxInt, h.session, h.consumer, h.endpoint, h.refund]

/-- A dumped account reads back as itself. -/
theorem modelValidate_dump {a : SessionFundingAccount} (h : a.Named) :
    modelValidate a.dump = .ok a := by
  have hhash : hashMatches a.dump "funding_state_hash" a.fundingStateHash = true := by
    simp [hashMatches, fieldOptText, FundingFields.dump, FundingFields.members, List.lookup_cons]
  rw [modelValidate, readFields_dump h]
  simp only [bind_eq_ok, require_eq_ok, pure_eq_ok, validateConservation_eq_ok, exists_and_left]
  exact ⟨a, rfl, hhash, (), rfl⟩

end SessionFundingAccount

/-- `_with_funding_updates`: the updated fields go through the validating constructor
again, without the stored hash. -/
def withFundingUpdates (funding : SessionFundingAccount)
    (updates : FundingFields → FundingFields) : Except PyError SessionFundingAccount :=
  SessionFundingAccount.validateConservation (updates funding.toFundingFields)

end AidnSpec.Ledger
