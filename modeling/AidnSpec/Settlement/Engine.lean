import AidnSpec.Base.Decimal
import AidnSpec.Ledger.Finalize

/-!
# The settlement engine

`settlement/service.py:28–464` and the declared models of `settlement/models.py` and
`accounting/models.py` that it reads: the charge of a request by its accounting terms, and the split
of a session's two reserves by the charges of its requests. The amounts of a split are integers
until the declared proposal and transition refuse negative ones.
-/

namespace AidnSpec.Settlement

open Base Ledger

/-- What an evaluation raises: a `SettlementError`, the `ValidationError` of a declared model, or
an exception of an arithmetic conversion. -/
inductive EngineError where
  | settlement (code message : String)
  | validation (message : String)
  | arithmetic (message : String)

/-- `if not condition: raise`. -/
def ensure (condition : Bool) (error : EngineError) : Except EngineError Unit :=
  if condition then .ok () else .error error

@[simp] theorem ensure_eq_ok {condition : Bool} {error : EngineError} {u : Unit} :
    ensure condition error = .ok u ↔ condition = true := by
  cases condition <;> simp [ensure]

/-- A declared `int` field with a lower bound. -/
def declaredNat (bound : ℕ) (n : Int) : Except EngineError ℕ :=
  if bound ≤ n then .ok n.toNat
  else .error (.validation s!"Input should be greater than or equal to {bound}")

@[simp] theorem declaredNat_eq_ok {bound k : ℕ} {n : Int} :
    declaredNat bound n = .ok k ↔ (bound : Int) ≤ n ∧ (k : Int) = n := by
  unfold declaredNat
  split
  · simp only [Except.ok.injEq]
    omega
  · simp only [reduceCtorEq, false_iff]
    omega

/-! ## Usage evidence -/

inductive UsageAvailability where
  | available
  | partially
  | unavailable
  | notApplicable
  deriving DecidableEq

inductive UsageAuthority where
  | authoritativeProvider
  | deterministicLocal
  | observableLocal
  | estimated
  deriving DecidableEq

/-- `AccountingValue`; a finite float is the decimal that `str` writes. -/
inductive AccountingValue where
  | none
  | bool (b : Bool)
  | int (n : Int)
  | float (written : Decimal)
  | nan
  | infinity (negative : Bool)
  | text (s : String)

structure UsageDimensionEvidence where
  dimensionId : String
  availability : UsageAvailability
  authority : Option UsageAuthority := none
  value : AccountingValue := .none
  billingEligible : Bool := false

/-! ## Accounting terms -/

/-- `UnavailableValuePolicy`, and `DISPUTE_REVIEW`. -/
inductive UnavailableValuePolicy where
  | requestRejectedBeforeExecution
  | fixedFallback
  | observableFallback
  | partialCharge
  | zeroVariableComponent
  | forcedSettlementReview
  | disputeReview
  deriving DecidableEq

structure SettlementChargeComponent where
  componentId : String
  dimensionId : Option String := none
  fixedAmount : Option ℕ := none
  unitPrice : ℕ := 0
  unitDivisor : ℕ := 1
  sourceValueScale : ℕ := 1
  rounding : Rounding := .down
  requiredAuthority : Option UsageAuthority := none
  unavailableValuePolicy : UnavailableValuePolicy := .requestRejectedBeforeExecution
  fallbackAmount : Option ℕ := none
  fallbackDimensionId : Option String := none
  divisor_pos : 0 < unitDivisor := by decide
  scale_pos : 0 < sourceValueScale := by decide

inductive RequestTerminalState where
  | completed
  | partially
  | cancelled
  | rejected
  | failed
  | expired
  | unrecoverable
  deriving DecidableEq

def RequestTerminalState.toText : RequestTerminalState → String
  | completed => "COMPLETED"
  | partially => "PARTIAL"
  | cancelled => "CANCELLED"
  | rejected => "REJECTED"
  | failed => "FAILED"
  | expired => "EXPIRED"
  | unrecoverable => "UNRECOVERABLE"

inductive TerminalChargeMode where
  | noCharge
  | accruedUsageOnly
  | fixedCharge
  | proportionalBps
  | fullCharge
  | disputeReview
  deriving DecidableEq

structure TerminalChargePolicy where
  mode : TerminalChargeMode
  fixedCharge : Option ℕ := none
  proportionalBasisPoints : Option ℕ := none

structure SettlementAccountingTerms where
  accountingContractHash : String
  components : List SettlementChargeComponent := []
  minimumCharge : ℕ := 0
  terminalPolicies : Dict RequestTerminalState TerminalChargePolicy := .empty
  components_nodup : (components.map (·.componentId)).Nodup := by decide

/-! ## Requests and their records -/

/-- `RequestSettlementInput`, as `_validate_usage_identity` leaves it. -/
structure RequestSettlementInput where
  sessionId : String
  requestId : String
  requestChargeCeiling : ℕ
  effectiveTermsHash : Option String := none
  accountingContractHash : String
  terminalState : RequestTerminalState
  resultReference : Option String := none
  finalUsageReportId : Option String := none
  finalUsageReportHash : Option String := none
  usageChainValid : Bool := true
  usageChainConflicted : Bool := false
  dimensions : List UsageDimensionEvidence := []
  minimumChargeEligible : Bool := true
  limitations : List String := []
  dimensions_nodup : (dimensions.map (·.dimensionId)).Nodup := by decide

structure BillableComponentResult where
  componentId : String
  dimensionId : Option String := none
  sourceValue : Option ℕ := none
  charge : ℕ
  disputed : Bool := false
  limitation : Option String := none

/-- `model_dump(mode="json")`. -/
def BillableComponentResult.toValue (x : BillableComponentResult) : PyValue :=
  .dict
    [("component_id", .str x.componentId), ("dimension_id", optText x.dimensionId), ("source_value",
      optNat x.sourceValue), ("charge_q_atoms", .int x.charge), ("disputed", .bool x.disputed),
      ("limitation", optText x.limitation)]

structure RequestSettlementRecord where
  sessionId : String
  requestId : String
  requestChargeCeiling : ℕ
  effectiveTermsHash : Option String
  accountingContractHash : String
  terminalState : RequestTerminalState
  resultReference : Option String
  finalUsageReportId : Option String
  finalUsageReportHash : Option String
  rawCalculatedCharge : ℕ
  policyAdjustedCharge : ℕ
  cappedRequestCharge : ℕ
  endpointAbsorbedAmount : ℕ
  disputedAmount : ℕ
  billableComponents : List BillableComponentResult := []
  nonbillableComponents : List String := []
  limitations : List String
  disputed : Bool
  capped_le : cappedRequestCharge ≤ requestChargeCeiling

namespace RequestSettlementRecord

/-- `model_dump(mode="json", exclude={"record_hash"})`. -/
def members (x : RequestSettlementRecord) : Fields :=
  [("session_id", .str x.sessionId), ("request_id", .str x.requestId),
    ("request_charge_ceiling_q_atoms", .int x.requestChargeCeiling),
    ("effective_terms_hash", optText x.effectiveTermsHash),
    ("accounting_contract_hash", .str x.accountingContractHash),
    ("terminal_state", .str x.terminalState.toText),
    ("result_reference", optText x.resultReference),
    ("final_usage_report_id", optText x.finalUsageReportId),
    ("final_usage_report_hash", optText x.finalUsageReportHash),
    ("raw_calculated_charge_q_atoms", .int x.rawCalculatedCharge),
    ("policy_adjusted_charge_q_atoms", .int x.policyAdjustedCharge),
    ("capped_request_charge_q_atoms", .int x.cappedRequestCharge),
    ("endpoint_absorbed_amount_q_atoms", .int x.endpointAbsorbedAmount),
    ("disputed_amount_q_atoms", .int x.disputedAmount),
    ("billable_components", .list (x.billableComponents.map (·.toValue))),
    ("nonbillable_components", .list (x.nonbillableComponents.map .str)),
    ("limitations", .list (x.limitations.map .str)),
    ("dispute_state", .str (if x.disputed then "DISPUTED" else "NONE"))]

def recordHash (x : RequestSettlementRecord) : String := canonicalHash (.dict x.members)

/-- `model_dump(mode="json")`. -/
def toValue (x : RequestSettlementRecord) : PyValue :=
  .dict (x.members ++ [("record_hash", .str x.recordHash)])

end RequestSettlementRecord

/-! ## The charge of a component -/

/-- What a component contributes to a request. -/
structure ComponentCharge where
  charge : ℕ
  sourceValue : Option ℕ
  limitation : Option String
  disputed : Bool

/-- A decimal times its scale, as an integer. -/
def scaleDecimal (value : Decimal) (dimensionId : String) (scale : ℕ) (rounding : Rounding) :
    Except EngineError ℕ :=
  match value.mul (.ofInt scale) with
  | none => .error (.arithmetic "decimal.Overflow")
  | some scaled =>
    if scaled.isNegative then
      .error (.settlement "SETTLEMENT_ACCOUNTING_FORMULA_INVALID"
        ("Billable dimension must be non-negative: " ++ dimensionId))
    else .ok (scaled.toIntegral rounding)

/-- `_scaled_integer_value`; `str` refuses an integer of more than 4300 digits. -/
def scaledIntegerValue (value : AccountingValue) (dimensionId : String) (scale : ℕ)
    (rounding : Rounding) : Except EngineError ℕ :=
  match value with
  | .none | .bool _ | .text _ =>
    .error (.settlement "SETTLEMENT_ACCOUNTING_FORMULA_INVALID"
      ("Billable dimension must be numeric: " ++ dimensionId))
  | .int n =>
    if 4300 < digitCount n.natAbs then
      .error (.settlement "SETTLEMENT_ACCOUNTING_FORMULA_INVALID"
        ("Billable dimension is invalid: " ++ dimensionId))
    else scaleDecimal (.ofInt n) dimensionId scale rounding
  | .float written => scaleDecimal written dimensionId scale rounding
  -- a comparison with `nan` signals, and an infinity has no integer
  | .nan => .error (.arithmetic "decimal.InvalidOperation")
  | .infinity true =>
    .error (.settlement "SETTLEMENT_ACCOUNTING_FORMULA_INVALID"
      ("Billable dimension must be non-negative: " ++ dimensionId))
  | .infinity false => .error (.arithmetic "cannot convert Infinity to integer")

/-- The evidence of a dimension; a request has one at most. -/
def findDimension (dimensions : List UsageDimensionEvidence) (dimensionId : Option String) :
    Option UsageDimensionEvidence :=
  dimensionId.bind fun i => dimensions.find? (·.dimensionId == i)

def meteredCharge (component : SettlementChargeComponent) (value : AccountingValue)
    (dimensionId : String) (limitation : Option String) : Except EngineError ComponentCharge := do
  let value ← scaledIntegerValue value dimensionId component.sourceValueScale component.rounding
  return ⟨roundRatio (value * component.unitPrice) component.unitDivisor component.rounding,
    some value, limitation, false⟩

/-- The evidence that `OBSERVABLE_FALLBACK` charges by instead. -/
def observableFallback (component : SettlementChargeComponent)
    (dimensions : List UsageDimensionEvidence) : Option UsageDimensionEvidence :=
  (findDimension dimensions component.fallbackDimensionId).filter fun fallback =>
    (fallback.availability == .available || fallback.availability == .partially) &&
      (fallback.authority == some .deterministicLocal ||
        fallback.authority == some .observableLocal) &&
      fallback.billingEligible

def fallbackComponent (component : SettlementChargeComponent)
    (dimensions : List UsageDimensionEvidence) (reason : String) :
    Except EngineError ComponentCharge :=
  match component.unavailableValuePolicy with
  | .zeroVariableComponent => .ok ⟨0, none, some reason, false⟩
  | .fixedFallback => .ok ⟨component.fallbackAmount.getD 0, none, some reason, false⟩
  | .observableFallback =>
    match observableFallback component dimensions with
    | some fallback =>
      meteredCharge component fallback.value fallback.dimensionId
        (some (reason ++ "; observable fallback applied"))
    | none => .ok ⟨0, none, some reason, true⟩
  | .partialCharge => .ok ⟨0, none, some (reason ++ "; no partial value available"), true⟩
  | .requestRejectedBeforeExecution | .forcedSettlementReview | .disputeReview =>
    .ok ⟨0, none, some reason, true⟩

def evaluateComponent (component : SettlementChargeComponent) (dimensionId : String)
    (dimensions : List UsageDimensionEvidence) : Except EngineError ComponentCharge :=
  match findDimension dimensions (some dimensionId) with
  | none => fallbackComponent component dimensions "Usage unavailable"
  | some dimension =>
    if dimension.availability = .unavailable ∨ dimension.availability = .notApplicable then
      fallbackComponent component dimensions "Usage unavailable"
    else if !dimension.billingEligible then
      .ok ⟨0, none, some "Dimension is diagnostic-only", true⟩
    else if component.requiredAuthority.isSome ∧
        dimension.authority ≠ component.requiredAuthority then
      fallbackComponent component dimensions "Usage authority mismatch"
    else if dimension.availability = .partially ∧
        component.unavailableValuePolicy ≠ .partialCharge then
      fallbackComponent component dimensions "Usage is partial"
    else meteredCharge component dimension.value dimensionId none

/-! ## The charge of a request -/

/-- The accumulators of the loop over the components. -/
structure Tally where
  results : List BillableComponentResult := []
  limitations : List String
  rawCharge : ℕ := 0
  disputed : Bool := false

/-- One pass of the loop over the components. -/
def Tally.add (dimensions : List UsageDimensionEvidence) (tally : Tally)
    (component : SettlementChargeComponent) : Except EngineError Tally :=
  match component.dimensionId with
  | none =>
    let charge := component.fixedAmount.getD 0
    .ok { tally with
      results := tally.results ++ [{ componentId := component.componentId, charge }]
      rawCharge := tally.rawCharge + charge }
  | some dimensionId => do
    let c ← evaluateComponent component dimensionId dimensions
    return {
      results := tally.results ++ [⟨component.componentId, some dimensionId, c.sourceValue,
        c.charge, c.disputed, c.limitation⟩]
      limitations := tally.limitations ++ (c.limitation.filter (!·.isEmpty)).toList
      rawCharge := tally.rawCharge + c.charge
      disputed := tally.disputed || c.disputed }

def terminalPolicy (request : RequestSettlementInput) (terms : SettlementAccountingTerms) :
    TerminalChargePolicy :=
  match terms.terminalPolicies.get? request.terminalState with
  | some policy => policy
  | none =>
    match request.terminalState with
    | .completed => { mode := .fullCharge }
    | .rejected => { mode := .noCharge }
    | _ => { mode := .disputeReview }

/-- `_apply_terminal_policy`: the adjusted charge, and whether it is disputed. -/
def applyTerminalPolicy (rawCharge : ℕ) (policy : TerminalChargePolicy) : ℕ × Bool :=
  match policy.mode with
  | .noCharge => (0, false)
  | .accruedUsageOnly | .fullCharge => (rawCharge, false)
  | .fixedCharge => (policy.fixedCharge.getD 0, false)
  | .proportionalBps =>
    (roundRatio (rawCharge * policy.proportionalBasisPoints.getD 0) 10000 .halfEven, false)
  | .disputeReview => (0, true)

/-- `_disputed_record`: the whole ceiling is in dispute. -/
def disputedRecord (request : RequestSettlementInput) (limitation : String) :
    RequestSettlementRecord where
  sessionId := request.sessionId
  requestId := request.requestId
  requestChargeCeiling := request.requestChargeCeiling
  effectiveTermsHash := request.effectiveTermsHash
  accountingContractHash := request.accountingContractHash
  terminalState := request.terminalState
  resultReference := request.resultReference
  finalUsageReportId := request.finalUsageReportId
  finalUsageReportHash := request.finalUsageReportHash
  rawCalculatedCharge := 0
  policyAdjustedCharge := 0
  cappedRequestCharge := 0
  endpointAbsorbedAmount := 0
  disputedAmount := request.requestChargeCeiling
  limitations := request.limitations ++ [limitation]
  disputed := true
  capped_le := Nat.zero_le _

/-- The dimensions of a request that no component bills, in order. -/
def nonbillable (request : RequestSettlementInput) (terms : SettlementAccountingTerms) :
    List String :=
  ((request.dimensions.map (·.dimensionId)).filter fun i =>
    !terms.components.any (·.dimensionId == some i)).mergeSort (· ≤ ·)

def chargedRecord (request : RequestSettlementInput) (terms : SettlementAccountingTerms)
    (effectiveTermsHash : String) (tally : Tally) : RequestSettlementRecord :=
  let (adjusted, policyDisputed) :=
    applyTerminalPolicy tally.rawCharge (terminalPolicy request terms)
  let disputed := tally.disputed || policyDisputed
  let adjusted :=
    if request.minimumChargeEligible ∧ 0 < adjusted ∧ policyDisputed = false then
      max adjusted terms.minimumCharge
    else adjusted
  let capped := min adjusted request.requestChargeCeiling
  { sessionId := request.sessionId
    requestId := request.requestId
    requestChargeCeiling := request.requestChargeCeiling
    effectiveTermsHash :=
      if effectiveTermsHash.isEmpty then request.effectiveTermsHash else some effectiveTermsHash
    accountingContractHash := request.accountingContractHash
    terminalState := request.terminalState
    resultReference := request.resultReference
    finalUsageReportId := request.finalUsageReportId
    finalUsageReportHash := request.finalUsageReportHash
    rawCalculatedCharge := tally.rawCharge
    policyAdjustedCharge := adjusted
    cappedRequestCharge := capped
    endpointAbsorbedAmount := adjusted - request.requestChargeCeiling
    disputedAmount := if disputed then request.requestChargeCeiling - capped else 0
    billableComponents := tally.results
    nonbillableComponents := nonbillable request terms
    limitations := tally.limitations
    disputed := disputed
    capped_le := Nat.min_le_right _ _ }

def evaluateRequest (request : RequestSettlementInput) (terms : SettlementAccountingTerms)
    (effectiveTermsHash : String) : Except EngineError RequestSettlementRecord := do
  ensure (request.accountingContractHash == terms.accountingContractHash)
    (.settlement "SETTLEMENT_ACCOUNTING_CONTRACT_MISMATCH"
      "Request and Settlement Accounting Contract hashes differ")
  if request.usageChainConflicted then
    return disputedRecord request "Usage chain conflict"
  else if !request.usageChainValid && request.finalUsageReportHash.isSome then
    return disputedRecord request "Usage chain is invalid"
  else
    let tally ← terms.components.foldlM (Tally.add request.dimensions)
      { limitations := request.limitations }
    return chargedRecord request terms effectiveTermsHash tally

/-! ## The evidence of a session -/

/-- The arguments of `evaluate_session` beside the funding account. -/
structure SessionEvidence where
  sessionContractHash : String
  effectiveTermsHash : String
  requestInputs : List RequestSettlementInput
  termsByHash : Dict String SettlementAccountingTerms
  maximumSessionCharge : Int
  actualNetworkFees : Int
  sessionCloseReference : String
  settlementSequence : Int := 1
  acceptedCheckpointReferences : List String := []
  disputeReferences : List String := []
  failureReferences : List String := []
  artifactCommitments : List String := []
  settlementMode : Option SettlementMode := none
  proposalExpiration : Option String := none

/-- One pass of the loop over the requests. -/
def evaluateInput (funding : SessionFundingAccount) (evidence : SessionEvidence)
    (request : RequestSettlementInput) : Except EngineError RequestSettlementRecord := do
  ensure (request.sessionId == funding.sessionId)
    (.settlement "SETTLEMENT_REQUEST_RECORD_INVALID" "Request belongs to another Session")
  ensure (request.effectiveTermsHash.all (· == evidence.effectiveTermsHash))
    (.settlement "SETTLEMENT_EFFECTIVE_TERMS_MISMATCH"
      "Request and Settlement Effective Terms hashes differ")
  match evidence.termsByHash.get? request.accountingContractHash with
  | none => .error (.settlement "SETTLEMENT_ACCOUNTING_CONTRACT_MISMATCH"
      "Settlement terms are unavailable")
  | some terms => evaluateRequest request terms evidence.effectiveTermsHash

def evaluateInputs (funding : SessionFundingAccount) (evidence : SessionEvidence) :
    Except EngineError (List RequestSettlementRecord) :=
  evidence.requestInputs.mapM (evaluateInput funding evidence)

structure SettlementInputSet where
  sessionId : String
  sessionContractHash : String
  effectiveTermsHash : String
  endpointPaymentBeneficiary : String
  consumerRefundBeneficiary : String
  fundingStateReference : String
  requestSettlementRecords : List RequestSettlementRecord
  acceptedCheckpointReferences : List String
  disputeReferences : List String
  failureReferences : List String
  artifactCommitments : List String
  sessionCloseReference : String
  records_nodup : (requestSettlementRecords.map (·.requestId)).Nodup

namespace SettlementInputSet

variable (x : SettlementInputSet)

def finalUsageChainHeads : Fields :=
  x.requestSettlementRecords.filterMap fun r =>
    r.finalUsageReportHash.map fun hash => (r.requestId, .str hash)

def requestSettlementRoot : String :=
  canonicalHash (.dict [("records", .list
    ((x.requestSettlementRecords.mergeSort fun a b => a.requestId ≤ b.requestId).map
      fun r => .str r.recordHash))])

def usageChainRoot : String := canonicalHash (.dict [("chain_heads", .dict x.finalUsageChainHeads)])

def checkpointRoot : String :=
  canonicalHash (.dict [("checkpoints",
    .list ((x.acceptedCheckpointReferences.mergeSort (· ≤ ·)).map .str))])

/-- `model_dump(mode="json", exclude={"settlement_input_root"})`. -/
def members : Fields :=
  [("session_id", .str x.sessionId), ("session_contract_hash", .str x.sessionContractHash),
    ("effective_terms_hash", .str x.effectiveTermsHash), ("endpoint_payment_beneficiary",
    .str x.endpointPaymentBeneficiary), ("consumer_refund_beneficiary",
    .str x.consumerRefundBeneficiary), ("funding_state_reference", .str x.fundingStateReference),
    ("request_settlement_records", .list (x.requestSettlementRecords.map (·.toValue))),
    ("request_settlement_root", .str x.requestSettlementRoot), ("final_usage_chain_heads",
    .dict x.finalUsageChainHeads), ("usage_chain_root", .str x.usageChainRoot),
    ("accepted_checkpoint_references", .list (x.acceptedCheckpointReferences.map .str)),
    ("checkpoint_root", .str x.checkpointRoot), ("dispute_references",
    .list (x.disputeReferences.map .str)), ("failure_references",
    .list (x.failureReferences.map .str)), ("artifact_commitments",
    .list (x.artifactCommitments.map .str)), ("session_close_reference",
    .str x.sessionCloseReference)]

def settlementInputRoot : String := canonicalHash (.dict x.members)

end SettlementInputSet

/-- The declared input set: its references are not empty, and a request has one record. -/
def declareInputSet (funding : SessionFundingAccount) (evidence : SessionEvidence)
    (records : List RequestSettlementRecord) : Except EngineError SettlementInputSet :=
  if h : (records.map (·.requestId)).Nodup then
    if [funding.sessionId, evidence.sessionContractHash, evidence.effectiveTermsHash,
        funding.endpointPaymentBeneficiary, funding.consumerRefundBeneficiary,
        evidence.sessionCloseReference].any (·.isEmpty) then
      .error (.validation "String should have at least 1 character")
    else .ok {
      sessionId := funding.sessionId
      sessionContractHash := evidence.sessionContractHash
      effectiveTermsHash := evidence.effectiveTermsHash
      endpointPaymentBeneficiary := funding.endpointPaymentBeneficiary
      consumerRefundBeneficiary := funding.consumerRefundBeneficiary
      fundingStateReference := funding.fundingStateHash
      requestSettlementRecords := records
      acceptedCheckpointReferences := evidence.acceptedCheckpointReferences
      disputeReferences := evidence.disputeReferences
      failureReferences := evidence.failureReferences
      artifactCommitments := evidence.artifactCommitments
      sessionCloseReference := evidence.sessionCloseReference
      records_nodup := h }
  else .error (.validation "Request Settlement Records must be unique")

/-! ## The split of the reserves -/

/-- The amounts that `evaluate_session` computes. -/
structure SessionSplit where
  grossCharge : Int
  cappedSessionCharge : Int
  sessionAbsorbed : Int
  finalEndpointPayment : Int
  requestedEndpointPayment : Int
  requestedDispute : Int
  disputeReserve : Int
  consumerPaymentRefund : Int
  consumerFeeRefund : Int
  additionalConsumerRefund : Int
  additionalNetworkFees : Int

/-- The session pays nothing whatever it used: `VALIDATION` and `FREE`. -/
def paysNothing (funding : SessionFundingAccount) : Bool :=
  funding.fundingClass == .validation || funding.fundingClass == .free

def paymentLimit (funding : SessionFundingAccount) : Int :=
  if funding.fundingClass = .trustedPostpaid then funding.postpaidCreditLimit
  else funding.endpointPaymentReserve

def grossCharge (records : List RequestSettlementRecord) : ℕ :=
  (records.map (·.cappedRequestCharge)).sum

def finalEndpointPayment (funding : SessionFundingAccount)
    (records : List RequestSettlementRecord) (maximum : Int) : Int :=
  if paysNothing funding then 0 else min (grossCharge records) maximum

def requestedDispute (funding : SessionFundingAccount) (records : List RequestSettlementRecord) :
    Int :=
  if paysNothing funding then 0 else ((records.map (·.disputedAmount)).sum : ℕ)

def availableDisputeReserve (funding : SessionFundingAccount)
    (records : List RequestSettlementRecord) (maximum : Int) : Int :=
  max 0 (funding.endpointPaymentReserve - finalEndpointPayment funding records maximum -
    funding.consumerPaymentRefund)

/-- The amounts of a session before their checks. -/
def sessionSplit (funding : SessionFundingAccount) (records : List RequestSettlementRecord)
    (maximum actualFees : Int) : SessionSplit :=
  let gross : Int := grossCharge records
  let final := finalEndpointPayment funding records maximum
  let requested := requestedDispute funding records
  let reserve := min requested (availableDisputeReserve funding records maximum)
  let paymentRefund := max 0 (funding.endpointPaymentReserve - final - reserve)
  let feeRefund := funding.networkFeeReserve - actualFees
  { grossCharge := gross
    cappedSessionCharge := min gross maximum
    sessionAbsorbed :=
      ((records.map (·.endpointAbsorbedAmount)).sum : ℕ) + max 0 (gross - maximum)
    finalEndpointPayment := final
    requestedEndpointPayment :=
      if funding.fundingClass = .trustedPostpaid then 0 else final - funding.releasedToEndpoint
    requestedDispute := requested
    disputeReserve := reserve
    consumerPaymentRefund := paymentRefund
    consumerFeeRefund := feeRefund
    additionalConsumerRefund := paymentRefund + feeRefund - funding.consumerPaymentRefund -
      funding.consumerFeeRefund
    additionalNetworkFees := actualFees - funding.consumedNetworkFees }

/-- The amounts of a session, checked against what the account already paid. -/
def splitSession (funding : SessionFundingAccount) (records : List RequestSettlementRecord)
    (maximum actualFees : Int) : Except EngineError SessionSplit := do
  let split := sessionSplit funding records maximum actualFees
  ensure (funding.releasedToEndpoint ≤ split.finalEndpointPayment)
    (.settlement "SETTLEMENT_DOUBLE_PAYMENT"
      "Previously released Endpoint Payment exceeds final charge")
  ensure (0 ≤ split.additionalConsumerRefund)
    (.settlement "SETTLEMENT_REFUND_INVALID"
      "Previously refunded amount exceeds final Consumer refund")
  ensure (0 ≤ split.additionalNetworkFees)
    (.settlement "SETTLEMENT_NETWORK_FEE_INVALID"
      "Previously consumed Network Fees exceed final fees")
  return split

def defaultMode (funding : SessionFundingAccount) (split : SessionSplit) : SettlementMode :=
  if funding.fundingClass = .validation then .validationZero
  else if funding.fundingClass = .free ∨
      (split.finalEndpointPayment = 0 ∧ split.disputeReserve = 0) then .cooperativeZero
  else if 0 < split.disputeReserve then .partialUndisputed
  else if funding.fundingClass = .trustedPostpaid then .postpaidObligation
  else .cooperativeFinal

/-! ## The evaluation of a session -/

structure SettlementEvaluation where
  inputSet : SettlementInputSet
  proposal : SessionSettlementProposal
  transition : AtomicSettlementTransition

/-- `settlement_id`. -/
def settlementIdOf (evidence : SessionEvidence) (inputSet : SettlementInputSet) : String :=
  canonicalHash (.dict
    [("session_id", .str inputSet.sessionId),
      ("settlement_sequence", .int evidence.settlementSequence),
      ("settlement_input_root", .str inputSet.settlementInputRoot)])

/-- The declared proposal: no amount is negative. -/
def declareProposal (funding : SessionFundingAccount) (evidence : SessionEvidence)
    (inputSet : SettlementInputSet) (split : SessionSplit) :
    Except EngineError SessionSettlementProposal := do
  let settlementSequence ← declaredNat 1 evidence.settlementSequence
  let grossSessionCharge ← declaredNat 0 split.grossCharge
  let cappedSessionCharge ← declaredNat 0 split.cappedSessionCharge
  let finalEndpointPayment ← declaredNat 0 split.finalEndpointPayment
  let requestedEndpointPayment ← declaredNat 0 split.requestedEndpointPayment
  let consumerPaymentRefund ← declaredNat 0 split.consumerPaymentRefund
  let actualNetworkFees ← declaredNat 0 evidence.actualNetworkFees
  let consumerFeeRefund ← declaredNat 0 split.consumerFeeRefund
  let disputedAmount ← declaredNat 0 split.requestedDispute
  let disputeReserve ← declaredNat 0 split.disputeReserve
  let endpointAbsorbedAmount ← declaredNat 0 split.sessionAbsorbed
  return {
    settlementId := settlementIdOf evidence inputSet
    settlementSequence
    sessionId := funding.sessionId
    settlementInputRoot := inputSet.settlementInputRoot
    requestSettlementRoot := inputSet.requestSettlementRoot
    usageChainRoot := inputSet.usageChainRoot
    checkpointRoot := inputSet.checkpointRoot
    grossSessionCharge, cappedSessionCharge, finalEndpointPayment, requestedEndpointPayment,
    consumerPaymentRefund, actualNetworkFees, consumerFeeRefund, disputedAmount, disputeReserve,
    endpointAbsorbedAmount
    settlementMode := evidence.settlementMode.getD (defaultMode funding split)
    proposalExpiration := evidence.proposalExpiration }

/-- The declared transition: it distributes the whole locked amount. -/
def declareTransition (funding : SessionFundingAccount) (settlementId : String)
    (split : SessionSplit) : Except EngineError AtomicSettlementTransition := do
  let previouslyReleasedToEndpoint ← declaredNat 0 funding.releasedToEndpoint
  let previouslyRefundedToConsumer ←
    declaredNat 0 (funding.consumerPaymentRefund + funding.consumerFeeRefund)
  let previouslyConsumedNetworkFees ← declaredNat 0 funding.consumedNetworkFees
  let creditEndpoint ← declaredNat 0 split.requestedEndpointPayment
  let creditConsumer ← declaredNat 0 split.additionalConsumerRefund
  let consumeNetworkFees ← declaredNat 0 split.additionalNetworkFees
  let retainDisputeReserve ← declaredNat 0 split.disputeReserve
  let postpaidObligation ← declaredNat 0
    (if funding.fundingClass = .trustedPostpaid then split.finalEndpointPayment else 0)
  let totalLockedAmount ← declaredNat 0 funding.totalLockedAmount
  if h : previouslyReleasedToEndpoint + previouslyRefundedToConsumer +
      previouslyConsumedNetworkFees + creditEndpoint + creditConsumer + consumeNetworkFees +
      retainDisputeReserve = totalLockedAmount then
    return {
      sessionId := funding.sessionId
      settlementId
      endpointPaymentBeneficiary := funding.endpointPaymentBeneficiary
      consumerRefundBeneficiary := funding.consumerRefundBeneficiary
      previouslyReleasedToEndpoint, previouslyRefundedToConsumer, previouslyConsumedNetworkFees,
      creditEndpoint, creditConsumer, consumeNetworkFees, retainDisputeReserve,
      postpaidObligation, totalLockedAmount
      conserved := h }
  else .error (.validation "atomic Settlement transition does not conserve locked funds")

def evaluateSession (funding : SessionFundingAccount) (evidence : SessionEvidence) :
    Except EngineError SettlementEvaluation := do
  ensure (evidence.maximumSessionCharge ≤ paymentLimit funding)
    (.settlement "SETTLEMENT_MAXIMUM_CHARGE_EXCEEDED"
      "Maximum Session Charge exceeds Endpoint Payment Reserve")
  ensure (evidence.actualNetworkFees ≤ funding.networkFeeReserve)
    (.settlement "SETTLEMENT_NETWORK_FEE_INVALID" "Network Fees exceed Network Fee Reserve")
  let records ← evaluateInputs funding evidence
  let inputSet ← declareInputSet funding evidence records
  let split ← splitSession funding records evidence.maximumSessionCharge evidence.actualNetworkFees
  let proposal ← declareProposal funding evidence inputSet split
  let transition ← declareTransition funding proposal.settlementId split
  return ⟨inputSet, proposal, transition⟩

end AidnSpec.Settlement
