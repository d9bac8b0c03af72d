import AidnSpec.Ledger.RewardReserves
import AidnSpec.Ledger.SessionBooks
import Mathlib.Data.List.Induction

/-!
# Vesting and claim windows

`DEVELOPMENT_REWARD_PAY_MATURITY` looks at an epoch transition that opens the maturity epoch of its
stage (`ledger/service.py:4208–4225`). A stage that is marked unclaimed and then claimed reaches a
wallet without this check, and the claim window is compared with a transition that the claim names
itself (`4519–4529`), however many epochs were opened since.
-/

namespace AidnSpec.Ledger

open Base ConsensusOp List

/-! ## Credits -/

/-- A stage that is credited: where it comes from, what was calculated, and the wallet. -/
structure StageCredit where
  source : RewardSource
  payment : RewardPayment
  wallet : String

def RewardPaymentRecord.credit (r : RewardPaymentRecord) : StageCredit :=
  ⟨r.source, r.payment, r.walletAddress⟩

def RewardClaimRecord.credit (r : RewardClaimRecord) : StageCredit :=
  ⟨r.unclaimed.source, r.unclaimed.payment, r.binding.walletAddress⟩

section Credits

variable [Runtime] [LedgerRules]

/-- The credit that a payment or a claim is validated for. -/
def validateCredit (kind : PaymentKind) (env : Envelope) (finalized : FinalizedIds)
    (L : LedgerState) : Except PyError StageCredit := do
  match kind with
  | .payImmediate =>
    let record ← validateRewardPay .payImmediate env finalized L
    return record.credit
  | .payMaturity =>
    let record ← validateRewardPay .payMaturity env finalized L
    return record.credit
  | .claim =>
    let record ← validateRewardClaim env finalized L
    return record.credit

/-- The operation is applied and credits the stage. -/
def ConsensusOp.Credits (op : ConsensusOp) (L : LedgerState) (credit : StageCredit) : Prop :=
  ∃ kind env finalized, op = .developmentPayment kind env finalized ∧
    (∃ record L', op.apply L = .ok record L') ∧ validateCredit kind env finalized L = .ok credit

theorem ConsensusOp.Credits.validated {kind : PaymentKind} {env : Envelope}
    {finalized : FinalizedIds} {L : LedgerState} {credit : StageCredit}
    (h : (developmentPayment kind env finalized).Credits L credit) :
    validateCredit kind env finalized L = .ok credit := by
  obtain ⟨_, _, _, hop, -, hcredit⟩ := h
  cases hop
  exact hcredit

end Credits

/-! ## Epochs of a log and of a run -/

def LedgerOperationRecord.opens (r : LedgerOperationRecord) : Option Int :=
  if r.operationType == "EPOCH_TRANSITION" then some (r.payload.int "opening_epoch") else none

/-- The epochs that a log has opened. -/
def openings (operations : List LedgerOperationRecord) : List Int := operations.filterMap (·.opens)

/-- The epoch in which a stage matures; the immediate stage does not wait. -/
def RewardSchedule.maturityEpoch (s : RewardSchedule) : RewardStage → Option Nat
  | .immediate => none
  | .maturityStageOne => some s.maturityStageOneEpoch
  | .maturityStageTwo => some s.maturityStageTwoEpoch

theorem mem_openings_of_operationById {L : LedgerState} {operationId : String}
    {r : LedgerOperationRecord} {epoch : Int} (hr : L.operationById operationId = some r)
    (type : r.operationType = "EPOCH_TRANSITION")
    (opening : PyValue.get r.payload "opening_epoch" = .int epoch) :
    epoch ∈ openings L.operations := by
  have hmem : r ∈ L.operations := mem_reverse.mp (mem_of_find?_eq_some hr)
  apply mem_filterMap.mpr
  refine ⟨r, hmem, ?_⟩
  rw [LedgerOperationRecord.opens, type, beq_self_eq_true, if_pos rfl, Fields.int_of_get opening]

theorem openings_append (operations : List LedgerOperationRecord) (r : LedgerOperationRecord) :
    openings (operations ++ [r]) = openings operations ++ r.opens.toList := by
  rw [openings, filterMap_append]
  cases h : r.opens <;> simp [openings, h]

section Runs

variable [Runtime] [LedgerRules]

/-- A transition that opens the epoch was applied in the run. -/
def Opened (L : LedgerState) (ops : List ConsensusOp) (epoch : Int) : Prop :=
  ∃ pre env finalized post, ops = pre ++ .epochTransition env finalized :: post ∧
    (∃ record L', (epochTransition env finalized).apply (runOps L pre) =
      .ok record L') ∧ env.payload.int "opening_epoch" = epoch

omit [Runtime] in
/-- An epoch transition raises and changes nothing, or records its envelope. -/
theorem applyEpochTransition_cases (env : Envelope) (finalized : FinalizedIds) (L : LedgerState) :
    (∃ e, applyEpochTransition env finalized L = .error e L) ∨
      ∃ record L', applyEpochTransition env finalized L = .ok record L' ∧
        openings L'.operations = openings L.operations ++ [env.payload.int "opening_epoch"] := by
  cases h : applyEpochTransition env finalized L with
  | error e L' =>
    refine .inl ⟨e, ?_⟩
    rcases applyConsensus_eq_error.mp h with ⟨-, rfl⟩ | ⟨-, -, -, rfl⟩ | ⟨v, r, L₁, -, -, he⟩
    · rfl
    · rfl
    · cases he
  | ok record L' =>
    obtain ⟨v, L₁, hv, ha, he⟩ := applyConsensus_eq_ok.mp h
    cases he
    obtain ⟨next, -, -, rfl⟩ := admitEnvelope_eq_ok.mp ha
    refine .inr ⟨record, _, rfl, ?_⟩
    have htype : env.operationType = "EPOCH_TRANSITION" := mem_singleton.mp (type_of_ok hv)
    show openings (L.operations ++ [admittedRecord L env ["EpochTransition"] next]) = _
    rw [openings_append]
    show _ ++ Option.toList (if env.operationType == "EPOCH_TRANSITION" then _ else _) = _
    rw [htype]
    rfl

/-- Only a transition opens an epoch. -/
theorem openings_after_other {op : ConsensusOp} (L : LedgerState)
    (hop : ∀ env finalized, op ≠ .epochTransition env finalized) :
    openings (op.after L).operations = openings L.operations := by
  rw [op.after_eq_leaves]
  rcases op.records L with hkept | ⟨events, next, htype, -, hcore⟩
  · rw [show (leaves op.apply L).operations = L.operations from
      congrArg LedgerCore.operations hkept]
  · rw [show (leaves op.apply L).operations =
      L.operations ++ [admittedRecord L op.envelope events next] from
        congrArg LedgerCore.operations hcore, openings_append]
    have hnone : (admittedRecord L op.envelope events next).opens = none := by
      apply if_neg
      rw [beq_iff_eq]
      intro heq
      have hmem : "EPOCH_TRANSITION" ∈ op.operationTypes :=
        (show op.envelope.operationType = "EPOCH_TRANSITION" from heq) ▸ htype
      obtain ⟨finalized, hop'⟩ := op.eq_of_operationTypes.2.2 hmem
      exact hop op.envelope finalized hop'
    rw [hnone]
    exact append_nil _

theorem opened_append (L : LedgerState) (ops : List ConsensusOp) (op : ConsensusOp) (epoch : Int) :
    Opened L (ops ++ [op]) epoch ↔ Opened L ops epoch ∨
      ∃ env finalized, op = .epochTransition env finalized ∧
        (∃ record L', op.apply (runOps L ops) = .ok record L') ∧
        env.payload.int "opening_epoch" = epoch := by
  constructor
  · rintro ⟨pre, env, finalized, post, hops, happly, hepoch⟩
    rcases eq_nil_or_concat post with rfl | ⟨post', last, rfl⟩
    · obtain ⟨rfl, hlast⟩ := append_inj' hops rfl
      cases hlast
      exact .inr ⟨env, finalized, rfl, happly, hepoch⟩
    · rw [concat_eq_append, ← cons_append, ← append_assoc] at hops
      obtain ⟨rfl, -⟩ := append_inj' hops rfl
      exact .inl ⟨pre, env, finalized, post', rfl, happly, hepoch⟩
  · rintro (⟨pre, env, finalized, post, rfl, happly, hepoch⟩ | ⟨env, finalized, rfl, happly,
    hepoch⟩)
    · exact ⟨pre, env, finalized, post ++ [op], by simp, happly, hepoch⟩
    · exact ⟨ops, env, finalized, [], rfl, happly, hepoch⟩

variable {L : LedgerState} {op : StageOperation} {payload : Fields} {payment : RewardPayment}
  {env : Envelope} {finalized : FinalizedIds} {schedule : RewardSchedule} {epoch : Nat}
  {credit : StageCredit}

/-- The log of a run holds the epochs that the run opened. -/
theorem mem_openings_runOps (hL : openings L.operations = []) (ops : List ConsensusOp)
    (epoch : Int) : epoch ∈ openings (runOps L ops).operations ↔ Opened L ops epoch := by
  induction ops using List.reverseRecOn generalizing epoch with
  | nil =>
    show epoch ∈ openings L.operations ↔ _
    rw [hL]
    constructor
    · exact fun h => absurd h not_mem_nil
    · rintro ⟨pre, env, finalized, post, hops, -⟩
      simp at hops
  | append_singleton ops op ih =>
    rw [opened_append, runOps_append, ← ih]
    show epoch ∈ openings (op.after (runOps L ops)).operations ↔ _
    by_cases hop : ∃ env finalized, op = .epochTransition env finalized
    · obtain ⟨env, finalized, rfl⟩ := hop
      rcases applyEpochTransition_cases env finalized (runOps L ops) with
        ⟨e, happly⟩ | ⟨record, L', happly, hopenings⟩
      · rw [@ConsensusOp.after_of_error _ _ (.epochTransition env finalized) _ _ _ happly]
        refine (or_iff_left ?_).symm
        rintro ⟨-, -, -, ⟨record, L', hok⟩, -⟩
        cases happly.symm.trans hok
      · rw [@ConsensusOp.after_of_ok _ _ (.epochTransition env finalized) _ _ _ happly, hopenings,
          mem_append, mem_singleton]
        refine or_congr_right ⟨?_, ?_⟩
        · rintro rfl
          exact ⟨env, finalized, rfl, ⟨record, L', happly⟩, rfl⟩
        · rintro ⟨env', finalized', heq, -, hepoch⟩
          cases heq
          exact hepoch.symm
    · rw [openings_after_other _ fun env finalized h => hop ⟨env, finalized, h⟩]
      refine (or_iff_left ?_).symm
      rintro ⟨env, finalized, heq, -⟩
      exact hop ⟨env, finalized, heq⟩

/-- A condition on every step is one on every operation, where the run has come so far. -/
theorem eachStep_iff {P : ConsensusOp → LedgerState → Prop} {ops : List ConsensusOp} :
    EachStep P L ops ↔ ∀ pre op post, ops = pre ++ op :: post → P op (runOps L pre) := by
  constructor
  · rintro h pre op post rfl
    exact h.append.2.1
  · intro h
    induction ops generalizing L with
    | nil => exact trivial
    | cons op ops ih =>
      refine ⟨h [] op ops rfl, ih fun pre op' post hops => ?_⟩
      exact h (op :: pre) op' post (by rw [hops, cons_append])

/-! ## The checks of the two paths -/

omit [LedgerRules] in
theorem payloadPayment_stage {amount : Int} {reserve : RewardReserve}
    (h : payloadPayment op payload amount reserve = .ok payment) : payment.stage ∈ op.stages := by
  simp only [payloadPayment, checks_eq_ok, exists_unit, Bool.and_eq_true,
    contains_iff_mem] at h
  obtain ⟨p, -, -, -, hstage, h⟩ := h
  split at h
  all_goals
    simp only [checks_eq_ok, exists_unit] at h
    obtain ⟨-, -, rfl⟩ := h
    exact hstage.2

/-- What a checked stage has read: the evidence, its payment and its schedule. -/
theorem validateRewardStage_reads {stage : ValidatedStage}
    (h : validateRewardStage op env finalized L = .ok stage) :
    stage.payment.stage ∈ op.stages ∧ ∃ evidence schedule,
      calculationPayload op.operationType env finalized L = .ok evidence ∧
      evidence.schedules.find? (·.rewardId == stage.payment.rewardId) = some schedule ∧
      (op = .payMaturity → ∃ u, requireMatured env.payload evidence schedule stage.payment L =
        .ok u) := by
  simp only [validateRewardStage, checks_eq_ok, guarded_eq_ok, Option.filter_eq_some_iff] at h
  obtain ⟨evidence, hevidence, _, -, _, -, amount, -, _, -, _, -, _, -, -, sources, -, payment,
    hpayment, schedule, ⟨hfound, -⟩, hmatured, h⟩ := h
  have hstage : stage.payment = payment := by
    split at h
    all_goals
      simp only [checks_eq_ok] at h
      obtain ⟨-, -, -, -, rfl⟩ := h
      rfl
  rw [hstage]
  exact ⟨payloadPayment_stage hpayment, evidence, schedule, hevidence, hfound,
    fun hop => ⟨_, hmatured hop⟩⟩

omit [Runtime] [LedgerRules] in
/-- A maturity payment names an opened epoch that has reached the maturity of its stage. -/
theorem requireMatured_opens {evidence : CalculationEvidence} {u : Unit}
    (h : requireMatured payload evidence schedule payment L = .ok u)
    (maturity : schedule.maturityEpoch payment.stage = some epoch) :
    ∃ opened ∈ openings L.operations, (epoch : Int) ≤ opened := by
  simp only [requireMatured, checks_eq_ok, requireTyped_eq_ok, exists_unit, decide_eq_true_eq] at h
  obtain ⟨source, ⟨hstored, htype⟩, opening, ⟨hopening, -⟩, hreached, -⟩ := h
  refine ⟨opening, mem_openings_of_operationById hstored htype hopening, ?_⟩
  cases hstage : payment.stage with
  | immediate =>
    rw [hstage] at maturity
    cases maturity
  | maturityStageOne | maturityStageTwo =>
    rw [hstage] at maturity hreached
    cases maturity
    exact hreached

/-- The evidence that the development operation carries. -/
def ConsensusOp.evidence : ConsensusOp → LedgerState → Except PyError CalculationEvidence
  | .developmentPayment .payImmediate env finalized, L =>
    calculationPayload "DEVELOPMENT_REWARD_PAY_IMMEDIATE" env finalized L
  | .developmentPayment .payMaturity env finalized, L =>
    calculationPayload "DEVELOPMENT_REWARD_PAY_MATURITY" env finalized L
  | .developmentPayment .claim env _, L => calculationPayload "DEVELOPMENT_REWARD_CLAIM" env none L
  | _, _ => raiseValue "DEVELOPMENT_REWARD_CALCULATION_OPERATION_INVALID"

/-- The schedule that the calculation of the operation has for a reward. -/
def ConsensusOp.Schedules (op : ConsensusOp) (L : LedgerState) (rewardId : String)
    (schedule : RewardSchedule) : Prop :=
  ∃ evidence, op.evidence L = .ok evidence ∧
    evidence.schedules.find? (·.rewardId == rewardId) = some schedule

/-- A maturity payment comes after a transition that opens the maturity epoch of its stage. -/
theorem matured_of_payMaturity (h : validateCredit .payMaturity env finalized L = .ok credit)
    (hschedule : (developmentPayment .payMaturity env finalized).Schedules L
      credit.payment.rewardId schedule)
    (maturity : schedule.maturityEpoch credit.payment.stage = some epoch) :
    ∃ opened ∈ openings L.operations, (epoch : Int) ≤ opened := by
  simp only [validateCredit, validateRewardPay, checks_eq_ok] at h
  obtain ⟨record, ⟨stage, hstage, rfl⟩, rfl⟩ := h
  obtain ⟨-, evidence, schedule', hevidence, hfound, hmatured⟩ := validateRewardStage_reads hstage
  obtain ⟨evidence', hevidence', hfound'⟩ := hschedule
  cases hevidence.symm.trans hevidence'
  cases hfound.symm.trans hfound'
  obtain ⟨u, hmatured⟩ := hmatured rfl
  exact requireMatured_opens hmatured maturity

/-- The record of the transition that a claim names. -/
def sourceTransition (env : Envelope) (L : LedgerState) : Option LedgerOperationRecord :=
  L.operationById (env.payload.text "source_epoch_transition_operation_id")

/-- A claim that passes is of a stored unclaimed record, in a window that the transition which it
names opens no epoch after. -/
theorem claim_opens (h : validateCredit .claim env finalized L = .ok credit) :
    ∃ r named u, sourceTransition env L = some r ∧ r.opens = some named ∧
      named ∈ openings L.operations ∧
      L.development.rewardUnclaimedRecords.get? (env.payload.text "unclaimed_id") = some u ∧
      credit.payment = u.payment ∧ named ≤ u.claimExpirationEpoch := by
  simp only [validateCredit, validateRewardClaim, checks_eq_ok] at h
  obtain ⟨record, ⟨evidence, -, _, -, amount, -, claimEpoch, -, _, -, _, -, _, -, _, -, _, -,
    sources,
    -, unclaimed, hunclaimed, _, hepoch, binding, -, _, -, _, -, _, -, _, -, rfl⟩, rfl⟩ := h
  simp only [requireClaimEpoch, checks_eq_ok, requireTyped_eq_ok, exists_unit, beq_iff_eq,
    decide_eq_true_eq] at hepoch
  obtain ⟨source, ⟨hstored, htype⟩, opening, ⟨hopening, rfl⟩, -, hexpires⟩ := hepoch
  refine ⟨source, opening, unclaimed, hstored, ?_,
    mem_openings_of_operationById hstored htype hopening, (claimedRecord_spec hunclaimed).1, rfl,
    hexpires⟩
  rw [LedgerOperationRecord.opens, htype, beq_self_eq_true, if_pos rfl, Fields.int_of_get hopening]

/-! ## The windows -/

/-- What vesting and claim windows ask of an operation that is applied after a part of a run:
a stage is credited after the epoch in which it matures was opened, and a claim is not accepted
once an epoch after the claim window was. -/
structure RespectsWindows (L : LedgerState) (pre : List ConsensusOp) (op : ConsensusOp) :
    Prop where
  vested : ∀ credit schedule epoch, op.Credits (runOps L pre) credit →
    op.Schedules (runOps L pre) credit.payment.rewardId schedule →
    schedule.maturityEpoch credit.payment.stage = some epoch →
    ∃ opened, Opened L pre opened ∧ (epoch : Int) ≤ opened
  claimed : ∀ env finalized credit u, op = .developmentPayment .claim env finalized →
    op.Credits (runOps L pre) credit →
    (runOps L pre).development.rewardUnclaimedRecords.get? (env.payload.text "unclaimed_id") =
      some u → ∀ opened, Opened L pre opened → opened ≤ u.claimExpirationEpoch

/-- A claim names the transition to the latest epoch of the log, and the stage of the unclaimed
record that it names has matured by then. -/
structure InTime (op : ConsensusOp) (env : Envelope) (L : LedgerState) (named : Int) : Prop where
  latest : ∀ opened ∈ openings L.operations, opened ≤ named
  matured : ∀ u schedule epoch,
    L.development.rewardUnclaimedRecords.get? (env.payload.text "unclaimed_id") = some u →
    op.Schedules L u.payment.rewardId schedule →
    schedule.maturityEpoch u.payment.stage = some epoch → (epoch : Int) ≤ named

/-- The operation is no claim, or it is one in time; a claim that names no transition is free. -/
def ConsensusOp.ClaimsInTime (op : ConsensusOp) (L : LedgerState) : Prop :=
  ∀ env finalized r named, op = .developmentPayment .claim env finalized →
    sourceTransition env L = some r → r.opens = some named → InTime op env L named

/-- By the latest epoch the check of the claim window is the one that is asked for. -/
theorem respectsWindows_of_inTime (hL : openings L.operations = []) {pre : List ConsensusOp}
    {op : ConsensusOp} (h : op.ClaimsInTime (runOps L pre)) : RespectsWindows L pre op := by
  have hopened := mem_openings_runOps hL pre
  constructor
  · intro credit schedule epoch hcredits hschedule hmaturity
    obtain ⟨kind, env, finalized, rfl, -, hcredit⟩ := hcredits
    cases kind with
    | payImmediate =>
      -- the stage is the immediate one, which has no maturity epoch
      simp only [validateCredit, validateRewardPay, checks_eq_ok] at hcredit
      obtain ⟨record, ⟨stage, hstage, rfl⟩, rfl⟩ := hcredit
      have himmediate := mem_singleton.mp (validateRewardStage_reads hstage).1
      replace hmaturity : schedule.maturityEpoch stage.payment.stage = some epoch := hmaturity
      rw [himmediate] at hmaturity
      cases hmaturity
    | payMaturity =>
      obtain ⟨opened, hmem, hreached⟩ := matured_of_payMaturity hcredit hschedule hmaturity
      exact ⟨opened, (hopened opened).mp hmem, hreached⟩
    | claim =>
      obtain ⟨r, named, u, hstored, hopens, hmem, hu, hpayment, -⟩ := claim_opens hcredit
      rw [hpayment] at hschedule hmaturity
      have hinTime := h env finalized r named rfl hstored hopens
      exact ⟨named, (hopened named).mp hmem,
        hinTime.matured u schedule epoch hu hschedule hmaturity⟩
  · rintro env finalized credit u rfl hcredits hu opened hopens
    obtain ⟨r, named, u', hstored, hnamed, -, hu', -, hexpires⟩ := claim_opens hcredits.validated
    cases hu.symm.trans hu'
    have hinTime := h env finalized r named rfl hstored hnamed
    exact (hinTime.latest opened ((hopened opened).mpr hopens)).trans hexpires

/-- In a run from genesis whose claims are in time every operation respects the vesting and claim
windows. -/
theorem windows_respected (balances : Dict String Int) (manifest : Option Fields)
    {ops : List ConsensusOp} (h : EachStep ConsensusOp.ClaimsInTime (genesis balances manifest) ops)
    (pre : List ConsensusOp) (op : ConsensusOp) (post : List ConsensusOp)
    (hops : ops = pre ++ op :: post) : RespectsWindows (genesis balances manifest) pre op :=
  respectsWindows_of_inTime rfl (eachStep_iff.mp h pre op post hops)

end Runs

/-! ## A stage that is claimed before it matures and after its window -/

namespace PaidReward

def markId : String := "1fb6635894b6feae5ae0d75bba2311bed716fca73df4dffb075a6649be2d9493"

def secondId : String := "82359e745f8787e944fd4e64b51d6dcdebd5c0bf5fae950103ac5fbb65376aea"

def thirdId : String := "6bb86295b5a4be953f088e56378e3d3236b36d66c188e75afaa0574f82ffe5ad"

def claimId : String := "8ea5e0eb309fe9f8e803890eeb1ce5a959d4f6eaa649a1d642c0a39b6472c9ad"

def timelyId : String := "053ba5d93a47730ddd5b370d887c4f6253c85488ab97c73de93d2b76c6b332f8"

def sourceMembers : Fields :=
  [("calculation_operation_id", .str calculateId), ("pool_allocation_id",
    .str allocation.allocationId), ("pool_allocation_operation_id", .str allocateId), ("reserve_id",
    .str reserve.reserveId), ("reserve_operation_id", .str reserveId)]

/-- The second maturity stage of the reward, whose contributor has no wallet. -/
def unclaimedPayment : RewardPayment :=
  let unsigned : RewardPayment :=
    { rewardId := "reward-1", contributionId := "contribution-1", contributorId := "contributor-1"
      role := "AUTHOR", walletAddress := none, stage := .maturityStageTwo, amountQAtoms := 15
      state := .unclaimed, paymentHash := "" }
  { unsigned with paymentHash := unsigned.computeHash }

def markEnvelope : Envelope :=
  rewardEnvelope "DEVELOPMENT_REWARD_MARK_UNCLAIMED" markId (calculationMembers ++ (sourceMembers ++
    [("reward_id", .str "reward-1"), ("contributor_id", .str "contributor-1"),
      ("role", .str "AUTHOR"), ("payment_hash", .str unclaimedPayment.paymentHash),
      ("payment_stage", .str "MATURITY_STAGE_TWO"), ("amount_q_atoms", .int 15),
      ("reward_payment", unclaimedPayment.toValue)]))

def unclaimed : RewardUnclaimedRecord where
  source := payloadSource markEnvelope.payload evidence
  payment := unclaimedPayment
  distributionEpoch := 0
  claimExpirationEpoch := 8

def epochEnvelope (closing : Int) (operationId : String) : Envelope where
  operationType := "EPOCH_TRANSITION"
  originType := .protocol
  initiatorId := some "epoch-authority"
  feeClass := .protocolSponsored
  createdAt := "2026-01-01T00:00:00Z"
  targetEpoch := some (toString closing)
  payload :=
    [("closing_epoch", .int closing), ("opening_epoch", .int (closing + 1)), ("closing_state_root",
      .str "state"), ("epoch_task_result_root", .str "tasks"), ("eligibility_snapshot_root",
      .str "eligible"), ("reward_calculation_root", .str "rewards"),
      ("next_protocol_parameters_hash", .str "parameters"), ("pool_budgets", .dict [])]
  operationId := operationId

def bindingMembers : Fields :=
  [("binding_id", .str "sha256:1376717fa0defb991c3d53164aaed45bb5e7939c4ce6ba5326ed75900cb1ccff"),
    ("contributor_id", .str "contributor-1"),
    ("source_platform_account", .str "github:contributor-1"), ("wallet_address", .str "author"),
    ("wallet_public_key",
      .str "ed25519:d75a980182b10ab7d54bfed3c964073a0ee172f3daa62325af021a68f707511a"),
    ("challenge_id", .str "challenge-1"), ("challenge_hash", .str "challenge-hash-1"),
    ("wallet_signature",
      .str ("ed25519:f1875bccb26f254f8b09ec25d6f71b5ff852d6eb659289d49b8e368fac0839"
      ++ "9edc4d88874929236d00016883b874d4e68d57b3c20ff6faad86f1676139a3d20e")),
    ("source_platform_confirmation_hash", .str "confirmation-1"),
    ("valid_from", .str "2026-01-01T00:00:00Z"), ("binding_version", .int 1),
    ("binding_hash",
      .str "sha256:1376717fa0defb991c3d53164aaed45bb5e7939c4ce6ba5326ed75900cb1ccff")]

def binding : WalletBinding where
  bindingId := "sha256:1376717fa0defb991c3d53164aaed45bb5e7939c4ce6ba5326ed75900cb1ccff"
  contributorId := "contributor-1"
  walletAddress := "author"
  bindingHash := "sha256:1376717fa0defb991c3d53164aaed45bb5e7939c4ce6ba5326ed75900cb1ccff"
  bindingVersion := 1

/-- The claim of the second maturity stage, in the epoch that a transition opened. -/
def claimEnvelope (operationId transition : String) (epoch : Int) : Envelope :=
  rewardEnvelope "DEVELOPMENT_REWARD_CLAIM" operationId (calculationMembers ++ (sourceMembers ++
    [("calculation_commitment_id", .str "commitment-1"),
      ("unclaimed_id", .str unclaimed.unclaimedId), ("unclaimed_operation_id", .str markId),
      ("reward_id", .str "reward-1"), ("contributor_id", .str "contributor-1"),
      ("contribution_id", .str "contribution-1"), ("recipient_wallet", .str "author"),
      ("role", .str "AUTHOR"), ("payment_hash", .str unclaimedPayment.paymentHash),
      ("payment_stage", .str "MATURITY_STAGE_TWO"), ("amount_q_atoms", .int 15),
      ("source_epoch_transition_operation_id", .str transition), ("claim_epoch", .int epoch),
      ("wallet_binding", .dict bindingMembers)]))

@[reducible] def claimRules : LedgerRules :=
  { rules with
    walletBinding := fun value =>
      if value == .dict bindingMembers then .ok binding
      else raiseValue "DEVELOPMENT_REWARD_WALLET_BINDING_INVALID" }

theorem calculates_claimRules : Calculates claimRules := ⟨fun _ _ _ => rfl, rfl⟩

def finalizedMark : List String := secondId :: markId :: finalized

def afterMark : LedgerState :=
  { afterReserve.admitted markEnvelope ["DevelopmentRewardMarkedUnclaimed"] none with
    development :=
      { poolAllocations := Dict.empty.set allocation.allocationId allocation
        rewardReserves := Dict.empty.set reserve.reserveId reserve
        rewardUnclaimedRecords := Dict.empty.set unclaimed.unclaimedId unclaimed } }

def afterSecond : LedgerState :=
  afterMark.admitted (epochEnvelope 7 secondId) ["EpochTransition"] none

def afterThird : LedgerState :=
  afterSecond.admitted (epochEnvelope 8 thirdId) ["EpochTransition"] none

/-- Claims find the allocation and the reserve. -/
theorem claimSource_reserved {payload : Fields} {L : LedgerState} (hL : Reserved L)
    (h : NamesSource payload) : claimSource payload evidence L = .ok (allocation, reserve) := by
  simp only [claimSource, requireCalculation, checks_eq_ok, requireTyped_eq_ok, exists_unit,
    h.payloadSource, Fields.text_of_get h.calculation]
  refine ⟨⟨_, ⟨hL.calculation, rfl⟩, by decide⟩, _, ⟨hL.allocation, rfl⟩, _, rfl, allocation, ?_,
    beq_self_eq_true _, _, ⟨hL.reserve, rfl⟩, _, rfl, reserve, ?_, beq_self_eq_true _,
    belongsTo_reserve, rfl⟩
  · rw [hL.allocations]
    exact Dict.get?_set_self ..
  · rw [hL.reserves]
    exact Dict.get?_set_self ..

/-- A ledger in which the marked stage can be claimed by the transition to an epoch. -/
structure Claimable (L : LedgerState) (transition : String) (epoch : Int) : Prop where
  reserved : Reserved L
  development : L.development = afterMark.development
  marked : L.operationById markId = afterMark.operationById markId
  opened : ∃ r, L.operationById transition = some r ∧ r.operationType = "EPOCH_TRANSITION" ∧
    PyValue.get r.payload "opening_epoch" = .int epoch
  finalized : transition ∈ finalizedMark
  window : 0 ≤ epoch ∧ epoch ≤ 8

theorem claimable_afterMark : Claimable afterMark transitionId 1 :=
  ⟨⟨rfl, rfl, rfl, rfl, rfl⟩, rfl, rfl, ⟨_, rfl, rfl, rfl⟩, by decide, by decide⟩

theorem claimable_afterSecond : Claimable afterSecond secondId 8 :=
  ⟨⟨rfl, rfl, rfl, rfl, rfl⟩, rfl, rfl, ⟨_, rfl, rfl, rfl⟩, by decide, by decide⟩

theorem claimable_afterThird : Claimable afterThird transitionId 1 :=
  ⟨⟨rfl, rfl, rfl, rfl, rfl⟩, rfl, rfl, ⟨_, rfl, rfl, rfl⟩, by decide, by decide⟩

variable {L : LedgerState} {operationId transition : String} {epoch : Int}

theorem namesSource_mark : NamesSource markEnvelope.payload := ⟨rfl, rfl, rfl, rfl, rfl⟩

theorem namesSource_claim :
    NamesSource (claimEnvelope operationId transition epoch).payload := ⟨rfl, rfl, rfl, rfl, rfl⟩

theorem validate_mark :
    letI := sampleRuntime
    letI := claimRules
    validateRewardMarkUnclaimed markEnvelope (some finalized) afterReserve = .ok unclaimed := by
  let _ := sampleRuntime
  let _ := claimRules
  have hcalc : calculationPayload "DEVELOPMENT_REWARD_MARK_UNCLAIMED" markEnvelope (some finalized)
      afterReserve = .ok evidence :=
    calculationPayload_rewardEnvelope calculates_claimRules _ _ _ (by decide) _ afterReserve
  have hmodel : RewardPayment.modelValidate (PyValue.get markEnvelope.payload "reward_payment") =
      some unclaimedPayment := by
    refine RewardPayment.modelValidate_toValue ?_ (by decide)
    simp only [forall_mem_cons]
    exact ⟨by decide, by decide, by decide, developmentHash_isEmpty _, by simp⟩
  have hpayment : payloadPayment .markUnclaimed markEnvelope.payload 15 reserve =
      .ok unclaimedPayment := by
    simp only [payloadPayment, hmodel, checks_eq_ok, exists_unit]
    refine ⟨unclaimedPayment, rfl, beq_self_eq_true _, ?_, by decide, rfl⟩
    have hhash : markEnvelope.payload.text "payment_hash" = unclaimedPayment.paymentHash := rfl
    rw [hhash, beq_self_eq_true]
    decide
  have hroom : requireStageRoom .markUnclaimed afterReserve.development
      (payloadSource markEnvelope.payload evidence) allocation reserve .maturityStageTwo 15 =
        .ok (50, 950) := by
    simp only [requireStageRoom, checks_eq_ok, exists_unit]
    rw [show (payloadSource markEnvelope.payload evidence).poolAllocationId =
      allocation.allocationId from rfl, reserved_allocation]
    exact ⟨rfl, rfl, rfl, rfl⟩
  have htexts : requireTexts markEnvelope.payload "DEVELOPMENT_REWARD_PAYMENT_FIELD_INVALID:"
      StageOperation.markUnclaimed.texts = .ok () := by
    rw [requireTexts_eq_ok]
    show ∀ key ∈ ["calculation_operation_id", "pool_allocation_id", "pool_allocation_operation_id",
      "reserve_id", "reserve_operation_id", "reward_id", "contributor_id", "role",
        "payment_hash"], _
    simp only [forall_mem_cons]
    exact ⟨by decide, Fields.hasText_of_get rfl (isBlank_developmentHash _), by decide,
      Fields.hasText_of_get rfl (isBlank_developmentHash _), by decide, by decide, by decide,
      by decide, Fields.hasText_of_get rfl (isBlank_developmentHash _), forall_mem_nil _⟩
  have hschedule : requireStored ((evidence.schedules.find? (·.rewardId ==
      unclaimedPayment.rewardId)).filter (·.scheduleHash == reserve.scheduleHash))
      "DEVELOPMENT_REWARD_PAYMENT_SCHEDULE_MISMATCH" = .ok schedule := by
    rw [requireStored_eq_ok, Option.filter_eq_some_iff]
    exact ⟨rfl, beq_self_eq_true _⟩
  simp only [validateRewardMarkUnclaimed, validateRewardStage, bind_eq_ok, pure_eq_ok,
    requireInt_eq_ok, StageOperation.operationType, hcalc, guarded_eq_ok, Except.ok.injEq,
    exists_eq_left']
  refine ⟨⟨payloadSource markEnvelope.payload evidence, unclaimedPayment, 50, 950, 0, 8⟩,
    ⟨(), htexts,
    (), by decide, 15, ⟨rfl, by decide⟩, (), by decide, (), by decide, (), by decide, (by simp), _,
    paymentSource_reserved reserved_afterReserve namesSource_mark, unclaimedPayment, hpayment,
      schedule,
    hschedule, (by simp), ?_⟩, (), rfl, rfl⟩
  rw [if_pos trivial]
  exact bind_eq_ok.mpr ⟨(), rfl, bind_eq_ok.mpr ⟨(50, 950), hroom, rfl⟩⟩

def claimRecord (operationId : String) (epoch : Int) : RewardClaimRecord where
  unclaimed := unclaimed
  claimOperationId := operationId
  unclaimedOperationId := markId
  claimEpoch := epoch
  binding := binding
  reserveRemainingQAtoms := 35
  poolRemainingQAtoms := 950

theorem eqv_str (text : String) : (PyValue.str text).eqv (.str text) = true := by
  unfold PyValue.eqv
  exact beq_self_eq_true text

theorem calculation_claim :
    letI := sampleRuntime
    letI := claimRules
    calculationPayload "DEVELOPMENT_REWARD_CLAIM" (claimEnvelope operationId transition epoch)
      none L = .ok evidence :=
  let _ := sampleRuntime
  let _ := claimRules
  calculationPayload_rewardEnvelope calculates_claimRules _ _ _ (by simp [sourceMembers]) _ L

theorem validate_claim (h : Claimable L transition epoch) :
    letI := sampleRuntime
    letI := claimRules
    validateRewardClaim (claimEnvelope operationId transition epoch) (some finalizedMark) L =
      .ok (claimRecord operationId epoch) := by
  let _ := sampleRuntime
  let _ := claimRules
  let env := claimEnvelope operationId transition epoch
  have hcalc : calculationPayload "DEVELOPMENT_REWARD_CLAIM" env none L = .ok evidence :=
    calculation_claim
  have hunclaimedId : env.payload.text "unclaimed_id" = unclaimed.unclaimedId := rfl
  have htexts : requireTexts env.payload "DEVELOPMENT_REWARD_CLAIM_FIELD_INVALID:"
      ["calculation_operation_id", "pool_allocation_id", "pool_allocation_operation_id",
        "reserve_id", "reserve_operation_id", "unclaimed_id", "unclaimed_operation_id", "reward_id",
        "contributor_id", "contribution_id", "recipient_wallet", "role", "payment_hash",
        "source_epoch_transition_operation_id"] = .ok () := by
    rw [requireTexts_eq_ok]
    simp only [forall_mem_cons]
    have htext : ∀ key text, PyValue.get env.payload key = .str text → isBlank text = false →
        env.payload.hasText key = true := fun _ _ => Fields.hasText_of_get
    have hnamed : ∀ id ∈ finalizedMark, isBlank id = false := by decide
    have hhash : ∀ value, isBlank (developmentHash value) = false := isBlank_developmentHash
    exact ⟨htext _ _ rfl (by decide), htext _ _ rfl (hhash _), htext _ _ rfl (by decide),
      htext _ _ rfl (hhash _), htext _ _ rfl (by decide), htext _ _ rfl (hhash _),
      htext _ _ rfl (by decide), htext _ _ rfl (by decide), htext _ _ rfl (by decide),
      htext _ _ rfl (by decide), htext _ _ rfl (by decide), htext _ _ rfl (by decide),
      htext _ _ rfl (hhash _), htext _ _ rfl (hnamed transition h.finalized), forall_mem_nil _⟩
  have hrecord : claimedRecord env.payload L = .ok unclaimed := by
    have hrepeated : matchesFields env.payload unclaimed.repeated = true := by
      unfold matchesFields
      rw [all_eq_true]
      show ∀ m ∈ [("reserve_id", PyValue.str reserve.reserveId), ("reserve_operation_id",
          .str reserveId),
        ("pool_allocation_id", .str allocation.allocationId),
        ("pool_allocation_operation_id", .str allocateId),
        ("calculation_operation_id", .str calculateId),
        ("calculation_commitment_id", .str "commitment-1"),
        ("calculation_root", .str "calculation-1"),
        ("reward_id", .str "reward-1"), ("contribution_id", .str "contribution-1"),
        ("contributor_id", .str "contributor-1"), ("role", .str "AUTHOR"),
        ("payment_hash", .str unclaimedPayment.paymentHash),
        ("payment_stage", .str "MATURITY_STAGE_TWO"), ("amount_q_atoms", .int 15)], _
      simp only [forall_mem_cons]
      exact ⟨eqv_str _, eqv_str _, eqv_str _, eqv_str _, eqv_str _, eqv_str _, eqv_str _, eqv_str _,
        eqv_str _, eqv_str _, eqv_str _, eqv_str _, eqv_str _,
        (by decide : (PyValue.int 15).eqv (.int 15) = true), forall_mem_nil _⟩
    have hmarked : matchesFields markEnvelope.payload (unclaimed.payment.stageFields ++
        [("reward_id", .str unclaimed.payment.rewardId)]) = true := by
      unfold matchesFields
      rw [all_eq_true]
      show ∀ m ∈ [("payment_hash", PyValue.str unclaimedPayment.paymentHash), ("payment_stage",
        .str "MATURITY_STAGE_TWO"), ("amount_q_atoms", .int 15), ("reward_id", .str "reward-1")], _
      simp only [forall_mem_cons]
      exact ⟨eqv_str _, eqv_str _, by decide, eqv_str _, forall_mem_nil _⟩
    simp only [claimedRecord, checks_eq_ok, requireTyped_eq_ok, exists_unit, hunclaimedId,
      h.development]
    exact ⟨unclaimed, Dict.get?_set_self .., rfl, hrepeated, beq_self_eq_true _, _, ⟨h.marked, rfl⟩,
      hmarked, _, rfl, by decide, rfl⟩
  have hbinding : readWalletBinding env.payload = .ok binding := by
    have hproof : LedgerRules.walletBinding (PyValue.get env.payload "wallet_binding") =
        .ok binding := if_pos (beq_self_eq_true (PyValue.dict bindingMembers))
    rw [readWalletBinding, hproof]
  have hroom : requireClaimRoom L.development
      (payloadSource env.payload evidence) allocation reserve .maturityStageTwo 15 =
        .ok (35, 950) := by
    simp only [requireClaimRoom, checks_eq_ok, exists_unit, h.development]
    rw [show (payloadSource env.payload evidence).poolAllocationId =
      allocation.allocationId from rfl,
      show afterMark.development.reserved allocation.allocationId = 50 from reserved_allocation]
    exact ⟨rfl, rfl, rfl, rfl⟩
  have hsource : claimSource env.payload evidence L = .ok (allocation, reserve) :=
    claimSource_reserved h.reserved namesSource_claim
  obtain ⟨r, hstored, htype, hopening⟩ := h.opened
  have hfinal : ∀ key id, env.payload.text key = id → id ∈ finalizedMark →
      ((some finalizedMark).getD []).contains (env.payload.text key) = true := by
    rintro key _ rfl hmem
    exact contains_iff_mem.mpr hmem
  show validateRewardClaim env (some finalizedMark) L = _
  simp only [validateRewardClaim, checks_eq_ok, hcalc, Except.ok.injEq, exists_eq_left',
    hsource, hrecord, hbinding, htexts, exists_const, true_and, requireFinalizedText,
    requireClaimEpoch, requireTyped_eq_ok, h.development]
  refine ⟨15, ⟨rfl, by decide⟩, epoch, ⟨rfl, decide_eq_true h.window.1⟩,
    hfinal _ calculateId rfl (by decide), hfinal _ allocateId rfl (by decide),
    hfinal _ reserveId rfl (by decide), hfinal _ markId rfl (by decide),
    hfinal _ transition rfl h.finalized,
    ⟨r, ⟨hstored, htype⟩, epoch, ⟨hopening, beq_self_eq_true epoch⟩, decide_eq_true h.window.1,
      decide_eq_true h.window.2⟩, ?_⟩
  rw [h.development] at hroom
  exact ⟨rfl, rfl, rfl, (35, 950), hroom, rfl⟩

def markedOperations : List ConsensusOp :=
  [.epochTransition transitionEnvelope none, .rewardMint mintEnvelope finalized,
    .recorded .developmentRewardCalculate calculateEnvelope none,
    .development .poolAllocate allocateEnvelope (some finalized),
    .development .rewardReserve reserveEnvelope (some finalized),
    .development .rewardMarkUnclaimed markEnvelope (some finalized)]

/-- The transition to the epoch in which the stage matures and the claim window ends. -/
def secondTransition : ConsensusOp := .epochTransition (epochEnvelope 7 secondId) none

def thirdTransition : ConsensusOp := .epochTransition (epochEnvelope 8 thirdId) none

theorem runOps_markedOperations :
    letI := sampleRuntime
    letI := claimRules
    runOps (genesis .empty none) markedOperations = afterMark := by
  let _ := sampleRuntime
  let _ := claimRules
  have hmark : (ConsensusOp.development .rewardMarkUnclaimed markEnvelope (some finalized)).after
      afterReserve = afterMark := by
    rw [after_eq_leaves]
    refine leaves_applyConsensus (v := (_, ["DevelopmentRewardMarkedUnclaimed"])) ?_ (by decide) rfl
    exact bind_eq_ok.mpr ⟨(), rfl, bind_eq_ok.mpr ⟨unclaimed, validate_mark, rfl⟩⟩
  show runOps _ [_, _, _, _, _, _] = _
  simp only [runOps, after_transition, after_mint, after_calculate calculates_claimRules,
    after_allocate calculates_claimRules, after_reserve calculates_claimRules, hmark]

theorem runOps_secondTransition :
    letI := sampleRuntime
    letI := claimRules
    runOps (genesis .empty none) (markedOperations ++ [secondTransition]) = afterSecond := by
  let _ := sampleRuntime
  let _ := claimRules
  rw [runOps_append, runOps_markedOperations]
  show secondTransition.after afterMark = _
  rw [after_eq_leaves]
  exact leaves_applyConsensus (v := (7, 8)) (by decide) (by decide) rfl

theorem runOps_thirdTransition :
    letI := sampleRuntime
    letI := claimRules
    runOps (genesis .empty none) (markedOperations ++ [secondTransition, thirdTransition]) =
      afterThird := by
  let _ := sampleRuntime
  let _ := claimRules
  rw [append_cons, runOps_append, runOps_secondTransition]
  show thirdTransition.after afterSecond = _
  rw [after_eq_leaves]
  exact leaves_applyConsensus (v := (8, 9)) (by decide) (by decide) rfl

/-- The claim of the stage, finalized sources given. -/
def claimOf (operationId transition : String) (epoch : Int) : ConsensusOp :=
  .developmentPayment .claim (claimEnvelope operationId transition epoch) (some finalizedMark)

/-- The claim is applied, under the schedule of the reward. -/
theorem claim_credits (h : Claimable L transition epoch)
    (admits : Admits L (claimEnvelope operationId transition epoch) none) :
    letI := sampleRuntime
    letI := claimRules
    (claimOf operationId transition epoch).Credits L (claimRecord operationId epoch).credit ∧
      (claimOf operationId transition epoch).Schedules L "reward-1" schedule := by
  let _ := sampleRuntime
  let _ := claimRules
  have hclaim := @validate_claim L operationId transition epoch h
  have hvalid : validateDevelopmentPayment .claim (claimEnvelope operationId transition epoch)
      (some finalizedMark) L = .ok ⟨{ afterMark.development with
        rewardClaimRecords := L.development.rewardClaimRecords.set
          (claimRecord operationId epoch).claimId (claimRecord operationId epoch) },
          "author", 15⟩ := by
    rw [← h.development]
    exact bind_eq_ok.mpr ⟨(), rfl, bind_eq_ok.mpr ⟨_, hclaim, rfl⟩⟩
  refine ⟨⟨_, _, _, rfl, ?_, bind_eq_ok.mpr ⟨_, hclaim, rfl⟩⟩, evidence, calculation_claim, rfl⟩
  exact ⟨_, _, applyConsensus_eq_ok.mpr ⟨_, _, hvalid,
    admits.admitEnvelope ["DevelopmentRewardClaimed"], rfl⟩⟩

/-- Fifteen Q atoms that mature in the eighth epoch are claimed when only the first was opened. The
same claim, by the transition to the first epoch, is accepted after the ninth was opened, when the
claim window has ended with the eighth. -/
theorem unmatured_stage_claimed_late :
    letI := sampleRuntime
    letI := claimRules
    let claim := claimOf claimId transitionId 1
    let credit := (claimRecord claimId 1).credit
    let early := runOps (genesis .empty none) markedOperations
    let late := runOps (genesis .empty none)
      (markedOperations ++ [secondTransition, thirdTransition])
    (claim.Credits early credit ∧ claim.Schedules early credit.payment.rewardId schedule ∧
      schedule.maturityEpoch credit.payment.stage = some 8 ∧ openings early.operations = [1] ∧
      ¬ RespectsWindows (genesis .empty none) markedOperations claim) ∧
    (claim.Credits late credit ∧ late.development.rewardUnclaimedRecords.get?
        ((claimEnvelope claimId transitionId 1).payload.text "unclaimed_id") = some unclaimed ∧
      unclaimed.claimExpirationEpoch = 8 ∧ openings late.operations = [1, 8, 9] ∧
      ¬ RespectsWindows (genesis .empty none)
        (markedOperations ++ [secondTransition, thirdTransition]) claim) := by
  let _ := sampleRuntime
  let _ := claimRules
  have hopened := @mem_openings_runOps _ _ (genesis .empty none) rfl
  obtain ⟨hcredits, hschedule⟩ :=
    @claim_credits _ claimId _ _ claimable_afterMark (by decide)
  have hlate := (@claim_credits _ claimId _ _ claimable_afterThird (by decide)).1
  have hmarked : openings afterMark.operations = [1] := by decide
  have hthird : openings afterThird.operations = [1, 8, 9] := by decide
  have hunclaimed : afterThird.development.rewardUnclaimedRecords.get?
      ((claimEnvelope claimId transitionId 1).payload.text "unclaimed_id") = some unclaimed :=
    Dict.get?_set_self ..
  refine ⟨?_, ?_⟩
  · rw [runOps_markedOperations]
    refine ⟨hcredits, hschedule, rfl, hmarked, fun h => ?_⟩
    obtain ⟨opened, hopens, hreached⟩ := h.vested _ schedule 8
      (by rw [runOps_markedOperations]; exact hcredits)
      (by rw [runOps_markedOperations]; exact hschedule) rfl
    rw [← hopened, runOps_markedOperations, hmarked, mem_singleton] at hopens
    rw [hopens] at hreached
    exact absurd hreached (by decide)
  · rw [runOps_thirdTransition]
    refine ⟨hlate, hunclaimed, rfl, hthird, fun h => ?_⟩
    have hnine : Opened (genesis .empty none)
        (markedOperations ++ [secondTransition, thirdTransition]) 9 := by
      rw [← hopened, runOps_thirdTransition, hthird]
      decide
    have hwindow := h.claimed _ _ _ unclaimed rfl (by rw [runOps_thirdTransition]; exact hlate)
      (by rw [runOps_thirdTransition]; exact hunclaimed) 9 hnine
    exact absurd hwindow (by decide)

/-- The claim that names the transition to the eighth epoch is applied when the stage has matured
and no later epoch was opened, and the windows are respected. -/
theorem stage_claimed_in_time :
    letI := sampleRuntime
    letI := claimRules
    let claim := claimOf timelyId secondId 8
    let credit := (claimRecord timelyId 8).credit
    let before := runOps (genesis .empty none) (markedOperations ++ [secondTransition])
    claim.Credits before credit ∧ claim.Schedules before credit.payment.rewardId schedule ∧
      schedule.maturityEpoch credit.payment.stage = some 8 ∧
      unclaimed.claimExpirationEpoch = 8 ∧ openings before.operations = [1, 8] ∧
      RespectsWindows (genesis .empty none) (markedOperations ++ [secondTransition]) claim := by
  let _ := sampleRuntime
  let _ := claimRules
  have hadmits : Admits afterSecond (claimEnvelope timelyId secondId 8) none := by decide
  obtain ⟨hcredits, hschedule⟩ := claim_credits claimable_afterSecond hadmits
  have hopenings : openings afterSecond.operations = [1, 8] := by decide
  have hother : ∀ {op : ConsensusOp} {L : LedgerState},
      (∀ env finalized, op ≠ .developmentPayment .claim env finalized) → op.ClaimsInTime L :=
    fun h env finalized _ _ hop => absurd hop (h env finalized)
  have hinTime : (claimOf timelyId secondId 8).ClaimsInTime afterSecond := by
    rintro env finalized r named hop hsource hopens
    cases hop
    cases hsource
    cases hopens
    refine ⟨by rw [hopenings]; decide, fun u schedule' epoch hu hschedule' hmaturity => ?_⟩
    cases hu.symm.trans (Dict.get?_set_self ..)
    obtain ⟨evidence', hevidence, hfound⟩ := hschedule'
    cases calculation_claim.symm.trans hevidence
    cases hfound
    cases hmaturity
    decide
  have hrun : EachStep ConsensusOp.ClaimsInTime (genesis .empty none)
      (markedOperations ++ [secondTransition] ++ [claimOf timelyId secondId 8]) := by
    refine ⟨hother ?_, hother ?_, hother ?_, hother ?_, hother ?_, hother ?_, hother ?_, ?_,
      trivial⟩
    case refine_8 =>
      show ConsensusOp.ClaimsInTime _
        (runOps (genesis .empty none) (markedOperations ++ [secondTransition]))
      rw [runOps_secondTransition]
      exact hinTime
    all_goals
      intro env finalized hop
      cases hop
  refine ⟨?_, ?_, rfl, rfl, ?_, windows_respected .empty none hrun _ _ [] rfl⟩
  · rw [runOps_secondTransition]
    exact hcredits
  · rw [runOps_secondTransition]
    exact hschedule
  · rw [runOps_secondTransition]
    exact hopenings

end PaidReward

end AidnSpec.Ledger
