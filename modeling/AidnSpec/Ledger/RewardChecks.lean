import AidnSpec.Ledger.Issuance

/-!
# What a reward operation has been checked for

One lemma for each validation of reward mints and development rewards: the facts about the stored
records that hold whenever it passes. Later modules cite these and never unfold a validation.
-/

namespace AidnSpec.Ledger

open Base

/-! ## Comparisons of payload members -/

variable {n : Int} {key : String} {payload : Fields}

theorem eqv_int {m : Int} (h : (PyValue.int n).eqv (.int m) = true) : n = m := by
  have h' : ((n : Rat) == (m : Rat)) = true := by simpa only [PyValue.eqv, PyValue.number?] using h
  exact_mod_cast beq_iff_eq.mp h'

theorem text_of_eqv {fields : Fields} {text : String}
    (h : (PyValue.get fields key).eqv (.str text) = true) : fields.text key = text := by
  unfold Fields.text
  revert h
  cases PyValue.get fields key <;> simp [PyValue.eqv, PyValue.number?]

theorem eqv_of_matchesFields {expected : Fields} {value : PyValue}
    (h : matchesFields payload expected = true) (hmem : (key, value) ∈ expected) :
    (PyValue.get payload key).eqv value = true :=
  List.all_eq_true.mp h (key, value) hmem

/-- A payload that repeats an unclaimed record repeats its amount. -/
theorem amount_of_repeated {unclaimed : RewardUnclaimedRecord}
    (h : matchesFields payload unclaimed.repeated = true)
    (hget : PyValue.get payload "amount_q_atoms" = .int n) :
    n = unclaimed.payment.amountQAtoms := by
  have hmem : ("amount_q_atoms", PyValue.int unclaimed.payment.amountQAtoms) ∈
      unclaimed.repeated := by
    simp [RewardUnclaimedRecord.repeated, RewardPayment.stageFields]
  have heqv := eqv_of_matchesFields h hmem
  rw [hget] at heqv
  exact eqv_int heqv

variable [Runtime] [LedgerRules] {env : Envelope} {finalized : FinalizedIds} {L : LedgerState}

/-! ## Sources -/

variable {complaint poolId : String} {source : RewardSource} {reserve : RewardReserve}
  {payload budgets : Fields} {allocation : PoolAllocation} {amount b : Int} {op : StageOperation}
  {unclaimed : RewardUnclaimedRecord} {payment : DevelopmentPayment}

section

omit [Runtime] [LedgerRules]

theorem requireTyped_eq_ok {operationId operationType : String}
    {operation : LedgerOperationRecord} :
    requireTyped L operationId operationType complaint = .ok operation ↔
      L.operationById operationId = some operation ∧ operation.operationType = operationType := by
  simp [requireTyped, Option.filter_eq_some_iff]

/-- The reserve that a stage is taken from: it is stored and belongs to the allocation that
the stage names. -/
structure DrawsOn (reserves : Dict String RewardReserve) (source : RewardSource)
    (reserve : RewardReserve) : Prop where
  stored : reserves.get? source.reserveId = some reserve
  allocation : reserve.poolAllocationId = source.poolAllocationId

theorem drawsOn_of_belongsTo {reserves : Dict String RewardReserve}
    (hget : reserves.get? source.reserveId = some reserve) (h : reserve.belongsTo source = true) :
    DrawsOn reserves source reserve := by
  simp only [RewardReserve.belongsTo, Bool.and_eq_true, beq_iff_eq, and_assoc] at h
  exact ⟨hget, h.1⟩

theorem paymentSource_spec {evidence : CalculationEvidence}
    (h : paymentSource payload evidence L = .ok (allocation, reserve)) :
    DrawsOn L.development.rewardReserves (payloadSource payload evidence) reserve := by
  simp only [paymentSource, checks_eq_ok, exists_and_left, exists_const, Prod.mk.injEq] at h
  obtain ⟨u, -, op, -, nested, -, -, a, -, op', -, nested', -, -, r, hr, hbelongs, -, rfl⟩ := h
  exact drawsOn_of_belongsTo hr hbelongs

end

/-! ## Mints -/

section

omit [Runtime] [LedgerRules]

theorem requireDict_eq_ok {fields members : Fields} {key : String} :
    requireDict fields key complaint = .ok members ↔ PyValue.get fields key = .dict members := by
  unfold requireDict
  cases PyValue.get fields key <;> simp [raiseValue]

/-- An epoch transition of the log grants a pool its budget. -/
def GrantsBudget (L : LedgerState) (transitionId poolId : String) (budget : Int) : Prop :=
  ∃ transition budgets, L.operationById transitionId = some transition ∧
    transition.operationType = "EPOCH_TRANSITION" ∧
    PyValue.get transition.payload "pool_budgets" = .dict budgets ∧
    PyValue.get budgets poolId = .int budget

/-- The latest operation of an identity has a reward calculation root. -/
def HasRoot (L : LedgerState) (transitionId root : String) : Prop :=
  ∃ transition, L.operationById transitionId = some transition ∧
    PyValue.get transition.payload "reward_calculation_root" = .str root

/-- What a mint has been checked for: its amount is positive and fits what earlier mints left of
the budget that its transition grants. -/
structure MintChecked (env : Envelope) (L : LedgerState) (amount minted budget : Int) : Prop where
  declared : PyValue.get env.payload "amount" = .int amount
  positive : 0 < amount
  transition : env.payload.hasText "calculation_operation_id" = true
  pool : env.payload.hasText "pool_id" = true
  root : env.payload.hasText "reward_calculation_root" = true
  rooted : HasRoot L (env.payload.text "calculation_operation_id")
    (env.payload.text "reward_calculation_root")
  granted : GrantsBudget L (env.payload.text "calculation_operation_id")
    (env.payload.text "pool_id") budget
  counted : alreadyMinted L (env.payload.text "pool_id")
    (env.payload.text "reward_calculation_root") = .ok minted
  room : minted + amount ≤ budget

theorem validateRewardMint_checked {ids : List String} {recipient : String}
    (h : validateRewardMint env ids L = .ok (recipient, amount)) :
    ∃ minted budget, MintChecked env L amount minted budget := by
  simp only [validateRewardMint, checks_eq_ok, Option.filter_eq_some_iff, exists_unit,
    decide_eq_true_eq, beq_iff_eq] at h
  obtain ⟨-, -, htexts, epoch, -, n, ⟨hget, hpos⟩, -, transition, ⟨hstored, htype⟩, hroot, h⟩ := h
  -- the epoch of the transition is compared only when it declares one
  have hrest : ∃ budgets, PyValue.get transition.payload "pool_budgets" = .dict budgets ∧
      ∃ budget, PyValue.get budgets (env.payload.text "pool_id") = .int budget ∧
      ∃ minted, alreadyMinted L (env.payload.text "pool_id")
        (env.payload.text "reward_calculation_root") = .ok minted ∧ minted + n ≤ budget ∧
        n = amount := by
    replace h := rest_of_guarded h
    simp only [checks_eq_ok, requireDict_eq_ok, exists_unit] at h
    obtain ⟨budgets, hbudgets, -, budget, ⟨hbudget, -⟩, h⟩ := h
    refine ⟨budgets, hbudgets, budget, hbudget, ?_⟩
    split at h
    all_goals
      simp only [checks_eq_ok, exists_unit, decide_eq_true_eq, Prod.mk.injEq] at h
    · obtain ⟨-, -, minted, hminted, hroom, -, rfl⟩ := h
      exact ⟨minted, hminted, hroom, rfl⟩
    · obtain ⟨-, minted, hminted, hroom, -, rfl⟩ := h
      exact ⟨minted, hminted, hroom, rfl⟩
  obtain ⟨budgets, hbudgets, budget, hbudget, minted, hminted, hroom, rfl⟩ := hrest
  refine ⟨minted, budget, hget, hpos, htexts _ (by simp), htexts _ (by simp), htexts _ (by simp),
    ⟨transition, hstored, hroot⟩, ⟨transition, budgets, hstored, htype, hbudgets, hbudget⟩, hminted,
    hroom⟩

/-- The budgets that an epoch transition grants are not negative. -/
theorem requirePoolBudgets_spec {u : Unit} (h : requirePoolBudgets payload = .ok u)
    (hbudgets : PyValue.get payload "pool_budgets" = .dict budgets)
    (hb : PyValue.get budgets poolId = .int b) : 0 ≤ b := by
  simp only [requirePoolBudgets, bind_eq_ok, requireDict_eq_ok] at h
  obtain ⟨budgets', hbudgets', _, hall, -⟩ := h
  rw [hbudgets] at hbudgets'
  cases hbudgets'
  have hmem : (poolId, PyValue.int b) ∈ budgets := by
    unfold PyValue.get at hb
    cases hlookup : budgets.lookup poolId with
    | none =>
      rw [hlookup] at hb
      cases hb
    | some v =>
      rw [hlookup] at hb
      have hv : v = .int b := hb
      exact hv ▸ mem_of_lookup hlookup
  obtain ⟨_, hone⟩ := forM_ok_of_mem hall hmem
  simp only [checks_eq_ok, decide_eq_true_eq] at hone
  obtain ⟨_, -, hnonneg⟩ := hone
  exact hnonneg

end

omit [Runtime] in
theorem validateEpochTransition_budgets {epochs : Int × Int}
    (h : validateEpochTransition env finalized L = .ok epochs)
    (hbudgets : PyValue.get env.payload "pool_budgets" = .dict budgets)
    (hb : PyValue.get budgets poolId = .int b) : 0 ≤ b := by
  simp only [validateEpochTransition, checks_eq_ok, guarded_eq_ok, exists_and_left,
    exists_const] at h
  obtain ⟨-, -, -, closing, -, opening, -, -, -, -, -, u, hpools, -⟩ := h
  exact requirePoolBudgets_spec hpools hbudgets hb

/-! ## Allocations and reserves -/

/-- An allocation is new and takes the whole budget of its pool. -/
theorem validatePoolAllocate_spec (h : validatePoolAllocate env finalized L = .ok allocation) :
    L.development.poolAllocations.get? allocation.allocationId = none ∧
      env.payload.text "source_epoch_transition_operation_id" =
        allocation.sourceEpochTransitionOperationId ∧
      env.payload.text "pool_id" = allocation.poolId ∧
      GrantsBudget L allocation.sourceEpochTransitionOperationId allocation.poolId
        allocation.allocatedQAtoms := by
  simp only [validatePoolAllocate, checks_eq_ok, requireDict_eq_ok, requireTyped_eq_ok,
    exists_and_left, exists_const, beq_iff_eq, decide_eq_true_eq] at h
  obtain ⟨evidence, -, -, -, -, -, amount, ⟨-, hpos⟩, _, -, _, -, _, -, source,
    ⟨hsource, htype⟩, -, budgets, hbudgets, -, budget, ⟨hbudget, -⟩, references, -, -, hamount, -,
    declared, -, -, hbinding, h⟩ := h
  split at h
  · simp [bind_eq_ok, raiseValue] at h
  · next hfresh =>
    cases h
    refine ⟨hfresh, ?_⟩
    rw [hbinding]
    refine ⟨rfl, rfl, source, budgets, hsource, htype, hbudgets, ?_⟩
    rw [hbudget, ← hamount, Int.toNat_of_nonneg (Int.le_of_lt hpos)]

/-- What a reserve has been checked for: it is new and fits what its allocation has left. -/
structure ReserveChecked (D : DevelopmentRecords) (reserve : RewardReserve)
    (allocation : PoolAllocation) : Prop where
  fresh : D.rewardReserves.get? reserve.reserveId = none
  stored : D.poolAllocations.get? reserve.poolAllocationId = some allocation
  room : D.reserved reserve.poolAllocationId - D.expired (ofAllocation reserve.poolAllocationId) +
    reserve.reservedQAtoms ≤ allocation.allocatedQAtoms

theorem validateRewardReserve_spec (h : validateRewardReserve env finalized L = .ok reserve) :
    ∃ allocation, ReserveChecked L.development reserve allocation := by
  simp only [validateRewardReserve, checks_eq_ok, exists_and_left, exists_const, beq_iff_eq] at h
  obtain ⟨evidence, -, -, -, -, -, _, -, _, -, _, -, operation, -, nested, -, -, allocation,
    hallocation, -, schedule, -, declared, -, -, -, -, -, hbinding, h⟩ := h
  have hsource : declared.1.poolAllocationId = env.payload.text "pool_allocation_id" := by
    rw [hbinding]
  rw [← hsource] at hallocation h
  split at h
  · simp [bind_eq_ok, raiseValue] at h
  · next hfresh =>
    simp only [checks_eq_ok, requireAllocationRoom, exists_and_left, exists_const, Bool.and_eq_true,
      decide_eq_true_eq] at h
    obtain ⟨⟨⟨-, hroom⟩, -⟩, rfl⟩ := h
    exact ⟨allocation, hfresh, hallocation, hroom⟩

/-! ## Payments and marks -/

/-- What a stage has been checked for before it is paid or marked. -/
structure StageChecked (env : Envelope) (D : DevelopmentRecords) (stage : ValidatedStage)
    (reserve : RewardReserve) : Prop where
  source : DrawsOn D.rewardReserves stage.source reserve
  amount : PyValue.get env.payload "amount_q_atoms" = .int stage.payment.amountQAtoms
  positive : 0 < stage.payment.amountQAtoms
  room : D.paid (ofStage stage.source.reserveId stage.payment.stage) +
      D.unclaimed (ofStage stage.source.reserveId stage.payment.stage) +
      stage.payment.amountQAtoms ≤ reserve.stageAmount stage.payment.stage

omit [Runtime] [LedgerRules] in
theorem requireStageRoom_spec {D : DevelopmentRecords} {stage : RewardStage} {remaining : Int × Int}
    (h : requireStageRoom op D source allocation reserve stage amount = .ok remaining) :
    D.paid (ofStage source.reserveId stage) + D.unclaimed (ofStage source.reserveId stage) +
      amount ≤ reserve.stageAmount stage := by
  simp only [requireStageRoom, checks_eq_ok, exists_unit, decide_eq_true_eq] at h
  exact h.2.1

omit [LedgerRules] in
theorem payloadPayment_amount {payment : RewardPayment}
    (h : payloadPayment op payload amount reserve = .ok payment) :
    (payment.amountQAtoms : Int) = amount := by
  simp only [payloadPayment, checks_eq_ok, exists_unit, Bool.and_eq_true, beq_iff_eq] at h
  obtain ⟨p, -, -, ⟨-, hamount⟩, -, h⟩ := h
  split at h
  all_goals
    simp only [checks_eq_ok, exists_unit] at h
    obtain ⟨-, -, rfl⟩ := h
    exact hamount

theorem validateRewardStage_spec {stage : ValidatedStage}
    (h : validateRewardStage op env finalized L = .ok stage) :
    ∃ reserve, StageChecked env L.development stage reserve ∧
      (op = .markUnclaimed → L.development.rewardUnclaimedRecords.get?
        (developmentRewardUnclaimedId stage.source.reserveId stage.payment.paymentHash
          stage.payment.stage) = none) ∧
      (op ≠ .markUnclaimed → L.development.rewardPaymentRecords.get?
        (developmentRewardPaymentId stage.source.reserveId stage.payment.paymentHash
          stage.payment.stage) = none) := by
  simp only [validateRewardStage, checks_eq_ok, guarded_eq_ok, decide_eq_true_eq] at h
  obtain ⟨evidence, -, _, -, _, -, amount, ⟨hget, hpos⟩, _, -, _, -, _, -, -, ⟨allocation, reserve⟩,
    hsource, payment, hpayment, schedule, -, -, h⟩ := h
  have hamount := payloadPayment_amount hpayment
  subst hamount
  refine ⟨reserve, ?_⟩
  -- a mark and a payment look for a duplicate in different collections
  split at h
  all_goals
    simp only [checks_eq_ok, exists_unit, Dict.not_contains] at h
    obtain ⟨hfresh, remaining, hroom, rfl⟩ := h
    refine ⟨⟨paymentSource_spec hsource, hget, by exact_mod_cast hpos,
      requireStageRoom_spec hroom⟩, ?_⟩
  · next hmark => exact ⟨fun _ => hfresh, fun hne => absurd hmark hne⟩
  · next hpay => exact ⟨fun hmark => absurd hmark hpay, fun _ => hfresh⟩

/-- A payment record is checked and new. -/
theorem validateRewardPay_spec (hop : op ≠ .markUnclaimed) {record : RewardPaymentRecord}
    (h : validateRewardPay op env finalized L = .ok record) :
    ∃ stage reserve, StageChecked env L.development stage reserve ∧
      record.source = stage.source ∧ record.payment = stage.payment ∧
      L.development.rewardPaymentRecords.get? record.paymentId = none := by
  simp only [validateRewardPay, checks_eq_ok] at h
  obtain ⟨stage, hstage, rfl⟩ := h
  obtain ⟨reserve, hchecked, -, hfresh⟩ := validateRewardStage_spec hstage
  exact ⟨stage, reserve, hchecked, rfl, rfl, hfresh hop⟩

/-- An unclaimed record is checked and new. -/
theorem validateRewardMarkUnclaimed_spec {record : RewardUnclaimedRecord}
    (h : validateRewardMarkUnclaimed env finalized L = .ok record) :
    ∃ stage reserve, StageChecked env L.development stage reserve ∧
      record.source = stage.source ∧ record.payment = stage.payment ∧
      L.development.rewardUnclaimedRecords.get? record.unclaimedId = none := by
  simp only [validateRewardMarkUnclaimed, checks_eq_ok, exists_unit] at h
  obtain ⟨stage, hstage, -, rfl⟩ := h
  obtain ⟨reserve, hchecked, hfresh, -⟩ := validateRewardStage_spec hstage
  exact ⟨stage, reserve, hchecked, rfl, rfl, hfresh rfl⟩

/-! ## Claims and expiries -/

/-- What a claim or an expiry has been checked for: the record it resolves is stored, and
nothing resolved it before. -/
structure Resolvable (env : Envelope) (D : DevelopmentRecords) (unclaimed : RewardUnclaimedRecord) :
    Prop where
  stored : D.rewardUnclaimedRecords.get? unclaimed.unclaimedId = some unclaimed
  amount : PyValue.get env.payload "amount_q_atoms" = .int unclaimed.payment.amountQAtoms
  positive : 0 < unclaimed.payment.amountQAtoms
  notClaimed : D.isClaimed unclaimed.unclaimedId = false
  notExpired : D.isExpired unclaimed.unclaimedId = false

omit [Runtime] [LedgerRules] in
theorem claimedRecord_spec (h : claimedRecord payload L = .ok unclaimed) :
    L.development.rewardUnclaimedRecords.get? (payload.text "unclaimed_id") = some unclaimed ∧
      L.development.isExpired (payload.text "unclaimed_id") = false ∧
      matchesFields payload unclaimed.repeated = true ∧
      unclaimed.unclaimedId = payload.text "unclaimed_id" := by
  simp only [claimedRecord, checks_eq_ok, exists_unit, beq_iff_eq, Bool.not_eq_true'] at h
  obtain ⟨u, hget, hexpired, hmatches, hid, op, -, -, marked, -, -, rfl⟩ := h
  exact ⟨hget, hexpired, hmatches, hid⟩

omit [Runtime] in
/-- A claim record is checked and new. -/
theorem validateRewardClaim_spec {record : RewardClaimRecord}
    (h : validateRewardClaim env finalized L = .ok record) :
    Resolvable env L.development record.unclaimed ∧
      L.development.rewardClaimRecords.get? record.claimId = none := by
  simp only [validateRewardClaim, bind_eq_ok, require_eq_ok, requireInt_eq_ok, pure_eq_ok,
    Bool.not_eq_true', decide_eq_true_eq, exists_and_left, exists_const] at h
  obtain ⟨evidence, -, _, -, amount, ⟨hget, hpos⟩, claimEpoch, -, _, -, _, -, _, -, _, -, _, -,
    sources, -, unclaimed, hunclaimed, _, -, binding, -, -, hclaimed, hfresh, remaining, -,
      rfl⟩ := h
  obtain ⟨hstored, hexpired, hmatches, hid⟩ := claimedRecord_spec hunclaimed
  have hamount := amount_of_repeated hmatches hget
  subst hamount
  rw [← hid] at hstored hexpired hclaimed hfresh
  refine ⟨⟨hstored, hget, by exact_mod_cast hpos, hclaimed, hexpired⟩, ?_⟩
  exact Dict.not_contains.mp (by rw [Bool.not_eq_true']; exact hfresh)

omit [Runtime] [LedgerRules] in
theorem expiredRecord_spec (h : expiredRecord payload L = .ok unclaimed) :
    L.development.rewardUnclaimedRecords.get? (payload.text "unclaimed_id") = some unclaimed ∧
      payload.text "unclaimed_id" = unclaimed.unclaimedId := by
  simp only [expiredRecord, checks_eq_ok, exists_unit] at h
  obtain ⟨u, hget, op, -, marked, -, -, hmatches, rfl⟩ := h
  exact ⟨hget, text_of_eqv (eqv_of_matchesFields hmatches (List.mem_cons_self ..))⟩

/-- An expiry record is checked and new. -/
theorem validateRewardExpireUnclaimed_spec {record : RewardExpiryRecord}
    (h : validateRewardExpireUnclaimed env finalized L = .ok record) :
    Resolvable env L.development record.unclaimed ∧
      L.development.rewardExpiryRecords.get? record.expiryId = none := by
  simp only [validateRewardExpireUnclaimed, bind_eq_ok, require_eq_ok, requireInt_eq_ok, pure_eq_ok,
    Bool.not_eq_true', Bool.or_eq_false_iff, decide_eq_true_eq, beq_iff_eq, exists_and_left,
    exists_const] at h
  obtain ⟨evidence, -, _, -, -, expiryEpoch, -, amount, ⟨hget, hpos⟩, _, -, _, -, _, -, _, -, _, -,
    sources, -, unclaimed, hunclaimed, -, hamount, op, -, -, _, -, ⟨hfresh, hexpired⟩, hclaimed,
    remaining, -, rfl⟩ := h
  obtain ⟨hstored, hid⟩ := expiredRecord_spec hunclaimed
  rw [hid] at hstored
  subst hamount
  refine ⟨⟨hstored, hget, by exact_mod_cast hpos, hclaimed, hexpired⟩, ?_⟩
  exact Dict.not_contains.mp (by rw [Bool.not_eq_true']; exact hfresh)

/-! ## Payments of every kind -/

theorem payStage_spec (hop : op ≠ .markUnclaimed) (h : payStage op env finalized L = .ok payment) :
    0 < payment.amount ∧ env.payload.int "amount_q_atoms" = payment.amount := by
  simp only [payStage, checks_eq_ok] at h
  obtain ⟨record, hrecord, rfl⟩ := h
  obtain ⟨stage, reserve, hchecked, -, hpayment, -⟩ := validateRewardPay_spec hop hrecord
  rw [hpayment]
  exact ⟨Int.natCast_pos.mpr hchecked.positive, Fields.int_of_get hchecked.amount⟩

omit [Runtime] in
theorem payClaim_spec (h : payClaim env finalized L = .ok payment) :
    0 < payment.amount ∧ env.payload.int "amount_q_atoms" = payment.amount := by
  simp only [payClaim, checks_eq_ok] at h
  obtain ⟨record, hrecord, rfl⟩ := h
  obtain ⟨hresolvable, -⟩ := validateRewardClaim_spec hrecord
  exact ⟨Int.natCast_pos.mpr hresolvable.positive, Fields.int_of_get hresolvable.amount⟩

/-- A payment credits the positive amount of its payload. -/
theorem validateDevelopmentPayment_spec {kind : PaymentKind}
    (h : validateDevelopmentPayment kind env finalized L = .ok payment) :
    0 < payment.amount ∧ env.payload.int "amount_q_atoms" = payment.amount := by
  simp only [validateDevelopmentPayment, checks_eq_ok, exists_unit] at h
  cases kind with
  | payImmediate | payMaturity => exact payStage_spec (by decide) h.2
  | claim => exact payClaim_spec h.2

end AidnSpec.Ledger
