import AidnSpec.Ledger.OperationLog
import AidnSpec.Ledger.Supply
import Mathlib.Algebra.Order.Group.Int

/-!
# Consumption of a development reserve

The validations of payments, marks, claims and expiries each add up other records. That no reserve
is over-consumed follows from what the five kinds of records keep together: payments and marks share
a stage, and claims and expiries share the marks.
-/

namespace AidnSpec.Ledger

open Base ConsensusOp Fields List

/-! ## Totals -/

/-- The amount of a stage, if the condition selects it. -/
def stageWeight (counts : RewardSource → RewardStage → Bool) (source : RewardSource)
    (payment : RewardPayment) : Int :=
  if counts source payment.stage then payment.amountQAtoms else 0

theorem stageWeight_nonneg (counts : RewardSource → RewardStage → Bool) (source : RewardSource)
    (payment : RewardPayment) : 0 ≤ stageWeight counts source payment := by
  unfold stageWeight
  split <;> omega

/-- Every record is against one of the three stages of its reserve. -/
theorem stageWeight_ofReserve (reserveId : String) (source : RewardSource)
    (payment : RewardPayment) :
    stageWeight (ofReserve reserveId) source payment =
      stageWeight (ofStage reserveId .immediate) source payment +
      stageWeight (ofStage reserveId .maturityStageOne) source payment +
      stageWeight (ofStage reserveId .maturityStageTwo) source payment := by
  unfold stageWeight ofReserve ofStage
  by_cases h : source.reserveId = reserveId
  · cases hstage : payment.stage <;> simp [h]
  · simp [h]

section Records

variable {R : Type} (records : Dict String R) (source : R → RewardSource)
  (payment : R → RewardPayment)

/-- The records against a reserve, stage by stage. -/
theorem sum_ofReserve (reserveId : String) :
    records.sum (fun _ x => stageWeight (ofReserve reserveId) (source x) (payment x)) =
      records.sum (fun _ x => stageWeight (ofStage reserveId .immediate) (source x) (payment x)) +
      records.sum
        (fun _ x => stageWeight (ofStage reserveId .maturityStageOne) (source x) (payment x)) +
      records.sum
        (fun _ x => stageWeight (ofStage reserveId .maturityStageTwo) (source x) (payment x)) := by
  simp only [stageWeight_ofReserve]
  rw [Dict.sum_add, Dict.sum_add]

variable {reserves : Dict String RewardReserve}

/-- The weight of a record under an allocation, given the reserve that it draws on. -/
theorem stageWeight_ofAllocation {s : RewardSource} {p : RewardPayment} {k j : String}
    {r : RewardReserve} (hr : reserves.get? j = some r) (hdraws : ∃ r, DrawsOn reserves s r) :
    (if s.reserveId = j then stageWeight (ofAllocation k) s p else 0) =
      if r.poolAllocationId = k then stageWeight (ofReserve j) s p else 0 := by
  by_cases hj : s.reserveId = j
  · obtain ⟨r', hdraws⟩ := hdraws
    have hstored := hdraws.stored
    rw [hj, hr] at hstored
    cases hstored
    simp [stageWeight, ofAllocation, ofReserve, hj, hdraws.allocation]
  · simp [stageWeight, ofReserve, hj]

/-- The records under an allocation, reserve by reserve. -/
theorem sum_ofAllocation (hdraws : ∀ x ∈ records.values, ∃ r, DrawsOn reserves (source x) r)
    (k : String) :
    records.sum (fun _ x => stageWeight (ofAllocation k) (source x) (payment x)) =
      reserves.sum fun j r => if r.poolAllocationId = k then
        records.sum (fun _ x => stageWeight (ofReserve j) (source x) (payment x)) else 0 := by
  have hfibers := Dict.sum_fibers
    (fun _ x => stageWeight (ofAllocation k) (source x) (payment x)) records reserves
    (fun x => (source x).reserveId) fun x hx => by
      obtain ⟨r, hdraws⟩ := hdraws x hx
      exact Dict.mem_keys.mpr (by rw [hdraws.stored]; rfl)
  refine hfibers.symm.trans (Dict.sum_congr fun j r hr => ?_)
  have hweights : records.sum (fun _ x => if (source x).reserveId = j then
        stageWeight (ofAllocation k) (source x) (payment x) else 0) =
      records.sum fun _ x => if r.poolAllocationId = k then
        stageWeight (ofReserve j) (source x) (payment x) else 0 :=
    Dict.sum_congr fun _ x hx =>
      stageWeight_ofAllocation hr (hdraws x (Dict.mem_values.mpr ⟨_, hx⟩))
  rw [hweights]
  by_cases hk : r.poolAllocationId = k
  · simp only [if_pos hk]
  · simp only [if_neg hk]
    exact Dict.sum_eq_zero fun _ _ _ => rfl

end Records

namespace DevelopmentRecords

variable (D : DevelopmentRecords) (counts : RewardSource → RewardStage → Bool)

theorem paid_ofReserve (reserveId : String) :
    D.paid (ofReserve reserveId) =
      D.paid (ofStage reserveId .immediate) + D.paid (ofStage reserveId .maturityStageOne) +
      D.paid (ofStage reserveId .maturityStageTwo) :=
  sum_ofReserve D.rewardPaymentRecords (·.source) (·.payment) reserveId

theorem unclaimed_ofReserve (reserveId : String) :
    D.unclaimed (ofReserve reserveId) =
      D.unclaimed (ofStage reserveId .immediate) +
      D.unclaimed (ofStage reserveId .maturityStageOne) +
      D.unclaimed (ofStage reserveId .maturityStageTwo) :=
  sum_ofReserve D.rewardUnclaimedRecords (·.source) (·.payment) reserveId

/-- The unclaimed records that a claim or an expiry resolved. -/
def resolutions : List RewardUnclaimedRecord :=
  D.rewardClaimRecords.values.map (·.unclaimed) ++ D.rewardExpiryRecords.values.map (·.unclaimed)

theorem claimed_add_expired :
    D.claimed counts + D.expired counts =
      (D.resolutions.map fun u => stageWeight counts u.source u.payment).sum := by
  rw [resolutions, map_append, sum_append, map_map, map_map, Dict.values,
    Dict.values, map_map, map_map]
  rfl

end DevelopmentRecords

/-! ## The books -/

/-- What the five kinds of records keep together. -/
structure RewardBooks (D : DevelopmentRecords) : Prop where
  /-- A mark is stored under its identity. -/
  marks : ∀ k u, D.rewardUnclaimedRecords.get? k = some u → u.unclaimedId = k
  paidSource : ∀ p ∈ D.rewardPaymentRecords.values, ∃ r, DrawsOn D.rewardReserves p.source r
  markedSource : ∀ u ∈ D.rewardUnclaimedRecords.values, ∃ r, DrawsOn D.rewardReserves u.source r
  /-- Payments and marks share the amount of a stage. -/
  stages : ∀ k r, D.rewardReserves.get? k = some r → ∀ s,
    D.paid (ofStage k s) + D.unclaimed (ofStage k s) ≤ r.stageAmount s
  /-- A claim or an expiry resolves a stored mark. -/
  resolved : ∀ u ∈ D.resolutions, D.rewardUnclaimedRecords.get? u.unclaimedId = some u
  /-- No mark is resolved twice. -/
  once : (D.resolutions.map (·.unclaimedId)).Nodup

namespace RewardBooks

variable {D : DevelopmentRecords}

/-- Claims and expiries never exceed the marks, however they are selected. -/
theorem resolved_le (h : RewardBooks D) (counts : RewardSource → RewardStage → Bool) :
    D.claimed counts + D.expired counts ≤ D.unclaimed counts := by
  have hle := Dict.sum_weight_le (f := fun _ u => stageWeight counts u.source u.payment)
    (fun _ u => stageWeight_nonneg counts u.source u.payment) (d := D.rewardUnclaimedRecords) h.once
    (fun k hk => by
      obtain ⟨u, hu, rfl⟩ := mem_map.mp hk
      exact Dict.mem_keys.mpr (by rw [h.resolved u hu]; rfl))
  have hweights : (D.resolutions.map (·.unclaimedId)).map
      (D.rewardUnclaimedRecords.weight fun _ u => stageWeight counts u.source u.payment) =
      D.resolutions.map fun u => stageWeight counts u.source u.payment := by
    rw [map_map]
    exact map_congr_left fun u hu => Dict.weight_of_get? (h.resolved u hu)
  rw [hweights, ← D.claimed_add_expired counts] at hle
  exact hle

variable {k : String} {r : RewardReserve}

/-- Payments and marks never exceed the reserve. -/
theorem reserve_le (h : RewardBooks D) (hr : D.rewardReserves.get? k = some r) :
    D.paid (ofReserve k) + D.unclaimed (ofReserve k) ≤ r.reservedQAtoms := by
  have hone := h.stages k r hr .immediate
  have htwo := h.stages k r hr .maturityStageOne
  have hthree := h.stages k r hr .maturityStageTwo
  have hpaid := D.paid_ofReserve k
  have hmarked := D.unclaimed_ofReserve k
  simp only [RewardReserve.stageAmount] at hone htwo hthree
  unfold RewardReserve.reservedQAtoms
  omega

/-- Payments, claims and expiries never exceed the reserve. -/
theorem consumed_le (h : RewardBooks D) (hr : D.rewardReserves.get? k = some r) :
    D.paid (ofReserve k) + D.claimed (ofReserve k) + D.expired (ofReserve k) ≤
      r.reservedQAtoms := by
  have hresolved := h.resolved_le (ofReserve k)
  have hreserve := h.reserve_le hr
  omega

/-- Payments and marks under an allocation never exceed what is reserved under it. -/
theorem allocation_le (h : RewardBooks D) (k : String) :
    D.paid (ofAllocation k) + D.unclaimed (ofAllocation k) ≤ D.reserved k := by
  have hpaid := sum_ofAllocation D.rewardPaymentRecords (·.source) (·.payment) h.paidSource k
  have hmarked := sum_ofAllocation D.rewardUnclaimedRecords (·.source) (·.payment) h.markedSource k
  have hsum := congrArg₂ (· + ·) hpaid hmarked
  rw [← Dict.sum_add] at hsum
  refine hsum.le.trans ?_
  apply Dict.sum_le_sum
  intro j r hr
  by_cases hk : r.poolAllocationId = k
  · simp only [hk, if_pos, beq_self_eq_true]
    exact h.reserve_le hr
  · simp [hk]

end RewardBooks

/-! ## Steps -/

/-- The five kinds of records agree. -/
structure SameBooks (D E : DevelopmentRecords) : Prop where
  reserves : E.rewardReserves = D.rewardReserves
  payments : E.rewardPaymentRecords = D.rewardPaymentRecords
  marks : E.rewardUnclaimedRecords = D.rewardUnclaimedRecords
  claims : E.rewardClaimRecords = D.rewardClaimRecords
  expiries : E.rewardExpiryRecords = D.rewardExpiryRecords

/-- What an accepted operation makes of the development records. -/
inductive DevelopmentStep (env : Envelope) (L : LedgerState) : DevelopmentRecords → Prop
  | allocate (allocation : PoolAllocation)
      (type : env.operationType = "DEVELOPMENT_POOL_ALLOCATE")
      (fresh : L.development.poolAllocations.get? allocation.allocationId = none)
      (transition : env.payload.text "source_epoch_transition_operation_id" =
        allocation.sourceEpochTransitionOperationId)
      (pool : env.payload.text "pool_id" = allocation.poolId)
      (granted : GrantsBudget L allocation.sourceEpochTransitionOperationId allocation.poolId
        allocation.allocatedQAtoms) :
      DevelopmentStep env L { L.development with
        poolAllocations := L.development.poolAllocations.set allocation.allocationId allocation }
  | reserve (reserve : RewardReserve) (allocation : PoolAllocation)
      (checked : ReserveChecked L.development reserve allocation) :
      DevelopmentStep env L { L.development with
        rewardReserves := L.development.rewardReserves.set reserve.reserveId reserve }
  | pay (payment : RewardPaymentRecord) (stage : ValidatedStage) (reserve : RewardReserve)
      (checked : StageChecked env L.development stage reserve)
      (source : payment.source = stage.source) (paid : payment.payment = stage.payment)
      (fresh : L.development.rewardPaymentRecords.get? payment.paymentId = none) :
      DevelopmentStep env L { L.development with
        rewardPaymentRecords := L.development.rewardPaymentRecords.set payment.paymentId payment }
  | mark (unclaimed : RewardUnclaimedRecord) (stage : ValidatedStage) (reserve : RewardReserve)
      (checked : StageChecked env L.development stage reserve)
      (source : unclaimed.source = stage.source) (paid : unclaimed.payment = stage.payment)
      (fresh : L.development.rewardUnclaimedRecords.get? unclaimed.unclaimedId = none) :
      DevelopmentStep env L { L.development with
        rewardUnclaimedRecords :=
          L.development.rewardUnclaimedRecords.set unclaimed.unclaimedId unclaimed }
  | claim (claim : RewardClaimRecord)
      (checked : Resolvable env L.development claim.unclaimed)
      (fresh : L.development.rewardClaimRecords.get? claim.claimId = none) :
      DevelopmentStep env L { L.development with
        rewardClaimRecords := L.development.rewardClaimRecords.set claim.claimId claim }
  | expire (expiry : RewardExpiryRecord)
      (checked : Resolvable env L.development expiry.unclaimed)
      (fresh : L.development.rewardExpiryRecords.get? expiry.expiryId = none) :
      DevelopmentStep env L { L.development with
        rewardExpiryRecords := L.development.rewardExpiryRecords.set expiry.expiryId expiry }
  | other (D : DevelopmentRecords)
      (allocations : D.poolAllocations = L.development.poolAllocations)
      (same : SameBooks L.development D) : DevelopmentStep env L D

section Steps

variable [Runtime] [LedgerRules] {env : Envelope} {finalized : FinalizedIds} {L : LedgerState}

variable {D : DevelopmentRecords} {payment : DevelopmentPayment}

theorem developmentStep_of_validateDevelopment {kind : DevelopmentKind} {events : List String}
    (h : validateDevelopment kind env finalized L = .ok (D, events)) : DevelopmentStep env L D := by
  simp only [validateDevelopment, checks_eq_ok, exists_unit, beq_iff_eq] at h
  obtain ⟨htype, h⟩ := h
  cases kind
  all_goals
    simp only [validateDevelopmentRecords, checks_eq_ok, Prod.mk.injEq] at h
    obtain ⟨record, hrecord, rfl, -⟩ := h
  case poolAllocate =>
    obtain ⟨hfresh, htransition, hpool, hgranted⟩ := validatePoolAllocate_spec hrecord
    exact .allocate record htype hfresh htransition hpool hgranted
  case rewardReserve =>
    obtain ⟨allocation, hchecked⟩ := validateRewardReserve_spec hrecord
    exact .reserve record allocation hchecked
  case rewardMarkUnclaimed =>
    obtain ⟨stage, reserve, hchecked, hsource, hpaid, hfresh⟩ :=
      validateRewardMarkUnclaimed_spec hrecord
    exact .mark record stage reserve hchecked hsource hpaid hfresh
  case rewardExpireUnclaimed =>
    obtain ⟨hchecked, hfresh⟩ := validateRewardExpireUnclaimed_spec hrecord
    exact .expire record hchecked hfresh
  all_goals exact .other _ rfl ⟨rfl, rfl, rfl, rfl, rfl⟩

theorem developmentStep_of_payStage {op : StageOperation} (hop : op ≠ .markUnclaimed)
    (h : payStage op env finalized L = .ok payment) : DevelopmentStep env L payment.records := by
  simp only [payStage, checks_eq_ok] at h
  obtain ⟨record, hrecord, rfl⟩ := h
  obtain ⟨stage, reserve, hchecked, hsource, hpaid, hfresh⟩ := validateRewardPay_spec hop hrecord
  exact .pay record stage reserve hchecked hsource hpaid hfresh

theorem developmentStep_of_validateDevelopmentPayment {kind : PaymentKind}
    (h : validateDevelopmentPayment kind env finalized L = .ok payment) :
    DevelopmentStep env L payment.records := by
  simp only [validateDevelopmentPayment, checks_eq_ok, exists_unit] at h
  replace h := h.2
  cases kind with
  | payImmediate | payMaturity => exact developmentStep_of_payStage (by decide) h
  | claim =>
    simp only [payClaim, checks_eq_ok] at h
    obtain ⟨record, hrecord, rfl⟩ := h
    obtain ⟨hchecked, hfresh⟩ := validateRewardClaim_spec hrecord
    exact .claim record hchecked hfresh

/-- The development records that an accepted operation leaves. -/
theorem ConsensusOp.Accepts.developmentStep {op : ConsensusOp} (h : op.Accepts L D) :
    DevelopmentStep op.envelope L D := by
  have hsame : ∀ env : Envelope, DevelopmentStep env L L.development := fun env =>
    .other _ rfl ⟨rfl, rfl, rfl, rfl, rfl⟩
  cases op with
  | development kind env finalized =>
    obtain ⟨events, h⟩ := h
    exact developmentStep_of_validateDevelopment h
  | developmentPayment kind env finalized =>
    obtain ⟨payment, h, rfl⟩ := h
    exact developmentStep_of_validateDevelopmentPayment h
  | rewardMint env finalized | epochTransition env finalized =>
    obtain ⟨-, rfl⟩ := h
    exact hsame env
  | _ =>
    cases h
    exact hsame _

/-- An operation takes a step of the development records. -/
theorem ConsensusOp.developmentStep (op : ConsensusOp) (L : LedgerState) :
    DevelopmentStep op.envelope L (op.after L).development := by
  rw [op.after_eq_leaves]
  rcases op.commits L with hkept | ⟨events, next, D, ⟨-, haccepts⟩, -, hframe⟩
  · have hD : (leaves op.apply L).development = L.development := congrArg Prod.snd hkept
    rw [hD]
    exact .other _ rfl ⟨rfl, rfl, rfl, rfl, rfl⟩
  · have hD : (leaves op.apply L).development = D := congrArg Prod.snd hframe
    rw [hD]
    exact haccepts.developmentStep

end Steps

/-! ## Every step keeps the books -/

theorem stageWeight_ofStage_of_ne {k : String} {s : RewardStage} {source : RewardSource}
    {payment : RewardPayment} (h : ¬(source.reserveId = k ∧ payment.stage = s)) :
    stageWeight (ofStage k s) source payment = 0 := by
  unfold stageWeight ofStage
  apply if_neg
  simpa only [Bool.and_eq_true, beq_iff_eq] using h

theorem stageWeight_ofStage_self (source : RewardSource) (payment : RewardPayment) :
    stageWeight (ofStage source.reserveId payment.stage) source payment = payment.amountQAtoms := by
  simp [stageWeight, ofStage]

namespace RewardBooks

variable {env : Envelope} {D : DevelopmentRecords}

variable (h : RewardBooks D)

include h

theorem congr {E : DevelopmentRecords} (same : SameBooks D E) : RewardBooks E := by
  cases D
  cases E
  obtain ⟨rfl, rfl, rfl, rfl, rfl⟩ := same
  exact ⟨h.marks, h.paidSource, h.markedSource, h.stages, h.resolved, h.once⟩

variable {stage : ValidatedStage} {k : String} {u : RewardUnclaimedRecord}

/-- A checked stage has room in its reserve, and no other reserve loses any. -/
theorem room {reserve : RewardReserve}
    (checked : StageChecked env D stage reserve) {r : RewardReserve}
    (hr : D.rewardReserves.get? k = some r) (s : RewardStage) :
    D.paid (ofStage k s) + D.unclaimed (ofStage k s) +
      stageWeight (ofStage k s) stage.source stage.payment ≤ r.stageAmount s := by
  by_cases hk : stage.source.reserveId = k ∧ stage.payment.stage = s
  · obtain ⟨rfl, rfl⟩ := hk
    rw [checked.source.stored] at hr
    cases hr
    rw [stageWeight_ofStage_self]
    exact checked.room
  · rw [stageWeight_ofStage_of_ne hk, Int.add_zero]
    exact h.stages k r hr s

theorem pay {p : RewardPaymentRecord} {reserve : RewardReserve}
    (checked : StageChecked env D stage reserve) (source : p.source = stage.source)
    (paid : p.payment = stage.payment) (fresh : D.rewardPaymentRecords.get? p.paymentId = none) :
    RewardBooks { D with
      rewardPaymentRecords := D.rewardPaymentRecords.set p.paymentId p } := by
  refine ⟨h.marks, ?_, h.markedSource, ?_, h.resolved, h.once⟩
  · intro q hq
    rcases (Dict.mem_values_set fresh p q).mp hq with rfl | hq
    · exact ⟨reserve, source ▸ checked.source.stored, source ▸ checked.source.allocation⟩
    · exact h.paidSource q hq
  · intro k r hr s
    have hsum : (D.rewardPaymentRecords.set p.paymentId p).sum
        (fun _ r => stageWeight (ofStage k s) r.source r.payment) =
        D.paid (ofStage k s) + stageWeight (ofStage k s) p.source p.payment :=
      Dict.sum_set_of_none _ fresh p
    have hroom := h.room checked hr s
    rw [← source, ← paid] at hroom
    show (D.rewardPaymentRecords.set p.paymentId p).sum
        (fun _ r => stageWeight (ofStage k s) r.source r.payment) + D.unclaimed (ofStage k s) ≤ _
    omega

theorem mark {reserve : RewardReserve}
    (checked : StageChecked env D stage reserve) (source : u.source = stage.source)
    (paid : u.payment = stage.payment)
    (fresh : D.rewardUnclaimedRecords.get? u.unclaimedId = none) :
    RewardBooks { D with
      rewardUnclaimedRecords := D.rewardUnclaimedRecords.set u.unclaimedId u } := by
  refine ⟨?_, h.paidSource, ?_, ?_, ?_, h.once⟩
  · intro k w hw
    rw [Dict.get?_set] at hw
    split at hw
    · next hk =>
      cases hw
      exact hk.symm
    · exact h.marks k w hw
  · intro w hw
    rcases (Dict.mem_values_set fresh u w).mp hw with rfl | hw
    · exact ⟨reserve, source ▸ checked.source.stored, source ▸ checked.source.allocation⟩
    · exact h.markedSource w hw
  · intro k r hr s
    have hsum : (D.rewardUnclaimedRecords.set u.unclaimedId u).sum
        (fun _ r => stageWeight (ofStage k s) r.source r.payment) =
        D.unclaimed (ofStage k s) + stageWeight (ofStage k s) u.source u.payment :=
      Dict.sum_set_of_none _ fresh u
    have hroom := h.room checked hr s
    rw [← source, ← paid] at hroom
    show D.paid (ofStage k s) + (D.rewardUnclaimedRecords.set u.unclaimedId u).sum
        (fun _ r => stageWeight (ofStage k s) r.source r.payment) ≤ _
    omega
  · intro w hw
    have hstored := h.resolved w hw
    refine (Dict.get?_set_of_ne _ u ?_).trans hstored
    intro heq
    rw [heq, fresh] at hstored
    cases hstored

/-- Nothing draws on a reserve that is not stored. -/
theorem unused (fresh : D.rewardReserves.get? k = none) (s : RewardStage) :
    D.paid (ofStage k s) = 0 ∧ D.unclaimed (ofStage k s) = 0 := by
  have hzero : ∀ (source : RewardSource) (payment : RewardPayment) (r : RewardReserve),
      DrawsOn D.rewardReserves source r → stageWeight (ofStage k s) source payment = 0 := by
    intro source payment r hdraws
    apply stageWeight_ofStage_of_ne
    rintro ⟨rfl, -⟩
    rw [hdraws.stored] at fresh
    cases fresh
  constructor
  · apply Dict.sum_eq_zero
    intro _ p hp
    obtain ⟨r, hdraws⟩ := h.paidSource p hp
    exact hzero p.source p.payment r hdraws
  · apply Dict.sum_eq_zero
    intro _ u hu
    obtain ⟨r, hdraws⟩ := h.markedSource u hu
    exact hzero u.source u.payment r hdraws

theorem reserve {reserve : RewardReserve} {allocation : PoolAllocation}
    (checked : ReserveChecked D reserve allocation) :
    RewardBooks { D with
      rewardReserves := D.rewardReserves.set reserve.reserveId reserve } := by
  have hdraws : ∀ (source : RewardSource) (r : RewardReserve), DrawsOn D.rewardReserves source r →
      DrawsOn (D.rewardReserves.set reserve.reserveId reserve) source r := by
    intro source r hr
    refine ⟨(Dict.get?_set_of_ne _ reserve ?_).trans hr.stored, hr.allocation⟩
    intro heq
    have hstored := hr.stored
    rw [heq, checked.fresh] at hstored
    cases hstored
  refine ⟨h.marks, ?_, ?_, ?_, h.resolved, h.once⟩
  · intro p hp
    obtain ⟨r, hr⟩ := h.paidSource p hp
    exact ⟨r, hdraws p.source r hr⟩
  · intro u hu
    obtain ⟨r, hr⟩ := h.markedSource u hu
    exact ⟨r, hdraws u.source r hr⟩
  · intro k r hr s
    show D.paid (ofStage k s) + D.unclaimed (ofStage k s) ≤ r.stageAmount s
    by_cases hk : k = reserve.reserveId
    · subst hk
      obtain ⟨hpaid, hmarked⟩ := h.unused checked.fresh s
      omega
    · exact h.stages k r ((Dict.get?_set_of_ne _ reserve hk).symm.trans hr) s

/-- A resolvable mark can be added to the resolutions. -/
theorem resolve (checked : Resolvable env D u)
    {resolutions : List RewardUnclaimedRecord} (hperm : resolutions.Perm (u :: D.resolutions)) :
    (∀ w ∈ resolutions, D.rewardUnclaimedRecords.get? w.unclaimedId = some w) ∧
      (resolutions.map (·.unclaimedId)).Nodup := by
  constructor
  · intro w hw
    rcases mem_cons.mp (hperm.mem_iff.mp hw) with rfl | hw
    · exact checked.stored
    · exact h.resolved w hw
  · rw [(hperm.map (·.unclaimedId)).nodup_iff, map_cons, nodup_cons]
    refine ⟨?_, h.once⟩
    intro hmem
    obtain ⟨w, hw, hid⟩ := mem_map.mp hmem
    rcases mem_append.mp hw with hw | hw
    · obtain ⟨c, hc, rfl⟩ := mem_map.mp hw
      exact absurd (beq_iff_eq.mpr hid) (any_eq_false.mp checked.notClaimed c hc)
    · obtain ⟨e, he, rfl⟩ := mem_map.mp hw
      exact absurd (beq_iff_eq.mpr hid) (any_eq_false.mp checked.notExpired e he)

theorem claim {c : RewardClaimRecord} (checked : Resolvable env D c.unclaimed)
    (fresh : D.rewardClaimRecords.get? c.claimId = none) :
    RewardBooks { D with
      rewardClaimRecords := D.rewardClaimRecords.set c.claimId c } := by
  have hperm : List.Perm ((D.rewardClaimRecords.set c.claimId c).values.map (·.unclaimed) ++
      D.rewardExpiryRecords.values.map (·.unclaimed)) (c.unclaimed :: D.resolutions) := by
    rw [Dict.values_set fresh, map_append, append_assoc]
    exact perm_middle
  obtain ⟨hresolved, honce⟩ := h.resolve checked hperm
  exact ⟨h.marks, h.paidSource, h.markedSource, h.stages, hresolved, honce⟩

theorem expire {e : RewardExpiryRecord} (checked : Resolvable env D e.unclaimed)
    (fresh : D.rewardExpiryRecords.get? e.expiryId = none) :
    RewardBooks { D with
      rewardExpiryRecords := D.rewardExpiryRecords.set e.expiryId e } := by
  have hperm : List.Perm (D.rewardClaimRecords.values.map (·.unclaimed) ++
      (D.rewardExpiryRecords.set e.expiryId e).values.map (·.unclaimed))
      (e.unclaimed :: D.resolutions) := by
    rw [Dict.values_set fresh, map_append, ← append_assoc]
    exact perm_append_singleton _ _
  obtain ⟨hresolved, honce⟩ := h.resolve checked hperm
  exact ⟨h.marks, h.paidSource, h.markedSource, h.stages, hresolved, honce⟩

omit h

/-- A step of the development records keeps the books. -/
theorem step {L : LedgerState} (h : RewardBooks L.development) (hstep : DevelopmentStep env L D) :
    RewardBooks D := by
  cases hstep with
  | allocate allocation type fresh transition pool granted =>
    exact h.congr ⟨rfl, rfl, rfl, rfl, rfl⟩
  | reserve reserve allocation checked => exact h.reserve checked
  | pay payment stage reserve checked source paid fresh => exact h.pay checked source paid fresh
  | mark unclaimed stage reserve checked source paid fresh =>
    exact h.mark checked source paid fresh
  | claim claim checked fresh => exact h.claim checked fresh
  | expire expiry checked fresh => exact h.expire checked fresh
  | other D allocations same => exact h.congr same

theorem empty : RewardBooks {} := by
  refine ⟨?_, ?_, ?_, ?_, ?_, nodup_nil⟩
  · intro k u hu
    cases hu
  · intro p hp
    cases hp
  · intro u hu
    cases hu
  · intro k r hr
    cases hr
  · intro u hu
    cases hu

end RewardBooks

section Run

variable [Runtime] [LedgerRules]

/-- The books hold in every reachable state. -/
theorem Reachable.rewardBooks {L : LedgerState} (h : Reachable L) : RewardBooks L.development :=
  Reachable.induct (P := fun L => RewardBooks L.development) (fun _ _ => .empty)
    (fun L op hL => hL.step (op.developmentStep L)) h

/-- In every reachable state no reserve and no stage of it is over-consumed, claims and expiries
stay within the marks, and no mark is resolved twice. -/
theorem reserves_never_overconsumed {L : LedgerState} (h : Reachable L) :
    (∀ k r, L.development.rewardReserves.get? k = some r →
      L.development.paid (ofReserve k) + L.development.claimed (ofReserve k) +
        L.development.expired (ofReserve k) ≤ r.reservedQAtoms ∧
      ∀ s, L.development.paid (ofStage k s) + L.development.unclaimed (ofStage k s) ≤
          r.stageAmount s ∧
        L.development.claimed (ofStage k s) + L.development.expired (ofStage k s) ≤
          L.development.unclaimed (ofStage k s)) ∧
    (L.development.resolutions.map (·.unclaimedId)).Nodup := by
  have hbooks := h.rewardBooks
  refine ⟨fun k r hr => ⟨hbooks.consumed_le hr, fun s => ⟨hbooks.stages k r hr s, ?_⟩⟩, hbooks.once⟩
  exact hbooks.resolved_le (ofStage k s)

end Run

/-! ## A reward that is reserved and paid -/

/-- An envelope of the reward authority for epoch zero, with the hash of its payload. -/
def rewardEnvelope (operationType operationId : String) (members : Fields) : Envelope where
  operationType := operationType
  originType := .protocol
  initiatorId := some "reward-authority"
  feeClass := .protocolSponsored
  createdAt := "2026-01-01T00:00:00Z"
  targetEpoch := some "0"
  payload := members ++ [("payload_hash", .str (developmentHash (.dict members)))]
  operationId := operationId

namespace PaidReward

def transitionId : String := "5b480ec4888f4ff03505509e9ee0ac49447562e715d2332688773443c9fe7a94"

def mintId : String := "8df840f0a2c5268b7592263efc56ca8b806fc7388a9dd28c87e6bd673d89be7b"

def calculateId : String := "68c5374d70595757789fc99783754c4653c0e0d184476ab71edf96c9aaba006a"

def allocateId : String := "50c951ac66201c137b394bfffdd319f46a6ca7e5b255b6ed2825acf8a3b7e532"

def reserveId : String := "a9d1921ce46b3845948bc35883320cf2fc81db84f321c4fe178a12ddf01bf817"

def payId : String := "1f1a5c4c988f73df93dbb5ccb8d398fe08a7f9064bc36cbce13114746852fb3d"

/-- The transition that grants the development pool a thousand Q atoms. -/
def transitionEnvelope : Envelope where
  operationType := "EPOCH_TRANSITION"
  originType := .protocol
  initiatorId := some "epoch-authority"
  feeClass := .protocolSponsored
  createdAt := "2026-01-01T00:00:00Z"
  targetEpoch := some "0"
  payload :=
    [("closing_epoch", .int 0), ("opening_epoch", .int 1), ("closing_state_root", .str "state-0"),
      ("epoch_task_result_root", .str "tasks-0"), ("eligibility_snapshot_root", .str "eligible-0"),
      ("reward_calculation_root", .str "rewards-0"), ("next_protocol_parameters_hash",
      .str "parameters-1"), ("pool_budgets", .dict [("development", .int 1000)]),
      ("pool_budget_references", .dict [("development", .str "budget-0")])]
  operationId := transitionId

def mintEnvelope : Envelope where
  operationType := "REWARD_MINT"
  originType := .protocol
  initiatorId := some "reward-authority"
  feeClass := .protocolSponsored
  createdAt := "2026-01-01T00:00:00Z"
  targetEpoch := some "0"
  payload :=
    [("reward_id", .str "mint-1"), ("reward_type", .str "VALIDATION"), ("reward_epoch", .int 0),
      ("recipient_wallet", .str "validator"), ("amount", .int 1000), ("pool_id",
      .str "development"), ("pool_budget_reference", .str "budget-0"),
      ("contribution_evidence_root", .str "contributions-0"), ("calculation_version", .str "1"),
      ("reward_calculation_root", .str "rewards-0"), ("calculation_operation_id",
      .str transitionId)]
  operationId := mintId

def schedule : RewardSchedule :=
  let unsigned : RewardSchedule :=
    { rewardId := "reward-1", contributionId := "contribution-1", contributionEpoch := 0
      distributionEpoch := 0, grossRewardQAtoms := 50, immediateAmountQAtoms := 20
      maturityStageOneAmountQAtoms := 15, maturityStageTwoAmountQAtoms := 15, immediateEpoch := 0
      maturityStageOneEpoch := 4, maturityStageTwoEpoch := 8, scheduleHash := "" }
  { unsigned with scheduleHash := unsigned.computeHash }

/-- The calculation that the development operations refer to. -/
def evidence : CalculationEvidence where
  commitmentId := "commitment-1"
  calculationRoot := "calculation-1"
  epoch := 0
  claimWindowEpochs := 8
  baseAllocationQAtoms := 1000
  poolInQAtoms := 1000
  schedules := [schedule]
  scopeExtensionEpoch := none

def calculationMembers : Fields :=
  [("epoch", .int 0), ("commitment_id", .str "commitment-1"), ("calculation_root",
    .str "calculation-1")]

def calculateEnvelope : Envelope :=
  rewardEnvelope "DEVELOPMENT_REWARD_CALCULATE" calculateId calculationMembers

def allocation : PoolAllocation where
  poolId := "development"
  epoch := 0
  calculationOperationId := calculateId
  calculationCommitmentId := "commitment-1"
  calculationRoot := "calculation-1"
  sourceEpochTransitionOperationId := transitionId
  sourcePoolBudgetReference := "budget-0"
  allocatedQAtoms := 1000

def allocateEnvelope : Envelope :=
  rewardEnvelope "DEVELOPMENT_POOL_ALLOCATE" allocateId (calculationMembers ++
    [("calculation_operation_id", .str calculateId),
      ("source_epoch_transition_operation_id", .str transitionId),
      ("pool_budget_reference", .str "budget-0"), ("pool_id", .str "development"),
      ("amount_q_atoms", .int 1000), ("pool_allocation", allocation.toValue)])

def reserve : RewardReserve where
  poolAllocationId := allocation.allocationId
  poolAllocationOperationId := allocateId
  calculationOperationId := calculateId
  calculationCommitmentId := "commitment-1"
  calculationRoot := "calculation-1"
  rewardId := "reward-1"
  contributionId := "contribution-1"
  epoch := 0
  scheduleHash := schedule.scheduleHash
  immediateAmountQAtoms := 20
  maturityStageOneAmountQAtoms := 15
  maturityStageTwoAmountQAtoms := 15

def reserveEnvelope : Envelope :=
  rewardEnvelope "DEVELOPMENT_REWARD_RESERVE" reserveId (calculationMembers ++
    [("calculation_operation_id", .str calculateId),
      ("pool_allocation_id", .str allocation.allocationId),
      ("pool_allocation_operation_id", .str allocateId), ("reward_id", .str "reward-1"),
      ("reward_reserve", reserve.toValue)])

def payment : RewardPayment :=
  let unsigned : RewardPayment :=
    { rewardId := "reward-1", contributionId := "contribution-1", contributorId := "contributor-1"
      role := "AUTHOR", walletAddress := some "author", stage := .immediate, amountQAtoms := 20
      state := .payable, paymentHash := "" }
  { unsigned with paymentHash := unsigned.computeHash }

def payEnvelope : Envelope :=
  rewardEnvelope "DEVELOPMENT_REWARD_PAY_IMMEDIATE" payId (calculationMembers ++
    [("calculation_operation_id", .str calculateId),
      ("pool_allocation_id", .str allocation.allocationId),
      ("pool_allocation_operation_id", .str allocateId), ("reserve_id", .str reserve.reserveId),
      ("reserve_operation_id", .str reserveId), ("reward_id", .str "reward-1"),
      ("contributor_id", .str "contributor-1"), ("recipient_wallet", .str "author"),
      ("role", .str "AUTHOR"), ("payment_hash", .str payment.paymentHash),
      ("payment_stage", .str "IMMEDIATE"), ("amount_q_atoms", .int 20),
      ("reward_payment", payment.toValue)])

/-- Rules that know the one calculation. -/
@[reducible] def rules : LedgerRules :=
  { noRules with
    recorded := fun kind _ _ _ =>
      if kind = .developmentRewardCalculate then .ok ["DevelopmentRewardCalculationCommitted"]
      else raiseValue "refused"
    calculation := fun _ env _ _ =>
      if isText env.payload "commitment_id" "commitment-1" &&
          isText env.payload "calculation_root" "calculation-1" then .ok evidence
      else raiseValue "DEVELOPMENT_REWARD_CALCULATION_EVIDENCE_INVALID" }

/-- Rules under which the reward is calculated as in the run. -/
structure Calculates (r : LedgerRules) : Prop where
  recorded : ∀ env finalized L, r.recorded .developmentRewardCalculate env finalized L =
    .ok ["DevelopmentRewardCalculationCommitted"]
  calculation : r.calculation = rules.calculation

theorem calculates_rules : Calculates rules := ⟨fun _ _ _ => rfl, rfl⟩

def finalized : List String := [transitionId, calculateId, allocateId, reserveId]

def afterTransition : LedgerState :=
  (genesis .empty none).admitted transitionEnvelope ["EpochTransition"] none

def afterMint : LedgerState :=
  { afterTransition.admitted mintEnvelope ["RewardMinted"] none with
    walletQAtomBalances := Dict.empty.set "validator" 1000 }

def afterCalculate : LedgerState :=
  afterMint.admitted calculateEnvelope ["DevelopmentRewardCalculationCommitted"] none

def afterAllocate : LedgerState :=
  { afterCalculate.admitted allocateEnvelope ["DevelopmentPoolAllocated"] none with
    development := { poolAllocations := Dict.empty.set allocation.allocationId allocation } }

def afterReserve : LedgerState :=
  { afterAllocate.admitted reserveEnvelope ["DevelopmentRewardReserved"] none with
    development :=
      { poolAllocations := Dict.empty.set allocation.allocationId allocation
        rewardReserves := Dict.empty.set reserve.reserveId reserve } }

def paymentRecord : RewardPaymentRecord where
  source := payloadSource payEnvelope.payload evidence
  payment := payment
  walletAddress := "author"
  reserveRemainingQAtoms := 30
  poolRemainingQAtoms := 950

def afterPay : LedgerState :=
  { afterReserve.admitted payEnvelope ["DevelopmentRewardPaidImmediate"] none with
    walletQAtomBalances := (Dict.empty.set "validator" 1000).set "author" 20
    development :=
      { poolAllocations := Dict.empty.set allocation.allocationId allocation
        rewardReserves := Dict.empty.set reserve.reserveId reserve
        rewardPaymentRecords := Dict.empty.set paymentRecord.paymentId paymentRecord } }

variable {L : LedgerState} {env : Envelope}

/-- An accepted operation leaves the ledger of its effect. -/
theorem leaves_applyConsensus {α : Type} {validate : LedgerState → Except PyError α}
    {emittedEvents : α → List String} {effect : α → LedgerM Unit} {L' : LedgerState} {v : α}
    (hv : validate L = .ok v) (hadmits : Admits L env none)
    (heffect : effect v (L.admitted env (emittedEvents v) none) = .ok () L') :
    leaves (applyConsensus validate emittedEvents env effect) L = L' := by
  have happly := applyConsensus_eq_ok.mpr ⟨v, _, hv, hadmits.admitEnvelope (emittedEvents v),
    heffect⟩
  rw [leaves, happly]

theorem ne_of_mem_calculationMembers : ∀ m ∈ calculationMembers, "payload_hash" ≠ m.1 := by
  decide

section Known

variable [Runtime] [r : LedgerRules] (known : Calculates r)

include known

omit [Runtime] in
theorem calculationPayload_rewardEnvelope (operationType operationId : String) (more : Fields)
    (hmore : ∀ m ∈ more, m.1 ≠ "payload_hash") (finalized : FinalizedIds) (L : LedgerState) :
    calculationPayload operationType
      (rewardEnvelope operationType operationId (calculationMembers ++ more)) finalized L =
        .ok evidence := by
  have hfilter : (rewardEnvelope operationType operationId
      (calculationMembers ++ more)).payload.filter (·.1 != "payload_hash") =
        calculationMembers ++ more := by
    simp only [rewardEnvelope, filter_append]
    have hkept : more.filter (·.1 != "payload_hash") = more :=
      filter_eq_self.mpr fun m hm => bne_iff_ne.mpr (hmore m hm)
    rw [hkept, append_assoc]
    exact congrArg (calculationMembers ++ ·) (append_nil more)
  simp only [calculationPayload, checks_eq_ok, exists_unit, hfilter]
  have hlookup : (rewardEnvelope operationType operationId
      (calculationMembers ++ more)).payload.lookup "payload_hash" =
        some (.str (developmentHash (.dict (calculationMembers ++ more)))) := by
    have hnone : (calculationMembers ++ more).lookup "payload_hash" = none := by
      rw [lookup_eq_none_iff]
      intro m hm
      rw [bne_iff_ne]
      rcases mem_append.mp hm with hm | hm
      · exact ne_of_mem_calculationMembers m hm
      · exact (hmore m hm).symm
    simp only [rewardEnvelope]
    rw [lookup_append, hnone]
    rfl
  have hget : PyValue.get (rewardEnvelope operationType operationId
      (calculationMembers ++ more)).payload "payload_hash" =
        .str (developmentHash (.dict (calculationMembers ++ more))) := by
    rw [PyValue.get, hlookup]
    rfl
  refine ⟨rfl, rfl, hasText_of_get hget (isBlank_developmentHash _), ?_, 0, ⟨rfl, rfl⟩, ?_, ?_⟩
  · rw [text_of_get hget, beq_self_eq_true]
  · show (some "0" == some (toString (0 : Int))) = true
    decide
  · rw [known.calculation]
    rfl

omit [Runtime] r known in
theorem validate_mint :
    validateRewardMint mintEnvelope finalized afterTransition = .ok ("validator", 1000) := by
  decide

theorem validate_allocate :
    validatePoolAllocate allocateEnvelope (some finalized) afterCalculate = .ok allocation := by
  have hcalc : calculationPayload "DEVELOPMENT_POOL_ALLOCATE" allocateEnvelope none afterCalculate =
      .ok evidence := calculationPayload_rewardEnvelope known _ _ _ (by decide) none afterCalculate
  have hmodel : PoolAllocation.modelValidate
      (PyValue.get allocateEnvelope.payload "pool_allocation") =
      some (allocation, allocation.computeHash) :=
    PoolAllocation.modelValidate_toValue (by decide) (by decide)
  simp only [validatePoolAllocate, checks_eq_ok, requireDict_eq_ok, requireTyped_eq_ok,
    exists_and_left, exists_const, beq_iff_eq, decide_eq_true_eq, hcalc, hmodel, Except.ok.injEq,
    Option.some.injEq, exists_eq_left']
  exact ⟨by decide, by decide, by decide, by decide, 1000, ⟨rfl, by decide⟩, (), by decide, (),
    by decide, (), by decide, _, ⟨rfl, rfl⟩, by decide, _, rfl, by decide, 1000, ⟨rfl, by decide⟩,
    _, rfl, by decide, rfl, by decide, trivial, rfl, rfl⟩

theorem validate_reserve :
    validateRewardReserve reserveEnvelope (some finalized) afterAllocate = .ok reserve := by
  have hcalc : calculationPayload "DEVELOPMENT_REWARD_RESERVE" reserveEnvelope none afterAllocate =
      .ok evidence := calculationPayload_rewardEnvelope known _ _ _ (by decide) none afterAllocate
  have hmodel : RewardReserve.modelValidate (PyValue.get reserveEnvelope.payload "reward_reserve") =
      some (reserve, reserve.computeHash) := by
    refine RewardReserve.modelValidate_toValue ?_ (by decide)
    simp only [forall_mem_cons]
    exact ⟨developmentHash_isEmpty _, by decide, by decide, by decide, by decide, by decide,
      by decide,
      developmentHash_isEmpty _, by simp⟩
  have hid : PyValue.get reserveEnvelope.payload "pool_allocation_id" =
      .str allocation.allocationId := rfl
  simp only [validateRewardReserve, checks_eq_ok, requireTyped_eq_ok, exists_and_left, exists_const,
    beq_iff_eq, text_of_get hid, decide_eq_true_eq, hcalc, hmodel, Except.ok.injEq,
    Option.some.injEq, exists_eq_left']
  exact ⟨by decide, hasText_of_get hid (isBlank_developmentHash _), by decide, by decide, (),
    by decide, (), by decide, (), by decide, _, ⟨rfl, rfl⟩, _, rfl, beq_self_eq_true _, allocation,
    Dict.get?_set_self .., by decide, schedule, rfl, trivial, rfl, by decide, rfl, rfl, rfl⟩

omit [Runtime] r known in
theorem belongsTo_reserve :
    reserve.belongsTo (payloadSource payEnvelope.payload evidence) = true := by
  have hid : (payloadSource payEnvelope.payload evidence).poolAllocationId =
      reserve.poolAllocationId := rfl
  unfold RewardReserve.belongsTo
  rw [hid, beq_self_eq_true]
  decide

/-- A ledger that still has the calculation, the allocation and the reserve of the run. -/
structure Reserved (L : LedgerState) : Prop where
  calculation : L.operationById calculateId = afterReserve.operationById calculateId
  allocation : L.operationById allocateId = afterReserve.operationById allocateId
  reserve : L.operationById reserveId = afterReserve.operationById reserveId
  allocations : L.development.poolAllocations = afterReserve.development.poolAllocations
  reserves : L.development.rewardReserves = afterReserve.development.rewardReserves

/-- A payload that names the reserve and its sources. -/
structure NamesSource (payload : Fields) : Prop where
  calculation : PyValue.get payload "calculation_operation_id" = .str calculateId
  allocation : PyValue.get payload "pool_allocation_id" = .str allocation.allocationId
  allocationOperation : PyValue.get payload "pool_allocation_operation_id" = .str allocateId
  reserve : PyValue.get payload "reserve_id" = .str reserve.reserveId
  reserveOperation : PyValue.get payload "reserve_operation_id" = .str reserveId

variable {payload : Fields}

section

omit [Runtime] r known

theorem NamesSource.payloadSource (h : NamesSource payload) :
    payloadSource payload evidence = payloadSource payEnvelope.payload evidence := by
  unfold Ledger.payloadSource
  rw [text_of_get h.calculation, text_of_get h.allocation, text_of_get h.allocationOperation,
    text_of_get h.reserve, text_of_get h.reserveOperation]
  rfl

/-- Payments and marks find the allocation and the reserve. -/
theorem paymentSource_reserved {L : LedgerState} (hL : Reserved L) (h : NamesSource payload) :
    paymentSource payload evidence L = .ok (allocation, reserve) := by
  simp only [paymentSource, requireCalculation, checks_eq_ok, requireTyped_eq_ok, exists_unit,
    h.payloadSource, text_of_get h.calculation]
  refine ⟨⟨_, ⟨hL.calculation, rfl⟩, by decide⟩, _, ⟨hL.allocation, rfl⟩, _, rfl,
    beq_self_eq_true _, allocation, ?_, _, ⟨hL.reserve, rfl⟩, _, rfl, beq_self_eq_true _,
      reserve, ?_,
    belongsTo_reserve, rfl⟩
  · rw [hL.allocations]
    exact Dict.get?_set_self ..
  · rw [hL.reserves]
    exact Dict.get?_set_self ..

/-- What is reserved under the allocation of the run. -/
theorem reserved_allocation : afterReserve.development.reserved allocation.allocationId = 50 := by
  show (if allocation.allocationId == allocation.allocationId then (50 : Int) else 0) + 0 = 50
  rw [beq_self_eq_true, if_pos rfl]
  rfl

theorem reserved_afterReserve : Reserved afterReserve := ⟨rfl, rfl, rfl, rfl, rfl⟩

end

theorem validate_pay :
    validateRewardPay .payImmediate payEnvelope (some finalized) afterReserve =
      .ok paymentRecord := by
  have hcalc : calculationPayload "DEVELOPMENT_REWARD_PAY_IMMEDIATE" payEnvelope (some finalized)
      afterReserve = .ok evidence := calculationPayload_rewardEnvelope known _ _ _ (by decide)
        _ afterReserve
  have hmodel : RewardPayment.modelValidate (PyValue.get payEnvelope.payload "reward_payment") =
      some payment := by
    refine RewardPayment.modelValidate_toValue ?_ (by decide)
    simp only [forall_mem_cons]
    exact ⟨by decide, by decide, by decide, developmentHash_isEmpty _, by simp⟩
  have hpayment : payloadPayment .payImmediate payEnvelope.payload 20 reserve = .ok payment := by
    simp only [payloadPayment, hmodel, checks_eq_ok, exists_unit]
    refine ⟨payment, rfl, beq_self_eq_true _, ?_, by decide, ?_⟩
    · have hhash : payEnvelope.payload.text "payment_hash" = payment.paymentHash := rfl
      rw [hhash, beq_self_eq_true]
      decide
    · rfl
  have hroom : requireStageRoom .payImmediate afterReserve.development
      (payloadSource payEnvelope.payload evidence) allocation reserve .immediate 20 =
        .ok (30, 950) := by
    simp only [requireStageRoom, checks_eq_ok, exists_unit]
    have hid : (payloadSource payEnvelope.payload evidence).poolAllocationId =
        allocation.allocationId := rfl
    rw [hid, reserved_allocation]
    exact ⟨rfl, rfl, rfl, rfl⟩
  have htexts : requireTexts payEnvelope.payload "DEVELOPMENT_REWARD_PAYMENT_FIELD_INVALID:"
      StageOperation.payImmediate.texts = .ok () := by
    rw [requireTexts_eq_ok]
    show ∀ key ∈ ["calculation_operation_id", "pool_allocation_id", "pool_allocation_operation_id",
      "reserve_id", "reserve_operation_id", "reward_id", "contributor_id", "role", "payment_hash",
      "recipient_wallet"], _
    simp only [forall_mem_cons]
    exact ⟨by decide, hasText_of_get rfl (isBlank_developmentHash _), by decide,
      hasText_of_get rfl (isBlank_developmentHash _), by decide, by decide, by decide,
      by decide, hasText_of_get rfl (isBlank_developmentHash _), by decide, forall_mem_nil _⟩
  have hschedule : requireStored ((evidence.schedules.find? (·.rewardId == payment.rewardId)).filter
      (·.scheduleHash == reserve.scheduleHash)) "DEVELOPMENT_REWARD_PAYMENT_SCHEDULE_MISMATCH" =
        .ok schedule := by
    rw [requireStored_eq_ok, Option.filter_eq_some_iff]
    exact ⟨rfl, beq_self_eq_true _⟩
  simp only [validateRewardPay, validateRewardStage, bind_eq_ok, pure_eq_ok, requireInt_eq_ok,
    StageOperation.operationType, hcalc, guarded_eq_ok, Except.ok.injEq, exists_eq_left']
  refine ⟨⟨payloadSource payEnvelope.payload evidence, payment, 30, 950, 0, 8⟩, ⟨(), htexts, (),
    by decide, 20, ⟨rfl, by decide⟩, (), by decide, (), by decide, (), by decide, (by simp), _,
    paymentSource_reserved reserved_afterReserve ⟨rfl, rfl, rfl, rfl, rfl⟩, payment, hpayment,
      schedule, hschedule, (by simp), ?_⟩, rfl⟩
  rw [if_neg (by decide)]
  exact bind_eq_ok.mpr ⟨(), rfl, bind_eq_ok.mpr ⟨(30, 950), hroom, rfl⟩⟩

omit known in
theorem after_transition :
    (ConsensusOp.epochTransition transitionEnvelope none).after (genesis .empty none) =
      afterTransition := by
  rw [after_eq_leaves]
  exact leaves_applyConsensus (v := (0, 1)) rfl (by decide) rfl

omit known in
theorem after_mint :
    (ConsensusOp.rewardMint mintEnvelope finalized).after afterTransition = afterMint := by
  rw [after_eq_leaves]
  exact leaves_applyConsensus validate_mint (by decide) rfl

theorem after_calculate :
    (ConsensusOp.recorded .developmentRewardCalculate calculateEnvelope none).after afterMint =
      afterCalculate := by
  rw [after_eq_leaves]
  refine leaves_applyConsensus (v := ["DevelopmentRewardCalculationCommitted"]) ?_ (by decide)
    rfl
  exact bind_eq_ok.mpr ⟨(), rfl, known.recorded _ _ _⟩

theorem after_allocate :
    (ConsensusOp.development .poolAllocate allocateEnvelope (some finalized)).after afterCalculate =
      afterAllocate := by
  rw [after_eq_leaves]
  refine leaves_applyConsensus (v := (_, ["DevelopmentPoolAllocated"])) ?_ (by decide) rfl
  exact bind_eq_ok.mpr ⟨(), rfl, bind_eq_ok.mpr ⟨allocation, validate_allocate known, rfl⟩⟩

theorem after_reserve :
    (ConsensusOp.development .rewardReserve reserveEnvelope (some finalized)).after afterAllocate =
      afterReserve := by
  rw [after_eq_leaves]
  refine leaves_applyConsensus (v := (_, ["DevelopmentRewardReserved"])) ?_ (by decide) rfl
  exact bind_eq_ok.mpr ⟨(), rfl, bind_eq_ok.mpr ⟨reserve, validate_reserve known, rfl⟩⟩

end Known

def operations : List ConsensusOp :=
  [.epochTransition transitionEnvelope none, .rewardMint mintEnvelope finalized,
    .recorded .developmentRewardCalculate calculateEnvelope none,
    .development .poolAllocate allocateEnvelope (some finalized),
    .development .rewardReserve reserveEnvelope (some finalized),
    .developmentPayment .payImmediate payEnvelope (some finalized)]

/-- The run of the operations. -/
theorem runOps_operations :
    letI := sampleRuntime
    letI := rules
    runOps (genesis .empty none) operations = afterPay := by
  let _ := sampleRuntime
  let _ := rules
  have hpay : (ConsensusOp.developmentPayment .payImmediate payEnvelope (some finalized)).after
      afterReserve = afterPay := by
    rw [after_eq_leaves]
    refine leaves_applyConsensus (v := ⟨afterPay.development, "author", 20⟩) ?_ (by decide) rfl
    exact bind_eq_ok.mpr ⟨(), rfl, bind_eq_ok.mpr ⟨paymentRecord, validate_pay calculates_rules,
      rfl⟩⟩
  show runOps _ [_, _, _, _, _, _] = _
  simp only [runOps, after_transition, after_mint, after_calculate calculates_rules,
    after_allocate calculates_rules, after_reserve calculates_rules, hpay]

/-- The reserve of the run keeps within its fifty Q atoms. -/
theorem paid_reward_within_reserve :
    letI := sampleRuntime
    letI := rules
    let D := (runOps (genesis .empty none) operations).development
    D.rewardReserves.get? reserve.reserveId = some reserve ∧
      D.paid (ofReserve reserve.reserveId) + D.claimed (ofReserve reserve.reserveId) +
        D.expired (ofReserve reserve.reserveId) ≤ 50 := by
  let _ := sampleRuntime
  let _ := rules
  have hstored : (runOps (genesis .empty none) operations).development.rewardReserves.get?
      reserve.reserveId = some reserve := by
    rw [runOps_operations]
    exact Dict.get?_set_self ..
  have hreachable : Reachable (runOps (genesis .empty none) operations) :=
    ⟨.empty, none, operations, rfl⟩
  exact ⟨hstored, ((reserves_never_overconsumed hreachable).1 _ _ hstored).1⟩

end PaidReward

end AidnSpec.Ledger
