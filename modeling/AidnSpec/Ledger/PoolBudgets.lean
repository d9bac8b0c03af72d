import AidnSpec.Ledger.RewardReserves

/-!
# Budgets of epoch transitions

Two families of operations draw on the budget that an epoch transition grants a pool. Mints add up
the earlier mints, and allocations compare their amount with the budget; neither looks at the other.
The budget therefore holds as long as it is not divided.
-/

namespace AidnSpec.Ledger

open Base LedgerOperationRecord List Bool

/-! ## Draws on a budget -/

def LedgerOperationRecord.mintsFrom (r : LedgerOperationRecord) (transitionId poolId : String) :
    Bool :=
  r.operationType == "REWARD_MINT" && isText r.payload "calculation_operation_id" transitionId &&
    isText r.payload "pool_id" poolId

/-- What the mints of a log took from the budget of a pool. -/
def mintedFrom (operations : List LedgerOperationRecord) (transitionId poolId : String) : Int :=
  ((operations.filter (·.mintsFrom transitionId poolId)).map (·.payload.int "amount")).sum

def PoolAllocation.drawsFrom (a : PoolAllocation) (transitionId poolId : String) : Bool :=
  a.sourceEpochTransitionOperationId == transitionId && a.poolId == poolId

def ofBudget (allocations : Dict String PoolAllocation) (transitionId poolId : String) :
    RewardSource → RewardStage → Bool :=
  fun source _ => (allocations.get? source.poolAllocationId).any (·.drawsFrom transitionId poolId)

/-- What was minted from the budget of a pool and what was paid and claimed out of its
allocations. -/
def issuedFrom (L : LedgerState) (transitionId poolId : String) : Int :=
  mintedFrom L.operations transitionId poolId +
    L.development.paid (ofBudget L.development.poolAllocations transitionId poolId) +
    L.development.claimed (ofBudget L.development.poolAllocations transitionId poolId)

theorem drawsFrom_self (a : PoolAllocation) :
    a.drawsFrom a.sourceEpochTransitionOperationId a.poolId = true := by
  simp [PoolAllocation.drawsFrom]

/-- The operation does not start to draw on a budget that something else draws on: an
allocation finds neither a mint nor an allocation of its budget, and a mint no allocation. -/
def ConsensusOp.Undivided (op : ConsensusOp) (L : LedgerState) : Prop :=
  let payload := op.envelope.payload
  (op.envelope.operationType = "DEVELOPMENT_POOL_ALLOCATE" →
    let transitionId := payload.text "source_epoch_transition_operation_id"
    let poolId := payload.text "pool_id"
    L.operations.any (·.mintsFrom transitionId poolId) = false ∧
      L.development.poolAllocations.values.any (·.drawsFrom transitionId poolId) = false) ∧
  (op.envelope.operationType = "REWARD_MINT" →
    L.development.poolAllocations.values.any
      (·.drawsFrom (payload.text "calculation_operation_id") (payload.text "pool_id")) = false)

/-! ## Mints -/

theorem mintedFrom_append (operations : List LedgerOperationRecord) (r : LedgerOperationRecord)
    (t p : String) :
    mintedFrom (operations ++ [r]) t p =
      mintedFrom operations t p + if r.mintsFrom t p then r.payload.int "amount" else 0 := by
  unfold mintedFrom
  rw [filter_append, map_append, sum_append]
  congr 1
  by_cases h : r.mintsFrom t p = true
  · simp [h]
  · simp [h]

theorem mintedFrom_eq_zero {operations : List LedgerOperationRecord} {t p : String}
    (h : ∀ r ∈ operations, r.mintsFrom t p = false) : mintedFrom operations t p = 0 := by
  unfold mintedFrom
  rw [filter_eq_nil_iff.mpr]
  · rfl
  · intro r hr
    rw [h r hr]
    exact false_ne_true

/-- What a recorded mint declares. -/
structure MintRecorded (L : LedgerState) (r : LedgerOperationRecord) (t root : String)
    (amount : Int) : Prop where
  transition : PyValue.get r.payload "calculation_operation_id" = .str t
  calculation : PyValue.get r.payload "reward_calculation_root" = .str root
  rooted : HasRoot L t root
  declared : PyValue.get r.payload "amount" = .int amount
  positive : 0 < amount

/-- What the log keeps about mints. -/
structure MintBooks (L : LedgerState) : Prop where
  registered : Registered L
  mints : ∀ r ∈ L.operations, r.operationType = "REWARD_MINT" →
    ∃ t root amount, MintRecorded L r t root amount
  within : ∀ t p b, GrantsBudget L t p b → mintedFrom L.operations t p ≤ b

/-- The fold of `alreadyMinted` adds up integer amounts. -/
theorem foldlM_amounts {operations : List LedgerOperationRecord}
    (h : ∀ r ∈ operations, ∃ n, PyValue.get r.payload "amount" = .int n) (total : Int) :
    operations.foldlM (fun total operation => do
      let amount ← ((operation.payload.lookup "amount").getD (.int 0)).toInt
      return total + amount) total =
      (.ok (total + (operations.map (·.payload.int "amount")).sum) : Except PyError Int) := by
  induction operations generalizing total with
  | nil => simp [pure, Except.pure]
  | cons r rest ih =>
    obtain ⟨n, hn⟩ := h r (mem_cons_self ..)
    have hlookup : r.payload.lookup "amount" = some (.int n) := by
      unfold PyValue.get at hn
      cases hget : r.payload.lookup "amount" with
      | none =>
        rw [hget] at hn
        cases hn
      | some v =>
        rw [hget] at hn
        exact congrArg some hn
    rw [foldlM_cons, hlookup, map_cons, sum_cons, Fields.int_of_get hn,
      ← Int.add_assoc]
    exact ih (fun r' hr' => h r' (mem_cons_of_mem r hr')) (total + n)

theorem isText_iff {payload : Fields} {key text : String} :
    isText payload key text = true ↔ PyValue.get payload key = .str text := beq_iff_eq

variable {L L' : LedgerState} {t p root : String} {b : Int} {env : Envelope}

theorem HasRoot.unique {root' : String} (h : HasRoot L t root) (h' : HasRoot L t root') :
    root = root' := by
  obtain ⟨r, hr, hroot⟩ := h
  obtain ⟨r', hr', hroot'⟩ := h'
  rw [hr] at hr'
  cases hr'
  rw [hroot] at hroot'
  cases hroot'
  rfl

theorem GrantsBudget.unique {b' : Int} (h : GrantsBudget L t p b) (h' : GrantsBudget L t p b') :
    b = b' := by
  obtain ⟨r, budgets, hr, -, hbudgets, hb⟩ := h
  obtain ⟨r', budgets', hr', -, hbudgets', hb'⟩ := h'
  rw [hr] at hr'
  cases hr'
  rw [hbudgets] at hbudgets'
  cases hbudgets'
  rw [hb] at hb'
  cases hb'
  rfl

/-- A mint counts every earlier mint from its budget, among others of the same root. -/
theorem MintBooks.mintedFrom_le (h : MintBooks L) {n : Int} (hroot : HasRoot L t root)
    (hcount : alreadyMinted L p root = .ok n) :
    mintedFrom L.operations t p ≤ n := by
  unfold alreadyMinted at hcount
  have hamounts : ∀ r ∈ L.operations.filter (fun operation =>
      operation.operationType == "REWARD_MINT" &&
        PyValue.get operation.payload "pool_id" == .str p &&
        PyValue.get operation.payload "reward_calculation_root" == .str root),
      ∃ n, PyValue.get r.payload "amount" = .int n ∧ 0 < n := by
    intro r hr
    rw [mem_filter, and_eq_true, and_eq_true, beq_iff_eq] at hr
    obtain ⟨_, _, amount, hrecorded⟩ := h.mints r hr.1 hr.2.1.1
    exact ⟨amount, hrecorded.declared, hrecorded.positive⟩
  rw [foldlM_amounts fun r hr => (hamounts r hr).imp fun _ hn => hn.1] at hcount
  rw [Int.zero_add] at hcount
  cases hcount
  -- the mints from the budget are among those counted
  have hsub : L.operations.filter (·.mintsFrom t p) =
      (L.operations.filter (fun operation =>
        operation.operationType == "REWARD_MINT" &&
          PyValue.get operation.payload "pool_id" == .str p &&
          PyValue.get operation.payload "reward_calculation_root" == .str root)).filter
        (·.mintsFrom t p) := by
    rw [filter_filter]
    refine filter_congr fun r hr => ?_
    cases hm : r.mintsFrom t p with
    | false => rfl
    | true =>
      simp only [mintsFrom, and_eq_true, beq_iff_eq, isText_iff] at hm
      obtain ⟨t', root', amount, hrecorded⟩ := h.mints r hr hm.1.1
      have ht : t' = t := by
        have heq := hrecorded.transition
        rw [hm.1.2] at heq
        cases heq
        rfl
      subst ht
      have hsame := hrecorded.rooted.unique hroot
      subst hsame
      simp [hm.1.1, hm.2, hrecorded.calculation]
  unfold mintedFrom
  rw [hsub]
  refine ((filter_sublist).map _).sum_le_sum fun x hx => ?_
  obtain ⟨r, hr, rfl⟩ := mem_map.mp hx
  obtain ⟨n, hget, hpos⟩ := hamounts r hr
  rw [Fields.int_of_get hget]
  exact Int.le_of_lt hpos

/-! ## A log that grows -/

structure LogGrows (L L' : LedgerState) (r : LedgerOperationRecord) : Prop where
  operations : L'.operations = L.operations ++ [r]
  kept : ∀ {id stored}, L.operationById id = some stored → L'.operationById id = some stored
  fresh : L.operationById r.operationId = none

namespace LogGrows

variable {r : LedgerOperationRecord}

theorem hasRoot (h : LogGrows L L' r) (hroot : HasRoot L t root) :
    HasRoot L' t root := by
  obtain ⟨stored, hstored, hroot⟩ := hroot
  exact ⟨stored, h.kept hstored, hroot⟩

theorem grantsBudget (h : LogGrows L L' r) (hb : GrantsBudget L t p b) :
    GrantsBudget L' t p b := by
  obtain ⟨stored, budgets, hstored, hbudgets⟩ := hb
  exact ⟨stored, budgets, h.kept hstored, hbudgets⟩

/-- A budget was granted before, or the new record grants it. -/
theorem grantsBudget_cases (h : LogGrows L L' r) (hb : GrantsBudget L' t p b) :
    GrantsBudget L t p b ∨
      t = r.operationId ∧ r.operationType = "EPOCH_TRANSITION" ∧
        ∃ budgets, PyValue.get r.payload "pool_budgets" = .dict budgets ∧
          PyValue.get budgets p = .int b := by
  obtain ⟨stored, budgets, hstored, htype, hbudgets⟩ := hb
  rw [operationById_append h.operations] at hstored
  by_cases ht : r.operationId = t
  · rw [if_pos ht] at hstored
    cases hstored
    exact .inr ⟨ht.symm, htype, budgets, hbudgets⟩
  · rw [if_neg ht] at hstored
    exact .inl ⟨stored, budgets, hstored, htype, hbudgets⟩

end LogGrows

theorem logGrows_of_admits {events : List String} {next : Option Nat} (hL : Registered L)
    (hadmits : Admits L env next) (hcore : L'.core = (L.admitted env events next).core) :
    LogGrows L L' (admittedRecord L env events next) := by
  have hops : L'.operations = L.operations ++ [admittedRecord L env events next] :=
    congrArg LedgerCore.operations hcore
  refine ⟨hops, hadmits.operationById hL rfl hops, ?_⟩
  cases h : L.operationById (admittedRecord L env events next).operationId with
  | none => rfl
  | some stored =>
    have hsome := hL.of_operationById h
    rw [show (admittedRecord L env events next).operationId = env.operationId from rfl,
      hadmits.fresh] at hsome
    cases hsome

/-- No mint draws on a transition that is not in the log. -/
theorem MintBooks.unminted (h : MintBooks L) (ht : L.operationById t = none) (p : String) :
    mintedFrom L.operations t p = 0 := by
  apply mintedFrom_eq_zero
  intro r hr
  cases hm : r.mintsFrom t p with
  | false => rfl
  | true =>
    simp only [mintsFrom, and_eq_true, beq_iff_eq, isText_iff] at hm
    obtain ⟨t', root, amount, hrecorded⟩ := h.mints r hr hm.1.1
    have heq := hrecorded.transition
    rw [hm.1.2] at heq
    cases heq
    obtain ⟨stored, hstored, -⟩ := hrecorded.rooted
    rw [ht] at hstored
    cases hstored

section Steps

variable [Runtime] [LedgerRules]

section

omit [Runtime] [LedgerRules]

theorem grantsBudget_congr (hops : L'.operations = L.operations) :
    GrantsBudget L' t p b ↔ GrantsBudget L t p b := by
  unfold GrantsBudget LedgerState.operationById
  rw [hops]

theorem MintBooks.congr (h : MintBooks L) (hops : L'.operations = L.operations)
    (hregistered : Registered L') : MintBooks L' := by
  refine ⟨hregistered, ?_, ?_⟩
  · intro r hr htype
    rw [hops] at hr
    obtain ⟨t, root, amount, hrecorded⟩ := h.mints r hr htype
    obtain ⟨stored, hstored, hroot⟩ := hrecorded.rooted
    refine ⟨t, root, amount, hrecorded.transition, hrecorded.calculation, ⟨stored, ?_, hroot⟩,
      hrecorded.declared, hrecorded.positive⟩
    unfold LedgerState.operationById
    rw [hops]
    exact hstored
  · intro t p b hb
    rw [hops]
    exact h.within t p b ((grantsBudget_congr hops).mp hb)

/-- What a checked mint leaves behind in the log. -/
theorem MintChecked.recorded {r : LedgerOperationRecord} {amount minted budget : Int}
    (h : MintChecked env L amount minted budget) (hgrows : LogGrows L L' r)
    (hpayload : r.payload = env.payload) :
    MintRecorded L' r (env.payload.text "calculation_operation_id")
      (env.payload.text "reward_calculation_root") amount := by
  refine ⟨?_, ?_, hgrows.hasRoot h.rooted, ?_, h.positive⟩
  · rw [hpayload]
    exact Fields.get_of_hasText h.transition
  · rw [hpayload]
    exact Fields.get_of_hasText h.root
  · rw [hpayload]
    exact h.declared

end

theorem MintBooks.step (h : MintBooks L) (op : ConsensusOp) :
    MintBooks (op.after L) := by
  rw [op.after_eq_leaves]
  have hregistered := op.records.registered h.registered
  rcases op.commits L with hkept | ⟨events, next, D, ⟨htype, haccepts⟩, hadmits, hframe⟩
  · exact h.congr (congrArg (LedgerCore.operations ∘ Prod.fst) hkept) hregistered
  · have hgrows := logGrows_of_admits h.registered hadmits (congrArg Prod.fst hframe)
    have hmint : op.envelope.operationType = "REWARD_MINT" → ∃ amount minted budget,
        MintChecked op.envelope L amount minted budget := by
      intro heq
      rw [heq] at htype
      obtain ⟨ids, hop⟩ := op.eq_of_operationTypes.2.1 htype
      rw [hop] at haccepts
      obtain ⟨⟨⟨recipient, amount⟩, hv⟩, -⟩ := haccepts
      obtain ⟨minted, budget, hchecked⟩ := validateRewardMint_checked hv
      exact ⟨amount, minted, budget, hchecked⟩
    refine ⟨hregistered, ?_, ?_⟩
    · intro r hr heq
      rw [hgrows.operations, mem_append, mem_singleton] at hr
      rcases hr with hr | rfl
      · obtain ⟨t, root, amount, hrecorded⟩ := h.mints r hr heq
        exact ⟨t, root, amount, hrecorded.transition, hrecorded.calculation,
          hgrows.hasRoot hrecorded.rooted, hrecorded.declared, hrecorded.positive⟩
      · obtain ⟨amount, minted, budget, hchecked⟩ := hmint heq
        exact ⟨_, _, amount, hchecked.recorded hgrows rfl⟩
    · intro t p b hb
      rw [hgrows.operations, mintedFrom_append]
      rcases hgrows.grantsBudget_cases hb with hb | ⟨rfl, hepoch, budgets, hbudgets, hp⟩
      · have hwithin := h.within t p b hb
        split
        · next hm =>
          -- the new record is a mint from this budget
          simp only [mintsFrom, and_eq_true, beq_iff_eq, isText_iff] at hm
          obtain ⟨amount, minted, budget, hchecked⟩ := hmint hm.1.1
          have ht : op.envelope.payload.text "calculation_operation_id" = t :=
            Fields.text_of_get hm.1.2
          have hp : op.envelope.payload.text "pool_id" = p := Fields.text_of_get hm.2
          have hgranted := hchecked.granted
          have hrooted := hchecked.rooted
          have hcounted := hchecked.counted
          rw [ht, hp] at hgranted
          rw [ht] at hrooted
          rw [hp] at hcounted
          have hsame := hgranted.unique hb
          have hle := h.mintedFrom_le hrooted hcounted
          have hroom := hchecked.room
          have hamount : (admittedRecord L op.envelope events next).payload.int "amount" = amount :=
            Fields.int_of_get hchecked.declared
          omega
        · omega
      · -- the new record grants the budget, and nothing was minted from it yet
        rw [h.unminted hgrows.fresh p]
        have hno : (admittedRecord L op.envelope events next).mintsFrom
            (admittedRecord L op.envelope events next).operationId p = false := by
          simp [mintsFrom, hepoch]
        rw [hno]
        have heq : op.envelope.operationType = "EPOCH_TRANSITION" := hepoch
        rw [heq] at htype
        obtain ⟨ids, hop⟩ := op.eq_of_operationTypes.2.2 htype
        rw [hop] at haccepts
        obtain ⟨⟨epochs, hv⟩, -⟩ := haccepts
        have hnonneg := validateEpochTransition_budgets hv hbudgets hp
        simpa using hnonneg

end Steps

/-! ## Allocations -/

/-- What the allocations keep while no budget is divided. -/
structure AllocationBooks (L : LedgerState) (D : DevelopmentRecords) : Prop where
  granted : ∀ k a, D.poolAllocations.get? k = some a →
    GrantsBudget L a.sourceEpochTransitionOperationId a.poolId a.allocatedQAtoms
  reserveSource : ∀ k r, D.rewardReserves.get? k = some r →
    (D.poolAllocations.get? r.poolAllocationId).isSome
  /-- Returned stages can be reserved again. -/
  room : ∀ k a, D.poolAllocations.get? k = some a →
    D.reserved k - D.expired (ofAllocation k) ≤ a.allocatedQAtoms
  unminted : ∀ k a, D.poolAllocations.get? k = some a →
    mintedFrom L.operations a.sourceEpochTransitionOperationId a.poolId = 0
  single : ∀ k a k' a', D.poolAllocations.get? k = some a → D.poolAllocations.get? k' = some a' →
    a'.drawsFrom a.sourceEpochTransitionOperationId a.poolId = true → k' = k

namespace AllocationBooks

variable {D : DevelopmentRecords}

variable (h : AllocationBooks L D)

include h

/-- What was paid and claimed under an allocation stays within it. -/
theorem spent_le (hbooks : RewardBooks D) {k : String}
    {a : PoolAllocation} (ha : D.poolAllocations.get? k = some a) :
    D.paid (ofAllocation k) + D.claimed (ofAllocation k) ≤ a.allocatedQAtoms := by
  have hroom := h.room k a ha
  have hresolved := hbooks.resolved_le (ofAllocation k)
  have hreserved := hbooks.allocation_le k
  omega

/-- A single allocation of a budget selects the records of the budget. -/
theorem ofBudget_eq {k : String} {a : PoolAllocation} (ha : D.poolAllocations.get? k = some a)
    (hdraws : a.drawsFrom t p = true) :
    ofBudget D.poolAllocations t p = ofAllocation k := by
  simp only [PoolAllocation.drawsFrom, and_eq_true, beq_iff_eq] at hdraws
  obtain ⟨rfl, rfl⟩ := hdraws
  funext source stage
  unfold ofBudget ofAllocation
  by_cases hk : source.poolAllocationId = k
  · rw [hk, ha, Option.any_some, drawsFrom_self, beq_self_eq_true]
  · rw [beq_eq_false_iff_ne.mpr hk]
    cases hget : D.poolAllocations.get? source.poolAllocationId with
    | none => rfl
    | some a' =>
      rw [Option.any_some]
      cases hd : a'.drawsFrom a.sourceEpochTransitionOperationId a.poolId with
      | false => rfl
      | true => exact absurd (h.single k a _ a' ha hget hd) hk

/-- A record that mints from no allocated budget keeps the books. -/
theorem grow {r : LedgerOperationRecord} (hgrows : LogGrows L L' r)
    (hr : ∀ k a, D.poolAllocations.get? k = some a →
      r.mintsFrom a.sourceEpochTransitionOperationId a.poolId = false) :
    AllocationBooks L' D := by
  refine ⟨fun k a ha => hgrows.grantsBudget (h.granted k a ha), h.reserveSource, h.room, ?_,
    h.single⟩
  intro k a ha
  rw [hgrows.operations, mintedFrom_append, h.unminted k a ha, hr k a ha]
  rfl

theorem congr {E : DevelopmentRecords} (hallocations : E.poolAllocations = D.poolAllocations)
    (hreserves : E.rewardReserves = D.rewardReserves)
    (hexpired : ∀ k, D.expired (ofAllocation k) ≤ E.expired (ofAllocation k)) :
    AllocationBooks L E := by
  refine ⟨?_, ?_, ?_, ?_, ?_⟩
  · rw [hallocations]
    exact h.granted
  · rw [hallocations, hreserves]
    exact h.reserveSource
  · intro k a ha
    rw [hallocations] at ha
    have hroom := h.room k a ha
    have hmore := hexpired k
    unfold DevelopmentRecords.reserved at hroom ⊢
    rw [hreserves]
    omega
  · rw [hallocations]
    exact h.unminted
  · rw [hallocations]
    exact h.single

/-- A new allocation of a budget that nothing draws on. -/
theorem allocate {a : PoolAllocation} (fresh : D.poolAllocations.get? a.allocationId = none)
    (granted : GrantsBudget L a.sourceEpochTransitionOperationId a.poolId a.allocatedQAtoms)
    (hmints : L.operations.any
      (·.mintsFrom a.sourceEpochTransitionOperationId a.poolId) = false)
    (hothers : D.poolAllocations.values.any
      (·.drawsFrom a.sourceEpochTransitionOperationId a.poolId) = false) :
    AllocationBooks L { D with
      poolAllocations := D.poolAllocations.set a.allocationId a } := by
  have hcases : ∀ {k b}, (D.poolAllocations.set a.allocationId a).get? k = some b →
      k = a.allocationId ∧ b = a ∨ D.poolAllocations.get? k = some b := by
    intro k b hb
    rw [Dict.get?_set] at hb
    split at hb
    · next hk =>
      cases hb
      exact .inl ⟨hk, rfl⟩
    · exact .inr hb
  have hnone : ∀ {k b}, D.poolAllocations.get? k = some b →
      b.drawsFrom a.sourceEpochTransitionOperationId a.poolId = false := fun hb =>
    eq_false_iff.mpr (any_eq_false.mp hothers _ (Dict.mem_values.mpr ⟨_, hb⟩))
  refine ⟨?_, ?_, ?_, ?_, ?_⟩
  · intro k b hb
    rcases hcases hb with ⟨-, rfl⟩ | hb
    · exact granted
    · exact h.granted k b hb
  · intro k r hr
    show ((D.poolAllocations.set a.allocationId a).get? r.poolAllocationId).isSome = true
    rw [Dict.get?_set]
    split
    · rfl
    · exact h.reserveSource k r hr
  · intro k b hb
    rcases hcases hb with ⟨rfl, rfl⟩ | hb
    · -- nothing is reserved under the new allocation yet
      have hreserved : D.reserved b.allocationId = 0 := by
        unfold DevelopmentRecords.reserved
        apply Dict.sum_eq_zero
        intro _ r hr
        obtain ⟨j, hj⟩ := Dict.mem_values.mp hr
        apply if_neg
        rw [beq_iff_eq]
        intro heq
        have hsome := h.reserveSource j r hj
        rw [heq, fresh] at hsome
        cases hsome
      have hexpired : 0 ≤ D.expired (ofAllocation b.allocationId) :=
        Dict.sum_nonneg fun _ e => stageWeight_nonneg _ e.unclaimed.source e.unclaimed.payment
      show D.reserved b.allocationId - D.expired (ofAllocation b.allocationId) ≤ _
      omega
    · exact h.room k b hb
  · intro k b hb
    rcases hcases hb with ⟨-, rfl⟩ | hb
    · exact mintedFrom_eq_zero fun r hr => eq_false_iff.mpr (any_eq_false.mp hmints r hr)
    · exact h.unminted k b hb
  · intro k b k' b' hb hb' hdraws
    rcases hcases hb with ⟨rfl, rfl⟩ | hold
    · rcases hcases hb' with ⟨rfl, -⟩ | hold'
      · rfl
      · rw [hnone hold'] at hdraws
        cases hdraws
    · rcases hcases hb' with ⟨rfl, rfl⟩ | hold'
      · have hself := hnone hold
        simp only [PoolAllocation.drawsFrom, and_eq_true, beq_iff_eq] at hdraws
        rw [hdraws.1, hdraws.2, drawsFrom_self] at hself
        cases hself
      · exact h.single k b k' b' hold hold' hdraws

/-- A new reserve that fits its allocation. -/
theorem reserve {r : RewardReserve} {a : PoolAllocation} (checked : ReserveChecked D r a) :
    AllocationBooks L { D with rewardReserves := D.rewardReserves.set r.reserveId r } := by
  refine ⟨h.granted, ?_, ?_, h.unminted, h.single⟩
  · intro k r' hr'
    rw [Dict.get?_set] at hr'
    split at hr'
    · cases hr'
      show (D.poolAllocations.get? r.poolAllocationId).isSome = true
      rw [checked.stored]
      rfl
    · exact h.reserveSource k r' hr'
  · intro k b hb
    have hsum : (D.rewardReserves.set r.reserveId r).sum (fun _ r =>
        if r.poolAllocationId == k then (r.reservedQAtoms : Int) else 0) =
        D.reserved k + if r.poolAllocationId == k then (r.reservedQAtoms : Int) else 0 :=
      Dict.sum_set_of_none _ checked.fresh r
    show (D.rewardReserves.set r.reserveId r).sum (fun _ r =>
        if r.poolAllocationId == k then (r.reservedQAtoms : Int) else 0) -
        D.expired (ofAllocation k) ≤ _
    rw [hsum]
    by_cases hk : r.poolAllocationId = k
    · subst hk
      have hb' : D.poolAllocations.get? r.poolAllocationId = some b := hb
      rw [checked.stored] at hb'
      cases hb'
      have hroom := checked.room
      rw [if_pos (beq_self_eq_true _)]
      omega
    · have hroom := h.room k b hb
      rw [if_neg (by simpa using hk)]
      omega

omit h

/-- A step of the development records keeps the books if it divides no budget. -/
theorem develop (h : AllocationBooks L L.development) (hstep : DevelopmentStep env L D)
    (hundivided : env.operationType = "DEVELOPMENT_POOL_ALLOCATE" →
      L.operations.any (·.mintsFrom (env.payload.text "source_epoch_transition_operation_id")
        (env.payload.text "pool_id")) = false ∧
      L.development.poolAllocations.values.any
        (·.drawsFrom (env.payload.text "source_epoch_transition_operation_id")
          (env.payload.text "pool_id")) = false) :
    AllocationBooks L D := by
  cases hstep with
  | allocate allocation type fresh transition pool granted =>
    obtain ⟨hmints, hothers⟩ := hundivided type
    rw [transition, pool] at hmints hothers
    exact h.allocate fresh granted hmints hothers
  | reserve reserve allocation checked => exact h.reserve checked
  | pay | mark | claim => exact h.congr rfl rfl fun k => le_rfl
  | expire expiry checked fresh =>
    refine h.congr rfl rfl fun k => ?_
    have hsum : (L.development.rewardExpiryRecords.set expiry.expiryId expiry).sum (fun _ e =>
        stageWeight (ofAllocation k) e.unclaimed.source e.unclaimed.payment) =
        L.development.expired (ofAllocation k) +
          stageWeight (ofAllocation k) expiry.unclaimed.source expiry.unclaimed.payment :=
      Dict.sum_set_of_none _ fresh expiry
    have hnonneg := stageWeight_nonneg (ofAllocation k) expiry.unclaimed.source
      expiry.unclaimed.payment
    show _ ≤ (L.development.rewardExpiryRecords.set expiry.expiryId expiry).sum (fun _ e =>
        stageWeight (ofAllocation k) e.unclaimed.source e.unclaimed.payment)
    omega
  | other D allocations same =>
    refine h.congr allocations same.reserves fun k => ?_
    unfold DevelopmentRecords.expired
    rw [same.expiries]

end AllocationBooks

/-- An undivided budget is not exceeded. -/
theorem issuedFrom_le (hmints : MintBooks L) (hbooks : RewardBooks L.development)
    (h : AllocationBooks L L.development) (hb : GrantsBudget L t p b) :
    issuedFrom L t p ≤ b := by
  unfold issuedFrom
  by_cases hsome : ∃ k a, L.development.poolAllocations.get? k = some a ∧ a.drawsFrom t p = true
  · obtain ⟨k, a, ha, hdraws⟩ := hsome
    rw [h.ofBudget_eq ha hdraws]
    simp only [PoolAllocation.drawsFrom, and_eq_true, beq_iff_eq] at hdraws
    obtain ⟨rfl, rfl⟩ := hdraws
    have hspent := h.spent_le hbooks ha
    have hunminted := h.unminted k a ha
    have hsame := hb.unique (h.granted k a ha)
    omega
  · have hnone : ∀ source stage,
        ofBudget L.development.poolAllocations t p source stage = false := by
      intro source stage
      unfold ofBudget
      cases hget : L.development.poolAllocations.get? source.poolAllocationId with
      | none => rfl
      | some a =>
        rw [Option.any_some, eq_false_iff]
        exact fun hd => hsome ⟨_, a, hget, hd⟩
    have hpaid : L.development.paid (ofBudget L.development.poolAllocations t p) = 0 :=
      Dict.sum_eq_zero fun _ _ _ => by rw [hnone]; rfl
    have hclaimed : L.development.claimed (ofBudget L.development.poolAllocations t p) = 0 :=
      Dict.sum_eq_zero fun _ _ _ => by rw [hnone]; rfl
    have hwithin := hmints.within t p b hb
    omega

/-! ## Runs -/

section Run

variable [Runtime] [LedgerRules]

theorem AllocationBooks.step {L : LedgerState} (h : AllocationBooks L L.development)
    (hmints : MintBooks L) (op : ConsensusOp) (hop : op.Undivided L) :
    AllocationBooks (op.after L) (op.after L).development := by
  rw [op.after_eq_leaves]
  rcases op.commits L with hkept | ⟨events, next, D, ⟨-, haccepts⟩, hadmits, hframe⟩
  · have hops : (leaves op.apply L).operations = L.operations :=
      congrArg (LedgerCore.operations ∘ Prod.fst) hkept
    have hD : (leaves op.apply L).development = L.development := congrArg Prod.snd hkept
    rw [hD]
    refine ⟨fun k a ha => (grantsBudget_congr hops).mpr (h.granted k a ha), h.reserveSource, h.room,
      ?_, h.single⟩
    rw [hops]
    exact h.unminted
  · have hgrows := logGrows_of_admits hmints.registered hadmits (congrArg Prod.fst hframe)
    have hD : (leaves op.apply L).development = D := congrArg Prod.snd hframe
    rw [hD]
    have hstep := haccepts.developmentStep
    refine (h.develop hstep hop.1).grow hgrows ?_
    intro k a ha
    cases hm : (admittedRecord L op.envelope events next).mintsFrom
        a.sourceEpochTransitionOperationId a.poolId with
    | false => rfl
    | true =>
      -- a mint changes no allocation, so the allocation was there before
      simp only [mintsFrom, and_eq_true, beq_iff_eq, isText_iff] at hm
      have htype : op.envelope.operationType = "REWARD_MINT" := hm.1.1
      have hold : L.development.poolAllocations.get? k = some a := by
        cases hstep with
        | allocate allocation type =>
          rw [htype] at type
          exact absurd type (by decide)
        | other D allocations same =>
          rw [← allocations]
          exact ha
        | _ => exact ha
      have hnone := hop.2 htype
      rw [Fields.text_of_get (show PyValue.get op.envelope.payload _ = _ from hm.1.2),
        Fields.text_of_get (show PyValue.get op.envelope.payload _ = _ from hm.2)] at hnone
      exact absurd (drawsFrom_self a)
        (any_eq_false.mp hnone a (Dict.mem_values.mpr ⟨k, hold⟩))

/-- What holds along a run that divides no budget. -/
structure BudgetBooks (L : LedgerState) : Prop where
  mints : MintBooks L
  rewards : RewardBooks L.development
  allocations : AllocationBooks L L.development

omit [Runtime] [LedgerRules] in
theorem budgetBooks_genesis (balances : Dict String Int) (manifest : Option Fields) :
    BudgetBooks (genesis balances manifest) := by
  refine ⟨⟨?_, ?_, ?_⟩, .empty, ⟨?_, ?_, ?_, ?_, ?_⟩⟩
  · intro r hr
    cases hr
  · intro r hr
    cases hr
  · rintro t p b ⟨r, budgets, hr, -⟩
    cases hr
  · intro k a ha
    cases ha
  · intro k r hr
    cases hr
  · intro k a ha
    cases ha
  · intro k a ha
    cases ha
  · intro k a k' a' ha
    cases ha

/-- In every state of a run that divides no budget, nothing is issued beyond the budget that a
finalized epoch transition grants a pool. -/
theorem issued_within_undivided_budget {balances : Dict String Int} {manifest : Option Fields}
    {ops : List ConsensusOp}
    (h : EachStep ConsensusOp.Undivided (genesis balances manifest) ops) {t p : String} {b : Int}
    (hb : GrantsBudget (runOps (genesis balances manifest) ops) t p b) :
    issuedFrom (runOps (genesis balances manifest) ops) t p ≤ b := by
  have hbooks : BudgetBooks (runOps (genesis balances manifest) ops) := by
    refine runOps_induct (fun L op hop hL => ?_) h (budgetBooks_genesis balances manifest)
    exact ⟨hL.mints.step op, hL.rewards.step (op.developmentStep L),
      hL.allocations.step hL.mints op hop⟩
  exact issuedFrom_le hbooks.mints hbooks.rewards hbooks.allocations hb

end Run

namespace PaidReward

/-- Another mint of the whole budget. -/
def secondMint : Envelope :=
  { mintEnvelope with
    payload := setMember mintEnvelope.payload "reward_id" (.str "mint-2")
    operationId := "a31042fc008ce71198f0009a652da7d4e8e1f6a340534921df6e1bae4efa5c1d" }

/-- A mint of the whole budget of a transition divides nothing, and a second one is refused. -/
theorem mint_within_budget :
    letI := sampleRuntime
    letI := rules
    let ops : List ConsensusOp := [.epochTransition transitionEnvelope none,
      .rewardMint mintEnvelope finalized, .rewardMint secondMint finalized]
    runOps (genesis .empty none) ops = afterMint ∧
      GrantsBudget (runOps (genesis .empty none) ops) transitionId "development" 1000 ∧
      issuedFrom (runOps (genesis .empty none) ops) transitionId "development" ≤ 1000 := by
  let _ := sampleRuntime
  let _ := rules
  have hrefused : (ConsensusOp.rewardMint secondMint finalized).after afterMint = afterMint := by
    have hover : validateRewardMint secondMint finalized afterMint =
        raiseValue "reward mint exceeds authorized pool budget" := by decide
    exact ConsensusOp.after_of_error (applyConsensus_eq_error.mpr (.inl ⟨hover, rfl⟩))
  have hrun : runOps (genesis .empty none) [.epochTransition transitionEnvelope none,
      .rewardMint mintEnvelope finalized, .rewardMint secondMint finalized] = afterMint := by
    simp only [runOps, after_transition, after_mint, hrefused]
  have hgranted : GrantsBudget (runOps (genesis .empty none)
      [.epochTransition transitionEnvelope none, .rewardMint mintEnvelope finalized,
        .rewardMint secondMint finalized]) transitionId "development" 1000 := by
    rw [hrun]
    exact ⟨_, _, rfl, rfl, rfl, rfl⟩
  have hsteps : EachStep ConsensusOp.Undivided (genesis .empty none)
      [.epochTransition transitionEnvelope none, .rewardMint mintEnvelope finalized,
        .rewardMint secondMint finalized] := by
    refine ⟨⟨?_, ?_⟩, ⟨?_, ?_⟩, ⟨?_, ?_⟩, trivial⟩
    · exact fun htype => absurd htype (by decide)
    · exact fun htype => absurd htype (by decide)
    · exact fun htype => absurd htype (by decide)
    · intro _
      rw [after_transition]
      rfl
    · exact fun htype => absurd htype (by decide)
    · intro _
      rw [after_transition, after_mint]
      rfl
  exact ⟨hrun, hgranted, issued_within_undivided_budget hsteps hgranted⟩

/-- The whole budget is minted and twenty Q atoms are paid out of its allocation. -/
theorem budget_exceeded :
    letI := sampleRuntime
    letI := rules
    GrantsBudget (runOps (genesis .empty none) operations) transitionId "development" 1000 ∧
      issuedFrom (runOps (genesis .empty none) operations) transitionId "development" = 1020 := by
  let _ := sampleRuntime
  let _ := rules
  rw [runOps_operations]
  refine ⟨⟨_, _, rfl, rfl, rfl, rfl⟩, ?_⟩
  have hminted : mintedFrom afterPay.operations transitionId "development" = 1000 := by decide
  have hbudget : ofBudget afterPay.development.poolAllocations transitionId "development"
      paymentRecord.source .immediate = true := by
    show ((Dict.empty.set allocation.allocationId allocation).get? allocation.allocationId).any
      (·.drawsFrom transitionId "development") = true
    rw [Dict.get?_set_self]
    decide
  have hpaid : afterPay.development.paid
      (ofBudget afterPay.development.poolAllocations transitionId "development") = 20 := by
    show (if ofBudget afterPay.development.poolAllocations transitionId "development"
      paymentRecord.source .immediate then (20 : Int) else 0) + 0 = 20
    rw [hbudget]
    rfl
  have hclaimed : afterPay.development.claimed
      (ofBudget afterPay.development.poolAllocations transitionId "development") = 0 := rfl
  unfold issuedFrom
  rw [hminted, hpaid, hclaimed]
  rfl

end PaidReward

end AidnSpec.Ledger
