import AidnSpec.Ledger.OperationFrames
import AidnSpec.Ledger.OperationSteps

/-!
# The life of a stake in the log

A stake is locked once, then unbonding, and then released or slashed. The log shows which: a
released stake has one request and one later release in it, whose epochs are the unbonding period
apart. Both epochs are what the two envelopes say.
-/

namespace AidnSpec.Ledger

open Base

def requestEpoch (r : LedgerOperationRecord) : Int := r.payload.int "request_epoch"

def releasingEpoch (r : LedgerOperationRecord) : Int := r.payload.int "current_epoch"

/-- The operation starts or ends the unbonding of a stake. -/
def isUnbonding (stakeId : String) (r : LedgerOperationRecord) : Bool :=
  (r.operationType == "UNSTAKE_REQUEST" || r.operationType == "STAKE_RELEASE") &&
    r.payload.text "stake_id" == stakeId

def unbondingLog (operations : List LedgerOperationRecord) (stakeId : String) :
    List LedgerOperationRecord :=
  operations.filter (isUnbonding stakeId)

/-- What the log shows of the unbonding of a stake, by the state of the stake. -/
inductive StakeHistory (stakeId : String) :
    List LedgerOperationRecord → Option StakeRecord → Prop
  | absent : StakeHistory stakeId [] none
  | locked (stake : StakeRecord) (state : stake.state = .locked) :
      StakeHistory stakeId [] (some stake)
  | unbonding (stake : StakeRecord) (request : LedgerOperationRecord)
      (state : stake.state = .unbonding) (requested : request.operationType = "UNSTAKE_REQUEST")
      (due : stake.releaseEpoch = some (requestEpoch request + defaultUnbondingPeriodEpochs))
      (named : isBlank stakeId = false) : StakeHistory stakeId [request] (some stake)
  | released (stake : StakeRecord) (request release : LedgerOperationRecord)
      (state : stake.state = .released) (requested : request.operationType = "UNSTAKE_REQUEST")
      (ends : release.operationType = "STAKE_RELEASE")
      (apart : requestEpoch request + defaultUnbondingPeriodEpochs ≤ releasingEpoch release) :
      StakeHistory stakeId [request, release] (some stake)
  | slashed (log : List LedgerOperationRecord) (stake : StakeRecord)
      (state : stake.state = .slashed)
      (unreleased : ∀ r ∈ log, r.operationType ≠ "STAKE_RELEASE") :
      StakeHistory stakeId log (some stake)

/-- The log shows the life of every stake. -/
def StakesLogged (L : LedgerState) : Prop :=
  ∀ stakeId, StakeHistory stakeId (unbondingLog L.operations stakeId) (L.stakeRecords.get? stakeId)

/-- A stake that was slashed stays so. -/
def SlashedStays (L L' : LedgerState) : Prop :=
  ∀ stakeId stake, L.stakeRecords.get? stakeId = some stake → stake.state = .slashed →
    L'.stakeRecords.get? stakeId = some stake

theorem stakesLogged_genesis (balances : Dict String Int) (manifest : Option Fields) :
    StakesLogged (genesis balances manifest) := fun _ => .absent

/-! ## One record more -/

theorem unbondingLog_append (operations : List LedgerOperationRecord) (r : LedgerOperationRecord)
    (stakeId : String) : unbondingLog (operations ++ [r]) stakeId =
      unbondingLog operations stakeId ++ if isUnbonding stakeId r = true then [r] else [] := by
  rw [unbondingLog, unbondingLog, List.filter_append, List.filter_singleton]
  congr 1
  by_cases h : isUnbonding stakeId r = true
  · rw [if_pos h, h, cond_true]
  · rw [if_neg h, Bool.eq_false_iff.mpr h, cond_false]

variable {operations : List LedgerOperationRecord} {r : LedgerOperationRecord} {L L' : LedgerState}
  {k : String} {stake : StakeRecord} {α : Type} {op : ConsensusOp}

/-- A record of another type does not show in the unbonding of a stake. -/
theorem unbondingLog_append_other (hrequest : r.operationType ≠ "UNSTAKE_REQUEST")
    (hrelease : r.operationType ≠ "STAKE_RELEASE") (stakeId : String) :
    unbondingLog (operations ++ [r]) stakeId = unbondingLog operations stakeId := by
  rw [unbondingLog_append, if_neg, List.append_nil]
  rw [isUnbonding, beq_eq_false_iff_ne.mpr hrequest, beq_eq_false_iff_ne.mpr hrelease]
  exact Bool.false_ne_true

/-- A record of the unbonding of one stake does not show in that of another. -/
theorem unbondingLog_append_of_ne {stakeId : String} (h : stakeId ≠ r.payload.text "stake_id") :
    unbondingLog (operations ++ [r]) stakeId = unbondingLog operations stakeId := by
  rw [unbondingLog_append, if_neg, List.append_nil]
  rw [isUnbonding, beq_eq_false_iff_ne.mpr h.symm, Bool.and_false]
  exact Bool.false_ne_true

theorem unbondingLog_append_self
    (h : r.operationType = "UNSTAKE_REQUEST" ∨ r.operationType = "STAKE_RELEASE") :
    unbondingLog (operations ++ [r]) (r.payload.text "stake_id") =
      unbondingLog operations (r.payload.text "stake_id") ++ [r] := by
  rw [unbondingLog_append, if_pos]
  rw [isUnbonding, beq_self_eq_true, Bool.and_true, Bool.or_eq_true, beq_iff_eq, beq_iff_eq]
  exact h

/-- Nothing shows when the stakes stay and the log grows by other records only. -/
theorem StakesLogged.congr (h : StakesLogged L)
    (hlog : ∀ k, unbondingLog L'.operations k = unbondingLog L.operations k)
    (hstakes : L'.stakeRecords = L.stakeRecords) : StakesLogged L' ∧ SlashedStays L L' := by
  constructor
  · intro k
    rw [hlog k, hstakes]
    exact h k
  · intro k stake hstake _
    rw [hstakes]
    exact hstake

/-- A stake is replaced and the log grows by a record of its unbonding, or by another one. -/
theorem StakesLogged.replace (h : StakesLogged L)
    (hstakes : L'.stakeRecords = L.stakeRecords.set k stake)
    (hothers : ∀ j, j ≠ k → unbondingLog L'.operations j = unbondingLog L.operations j)
    (hself : StakeHistory k (unbondingLog L'.operations k) (some stake))
    (hlive : ∀ old, L.stakeRecords.get? k = some old → old.state ≠ .slashed) :
    StakesLogged L' ∧ SlashedStays L L' := by
  constructor
  · intro j
    rw [hstakes]
    by_cases hj : j = k
    · subst hj
      rw [Dict.get?_set_self]
      exact hself
    · rw [Dict.get?_set_of_ne _ _ hj, hothers j hj]
      exact h j
  · intro j old hold hslashed
    have hj : j ≠ k := by
      rintro rfl
      exact hlive old hold hslashed
    rw [hstakes, Dict.get?_set_of_ne _ _ hj]
    exact hold

/-- A record of the unbonding of a stake goes on with its history. -/
theorem StakesLogged.unbond {next : StakeRecord} (h : StakesLogged L)
    (hstored : L.stakeRecords.get? (r.payload.text "stake_id") = some stake)
    (hlive : stake.state ≠ .slashed)
    (htype : r.operationType = "UNSTAKE_REQUEST" ∨ r.operationType = "STAKE_RELEASE")
    (hops : L'.operations = L.operations ++ [r])
    (hstakes : L'.stakeRecords = L.stakeRecords.set (r.payload.text "stake_id") next)
    (hnext : ∀ {log}, StakeHistory (r.payload.text "stake_id") log (some stake) →
      StakeHistory (r.payload.text "stake_id") (log ++ [r]) (some next)) :
    StakesLogged L' ∧ SlashedStays L L' := by
  have hhistory := h (r.payload.text "stake_id")
  rw [hstored] at hhistory
  refine h.replace hstakes (fun j hj => ?_) ?_ ?_
  · rw [hops]
    exact unbondingLog_append_of_ne hj
  · rw [hops, unbondingLog_append_self htype]
    exact hnext hhistory
  · intro old hold
    obtain rfl := Option.some.inj (hstored.symm.trans hold)
    exact hlive

/-! ## The operations that store a stake -/

def LedgerState.staking (L : LedgerState) : List LedgerOperationRecord × Dict String StakeRecord :=
  (L.operations, L.stakeRecords)

theorem ignoresFunds_staking : IgnoresFunds LedgerState.staking where
  balances := fun _ _ => rfl
  recyclable := fun _ _ => rfl
  burned := fun _ _ => rfl
  accounts := fun _ _ => rfl
  credits := fun _ _ => rfl
  locks := fun _ _ => rfl
  hashes := fun _ _ => rfl

/-- A computation that returns has left what it keeps. -/
theorem Keeps.of_ok {γ : Type} {view : LedgerState → γ} {x : LedgerM α} (h : Keeps view x) {a : α}
    (hx : x L = .ok a L') : view L' = view L := by
  have hview := h L
  rwa [leaves, hx] at hview

/-- Paying and then storing a stake stores the stake. -/
theorem staking_of_putStake {x : LedgerM Unit} (h : Keeps LedgerState.staking x)
    (hok : (x >>= fun _ => putStake k stake) L = .ok () L') :
    L'.staking = (L.operations, L.stakeRecords.set k stake) := by
  cases hx : x L with
  | error e L₁ =>
    simp only [bind, EStateM.bind, hx] at hok
    cases hok
  | ok u L₁ =>
    have hview : L₁.staking = L.staking := h.of_ok hx
    rw [bind_run hx] at hok
    cases hok
    have hops : L₁.operations = L.operations := congrArg Prod.fst hview
    have hstakes : L₁.stakeRecords = L.stakeRecords := congrArg Prod.snd hview
    show (L₁.operations, L₁.stakeRecords.set k stake) = _
    rw [hops, hstakes]

/-- What an operation that returns has recorded and stored. -/
theorem staking_of_applyConsensus {validate : LedgerState → Except PyError α}
    {emittedEvents : α → List String} {env : Envelope} {effect : α → LedgerM Unit}
    {record : LedgerOperationRecord} {k : α → String} {stake : α → StakeRecord}
    (heffect : ∀ v M M', effect v M = .ok () M' → M'.staking =
      (M.operations, M.stakeRecords.set (k v) (stake v)))
    (h : applyConsensus validate emittedEvents env effect L = .ok record L') :
    ∃ v r, validate L = .ok v ∧ r.operationType = env.operationType ∧ r.payload = env.payload ∧
      L'.operations = L.operations ++ [r] ∧
      L'.stakeRecords = L.stakeRecords.set (k v) (stake v) := by
  obtain ⟨v, L₁, hv, ha, he⟩ := applyConsensus_eq_ok.mp h
  obtain ⟨next, -, -, rfl⟩ := admitEnvelope_eq_ok.mp ha
  have hstaking := heffect v _ L' he
  exact ⟨v, admittedRecord L env (emittedEvents v) next, hv, rfl, rfl,
    congrArg Prod.fst hstaking, congrArg Prod.snd hstaking⟩

variable {env : Envelope} {L L' : LedgerState} {record : LedgerOperationRecord}

/-- A member that has a text is not blank. -/
theorem isBlank_text_of_hasText {payload : Fields} {key : String}
    (h : payload.hasText key = true) : isBlank (payload.text key) = false := by
  rw [Fields.hasText] at h
  rw [Fields.text]
  split at h
  · exact (Bool.not_eq_true' _).mp h
  · cases h

theorem validateUnstakeRequest_names {epoch : Int}
    (h : validateUnstakeRequest env L = .ok (stake, epoch)) :
    isBlank (env.payload.text "stake_id") = false ∧ env.payload.int "request_epoch" = epoch := by
  simp only [validateUnstakeRequest, checks_eq_ok, exists_unit] at h
  obtain ⟨-, s, -, -, htext, n, ⟨hepoch, -⟩, -, -, h⟩ := h
  split at h
  · cases h
  · simp only [checks_eq_ok, exists_unit] at h
    obtain ⟨-, -, -, hpair⟩ := h
    cases hpair
    exact ⟨isBlank_text_of_hasText htext, Fields.int_of_get hepoch⟩

theorem validateStakeRelease_reached (h : validateStakeRelease env L = .ok stake) :
    ∃ epoch, stake.releaseEpoch = some epoch ∧ epoch ≤ env.payload.int "current_epoch" := by
  simp only [validateStakeRelease, checks_eq_ok, exists_unit] at h
  obtain ⟨-, -, -, -, n, ⟨hepoch, -⟩, -, h⟩ := h
  rw [Fields.int_of_get hepoch]
  split at h
  · cases h
  · simp only [checks_eq_ok, exists_unit] at h
    obtain ⟨-, hreached, -, rfl⟩ := h
    unfold epochReached at hreached
    split at hreached
    · next epoch hrelease => exact ⟨epoch, hrelease, of_decide_eq_true hreached⟩
    · cases hreached

theorem StakesLogged.stakeLock (h : StakesLogged L) (hok : applyStakeLock env L = .ok record L') :
    StakesLogged L' ∧ SlashedStays L L' := by
  obtain ⟨⟨sender, amount⟩, r, hv, htype, -, hops, hstakes⟩ :=
    @staking_of_applyConsensus _ _ _ _ _ _ _ _ (fun _ => env.payload.text "stake_id")
      (fun v => lockedStake env v.1 v.2)
      (fun v _ _ he => staking_of_putStake (ignoresFunds_staking.debitWalletQAtoms v.1 v.2) he) hok
  obtain ⟨-, -, hnew⟩ := validateStakeLock_spec hv
  have hlockType : env.operationType = "STAKE_LOCK" := List.mem_singleton.mp (type_of_ok hv)
  have hlog : ∀ k, unbondingLog L'.operations k = unbondingLog L.operations k := by
    intro k
    rw [hops]
    apply unbondingLog_append_other
    · rw [htype, hlockType]
      decide
    · rw [htype, hlockType]
      decide
  have hhistory := h (env.payload.text "stake_id")
  rw [hnew] at hhistory
  refine h.replace hstakes (fun j _ => hlog j) ?_ ?_
  · rw [hlog]
    generalize unbondingLog L.operations (env.payload.text "stake_id") = log at hhistory ⊢
    cases hhistory
    exact .locked _ rfl
  · intro old hold
    rw [hnew] at hold
    cases hold

theorem StakesLogged.unstakeRequest (h : StakesLogged L)
    (hok : applyUnstakeRequest env L = .ok record L') : StakesLogged L' ∧ SlashedStays L L' := by
  obtain ⟨⟨stake, epoch⟩, r, hv, htype, hpayload, hops, hstakes⟩ :=
    @staking_of_applyConsensus _ _ _ _ _ _ _ _ (fun _ => env.payload.text "stake_id")
      (fun v => { v.1 with
        state := .unbonding
        unbondingStartEpoch := some v.2
        releaseEpoch := some (v.2 + defaultUnbondingPeriodEpochs)
        unstakeRequestOperationId := some env.operationId })
      (fun v _ _ he => by cases he; rfl) hok
  obtain ⟨hstored, hlocked⟩ := validateUnstakeRequest_spec hv
  have hrequest : env.operationType = "UNSTAKE_REQUEST" := List.mem_singleton.mp (type_of_ok hv)
  have hchecked := validateUnstakeRequest_names hv
  rw [← hpayload] at hstored hstakes hchecked
  refine h.unbond hstored (by simp [hlocked]) (.inl (htype.trans hrequest)) hops hstakes
    fun hhistory => ?_
  cases hhistory with
  | locked _ state =>
    refine .unbonding _ r rfl (htype.trans hrequest) ?_ hchecked.1
    rw [requestEpoch, hchecked.2]
  | unbonding _ _ state | released _ _ _ state | slashed _ _ state =>
    rw [hlocked] at state; cases state

theorem StakesLogged.stakeRelease (h : StakesLogged L) (wf : L.economy.WellFormed)
    (hok : applyStakeRelease env L = .ok record L') : StakesLogged L' ∧ SlashedStays L L' := by
  obtain ⟨stake, r, hv, htype, hpayload, hops, hstakes⟩ :=
    @staking_of_applyConsensus _ _ _ _ _ _ _ _ (fun v => v.stakeId)
      (fun v => { v with state := .released, releasedByOperationId := some env.operationId })
      (fun v _ _ he => staking_of_putStake
        (ignoresFunds_staking.creditWalletQAtoms v.ownerWallet v.amount) he) hok
  obtain ⟨hstored, hunbonding⟩ := validateStakeRelease_spec hv
  obtain ⟨epoch, hepoch, hreached⟩ := validateStakeRelease_reached hv
  have hrelease : env.operationType = "STAKE_RELEASE" := List.mem_singleton.mp (type_of_ok hv)
  rw [(wf.stakes hstored).1] at hstakes
  rw [← hpayload] at hstored hstakes hreached
  refine h.unbond hstored (by simp [hunbonding]) (.inr (htype.trans hrelease)) hops hstakes
    fun hhistory => ?_
  cases hhistory with
  | locked _ state | released _ _ _ state | slashed _ _ state =>
    rw [hunbonding] at state; cases state
  | unbonding _ request state requested due =>
    refine .released _ request r rfl requested (htype.trans hrelease) ?_
    rw [hepoch] at due
    rw [releasingEpoch, ← Option.some.inj due]
    exact hreached

/-- A slash keeps the state of a stake, or ends it. -/
theorem StakeHistory.slash {log : List LedgerOperationRecord}
    (h : StakeHistory k log (some stake)) (amount : Int)
    (hlive : stake.state = .locked ∨ stake.state = .unbonding) :
    StakeHistory k log (some (Ledger.slashed stake amount)) := by
  have hnone : ∀ r ∈ log, r.operationType ≠ "STAKE_RELEASE" := by
    intro r hr
    cases h with
    | locked => exact absurd hr List.not_mem_nil
    | unbonding _ request _ requested =>
      rw [List.mem_singleton.mp hr, requested]
      decide
    | released _ _ _ state =>
      rw [state] at hlive
      rcases hlive with hlive | hlive <;> cases hlive
    | slashed _ _ _ unreleased => exact unreleased r hr
  unfold Ledger.slashed
  split
  · exact .slashed log _ rfl hnone
  · cases h with
    | locked _ state => exact .locked _ state
    | unbonding _ request state requested due named =>
      exact .unbonding _ request state requested due named
    | released _ request release state requested ends apart =>
      exact .released _ request release state requested ends apart
    | slashed _ _ state unreleased => exact .slashed log _ state unreleased

theorem StakesLogged.penaltyApply (h : StakesLogged L) {finalized : List String}
    (hok : applyPenaltyApply env finalized L = .ok record L') :
    StakesLogged L' ∧ SlashedStays L L' := by
  obtain ⟨penalty, L₁, hv, ha, he⟩ := applyConsensus_eq_ok.mp hok
  obtain ⟨next, -, -, rfl⟩ := admitEnvelope_eq_ok.mp ha
  obtain ⟨-, hcovers⟩ := validatePenaltyApply_spec hv
  have hpenalty : env.operationType = "PENALTY_APPLY" := List.mem_singleton.mp (type_of_ok hv)
  have hlog : ∀ events k, unbondingLog (L.admitted env events next).operations k =
      unbondingLog L.operations k := by
    intro events k
    apply unbondingLog_append_other
    · show env.operationType ≠ _
      rw [hpenalty]
      decide
    · show env.operationType ≠ _
      rw [hpenalty]
      decide
  cases htarget : penalty.target with
  | stake k stake =>
    rw [htarget] at hcovers he
    obtain ⟨hstored, hstate, -⟩ := hcovers
    have hkept := (ignoresFunds_staking.collectPenalty penalty.recyclable penalty.amount).of_ok he
    have hops := congrArg Prod.fst hkept
    have hstakes := congrArg Prod.snd hkept
    have hhistory := h k
    rw [hstored] at hhistory
    have hsame : ∀ j, unbondingLog L'.operations j = unbondingLog L.operations j := by
      intro j
      rw [show L'.operations = _ from hops]
      exact hlog _ j
    refine h.replace hstakes (fun j _ => hsame j) ?_ ?_
    · rw [hsame]
      exact hhistory.slash penalty.amount hstate
    · intro old hold hslashed
      obtain rfl := Option.some.inj (hstored.symm.trans hold)
      rw [hslashed] at hstate
      rcases hstate with hstate | hstate <;> cases hstate
  | wallet walletId =>
    rw [htarget] at he
    have hkept := ((ignoresFunds_staking.debitWalletQAtoms walletId penalty.amount).bind fun _ =>
      ignoresFunds_staking.collectPenalty penalty.recyclable penalty.amount).of_ok he
    refine h.congr (fun j => ?_) (congrArg Prod.snd hkept)
    rw [show L'.operations = _ from congrArg Prod.fst hkept]
    exact hlog _ j

/-! ## Every operation -/

variable [Runtime] [LedgerRules]

/-- The stakes change only by the operations that store them. -/
theorem ConsensusOp.stakes_after (h : op.storesStake = false) (L : LedgerState) :
    (op.after L).stakeRecords = L.stakeRecords := by
  have hignores : IgnoresRecords fun L : LedgerState => L.stakeRecords := by
    constructor
    · constructor <;> intros <;> rfl
    all_goals intros; rfl
  rw [op.after_eq_leaves]
  exact op.keeps hignores (fun hstores => by rw [h] at hstores; cases hstores) (fun _ _ _ => rfl) L

omit [Runtime] [LedgerRules] in
/-- The unbonding of a stake is recorded by the stake operations only. -/
theorem ConsensusOp.not_unbonding (h : op.storesStake = false) {type : String}
    (hmem : type ∈ op.operationTypes) : type ≠ "UNSTAKE_REQUEST" ∧ type ≠ "STAKE_RELEASE" := by
  constructor <;> rintro rfl
  all_goals
    cases op with
    | recorded kind | development kind | developmentPayment kind =>
      cases kind <;> simp [operationTypes, RecordedKind.operationTypes,
        DevelopmentKind.operationType, PaymentKind.operationType] at hmem
    | unstakeRequest | stakeRelease => cases h
    | _ => simp [operationTypes] at hmem

/-- Every operation keeps the log and the stakes in step. -/
theorem StakesLogged.after (h : StakesLogged L) (wf : L.economy.WellFormed) (op : ConsensusOp) :
    StakesLogged (op.after L) ∧ SlashedStays L (op.after L) := by
  have hsame : StakesLogged L ∧ SlashedStays L L := h.congr (fun _ => rfl) rfl
  by_cases hstores : op.storesStake = true
  · have hlate : ¬ op.RaisesLate L := by
      cases op <;> first | exact id | cases hstores
    cases happly : op.apply L with
    | error e L' =>
      rw [ConsensusOp.after_of_error happly, (ConsensusOp.takes wf hlate).atomic happly]
      exact hsame
    | ok record L' =>
      rw [ConsensusOp.after_of_ok happly]
      cases op with
      | stakeLock env => exact h.stakeLock happly
      | unstakeRequest env => exact h.unstakeRequest happly
      | stakeRelease env => exact h.stakeRelease wf happly
      | penaltyApply env finalized => exact h.penaltyApply happly
      | _ => cases hstores
  · have hstores := Bool.eq_false_iff.mpr hstores
    refine h.congr (fun k => ?_) (ConsensusOp.stakes_after hstores L)
    rw [op.after_eq_leaves]
    rcases op.records L with hcore | ⟨events, next, htype, -, hcore⟩
    · rw [show (leaves op.apply L).operations = L.operations from
        congrArg LedgerCore.operations hcore]
    · rw [show (leaves op.apply L).operations = _ from congrArg LedgerCore.operations hcore]
      obtain ⟨hrequest, hrelease⟩ := ConsensusOp.not_unbonding hstores htype
      exact unbondingLog_append_other hrequest hrelease k

end AidnSpec.Ledger
