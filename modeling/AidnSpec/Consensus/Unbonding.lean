import AidnSpec.Consensus.EpochChain
import AidnSpec.Consensus.Robustness
import AidnSpec.Ledger.StakeHistory

/-!
# Unbonding and the epochs of the chain

The epochs that start and end the unbonding of a stake are members of two payloads, and neither is
compared with the epochs that the chain has closed. Where the request does not name an earlier epoch
and the release does not name a later one than the chain's, a stake is released only after the whole
period.
-/

namespace AidnSpec.Consensus

open Base Ledger List

/-- How many epochs the transitions of a log have closed. -/
def epochsClosed (operations : List LedgerOperationRecord) : Nat :=
  operations.countP (·.operationType == "EPOCH_TRANSITION")

/-- Requests name no earlier epoch than the one the log has reached, and releases no later one. -/
def EpochsOnTime (operations : List LedgerOperationRecord) : Prop :=
  ∀ before r after, operations = before ++ r :: after →
    (r.operationType = "UNSTAKE_REQUEST" → (epochsClosed before : Int) ≤ requestEpoch r) ∧
    (r.operationType = "STAKE_RELEASE" → releasingEpoch r ≤ epochsClosed before)

/-- What a penalty needs apart from its target. -/
structure Evidenced (env : Envelope) (ids : List String) (L : LedgerState) (amount : Int)
    (recyclable : Bool) : Prop where
  type : env.operationType = "PENALTY_APPLY"
  origin : env.originType = .evidenceTriggered ∧ env.senderWallet = none
  sponsored : env.feeClass = .protocolSponsored
  texts : ∀ key ∈ ["penalty_id", "target_wallet_or_lock", "penalty_type", "evidence_root",
    "evidence_operation_id"], env.payload.hasText key = true
  authorized : env.payload.text "penalty_type" ∈ consensusPenaltyTypes
  amount : PyValue.get env.payload "amount" = .int amount ∧ 0 < amount
  recyclable : PyValue.get env.payload "recyclable" = .bool recyclable
  finalized : env.payload.text "evidence_operation_id" ∈ ids
  stored : (L.operationById (env.payload.text "evidence_operation_id")).isSome = true
  root : env.payload.text "evidence_root" ∈ env.evidenceReferences
  referenced : env.payload.text "evidence_operation_id" ∈ env.evidenceReferences
  uncommitted : penaltyCommitted L (env.payload.text "penalty_id") = false

/-- A stake is unbonding, and every evidenced penalty on it up to its amount is accepted. -/
def SubjectToPenalty (L : LedgerState) (stakeId : String) : Prop :=
  ∃ stake, L.stakeRecords.get? stakeId = some stake ∧ stake.state = .unbonding ∧
    ∀ env ids amount recyclable, Evidenced env ids L amount recyclable →
      env.payload.text "target_wallet_or_lock" = "lock:" ++ stakeId → amount ≤ stake.amount →
        validatePenaltyApply env ids L = .ok ⟨.stake stakeId stake, amount, recyclable⟩

theorem epochsClosed_append (earlier later : List LedgerOperationRecord) :
    epochsClosed (earlier ++ later) = epochsClosed earlier + epochsClosed later :=
  countP_append

/-! ## Penalties on a stake -/

variable {L : LedgerState} {amount : Int} {release request : LedgerOperationRecord}
  {after : List LedgerOperationRecord}

theorem penaltyTarget_lock {stakeId : String} {stake : StakeRecord}
    (hnamed : isBlank stakeId = false) (hstored : L.stakeRecords.get? stakeId = some stake)
    (hstate : stake.state = .unbonding) (hamount : amount ≤ stake.amount) :
    penaltyTarget L ("lock:" ++ stakeId) amount = .ok (.stake stakeId stake) := by
  have hprefix : "lock:".toList.isPrefixOf ("lock:" ++ stakeId).toList = true := by
    rw [String.toList_append, isPrefixOf_iff_prefix]
    exact prefix_append _ _
  have hrest : String.ofList (removePre "lock:".toList ("lock:" ++ stakeId).toList) = stakeId := by
    rw [removePre, if_pos hprefix, String.toList_append, drop_left, String.ofList_toList]
  rw [penaltyTarget, if_pos hprefix, hrest]
  dsimp only
  rw [hnamed, hstored]
  simp only [checks_eq_ok, exists_unit]
  refine ⟨rfl, ?_, decide_eq_true hamount, trivial⟩
  rw [hstate]
  rfl

theorem Evidenced.validate {env : Envelope} {ids : List String} {recyclable : Bool}
    (h : Evidenced env ids L amount recyclable) {target : PenaltyTarget}
    (htarget : penaltyTarget L (env.payload.text "target_wallet_or_lock") amount = .ok target) :
    validatePenaltyApply env ids L = .ok ⟨target, amount, recyclable⟩ := by
  simp only [validatePenaltyApply, checks_eq_ok, exists_unit, beq_iff_eq, Bool.and_eq_true,
    Option.isNone_iff_eq_none, contains_iff_mem, decide_eq_true_eq]
  refine ⟨h.type, h.origin, h.sponsored, h.texts, h.authorized, amount, h.amount, ?_⟩
  simp only [h.recyclable, checks_eq_ok, exists_unit, contains_iff_mem, htarget, h.uncommitted]
  exact ⟨h.finalized, h.stored, h.root, h.referenced, rfl, target, rfl, rfl⟩

/-! ## Runs -/

/-- The run passes through a state: after some blocks and some transactions of the next one. -/
def PassesThrough [Runtime] [LedgerRules] (config : ApplicationConfig) (app : Application)
    (blocks : List Block) (current : Application) : Prop :=
  ∃ before block after app₁ done rest results, blocks = before ++ block :: after ∧
    Finalizes config app before app₁ ∧ block.txs = done ++ rest ∧
    executeAll config (blockContext app₁ block.txs) app₁ done = .ok (results, current)

/-- The economy of a ledger is well formed and its log shows the life of every stake. -/
structure StakesSound (L : LedgerState) : Prop where
  economy : L.economy.WellFormed
  logged : StakesLogged L

theorem slashedStays_refl (L : LedgerState) : SlashedStays L L := fun _ _ h _ => h

theorem slashedStays_trans {L₁ L₂ : LedgerState} (h : SlashedStays L L₁) (h' : SlashedStays L₁ L₂) :
    SlashedStays L L₂ :=
  fun k stake hstake hslashed => h' k stake (h k stake hstake hslashed) hslashed

section Runs

variable [Runtime] [LedgerRules] {config : ApplicationConfig} {block : BlockContext}
  {app app' : Application}

variable {ids : List String} {result : ABCIResult} {results : List ABCIResult}
  {current : Application}

omit [Runtime] [LedgerRules] in
/-- The stake operations have a branch of their own. -/
theorem not_unbonding_of_unapplied {strict : Bool} {env : Envelope}
    (h : appliedOperation strict env ids = none) :
    env.operationType ≠ "UNSTAKE_REQUEST" ∧ env.operationType ≠ "STAKE_RELEASE" := by
  constructor <;>
  · intro htype
    rw [appliedOperation, branch, htype] at h
    cases strict <;> cases h

theorem StakesSound.executeOne (sound : StakesSound app.ledger) {tx : Transaction}
    (h : executeOne config block app tx = .ok (result, app')) :
    StakesSound app'.ledger ∧ SlashedStays app.ledger app'.ledger := by
  have wf := wellFormed_executeOne h sound.economy
  rcases executeOne_cases h with ⟨rfl, -⟩ | ⟨env, -, -, -, happly⟩
  · exact ⟨sound, slashedStays_refl _⟩
  · have hleaves := ledger_of_executeApply happly
    rw [applyEnvelope] at hleaves
    cases hop : appliedOperation config.strictOperationCoverage env block.finalizedIds with
    | some op =>
      rw [hop, ← op.after_eq_leaves] at hleaves
      obtain ⟨hlogged, hstays⟩ := sound.logged.after sound.economy op
      rw [← hleaves] at hlogged hstays
      exact ⟨⟨wf, hlogged⟩, hstays⟩
    | none =>
      rw [hop] at hleaves
      replace hleaves : app'.ledger = leaves (recordAdmittedEnvelope env []) app.ledger := hleaves
      -- an envelope without a branch is only recorded, and it is no stake operation
      have hkept : StakesLogged app'.ledger ∧ SlashedStays app.ledger app'.ledger := by
        rw [hleaves, leaves, recordAdmittedEnvelope]
        cases hentry : admitEnvelope app.ledger env [] with
        | error e => exact ⟨sound.logged, slashedStays_refl _⟩
        | ok pair =>
          obtain ⟨next, -, -, hstate⟩ := admitEnvelope_eq_ok.mp hentry
          show StakesLogged pair.2 ∧ SlashedStays app.ledger pair.2
          rw [hstate]
          obtain ⟨hrequest, hrelease⟩ := not_unbonding_of_unapplied hop
          exact sound.logged.congr (fun k => unbondingLog_append_other hrequest hrelease k) rfl
      exact ⟨⟨wf, hkept.1⟩, hkept.2⟩

theorem StakesSound.executeAll (sound : StakesSound app.ledger) {txs : List Transaction}
    (h : Consensus.executeAll config block app txs = .ok (results, app')) :
    StakesSound app'.ledger ∧ SlashedStays app.ledger app'.ledger := by
  induction txs generalizing app results with
  | nil =>
    cases h
    exact ⟨sound, slashedStays_refl _⟩
  | cons tx txs ih =>
    obtain ⟨result, app₁, more, hone, hall, -⟩ := executeAll_cons.mp h
    obtain ⟨hsound, hstays⟩ := sound.executeOne hone
    obtain ⟨hsound', hstays'⟩ := ih hsound hall
    exact ⟨hsound', slashedStays_trans hstays hstays'⟩

omit [Runtime] [LedgerRules] in
/-- Activation changes neither the stakes nor the log. -/
theorem StakesSound.activate {L L' : LedgerState} (sound : StakesSound L) {epochs : List Int}
    {updates : List ValidatorUpdate} (h : activateEpochs ids L epochs = .ok (updates, L')) :
    StakesSound L' ∧ SlashedStays L L' := by
  have heconomy := economy_of_activateEpochs h
  have hstakes : L'.stakeRecords = L.stakeRecords := congrArg Economy.stakes heconomy
  obtain ⟨hlogged, hstays⟩ := sound.logged.congr
    (fun k => by rw [(kept_of_activateEpochs h).1]) hstakes
  exact ⟨⟨by rw [heconomy]; exact sound.economy, hlogged⟩, hstays⟩

theorem StakesSound.finalizeBlock (sound : StakesSound app.ledger) {b : Block}
    (h : Consensus.finalizeBlock config app b = .ok (.finalized result results app')) :
    StakesSound app'.ledger ∧ SlashedStays app.ledger app'.ledger := by
  obtain ⟨executed, updates, L, hall, hactivate, -, rfl⟩ := finalizeBlock_eq_finalized.mp h
  obtain ⟨hsound, hstays⟩ := sound.executeAll hall
  obtain ⟨hsound', hstays'⟩ := hsound.activate hactivate
  exact ⟨hsound', slashedStays_trans hstays hstays'⟩

theorem StakesSound.run (sound : StakesSound app.ledger) {blocks : List Block}
    (run : Finalizes config app blocks app') :
    StakesSound app'.ledger ∧ SlashedStays app.ledger app'.ledger := by
  induction run with
  | nil app => exact ⟨sound, slashedStays_refl _⟩
  | cons finalized _ _ ih =>
    obtain ⟨hsound, hstays⟩ := sound.finalizeBlock finalized
    obtain ⟨hsound', hstays'⟩ := ih hsound
    exact ⟨hsound', slashedStays_trans hstays hstays'⟩

/-- The rest of a run that starts with a given part. -/
theorem Finalizes.rest {app₁ : Application} {before after : List Block}
    (run : Finalizes config app (before ++ after) app') (part : Finalizes config app before app₁) :
    Finalizes config app₁ after app' := by
  induction part with
  | nil app => exact run
  | cons finalized _ _ ih =>
    cases run with
    | cons finalized' code' run' =>
      rw [finalized] at finalized'
      cases finalized'
      exact ih run'

/-- The rest of the transactions after some of them. -/
theorem executeAll_rest {done rest : List Transaction} {doneResults : List ABCIResult}
    (h : executeAll config block app (done ++ rest) = .ok (results, app'))
    (part : executeAll config block app done = .ok (doneResults, current)) :
    ∃ more, executeAll config block current rest = .ok (more, app') := by
  induction done generalizing app results doneResults with
  | nil =>
    cases part
    exact ⟨results, h⟩
  | cons tx done ih =>
    obtain ⟨result, app₁, more, hone, hall, -⟩ := executeAll_cons.mp part
    obtain ⟨result', app₁', more', hone', hall', -⟩ := executeAll_cons.mp h
    rw [hone] at hone'
    cases hone'
    exact ih hall' hall

/-- A state that a run passes through is sound, and what is slashed there is slashed at the end. -/
theorem PassesThrough.sound {blocks : List Block} (h : PassesThrough config app blocks current)
    (sound : StakesSound app.ledger) (run : Finalizes config app blocks app') :
    StakesSound current.ledger ∧ SlashedStays current.ledger app'.ledger := by
  obtain ⟨before, block, after, app₁, done, rest, results, rfl, hbefore, htxs, hdone⟩ := h
  have hsound := ((sound.run hbefore).1.executeAll hdone).1
  cases run.rest hbefore with
  | cons finalized code run' =>
    obtain ⟨executed, updates, L, hall, hactivate, -, rfl⟩ :=
      finalizeBlock_eq_finalized.mp finalized
    rw [htxs] at hall hdone
    obtain ⟨more, hrest⟩ := executeAll_rest hall hdone
    obtain ⟨hsound₁, hstays₁⟩ := hsound.executeAll hrest
    obtain ⟨hsound₂, hstays₂⟩ := hsound₁.activate hactivate
    obtain ⟨-, hstays₃⟩ := @StakesSound.run _ _ _ (executed.sealed block L) _ hsound₂ _ run'
    exact ⟨hsound, slashedStays_trans hstays₁ (slashedStays_trans hstays₂ hstays₃)⟩

end Runs

/-! ## The period -/

/-- Before every release the log holds the one request of the stake, and between the two it has
closed as many epochs as the unbonding period has. -/
def UnbondsFully (operations : List LedgerOperationRecord) : Prop :=
  ∀ before release after, operations = before ++ release :: after →
    release.operationType = "STAKE_RELEASE" →
    ∃ earlier request window, before = earlier ++ request :: window ∧
      request.operationType = "UNSTAKE_REQUEST" ∧
      request.payload.text "stake_id" = release.payload.text "stake_id" ∧
      unbondingLog earlier (release.payload.text "stake_id") = [] ∧
      unbondingLog window (release.payload.text "stake_id") = [] ∧
      defaultUnbondingPeriodEpochs ≤ epochsClosed window

theorem isUnbonding_of_release (h : release.operationType = "STAKE_RELEASE") :
    isUnbonding (release.payload.text "stake_id") release = true := by
  simp [isUnbonding, h]

/-- A release in the log comes after the one request of its stake, and names an epoch at least the
period after the request's. -/
theorem request_of_release (h : StakesLogged L) {before : List LedgerOperationRecord}
    (hlog : L.operations = before ++ release :: after)
    (hrelease : release.operationType = "STAKE_RELEASE") :
    ∃ earlier request window, before = earlier ++ request :: window ∧
      request.operationType = "UNSTAKE_REQUEST" ∧
      request.payload.text "stake_id" = release.payload.text "stake_id" ∧
      unbondingLog earlier (release.payload.text "stake_id") = [] ∧
      unbondingLog window (release.payload.text "stake_id") = [] ∧
      requestEpoch request + defaultUnbondingPeriodEpochs ≤ releasingEpoch release := by
  have hhistory := h (release.payload.text "stake_id")
  have hself := isUnbonding_of_release hrelease
  have hsplit : unbondingLog L.operations (release.payload.text "stake_id") =
      unbondingLog before (release.payload.text "stake_id") ++
        release :: unbondingLog after (release.payload.text "stake_id") := by
    rw [hlog, unbondingLog, filter_append, filter_cons_of_pos hself]
    rfl
  rw [hsplit] at hhistory
  generalize hfront : unbondingLog before (release.payload.text "stake_id") = front at hhistory
  generalize unbondingLog after (release.payload.text "stake_id") = back at hhistory
  generalize hwhole : front ++ release :: back = whole at hhistory
  generalize L.stakeRecords.get? (release.payload.text "stake_id") = stored at hhistory
  have hmem : release ∈ whole := by
    rw [← hwhole]
    exact mem_append_right _ mem_cons_self
  cases hhistory with
  | absent | locked => exact absurd hmem not_mem_nil
  | unbonding _ request _ requested =>
    rw [mem_singleton.mp hmem, requested] at hrelease
    exact absurd hrelease (by decide)
  | slashed _ _ _ unreleased => exact absurd hrelease (unreleased release hmem)
  | released _ request release' _ requested ends apart =>
    -- the release is not the request, so it is the second of the two
    have hcases : front = [request] ∧ release = release' := by
      rcases append_eq_cons_iff.mp hwhole with ⟨hnil, hcons⟩ | ⟨rest, hfront', hrest⟩
      · rw [(List.cons.inj hcons).1, requested] at hrelease
        exact absurd hrelease (by decide)
      · rcases append_eq_cons_iff.mp hrest.symm with ⟨hnil, hcons⟩ | ⟨rest', hrest', hnone⟩
        · rw [hfront', hnil]
          exact ⟨rfl, (List.cons.inj hcons).1⟩
        · exact absurd hnone (by simp)
    obtain ⟨hone, rfl⟩ := hcases
    rw [hone] at hfront
    obtain ⟨earlier, window, hbefore, hearlier, hrequest, hwindow⟩ :=
      filter_eq_cons_iff.mp hfront
    refine ⟨earlier, request, window, hbefore, requested, ?_, ?_, hwindow, apart⟩
    · rw [isUnbonding, Bool.and_eq_true, beq_iff_eq] at hrequest
      exact hrequest.2
    · exact filter_eq_nil_iff.mpr hearlier

/-- With the epochs of both envelopes on time the epochs between them are epochs of the chain. -/
theorem unbondsFully_of_onTime (h : StakesLogged L) (onTime : EpochsOnTime L.operations) :
    UnbondsFully L.operations := by
  intro before release after hlog hrelease
  obtain ⟨earlier, request, window, rfl, hrequest, hstake, hearlier, hwindow, hapart⟩ :=
    request_of_release h hlog hrelease
  refine ⟨earlier, request, window, rfl, hrequest, hstake, hearlier, hwindow, ?_⟩
  have hlater := (onTime _ release after hlog).2 hrelease
  rw [append_assoc] at hlog
  have hsooner := (onTime earlier request _ hlog).1 hrequest
  have hcount : epochsClosed (earlier ++ request :: window) =
      epochsClosed earlier + epochsClosed window := by
    rw [epochsClosed_append, epochsClosed, epochsClosed, epochsClosed, countP_cons, hrequest]
    rfl
  rw [hcount] at hlater
  omega

/-- A stake that the log shows unbonding is subject to penalties, unless it was slashed. -/
theorem subject_or_slashed (h : StakesLogged L) {k : String}
    (hlog : unbondingLog L.operations k = [request]) :
    SubjectToPenalty L k ∨
      ∃ stake, L.stakeRecords.get? k = some stake ∧ stake.state = .slashed := by
  have hhistory := h k
  rw [hlog] at hhistory
  rw [SubjectToPenalty]
  cases hstake : L.stakeRecords.get? k with
  | none =>
    rw [hstake] at hhistory
    cases hhistory
  | some stake =>
    rw [hstake] at hhistory
    cases hhistory with
    | unbonding _ _ state requested due named =>
      refine .inl ⟨stake, rfl, state, fun env ids amount recyclable hevidenced htarget hle => ?_⟩
      apply hevidenced.validate
      rw [htarget]
      exact penaltyTarget_lock named hstake state hle
    | slashed _ _ state => exact .inr ⟨stake, rfl, state⟩

/-- Between its request and its release a stake is subject to penalties. -/
theorem subject_in_window [Runtime] [LedgerRules] {config : ApplicationConfig}
    {app app' current : Application} {blocks : List Block} (sound : StakesSound app.ledger)
    (run : Finalizes config app blocks app') (passes : PassesThrough config app blocks current)
    {earlier window : List LedgerOperationRecord}
    (hlog : app'.ledger.operations = earlier ++ request :: window ++ release :: after)
    (hrelease : release.operationType = "STAKE_RELEASE")
    (hearlier : unbondingLog earlier (release.payload.text "stake_id") = [])
    (hwindow : unbondingLog window (release.payload.text "stake_id") = [])
    (hrequest : isUnbonding (release.payload.text "stake_id") request = true)
    (hopened : earlier ++ [request] <+: current.ledger.operations)
    (hopen : current.ledger.operations <+: earlier ++ request :: window) :
    SubjectToPenalty current.ledger (release.payload.text "stake_id") := by
  obtain ⟨hsound, hstays⟩ := passes.sound sound run
  have hend := (sound.run run).1.logged (release.payload.text "stake_id")
  have hself := isUnbonding_of_release hrelease
  -- the log of the state shows the request and nothing else of the stake
  have hone : unbondingLog current.ledger.operations (release.payload.text "stake_id") =
      [request] := by
    have hlow := hopened.filter (isUnbonding (release.payload.text "stake_id"))
    have hhigh := hopen.filter (isUnbonding (release.payload.text "stake_id"))
    rw [filter_append, filter_cons_of_pos hrequest,
      show earlier.filter _ = [] from hearlier] at hlow hhigh
    rw [show window.filter _ = [] from hwindow] at hhigh
    exact (hlow.eq_of_length_le hhigh.length_le).symm
  rcases subject_or_slashed hsound.logged hone with hsubject | ⟨stake, hstored, hslashed⟩
  · exact hsubject
  · rw [hstays _ stake hstored hslashed] at hend
    have hmem : release ∈ unbondingLog app'.ledger.operations
        (release.payload.text "stake_id") := by
      rw [unbondingLog, mem_filter, hlog]
      exact ⟨mem_append_right _ mem_cons_self, hself⟩
    generalize unbondingLog app'.ledger.operations (release.payload.text "stake_id") =
      log at hend hmem
    cases hend with
    | locked _ state | unbonding _ _ state | released _ _ _ state =>
      rw [hslashed] at state; cases state
    | slashed _ _ _ unreleased => exact absurd hrelease (unreleased release hmem)

/-- Where requests and releases name the epochs of the chain, a stake is released only after the
chain has closed the epochs of the period since its request, and until then, in every state that
the run passes through, it is subject to penalties. A stake that is still unbonding is so as well,
unless it was slashed. -/
theorem unbonding_takes_its_period [Runtime] [LedgerRules] {config : ApplicationConfig}
    {balances : Dict String Int} {manifest : Option Fields} {app app' : Application}
    {blocks : List Block} (start : app.ledger = genesis balances manifest)
    (run : Finalizes config app blocks app') (onTime : EpochsOnTime app'.ledger.operations) :
    (∀ before release after, app'.ledger.operations = before ++ release :: after →
      release.operationType = "STAKE_RELEASE" →
      ∃ earlier request window, before = earlier ++ request :: window ∧
        request.operationType = "UNSTAKE_REQUEST" ∧
        request.payload.text "stake_id" = release.payload.text "stake_id" ∧
        defaultUnbondingPeriodEpochs ≤ epochsClosed window ∧
        ∀ current, PassesThrough config app blocks current →
          earlier ++ [request] <+: current.ledger.operations →
          current.ledger.operations <+: before →
          SubjectToPenalty current.ledger (release.payload.text "stake_id")) ∧
      ∀ current, PassesThrough config app blocks current → ∀ stakeId request,
        unbondingLog current.ledger.operations stakeId = [request] →
        SubjectToPenalty current.ledger stakeId ∨
          ∃ stake, current.ledger.stakeRecords.get? stakeId = some stake ∧
            stake.state = .slashed := by
  have sound : StakesSound app.ledger := by
    rw [start]
    exact ⟨Reachable.wellFormed ⟨balances, manifest, [], rfl⟩,
      stakesLogged_genesis balances manifest⟩
  constructor
  · intro before release after hlog hrelease
    obtain ⟨earlier, request, window, rfl, hrequest, hstake, hearlier, hwindow, hperiod⟩ :=
      unbondsFully_of_onTime (sound.run run).1.logged onTime before release after hlog hrelease
    refine ⟨earlier, request, window, rfl, hrequest, hstake, hperiod, ?_⟩
    intro current hpasses hopened hopen
    exact subject_in_window sound run hpasses hlog hrelease hearlier hwindow
      (by simp [isUnbonding, hrequest, hstake]) hopened hopen
  · intro current hpasses stakeId request hlog
    exact subject_or_slashed (hpasses.sound sound run).1.logged hlog

/-! ## A stake that is released at once -/

def stakeLockEnvelope : Envelope where
  operationType := "STAKE_LOCK"
  originType := .wallet
  senderWallet := some "owner"
  senderSequence := some 1
  createdAt := "2026-01-01T00:00:00Z"
  payload := [("stake_id", .str "stake-1"), ("stake_type", .str "VALIDATION_STAKE"),
    ("beneficiary_object_id", .str "validator-1"), ("lock_policy_version", .str "1"),
    ("amount", .int 100)]
  operationId := "94b53dfad96d9b1aaf468530e7b618e726ad61e566b88db1e1f09968c5020c5a"

def unstakeEnvelope : Envelope where
  operationType := "UNSTAKE_REQUEST"
  originType := .wallet
  senderWallet := some "owner"
  senderSequence := some 2
  createdAt := "2026-01-01T00:00:00Z"
  payload := [("stake_id", .str "stake-1"), ("request_epoch", .int 0)]
  operationId := "31eaaa1fb0839d1d5afe33a967dae94210356efe9996ff36008e0b34562e015c"

/-- A release that says that the current epoch is 14. -/
def releaseEnvelope : Envelope where
  operationType := "STAKE_RELEASE"
  originType := .protocol
  feeClass := .protocolSponsored
  createdAt := "2026-01-01T00:00:00Z"
  payload := [("stake_id", .str "stake-1"), ("current_epoch", .int 14)]
  operationId := "532430dcf2048a7b4fd65d2b88f0e0d19a7da8dcc6d4a00cc17073305939bf6a"

def stakingLedger : LedgerState := genesis (Dict.empty.set "owner" 100) none

def stakingApplication : Application :=
  { ledger := stakingLedger, epochSchedule := some dailySchedule }

def stakeOne : StakeRecord := lockedStake stakeLockEnvelope "owner" 100

def unbondingStakeOne : StakeRecord :=
  { stakeOne with
    state := .unbonding
    unbondingStartEpoch := some 0
    releaseEpoch := some 14
    unstakeRequestOperationId := some unstakeEnvelope.operationId }

def lockedLedger : LedgerState :=
  { stakingLedger.admitted stakeLockEnvelope ["StakeLocked"] (some 2) with
    walletQAtomBalances := Dict.empty.set "owner" 0
    stakeRecords := Dict.empty.set "stake-1" stakeOne }

def unbondingLedger : LedgerState :=
  { lockedLedger.admitted unstakeEnvelope ["StakeUnbondingStarted"] (some 3) with
    stakeRecords := Dict.empty.set "stake-1" unbondingStakeOne }

def releasedLedger : LedgerState :=
  { unbondingLedger.admitted releaseEnvelope ["StakeReleased"] none with
    walletQAtomBalances := Dict.empty.set "owner" 100
    stakeRecords := Dict.empty.set "stake-1"
      { unbondingStakeOne with
        state := .released, releasedByOperationId := some releaseEnvelope.operationId } }

theorem apply_stakeLockEnvelope :
    applyStakeLock stakeLockEnvelope stakingLedger =
      .ok (admittedRecord stakingLedger stakeLockEnvelope ["StakeLocked"] (some 2))
        lockedLedger := by
  have hadmits : Admits stakingLedger stakeLockEnvelope (some 2) := by decide
  exact applyConsensus_eq_ok.mpr ⟨("owner", 100), _, rfl, hadmits.admitEnvelope _, rfl⟩

theorem apply_unstakeEnvelope :
    applyUnstakeRequest unstakeEnvelope lockedLedger =
      .ok (admittedRecord lockedLedger unstakeEnvelope ["StakeUnbondingStarted"] (some 3))
        unbondingLedger := by
  have hadmits : Admits lockedLedger unstakeEnvelope (some 3) := by decide
  exact applyConsensus_eq_ok.mpr ⟨(stakeOne, 0), _, rfl, hadmits.admitEnvelope _, rfl⟩

theorem apply_releaseEnvelope :
    applyStakeRelease releaseEnvelope unbondingLedger =
      .ok (admittedRecord unbondingLedger releaseEnvelope ["StakeReleased"] none)
        releasedLedger := by
  have hadmits : Admits unbondingLedger releaseEnvelope none := by decide
  exact applyConsensus_eq_ok.mpr ⟨unbondingStakeOne, _, rfl, hadmits.admitEnvelope _, rfl⟩

def afterLock [Runtime] : Application := stakingApplication.noted stakeLockEnvelope lockedLedger

def afterUnstake [Runtime] : Application := afterLock.noted unstakeEnvelope unbondingLedger

def afterRelease [Runtime] : Application := afterUnstake.noted releaseEnvelope releasedLedger

section Executed

variable [Runtime] [LedgerRules] {block : BlockContext}

theorem executeOne_stakeLock :
    executeOne defaultConfig block stakingApplication (.ok stakeLockEnvelope) =
      .ok (executedResult stakeLockEnvelope, afterLock) := by
  have hlimits := limits_of_dumpsLength
    (show dumpsLength (.dict stakeLockEnvelope.payload) ≤ 65536 by decide) (by decide) rfl
  exact executeOne_of_applied (AdmissionState.validate_of_passes rfl rfl rfl hlimits) rfl rfl rfl
    rfl apply_stakeLockEnvelope

theorem executeOne_unstake :
    executeOne defaultConfig block afterLock (.ok unstakeEnvelope) =
      .ok (executedResult unstakeEnvelope, afterUnstake) := by
  have hlimits := limits_of_dumpsLength
    (show dumpsLength (.dict unstakeEnvelope.payload) ≤ 65536 by decide) (by decide) rfl
  exact executeOne_of_applied (AdmissionState.validate_of_passes rfl rfl rfl hlimits) rfl rfl rfl
    rfl apply_unstakeEnvelope

theorem executeOne_release :
    executeOne defaultConfig block afterUnstake (.ok releaseEnvelope) =
      .ok (executedResult releaseEnvelope, afterRelease) := by
  have hlimits := limits_of_dumpsLength
    (show dumpsLength (.dict releaseEnvelope.payload) ≤ 65536 by decide) (by decide) rfl
  exact executeOne_of_applied (AdmissionState.validate_of_passes rfl rfl rfl hlimits) rfl rfl rfl
    rfl apply_releaseEnvelope

theorem executeAll_unstake (later : List Transaction) {results : List ABCIResult}
    {app' : Application} (h : executeAll defaultConfig block afterUnstake later =
      .ok (results, app')) :
    executeAll defaultConfig block stakingApplication
        (.ok stakeLockEnvelope :: .ok unstakeEnvelope :: later) =
      .ok (executedResult stakeLockEnvelope :: executedResult unstakeEnvelope :: results, app') :=
  executeAll_cons.mpr ⟨_, _, _, executeOne_stakeLock,
    executeAll_cons.mpr ⟨_, _, _, executeOne_unstake, h, rfl⟩, rfl⟩

end Executed

def releasingBlock : Block :=
  zeroBlock 0 [.ok stakeLockEnvelope, .ok unstakeEnvelope, .ok releaseEnvelope]

theorem finalizes_releasingBlock :
    letI := sampleRuntime
    letI := noRules
    Finalizes defaultConfig stakingApplication [releasingBlock]
      (afterRelease.sealed releasingBlock releasedLedger) := by
  let _ := sampleRuntime
  let _ := noRules
  have hall : executeAll defaultConfig (blockContext stakingApplication releasingBlock.txs)
      stakingApplication releasingBlock.txs = .ok (_, afterRelease) :=
    executeAll_unstake _ (executeAll_single executeOne_release)
  exact .cons (finalizeBlock_eq_finalized.mpr ⟨_, [], _, hall, rfl, rfl, rfl⟩) rfl (.nil _)

/-- Under a schedule, a stake is released in the block of its request, before any transition. -/
theorem released_without_a_transition :
    letI := sampleRuntime
    letI := noRules
    ∃ app', Finalizes defaultConfig stakingApplication [releasingBlock] app' ∧
      stakingApplication.epochSchedule = some dailySchedule ∧
      app'.ledger.walletQAtomBalance "owner" = 100 ∧ ¬ UnbondsFully app'.ledger.operations := by
  let _ := sampleRuntime
  let _ := noRules
  refine ⟨_, finalizes_releasingBlock, rfl, rfl, ?_⟩
  intro hfully
  have hlog : (afterRelease.sealed releasingBlock releasedLedger).ledger.operations =
      [admittedRecord stakingLedger stakeLockEnvelope ["StakeLocked"] (some 2),
        admittedRecord lockedLedger unstakeEnvelope ["StakeUnbondingStarted"] (some 3)] ++
      admittedRecord unbondingLedger releaseEnvelope ["StakeReleased"] none :: [] := rfl
  obtain ⟨earlier, request, window, hbefore, -, -, -, -, hperiod⟩ := hfully _ _ _ hlog rfl
  have hnone : epochsClosed (earlier ++ request :: window) = 0 := by
    rw [← hbefore]
    rfl
  rw [epochsClosed_append] at hnone
  have hlate : epochsClosed window ≤ epochsClosed (request :: window) :=
    (List.sublist_cons_self request window).countP_le
  rw [defaultUnbondingPeriodEpochs] at hperiod
  omega

def unstakingBlock : Block := zeroBlock 0 [.ok stakeLockEnvelope, .ok unstakeEnvelope]

/-- After a request in the epoch of the chain the stake is subject to penalties. -/
theorem unbonding_stake_stays_subject :
    letI := sampleRuntime
    letI := noRules
    ∃ app', Finalizes defaultConfig stakingApplication [unstakingBlock] app' ∧
      EpochsOnTime app'.ledger.operations ∧
      PassesThrough defaultConfig stakingApplication [unstakingBlock] afterUnstake ∧
      SubjectToPenalty afterUnstake.ledger "stake-1" := by
  let _ := sampleRuntime
  let _ := noRules
  have hall : executeAll defaultConfig (blockContext stakingApplication unstakingBlock.txs)
      stakingApplication unstakingBlock.txs = .ok (_, afterUnstake) := executeAll_unstake _ rfl
  have hrun : Finalizes defaultConfig stakingApplication [unstakingBlock]
      (afterUnstake.sealed unstakingBlock unbondingLedger) :=
    .cons (finalizeBlock_eq_finalized.mpr ⟨_, [], _, hall, rfl, rfl, rfl⟩) rfl (.nil _)
  have honTime : EpochsOnTime unbondingLedger.operations := by
    intro before r after hlog
    have hnone : epochsClosed (before ++ r :: after) = 0 := by
      rw [← hlog]
      rfl
    rw [epochsClosed_append] at hnone
    have hmem : r ∈ unbondingLedger.operations := by
      rw [hlog]
      exact List.mem_append_right _ List.mem_cons_self
    rcases List.mem_cons.mp hmem with rfl | hmem
    · exact ⟨fun htype => absurd htype (by decide), fun htype => absurd htype (by decide)⟩
    · obtain rfl := List.mem_singleton.mp hmem
      refine ⟨fun _ => ?_, fun htype => absurd htype (by decide)⟩
      show (epochsClosed before : Int) ≤ 0
      omega
  have hpasses : PassesThrough defaultConfig stakingApplication [unstakingBlock] afterUnstake :=
    ⟨[], unstakingBlock, [], _, _, [], _, rfl, .nil _, (List.append_nil _).symm, hall⟩
  refine ⟨_, hrun, honTime, hpasses, ?_⟩
  rcases (unbonding_takes_its_period rfl hrun honTime).2 afterUnstake hpasses "stake-1" _ rfl
    with hsubject | ⟨stake, hstored, hslashed⟩
  · exact hsubject
  · cases hstored
    cases hslashed

end AidnSpec.Consensus
