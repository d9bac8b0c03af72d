import AidnSpec.Consensus.Clock
import AidnSpec.Consensus.EpochActivity
import AidnSpec.Consensus.Finality

/-!
# The chain of epochs

The validation of a transition refuses to close an epoch twice, and asks neither which epoch is open
nor whether its scheduled end was reached. In a run whose transitions close no epoch beyond the open
one, and none before its scheduled end, the closed epochs are 0, 1, 2, … in the order of the log.
-/

namespace AidnSpec.Consensus

open Base Ledger EpochSchedule List

/-! ## Transitions in the log -/

/-- The transitions of the log, in order. -/
def transitions (L : LedgerState) : List LedgerOperationRecord :=
  L.operations.filter (·.operationType == "EPOCH_TRANSITION")

def closingEpoch (r : LedgerOperationRecord) : Int := r.payload.int "closing_epoch"

def openingEpoch (r : LedgerOperationRecord) : Int := r.payload.int "opening_epoch"

variable {L L' : LedgerState} {r : LedgerOperationRecord} {epoch : Int}

theorem transitions_congr (h : L'.operations = L.operations) : transitions L' = transitions L := by
  rw [transitions, h, transitions]

/-- A recorded envelope adds a transition exactly when it is one. -/
theorem transitions_append (h : L'.operations = L.operations ++ [r]) :
    transitions L' =
      if r.operationType = "EPOCH_TRANSITION" then transitions L ++ [r] else transitions L := by
  rw [transitions, h, filter_append, transitions]
  split_ifs with htype
  · simp only [filter_cons, htype, beq_self_eq_true, if_true, filter_nil]
  · simp only [filter_cons, beq_iff_eq, htype, if_false, filter_nil, append_nil]

/-- The latest transition is the last one of the log. -/
theorem latest_transition (L : LedgerState) :
    latestOfType L "EPOCH_TRANSITION" = (transitions L).getLast? := by
  rw [latestOfType, transitions, getLast?_eq_head?_reverse, ← filter_reverse,
    head?_filter]

/-- The closed epochs are 0, 1, 2, …, and each transition opens the epoch after the one that
it closes. -/
structure Chained (L : LedgerState) : Prop where
  closing : (transitions L).map closingEpoch =
    (List.range (transitions L).length).map fun n : Nat => (n : Int)
  closes : ∀ r ∈ transitions L, PyValue.get r.payload "closing_epoch" = .int (closingEpoch r)
  opens : ∀ r ∈ transitions L, PyValue.get r.payload "opening_epoch" = .int (closingEpoch r + 1)

theorem chained_genesis (balances : Dict String Int) (manifest : Option Fields) :
    Chained (genesis balances manifest) where
  closing := rfl
  closes r hr := by cases hr
  opens r hr := by cases hr

theorem Chained.congr (h : Chained L) (same : transitions L' = transitions L) : Chained L' where
  closing := by
    rw [same]
    exact h.closing
  closes := by
    rw [same]
    exact h.closes
  opens := by
    rw [same]
    exact h.opens

/-- The epochs of a chain that were closed. -/
theorem Chained.mem_closing (h : Chained L) :
    epoch ∈ (transitions L).map closingEpoch ↔ 0 ≤ epoch ∧ epoch < (transitions L).length := by
  rw [h.closing, mem_map]
  constructor
  · rintro ⟨n, hn, rfl⟩
    have hlt := mem_range.mp hn
    omega
  · rintro ⟨hpos, hlt⟩
    refine ⟨epoch.toNat, mem_range.mpr ?_, ?_⟩
    · omega
    · exact Int.toNat_of_nonneg hpos

/-- The open epoch of a chain is the number of the closed ones. -/
theorem Chained.activeEpoch [Runtime] (h : Chained L) {schedule : EpochSchedule} {start : String}
    (active : activeEpochContext schedule L = (epoch, start, none)) :
    epoch = (transitions L).length := by
  unfold activeEpochContext at active
  rw [latest_transition] at active
  cases hlast : (transitions L).getLast? with
  | none =>
    have hempty := getLast?_eq_none_iff.mp hlast
    rw [hlast] at active
    rw [hempty]
    cases hrebase : epochScheduleRebaseProjection L with
    | none =>
      simp only [hrebase, Prod.mk.injEq] at active
      exact active.1.symm
    | some pair =>
      simp only [hrebase] at active
      split_ifs at active
      · simp only [Prod.mk.injEq, reduceCtorEq, and_false] at active
      · simp only [Prod.mk.injEq] at active
        exact active.1.symm
  | some r =>
    have hmem := mem_of_getLast? hlast
    have hopening := h.opens r hmem
    -- the last of the closed epochs 0, …, k - 1 is k - 1
    have hclosing : closingEpoch r = (transitions L).length - 1 := by
      have hmapped : ((transitions L).map closingEpoch).getLast? = some (closingEpoch r) := by
        rw [getLast?_map, hlast]
        rfl
      have hpos := length_pos_of_mem hmem
      rw [h.closing, getLast?_map, getLast?_range, if_neg (by omega)] at hmapped
      simp only [Option.map_some, Option.some.injEq] at hmapped
      omega
    rw [hlast] at active
    simp only [hopening] at active
    split_ifs at active
    all_goals simp only [Prod.mk.injEq, reduceCtorEq, and_false] at active
    omega

/-- A transition that closes the open epoch continues the chain. -/
theorem Chained.append (h : Chained L) (grown : transitions L' = transitions L ++ [r])
    (closing : closingEpoch r = (transitions L).length)
    (closes : PyValue.get r.payload "closing_epoch" = .int (closingEpoch r))
    (opens : PyValue.get r.payload "opening_epoch" = .int (closingEpoch r + 1)) :
    Chained L' where
  closing := by
    rw [grown, map_append, h.closing, length_append, length_singleton,
      range_succ, map_append, map_singleton, map_singleton, closing]
  closes := by
    rw [grown, forall_mem_append, forall_mem_singleton]
    exact ⟨h.closes, closes⟩
  opens := by
    rw [grown, forall_mem_append, forall_mem_singleton]
    exact ⟨h.opens, opens⟩

/-- In a chain each transition closes what the one before it opened. -/
theorem Chained.linked (h : Chained L) :
    (transitions L).IsChain fun earlier later => closingEpoch later = openingEpoch earlier := by
  rw [isChain_iff_getElem]
  intro i hi
  have hget : ∀ j (hj : j < (transitions L).length), closingEpoch (transitions L)[j] = j := by
    intro j hj
    have hmapped := congrArg (·[j]?) h.closing
    simpa [hj] using hmapped
  have hopening := h.opens _ (getElem_mem (Nat.lt_of_succ_lt hi))
  rw [openingEpoch, Fields.int_of_get hopening, hget, hget]
  omega

/-! ## Transitions in turn -/

section Runs

variable [Runtime]

/-- A transition in turn: the scheduled end of the open epoch was reached, and the transition
closes no epoch beyond the open one. -/
def InTurn (app : Application) (env : Envelope) : Prop :=
  ∃ boundary, openEpochBoundary app = some boundary ∧ boundary.boundaryReached = true ∧
    env.payload.int "closing_epoch" ≤ boundary.activeEpoch

variable {time : String} {boundary : EpochBoundary} {app app' : Application} {env : Envelope}
  {finalized : FinalizedIds} {L : LedgerState} {epochs : Int × Int} {config : ApplicationConfig}
  {block : BlockContext} {tx : Transaction} {result : ABCIResult} {txs : List Transaction}
  {results : List ABCIResult}

/-- A boundary is that of the epoch it was asked for. -/
theorem activeEpoch_of_boundaryFor {s : EpochSchedule} {epoch : Int} {start : String}
    (h : s.boundaryFor epoch start time = .ok (some boundary)) : boundary.activeEpoch = epoch := by
  unfold boundaryFor at h
  split at h
  · cases h
  · obtain ⟨times, -, h⟩ := bind_eq_ok.mp h
    cases times with
    | none => cases h
    | some times =>
      obtain ⟨scheduledEnd, -, h⟩ := bind_eq_ok.mp h
      cases h
      rfl

/-- The boundary of the open epoch. -/
theorem openEpochBoundary_eq_some (h : openEpochBoundary app = some boundary) :
    ∃ schedule start time, app.epochSchedule = some schedule ∧ app.lastBlockTime = some time ∧
      activeEpochContext schedule app.ledger = (boundary.activeEpoch, start, none) ∧
      schedule.boundaryFor boundary.activeEpoch start time = .ok (some boundary) := by
  unfold openEpochBoundary at h
  split at h
  · next schedule time hschedule htime =>
    split at h
    · next epoch start hcontext =>
      split at h
      · next found hfound =>
        subst h
        have hepoch := activeEpoch_of_boundaryFor hfound
        rw [hepoch]
        exact ⟨schedule, start, time, hschedule, htime, hcontext, hfound⟩
      · cases h
    · cases h
  · cases h

variable [LedgerRules]

/-- Every transition among the transactions that meets no complaint is in turn. -/
def TransitionsInTurn (config : ApplicationConfig) (block : BlockContext) :
    Application → List Transaction → Prop
  | _, [] => True
  | app, tx :: rest =>
    (∀ env, tx = .ok env → env.operationType = "EPOCH_TRANSITION" →
      specialOperationError config app env block.finalizedIds = .ok none → InTurn app env) ∧
    ∀ result app', executeOne config block app tx = .ok (result, app') →
      TransitionsInTurn config block app' rest

def RunInTurn (config : ApplicationConfig) : Application → List Block → Prop
  | _, [] => True
  | app, block :: rest => TransitionsInTurn config (blockContext app block.txs) app block.txs ∧
      ∀ result results app', finalizeBlock config app block = .ok (.finalized result results app') →
        RunInTurn config app' rest

/-- A run accepts an envelope: after some blocks, and after some transactions of the next one,
the application is in the given state and executes it. -/
def AcceptsAfter (config : ApplicationConfig) (app : Application) (blocks before : List Block)
    (current : Application) (env : Envelope) : Prop :=
  ∃ block after app₁ done rest results result app₂,
    blocks = before ++ block :: after ∧ Finalizes config app before app₁ ∧
    block.txs = done ++ .ok env :: rest ∧
    executeAll config (blockContext app₁ block.txs) app₁ done = .ok (results, current) ∧
    executeOne config (blockContext app₁ block.txs) current (.ok env) = .ok (result, app₂) ∧
    result.code = .ok

/-! ## One transaction -/

/-- The validations behind a recorded transition. -/
theorem records_transition (strict : Bool) (env : Envelope) (ids : List String) :
    Records (applyEnvelope strict env ids) env fun L => env.operationType = "EPOCH_TRANSITION" →
      ∃ epochs, validateEpochTransition env (some ids) L = .ok epochs := by
  unfold applyEnvelope
  cases h : appliedOperation strict env ids with
  | none =>
    intro L
    rcases @records_recordAdmittedEnvelope env [] (fun _ => True) (fun _ => trivial) L with
      hcore | ⟨events, next, -, hadmits, hcore⟩
    · exact .inl hcore
    · refine .inr ⟨events, next, ?_, hadmits, hcore⟩
      intro htype
      rw [applied_transition htype] at h
      cases h
  | some op =>
    have hcommits := op.commits
    rw [envelope_of_applied h] at hcommits
    refine hcommits.records fun L D haccepts htype => ?_
    rw [applied_transition htype] at h
    cases h
    exact haccepts.2.1

omit [Runtime] in
/-- What the validation of a transition says about its epochs. -/
theorem validateEpochTransition_epochs (h : validateEpochTransition env finalized L = .ok epochs) :
    PyValue.get env.payload "closing_epoch" = .int epochs.1 ∧ 0 ≤ epochs.1 ∧
      PyValue.get env.payload "opening_epoch" = .int (epochs.1 + 1) ∧
      ∀ r ∈ transitions L, PyValue.get r.payload "closing_epoch" ≠ .int epochs.1 := by
  simp only [validateEpochTransition, checks_eq_ok, guarded_eq_ok, exists_and_left, exists_const,
    decide_eq_true_eq, beq_iff_eq] at h
  obtain ⟨-, -, -, closing, ⟨hclosing, hpos⟩, opening, ⟨hopening, -⟩, rfl, -, -, -, _, -,
    hunclosed, rfl⟩ := h
  refine ⟨hclosing, hpos, hopening, ?_⟩
  intro r hr hsame
  obtain ⟨hmem, htype⟩ := mem_filter.mp hr
  rw [Bool.not_eq_true', any_eq_false] at hunclosed
  refine hunclosed r hmem ?_
  rw [htype, hsame]
  exact beq_self_eq_true closing

/-- One transaction, as far as the chain is concerned: it adds no transition, or it is a valid
one and adds itself. -/
theorem transitions_executeOne (h : executeOne config block app tx = .ok (result, app')) :
    transitions app'.ledger = transitions app.ledger ∨
      ∃ env r epochs, tx = .ok env ∧ env.operationType = "EPOCH_TRANSITION" ∧
        specialOperationError config app env block.finalizedIds = .ok none ∧
        validateEpochTransition env (some block.finalizedIds) app.ledger = .ok epochs ∧
        r.payload = env.payload ∧ transitions app'.ledger = transitions app.ledger ++ [r] := by
  rcases executeOne_cases h with ⟨rfl, -⟩ | ⟨env, rfl, -, hspecial, happly⟩
  · exact .inl rfl
  · have hleaves : leaves (applyEnvelope config.strictOperationCoverage env block.finalizedIds)
        app.ledger = app'.ledger := by
      rcases executeApply_cases happly with ⟨record, L, hL, -, rfl⟩ | ⟨e, L, hL, -, rfl⟩
      · rw [leaves, hL]
        rfl
      · rw [leaves, hL]
    rcases records_transition config.strictOperationCoverage env block.finalizedIds app.ledger with
      hcore | ⟨events, next, hvalid, -, hcore⟩
    · rw [hleaves] at hcore
      exact .inl (transitions_congr (congrArg LedgerCore.operations hcore))
    · rw [hleaves] at hcore
      have hgrown := transitions_append (congrArg LedgerCore.operations hcore)
      split_ifs at hgrown with htype
      · obtain ⟨epochs, hepochs⟩ := hvalid htype
        exact .inr ⟨env, _, epochs, rfl, htype, hspecial, hepochs, rfl, hgrown⟩
      · exact .inl hgrown

/-- An accepted transition was valid. -/
theorem valid_of_accepted {ids : List String} (htype : env.operationType = "EPOCH_TRANSITION")
    (h : executeApply config app env ids = (result, app')) (hcode : result.code = .ok) :
    ∃ epochs, validateEpochTransition env (some ids) app.ledger = .ok epochs := by
  rcases executeApply_cases h with ⟨record, L, hL, -, -⟩ | ⟨e, L, -, hrejected, -⟩
  · rw [applyEnvelope, applied_transition htype] at hL
    obtain ⟨epochs, L₁, hvalid, -, -⟩ := applyConsensus_eq_ok.mp hL
    exact ⟨epochs, hvalid⟩
  · exact absurd hcode hrejected

omit [Runtime] in
/-- A valid transition that closes no epoch beyond the open one closes the open one: the
others are closed. -/
theorem Chained.closes_open (h : Chained L)
    (valid : validateEpochTransition env finalized L = .ok epochs)
    (bounded : env.payload.int "closing_epoch" ≤ (transitions L).length) :
    env.payload.int "closing_epoch" = (transitions L).length := by
  obtain ⟨hclosing, hpos, -, hunclosed⟩ := validateEpochTransition_epochs valid
  rw [Fields.int_of_get hclosing] at bounded ⊢
  have hfresh : epochs.1 ∉ (transitions L).map closingEpoch := by
    intro hmem
    obtain ⟨earlier, hin, hsame⟩ := mem_map.mp hmem
    have hcloses := h.closes earlier hin
    rw [hsame] at hcloses
    exact hunclosed earlier hin hcloses
  rw [h.mem_closing] at hfresh
  omega

/-- A transaction that is in turn if it is a transition keeps the chain. -/
theorem Chained.executeOne (h : Chained app.ledger)
    (step : executeOne config block app tx = .ok (result, app'))
    (inTurn : ∀ env, tx = .ok env → env.operationType = "EPOCH_TRANSITION" →
      specialOperationError config app env block.finalizedIds = .ok none → InTurn app env) :
    Chained app'.ledger := by
  rcases transitions_executeOne step with
    hsame | ⟨env, r, epochs, htx, htype, hspecial, hvalid, hpayload, hgrown⟩
  · exact h.congr hsame
  · obtain ⟨boundary, hboundary, -, hbounded⟩ := inTurn env htx htype hspecial
    obtain ⟨schedule, start, time, -, -, hcontext, -⟩ := openEpochBoundary_eq_some hboundary
    rw [h.activeEpoch hcontext] at hbounded
    have hopen := h.closes_open hvalid hbounded
    obtain ⟨hcloses, -, hopens, -⟩ := validateEpochTransition_epochs hvalid
    have hr : closingEpoch r = epochs.1 := by
      rw [closingEpoch, hpayload, Fields.int_of_get hcloses]
    rw [← hpayload, ← hr] at hcloses hopens
    refine h.append hgrown ?_ hcloses hopens
    rw [closingEpoch, hpayload, hopen]

/-- The transactions of a block keep the chain, and each of them meets it. -/
theorem Chained.executeAll (h : Chained app.ledger)
    (run : executeAll config block app txs = .ok (results, app'))
    (inTurn : TransitionsInTurn config block app txs) : Chained app'.ledger := by
  induction txs generalizing app results with
  | nil =>
    cases run
    exact h
  | cons tx txs ih =>
    obtain ⟨result, app₁, more, hone, hall, rfl⟩ := executeAll_cons.mp run
    exact ih (h.executeOne hone inTurn.1) hall (inTurn.2 result app₁ hone)

/-- What is in turn in a block is in turn up to a transaction, and there. -/
theorem TransitionsInTurn.split {done rest : List Transaction}
    (h : TransitionsInTurn config block app (done ++ tx :: rest))
    (run : Consensus.executeAll config block app done = .ok (results, app')) :
    TransitionsInTurn config block app done ∧
      TransitionsInTurn config block app' (tx :: rest) := by
  induction done generalizing app results with
  | nil =>
    cases run
    exact ⟨trivial, h⟩
  | cons tx' done ih =>
    obtain ⟨result, app₁, more, hone, hall, rfl⟩ := executeAll_cons.mp run
    obtain ⟨hfirst, hrest⟩ := h
    refine ⟨⟨hfirst, ?_⟩, (ih (hrest result app₁ hone) hall).2⟩
    intro result' app₁' hone'
    rw [hone] at hone'
    cases hone'
    exact (ih (hrest result app₁ hone) hall).1

/-- No transaction changes the time of the latest block. -/
theorem lastBlockTime_executeAll (run : executeAll config block app txs = .ok (results, app')) :
    app'.lastBlockTime = app.lastBlockTime := by
  induction txs generalizing app results with
  | nil =>
    cases run
    rfl
  | cons tx txs ih =>
    obtain ⟨result, app₁, more, hone, hall, rfl⟩ := executeAll_cons.mp run
    rw [ih hall]
    rcases executeOne_cases hone with ⟨rfl, -⟩ | ⟨env, -, -, -, happly⟩
    · rfl
    · rcases executeApply_cases happly with ⟨record, L, -, -, rfl⟩ | ⟨e, L, -, -, rfl⟩
      · rfl
      · rfl

/-! ## Runs -/

/-- A block whose transitions are in turn keeps the chain. -/
theorem Chained.finalizeBlock {block : Block} (h : Chained app.ledger)
    (finalized : finalizeBlock config app block = .ok (.finalized result results app'))
    (inTurn : TransitionsInTurn config (blockContext app block.txs) app block.txs) :
    Chained app'.ledger := by
  obtain ⟨executed, updates, L, hexecuted, hactivated, -, rfl⟩ :=
    finalizeBlock_eq_finalized.mp finalized
  exact (h.executeAll hexecuted inTurn).congr
    (transitions_congr (kept_of_activateEpochs hactivated).1)

/-- A run whose transitions are in turn keeps the chain. -/
theorem Chained.run {config : ApplicationConfig} {app app' : Application} {blocks : List Block}
    (h : Chained app.ledger) (run : Finalizes config app blocks app')
    (inTurn : RunInTurn config app blocks) : Chained app'.ledger := by
  induction run with
  | nil app => exact h
  | cons finalized _ _ ih =>
    exact ih (h.finalizeBlock finalized inTurn.1) (inTurn.2 _ _ _ finalized)

/-- What is in turn in a run is in turn up to a block, and there. -/
theorem RunInTurn.split {before after : List Block} (h : RunInTurn config app (before ++ after))
    (run : Finalizes config app before app') :
    RunInTurn config app before ∧ RunInTurn config app' after := by
  induction run with
  | nil app => exact ⟨trivial, h⟩
  | cons finalized _ _ ih =>
    obtain ⟨hfirst, hrest⟩ := h
    refine ⟨⟨hfirst, ?_⟩, (ih (hrest _ _ _ finalized)).2⟩
    intro result' results' app₁' finalized'
    rw [finalized] at finalized'
    cases finalized'
    exact (ih (hrest _ _ _ finalized)).1

/-- The time of the latest block is the time of one of the blocks, if there was none before. -/
theorem time_of_run {blocks : List Block} (run : Finalizes config app blocks app')
    (latest : app'.lastBlockTime = some time) :
    app.lastBlockTime = some time ∨ ∃ block ∈ blocks, block.time = some time := by
  induction run with
  | nil app => exact .inl latest
  | cons finalized _ _ ih =>
    obtain ⟨executed, updates, L, -, -, -, rfl⟩ := finalizeBlock_eq_finalized.mp finalized
    rcases ih latest with htime | ⟨block, hblock, htime⟩
    · exact .inr ⟨_, mem_cons_self, htime⟩
    · exact .inr ⟨block, mem_cons_of_mem _ hblock, htime⟩

/-- In every run from genesis whose transitions are in turn, the log closes the epochs
0, 1, 2, … in this order, each transition closes what the one before it opened, and each was
accepted when the time of an earlier block had reached the scheduled end of its epoch. -/
theorem epochs_form_one_chain {config : ApplicationConfig} {balances : Dict String Int}
    {manifest : Option Fields} {app app' : Application} {blocks : List Block}
    (start : app.ledger = genesis balances manifest) (untimed : app.lastBlockTime = none)
    (run : Finalizes config app blocks app') (inTurn : RunInTurn config app blocks) :
    (transitions app'.ledger).map closingEpoch =
        (List.range (transitions app'.ledger).length).map (fun n : Nat => (n : Int)) ∧
      (transitions app'.ledger).IsChain
        (fun earlier later => closingEpoch later = openingEpoch earlier) ∧
      ∀ before current env, AcceptsAfter config app blocks before current env →
        env.operationType = "EPOCH_TRANSITION" →
        ∃ schedule begins time boundary, current.epochSchedule = some schedule ∧
          activeEpochContext schedule current.ledger =
            (env.payload.int "closing_epoch", begins, none) ∧
          (∃ block ∈ before, block.time = some time) ∧
          schedule.boundaryFor (env.payload.int "closing_epoch") begins time =
            .ok (some boundary) ∧
          boundary.boundaryReached = true := by
  have hstart : Chained app.ledger := by
    rw [start]
    exact chained_genesis balances manifest
  have hchained := hstart.run run inTurn
  refine ⟨hchained.closing, hchained.linked, ?_⟩
  rintro before current env
    ⟨block, after, app₁, done, rest, results, result, app₂, rfl, hbefore, htxs, hdone, hone, hcode⟩
    htype
  obtain ⟨hturnBefore, hturnBlock⟩ := inTurn.split hbefore
  have hblock := hturnBlock.1
  rw [htxs] at hblock hdone
  obtain ⟨hturnDone, hturnHere⟩ := hblock.split hdone
  have hcurrent := (hstart.run hbefore hturnBefore).executeAll hdone hturnDone
  -- the accepted transition was validated, and its boundary was found
  obtain ⟨env', heq, -, hspecial, happly⟩ := (executeOne_cases hone).resolve_left
    fun hrefused => hrefused.2 hcode
  cases heq
  rw [htxs] at hspecial
  obtain ⟨boundary, hboundary, hreached, hbounded⟩ := hturnHere.1 env rfl htype hspecial
  obtain ⟨schedule, begins, time, hschedule, htime, hcontext, hfor⟩ :=
    openEpochBoundary_eq_some hboundary
  have hactive := hcurrent.activeEpoch hcontext
  have hclosing : env.payload.int "closing_epoch" = boundary.activeEpoch := by
    rw [hactive] at hbounded ⊢
    obtain ⟨epochs, hvalid⟩ := valid_of_accepted htype happly hcode
    exact hcurrent.closes_open hvalid hbounded
  rw [lastBlockTime_executeAll hdone] at htime
  rcases time_of_run hbefore htime with hfirst | hprevious
  · rw [untimed] at hfirst
    cases hfirst
  · rw [hclosing]
    exact ⟨schedule, begins, time, boundary, hschedule, hcontext, hprevious, hfor, hreached⟩

end Runs

/-! ## A committed schedule and its transitions -/

def dailySchedule : EpochSchedule :=
  let draft : EpochSchedule :=
    { schemaVersion := version, genesisStartTime := "2026-01-01T00:00:00Z",
      epochDurationSeconds := 86400, parameterVersion := "parameters-1",
      taskSetVersion := "tasks-1", protocolVersion := "0.1", scheduleHash := "" }
  { draft with scheduleHash := computeHash draft.unsignedPayload }

def nextDayRebase : EpochScheduleRebase :=
  let draft : EpochScheduleRebase :=
    { schemaVersion := EpochScheduleRebase.version, scheduleHash := dailySchedule.scheduleHash,
      effectiveEpochZeroStartTime := "2026-01-02T00:00:00Z",
      reasonCode := "CONTROLLED_LOCALNET_LATE_INITIAL_SCHEDULE",
      recoveryProfile := "controlled-localnet", rebaseHash := "" }
  { draft with rebaseHash := EpochScheduleRebase.computeHash draft.unsignedPayload }

def scheduleCommit : Envelope where
  operationType := "EPOCH_SCHEDULE_COMMIT"
  originType := .protocol
  feeClass := .protocolSponsored
  createdAt := "2026-01-01T00:00:00Z"
  payload := [("epoch_schedule", .dict dailySchedule.dump)]
  operationId := "fb6eca3d7d7c702632e14b9ea9eb9271422c14389d15608c36078eb9f585f7be"

def scheduleRebase : Envelope where
  operationType := "EPOCH_SCHEDULE_REBASE"
  originType := .protocol
  feeClass := .protocolSponsored
  createdAt := "2026-01-01T00:00:00Z"
  targetEpoch := some "0"
  payload := [("epoch_schedule_rebase", .dict nextDayRebase.dump)]
  operationId := "8c348ffdfe83703ca31a69f318b49d8cb67e5b58c0ac551f663e2285d2439139"

def commitRecord : LedgerOperationRecord :=
  admittedRecord (genesis .empty none) scheduleCommit ["EpochScheduleCommitted"] none

def committedLedger : LedgerState :=
  (genesis .empty none).admitted scheduleCommit ["EpochScheduleCommitted"] none

def rebasedLedger : LedgerState :=
  committedLedger.admitted scheduleRebase ["EpochScheduleRebased"] none

/-- A transition that refers to the committed schedule. -/
def closeEpoch (epoch : Int) (operationId : String) : Envelope where
  operationType := "EPOCH_TRANSITION"
  originType := .protocol
  createdAt := "2026-01-01T00:00:00Z"
  payload :=
    [("closing_epoch", .int epoch), ("opening_epoch", .int (epoch + 1)), ("closing_state_root",
      .str "sha256:state"), ("epoch_task_result_root", .str "sha256:tasks"),
      ("eligibility_snapshot_root", .str "sha256:eligibility"), ("reward_calculation_root",
      .str "sha256:rewards"), ("next_protocol_parameters_hash", .str "sha256:parameters"),
      ("next_epoch_start_time", .str "2026-01-03T00:00:00Z"), ("epoch_schedule_version",
      .str dailySchedule.schemaVersion), ("epoch_schedule_hash", .str dailySchedule.scheduleHash),
      ("epoch_schedule_commit_operation_id", .str scheduleCommit.operationId),
      ("epoch_schedule_commit_sequence_id", .int 1), ("epoch_schedule_commit_record_digest",
      .str commitRecord.reference.recordDigest), ("pool_budgets", .dict [])]
  evidenceReferences := [scheduleCommit.operationId, commitRecord.reference.recordDigest]
  operationId := operationId

def closeFirst : Envelope :=
  closeEpoch 0 "175375da8a69e68f67119511037d2edb076d179395b9df499e56d32a64c76e03"

def closeSixth : Envelope :=
  closeEpoch 5 "4604a9a6793ad837acb42ba693ee0bda371ac427fc0aecaf7be98c38933925e4"

theorem length_quotedScheduleHash : (quoteText dailySchedule.scheduleHash).length ≤ 854 := by
  have hquoted := length_quoteText_le dailySchedule.scheduleHash
  rw [show dailySchedule.scheduleHash.length = 71 from length_computeHash _]
    at hquoted
  exact hquoted

theorem scheduleHash_isEmpty : dailySchedule.scheduleHash.isEmpty = false := by
  have hlength : dailySchedule.scheduleHash.length = 71 := length_computeHash _
  rw [← Bool.not_eq_true, String.isEmpty_iff]
  intro hempty
  rw [hempty] at hlength
  cases hlength

/-- An unsigned envelope that is not too large. -/
theorem limits_of_dumpsLength {env : Envelope} (payload : dumpsLength (.dict env.payload) ≤ 65536)
    (evidence : env.evidenceReferences.length ≤ 16) (unsigned : env.signatures = []) :
    defaultConfig.admission.limitComplaint env = none := by
  have hpayload : ¬ defaultConfig.admission.maxPayloadBytes < dumpsLength (.dict env.payload) :=
    Nat.not_lt.mpr payload
  have hevidence : ¬ defaultConfig.admission.maxEvidenceRefs < env.evidenceReferences.length :=
    Nat.not_lt.mpr evidence
  rw [AdmissionConfig.limitComplaint, if_neg hpayload, if_neg hevidence, unsigned]
  rfl

theorem limits_scheduleCommit : defaultConfig.admission.limitComplaint scheduleCommit = none := by
  refine limits_of_dumpsLength ?_ (Nat.zero_le _) rfl
  have hlength : dumpsLength (.dict scheduleCommit.payload) =
      2 + joinedLength [18 + (2 + joinedLength [42, 44, 31, 35, 29, 25,
        17 + (quoteText dailySchedule.scheduleHash).length])] := rfl
  have hquoted := length_quotedScheduleHash
  simp only [joinedLength, sum_cons, sum_nil, length_cons, length_nil]
    at hlength
  omega

theorem limits_scheduleRebase : defaultConfig.admission.limitComplaint scheduleRebase = none := by
  refine limits_of_dumpsLength ?_ (Nat.zero_le _) rfl
  have hlength : dumpsLength (.dict scheduleRebase.payload) =
      2 + joinedLength [25 + (2 + joinedLength [49,
        17 + (quoteText dailySchedule.scheduleHash).length, 57, 58, 41,
        15 + (quoteText nextDayRebase.rebaseHash).length])] := rfl
  have hquoted := length_quotedScheduleHash
  have hrebase := length_quoteText_le nextDayRebase.rebaseHash
  rw [show nextDayRebase.rebaseHash.length = 71 from EpochScheduleRebase.length_computeHash _]
    at hrebase
  simp only [joinedLength, sum_cons, sum_nil, length_cons, length_nil]
    at hlength
  omega

theorem limits_closeEpoch {operationId : String}
    (digits : (toString epoch).length = 1 ∧ (toString (epoch + 1)).length = 1) :
    defaultConfig.admission.limitComplaint (closeEpoch epoch operationId) = none := by
  refine limits_of_dumpsLength ?_ (show 2 ≤ 16 by decide) rfl
  have hlength : dumpsLength (.dict (closeEpoch epoch operationId).payload) =
      2 + joinedLength [17 + (toString epoch).length, 17 + (toString (epoch + 1)).length, 36, 40,
        49, 43, 52, 47, 50, 23 + (quoteText dailySchedule.scheduleHash).length, 104, 38,
        39 + (quoteText commitRecord.reference.recordDigest).length, 18] := rfl
  have hquoted := length_quotedScheduleHash
  have hdigest := length_quoteText_le commitRecord.reference.recordDigest
  rw [show commitRecord.reference.recordDigest.length = 64 from length_jsonDigest _] at hdigest
  simp only [joinedLength, sum_cons, sum_nil, length_cons, length_nil]
    at hlength
  omega

theorem modelValidate_dailySchedule :
    letI := threeDays
    modelValidate (.dict dailySchedule.dump) = some dailySchedule := by
  let _ := threeDays
  exact modelValidate_dump rfl (by decide) (by decide) (by decide) rfl

theorem modelValidate_nextDayRebase :
    letI := threeDays
    EpochScheduleRebase.modelValidate (.dict nextDayRebase.dump) = some nextDayRebase := by
  let _ := threeDays
  refine EpochScheduleRebase.modelValidate_dump rfl rfl rfl ?_ (by decide) rfl
  show [dailySchedule.scheduleHash, "2026-01-02T00:00:00Z"].all (!·.isEmpty) = true
  rw [all_cons, scheduleHash_isEmpty]
  rfl

/-- The transition is valid on a ledger that holds the commit and did not close its epoch. -/
theorem validate_closeEpoch {L : LedgerState} {epoch : Int} {operationId : String}
    {ids : List String} (pos : 0 ≤ epoch)
    (unclosed : L.operations.any (fun operation => operation.operationType == "EPOCH_TRANSITION" &&
      valueEqInt (PyValue.get operation.payload "closing_epoch") epoch) = false)
    (committed : latestOfType L "EPOCH_SCHEDULE_COMMIT" = some commitRecord)
    (registered : L.finalizedOperationRegistry.get? scheduleCommit.operationId =
      some commitRecord.reference)
    (finalized : scheduleCommit.operationId ∈ ids) :
    letI := threeDays
    letI := scheduleRules
    validateEpochTransition (closeEpoch epoch operationId) (some ids) L =
      .ok (epoch, epoch + 1) := by
  let _ := threeDays
  let _ := scheduleRules
  have hreference : requireScheduleReference (closeEpoch epoch operationId) (some ids) L =
      .ok () := by
    simp only [requireScheduleReference, checks_eq_ok, exists_and_left, exists_const]
    refine ⟨commitRecord, committed, rfl, contains_iff_mem.mpr finalized, rfl,
      dailySchedule, modelValidate_dailySchedule, decide_eq_true ⟨rfl, rfl⟩, rfl, _, registered,
      decide_eq_true ⟨rfl, rfl⟩, ?_⟩
    show ([scheduleCommit.operationId, commitRecord.reference.recordDigest].contains
      scheduleCommit.operationId && [scheduleCommit.operationId,
        commitRecord.reference.recordDigest].contains commitRecord.reference.recordDigest) = true
    simp
  have hbare : ¬ suppliesAny (closeEpoch epoch operationId).payload
      ["epoch_result_manifest_hash", "epoch_result_manifest_operation_id",
        "epoch_transition_quorum_version", "epoch_transition_quorum_hash",
        "epoch_result_manifest_sequence_id", "epoch_result_manifest_record_digest"] = true := by
    simp [suppliesAny, closeEpoch, Fields.has]
  simp only [validateEpochTransition, bind_eq_ok, require_eq_ok, requireInt_eq_ok,
    guarded_eq_ok, exists_and_left, exists_const, decide_eq_true_eq]
  refine ⟨rfl, rfl, (), rfl, epoch, ⟨rfl, pos⟩, epoch + 1, ⟨rfl, by omega⟩, by simp, rfl,
    fun h => absurd h hbare, fun _ => hreference, (), rfl, ?_, rfl⟩
  rw [unclosed]
  rfl

def commitBlock : Block := zeroBlock 0 [.ok scheduleCommit] (some "2026-01-01T00:00:00Z")

def rebaseBlock : Block := zeroBlock 1 [.ok scheduleRebase] (some "2026-01-03T00:00:00Z")

/-- An application with the schedule in force, on a ledger and after a block. -/
def scheduledAfter (L : LedgerState) (ids : List String) (block : Block) : Application :=
  Application.sealed
    { ledger := L, admission := { finalizedIds := ids }, epochSchedule := some dailySchedule }
    block L

def afterCommit : Application :=
  scheduledAfter committedLedger [scheduleCommit.operationId] commitBlock

theorem finalize_commitBlock :
    letI := threeDays
    letI := scheduleRules
    finalizeBlock defaultConfig freshApplication commitBlock =
      .ok (.finalized (blockResult commitBlock [executedResult scheduleCommit] [])
        [executedResult scheduleCommit] afterCommit) := by
  let _ := threeDays
  let _ := scheduleRules
  have hcommit : validateEpochScheduleCommit scheduleCommit (genesis .empty none) =
      .ok ["EpochScheduleCommitted"] := by
    simp only [validateEpochScheduleCommit, bind_eq_ok, require_eq_ok, exists_unit]
    refine ⟨rfl, rfl, rfl, ?_, rfl, rfl, rfl⟩
    show (modelValidate (.dict dailySchedule.dump)).isSome = true
    rw [modelValidate_dailySchedule]
    rfl
  have hvalid : validateRecorded .epochScheduleCommit scheduleCommit none (genesis .empty none) =
      .ok ["EpochScheduleCommitted"] := by
    simp only [validateRecorded, checks_eq_ok, exists_unit]
    exact ⟨rfl, hcommit⟩
  have hadmits : Admits (genesis .empty none) scheduleCommit none := by decide
  have happly : applyEnvelope false scheduleCommit [] (genesis .empty none) =
      .ok commitRecord committedLedger :=
    applyConsensus_eq_ok.mpr ⟨_, _, hvalid, hadmits.admitEnvelope _, rfl⟩
  have hspecial : specialOperationError defaultConfig freshApplication scheduleCommit [] =
      .ok none := by
    show ledgerComplaint freshApplication scheduleCommit
      (.recorded .epochScheduleCommit scheduleCommit none) = .ok none
    rw [ledgerComplaint, validateOperation, show freshApplication.ledger = genesis .empty none from
      rfl, hvalid]
    rfl
  have hadmitted : freshApplication.admission.validate defaultConfig.admission scheduleCommit =
      .ok none := AdmissionState.validate_of_passes rfl rfl rfl limits_scheduleCommit
  have hone := @executeOne_of_applied _ _ defaultConfig
    (blockContext freshApplication commitBlock.txs) _ _ _ _ hadmitted rfl rfl hspecial rfl happly
  refine finalizeBlock_eq_finalized.mpr ⟨_, [], _, executeAll_single hone, rfl, rfl, ?_⟩
  rw [Application.noted]
  rw [show modelValidate (PyValue.get scheduleCommit.payload "epoch_schedule") =
    some dailySchedule from modelValidate_dailySchedule]
  rfl

/-- The transition runs on a ledger that holds the commit and did not close its epoch. -/
theorem executeOne_closeEpoch {app : Application} {epoch : Int} {operationId : String}
    {block : BlockContext} (pos : 0 ≤ epoch)
    (digits : (toString epoch).length = 1 ∧ (toString (epoch + 1)).length = 1)
    (unclosed : app.ledger.operations.any (fun operation =>
      operation.operationType == "EPOCH_TRANSITION" &&
        valueEqInt (PyValue.get operation.payload "closing_epoch") epoch) = false)
    (committed : latestOfType app.ledger "EPOCH_SCHEDULE_COMMIT" = some commitRecord)
    (registered : app.ledger.finalizedOperationRegistry.get? scheduleCommit.operationId =
      some commitRecord.reference)
    (finalized : scheduleCommit.operationId ∈ block.finalizedIds)
    (fresh : app.admission.finalizedIds.contains operationId = false)
    (placed : block.containsScheduleCommit = false)
    (admits : Admits app.ledger (closeEpoch epoch operationId) none)
    (active : letI := threeDays; lateInitialScheduleActivationError app = .ok none) :
    letI := threeDays
    letI := scheduleRules
    executeOne defaultConfig block app (.ok (closeEpoch epoch operationId)) =
      .ok (executedResult (closeEpoch epoch operationId), app.noted (closeEpoch epoch operationId)
          (app.ledger.admitted (closeEpoch epoch operationId) ["EpochTransition"] none)) := by
  let _ := threeDays
  let _ := scheduleRules
  have hvalid := @validate_closeEpoch _ _ operationId _ pos unclosed committed registered finalized
  have happly : applyEnvelope false (closeEpoch epoch operationId) block.finalizedIds app.ledger =
      .ok (admittedRecord app.ledger (closeEpoch epoch operationId) ["EpochTransition"] none)
        (app.ledger.admitted (closeEpoch epoch operationId) ["EpochTransition"] none) :=
    applyConsensus_eq_ok.mpr ⟨_, _, hvalid, admits.admitEnvelope _, rfl⟩
  refine executeOne_of_applied ?_ rfl ?_ ?_ rfl happly
  · rw [AdmissionState.validate, limits_closeEpoch digits,
      show (closeEpoch epoch operationId).operationId = operationId from rfl, fresh]
    rfl
  · rw [BlockContext.sameBlockComplaint, placed]
    rfl
  · show ledgerComplaint app (closeEpoch epoch operationId)
      (.epochTransition (closeEpoch epoch operationId) (some block.finalizedIds)) = .ok none
    rw [ledgerComplaint, validateOperation, hvalid]
    exact active

/-- With the schedule committed and before the end of epoch 0, a transition that closes
epoch 5 is accepted. -/
theorem first_transition_closes_epoch_five :
    letI := threeDays
    letI := scheduleRules
    ∃ app', Finalizes defaultConfig freshApplication
        [commitBlock, zeroBlock 1 [.ok closeSixth] (some "2026-01-01T00:00:00Z")] app' ∧
      epochScheduleCommitted afterCommit.ledger = true ∧
      (transitions app'.ledger).map closingEpoch = [5] := by
  let _ := threeDays
  let _ := scheduleRules
  have hadmits : Admits committedLedger closeSixth none := by decide
  have hactive : lateInitialScheduleActivationError afterCommit = .ok none := by
    have hbefore : dailySchedule.genesisBoundaryReached "2026-01-01T00:00:00Z" =
        .ok (some false) := by decide
    exact congrArg (· >>= _) hbefore
  have hone := @executeOne_closeEpoch afterCommit 5 closeSixth.operationId
    (blockContext afterCommit [.ok closeSixth]) (by decide) (by decide) rfl rfl rfl
    List.mem_cons_self (by decide) rfl hadmits hactive
  refine ⟨_, .cons finalize_commitBlock rfl (.cons (finalizeBlock_eq_finalized.mpr
    ⟨_, [], _, executeAll_single hone, rfl, rfl, rfl⟩) rfl (.nil _)), rfl, rfl⟩

def afterRebase [Runtime] : Application :=
  (afterCommit.noted scheduleRebase rebasedLedger).sealed rebaseBlock rebasedLedger

theorem finalize_rebaseBlock :
    letI := threeDays
    letI := scheduleRules
    finalizeBlock defaultConfig afterCommit rebaseBlock =
      .ok (.finalized (blockResult rebaseBlock [executedResult scheduleRebase] [])
        [executedResult scheduleRebase] afterRebase) := by
  let _ := threeDays
  let _ := scheduleRules
  have hcommitted : epochScheduleProjection committedLedger =
      some (commitRecord.reference, dailySchedule) := by
    show (do
      let schedule ← modelValidate (.dict dailySchedule.dump)
      guard (!isBlank scheduleCommit.operationId)
      let reference ← some commitRecord.reference
      return (reference, schedule)) = some (commitRecord.reference, dailySchedule)
    rw [modelValidate_dailySchedule]
    rfl
  have hrebase : validateEpochScheduleRebase scheduleRebase committedLedger =
      .ok ["EpochScheduleRebased"] := by
    simp only [validateEpochScheduleRebase, bind_eq_ok, require_eq_ok, requireStored_eq_ok,
      exists_unit]
    exact ⟨rfl, rfl, _, hcommitted, rfl, rfl, nextDayRebase, modelValidate_nextDayRebase,
      beq_self_eq_true _, _, rfl, _, rfl, by decide, rfl⟩
  have hvalid : validateRecorded .epochScheduleRebase scheduleRebase none committedLedger =
      .ok ["EpochScheduleRebased"] := by
    simp only [validateRecorded, checks_eq_ok, exists_unit]
    exact ⟨rfl, hrebase⟩
  have hadmits : Admits committedLedger scheduleRebase none := by decide
  have happly : applyEnvelope false scheduleRebase [scheduleCommit.operationId] committedLedger =
      .ok (admittedRecord committedLedger scheduleRebase ["EpochScheduleRebased"] none)
        rebasedLedger :=
    applyConsensus_eq_ok.mpr ⟨_, _, hvalid, hadmits.admitEnvelope _, rfl⟩
  have hspecial : specialOperationError defaultConfig afterCommit scheduleRebase
      [scheduleCommit.operationId] = .ok none := by
    show ledgerComplaint afterCommit scheduleRebase
      (.recorded .epochScheduleRebase scheduleRebase none) = .ok none
    rw [ledgerComplaint, validateOperation, show afterCommit.ledger = committedLedger from rfl,
      hvalid]
    rfl
  have hadmitted : afterCommit.admission.validate defaultConfig.admission scheduleRebase =
      .ok none := AdmissionState.validate_of_passes (by decide) rfl rfl limits_scheduleRebase
  have hone := @executeOne_of_applied _ _ defaultConfig
    (blockContext afterCommit rebaseBlock.txs) _ _ _ _ hadmitted rfl rfl hspecial rfl happly
  exact finalizeBlock_eq_finalized.mpr ⟨_, [], _, executeAll_single hone, rfl, rfl, rfl⟩

/-- After the block of the rebase, epoch 0 has reached its end. -/
theorem inTurn_closeFirst :
    letI := threeDays
    InTurn afterRebase closeFirst := by
  let _ := threeDays
  have hrebased : epochScheduleRebaseProjection rebasedLedger =
      some ((admittedRecord committedLedger scheduleRebase ["EpochScheduleRebased"] none).reference,
        nextDayRebase) := by
    show (do
      let rebase ← EpochScheduleRebase.modelValidate (.dict nextDayRebase.dump)
      let reference ← some
        (admittedRecord committedLedger scheduleRebase ["EpochScheduleRebased"] none).reference
      return (reference, rebase)) = some (_, nextDayRebase)
    rw [modelValidate_nextDayRebase]
    rfl
  have hactive : activeEpochContext dailySchedule rebasedLedger =
      (0, "2026-01-02T00:00:00Z", none) := by
    unfold activeEpochContext
    rw [show latestOfType rebasedLedger "EPOCH_TRANSITION" = none from rfl, hrebased]
    rfl
  have hboundary : dailySchedule.boundaryFor 0 "2026-01-02T00:00:00Z" "2026-01-03T00:00:00Z" =
      .ok (some ⟨0, 1767398400000000, true, some 0, some 1⟩) := by
    decide
  refine ⟨⟨0, 1767398400000000, true, some 0, some 1⟩, ?_, rfl, Int.le_refl 0⟩
  unfold openEpochBoundary
  rw [show afterRebase.epochSchedule = some dailySchedule from rfl,
    show afterRebase.lastBlockTime = some "2026-01-03T00:00:00Z" from rfl,
    show afterRebase.ledger = rebasedLedger from rfl]
  simp only [hactive, hboundary]

/-- The commit, the rebase, and the transition that closes epoch 0. -/
def scheduledRun : List Block := [commitBlock, rebaseBlock, zeroBlock 2 [.ok closeFirst]]

theorem scheduledRun_inTurn :
    letI := threeDays
    letI := scheduleRules
    RunInTurn defaultConfig freshApplication scheduledRun := by
  let _ := threeDays
  let _ := scheduleRules
  refine ⟨⟨?_, fun _ _ _ => trivial⟩, ?_⟩
  · intro env htx htype
    cases htx
    exact absurd htype (by decide)
  intro result results app₁ hfirst
  rw [finalize_commitBlock] at hfirst
  cases hfirst
  refine ⟨⟨?_, fun _ _ _ => trivial⟩, ?_⟩
  · intro env htx htype
    cases htx
    exact absurd htype (by decide)
  intro result results app₂ hsecond
  rw [finalize_rebaseBlock] at hsecond
  cases hsecond
  refine ⟨⟨?_, fun _ _ _ => trivial⟩, fun _ _ _ _ => trivial⟩
  intro env htx _ _
  cases htx
  exact inTurn_closeFirst

/-- In this run the closed epochs are a chain of one. -/
theorem scheduled_run_closes_epoch_zero :
    letI := threeDays
    letI := scheduleRules
    ∃ app', Finalizes defaultConfig freshApplication scheduledRun app' ∧
      RunInTurn defaultConfig freshApplication scheduledRun ∧
      (transitions app'.ledger).length = 1 ∧
      (transitions app'.ledger).map closingEpoch =
        (List.range (transitions app'.ledger).length).map (fun n : Nat => (n : Int)) := by
  let _ := threeDays
  let _ := scheduleRules
  have hadmits : Admits rebasedLedger closeFirst none := by decide
  have hone := @executeOne_closeEpoch afterRebase 0 closeFirst.operationId
    (blockContext afterRebase [.ok closeFirst]) (by decide) (by decide) rfl rfl rfl
    List.mem_cons_self (by decide) rfl hadmits rfl
  have hrun : Finalizes defaultConfig freshApplication scheduledRun _ :=
    .cons finalize_commitBlock rfl (.cons finalize_rebaseBlock rfl (.cons
      (finalizeBlock_eq_finalized.mpr ⟨_, [], _, executeAll_single hone, rfl, rfl, rfl⟩) rfl
      (.nil _)))
  exact ⟨_, hrun, scheduledRun_inTurn, rfl,
    (epochs_form_one_chain rfl rfl hrun scheduledRun_inTurn).1⟩

end AidnSpec.Consensus
