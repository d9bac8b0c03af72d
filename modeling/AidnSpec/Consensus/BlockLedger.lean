import AidnSpec.Consensus.Application
import AidnSpec.Ledger.Schedules

/-!
# The ledger along a block

While the transactions of a block run, the active set stays as it was and the log grows: a schedule
that the block records was checked against the active set that the block found. The active set
changes afterwards, epoch by epoch.
-/

namespace AidnSpec.Consensus

open Base Ledger

/-- An application as it is constructed, on an empty ledger. -/
def freshApplication : Application where
  ledger := genesis .empty none

/-- A configuration with the defaults of the source. -/
def defaultConfig : ApplicationConfig where
  admission := { currentTime := "2026-01-01T00:00:00Z" }

/-- The block on top of a height, with a hash of zeros. -/
def zeroBlock (parent : Nat) (txs : List Transaction) (time : Option String := none) : Block :=
  ⟨parent + 1, List.replicate 32 0, txs, time, parent.succ_pos, rfl⟩

/-! ## What a branch makes of an envelope -/

/-- Every branch makes an operation of its envelope. -/
theorem envelope_of_mem_branches {entry : String × MakeOperation}
    (h : entry ∈ strictlyTyped ++ identityBranch ++ unvalidatedBranches ++ commonBranches)
    (env : Envelope) (ids : List String) : (entry.2 env ids).envelope = env := by
  revert entry
  simp only [strictlyTyped, identityBranch, unvalidatedBranches, commonBranches, List.cons_append,
    List.nil_append, List.forall_mem_cons, List.not_mem_nil, false_imp_iff, implies_true, and_true]
  and_intros <;> rfl

variable {strict : Bool} {env : Envelope} {ids : List String}

/-- The operation that the application applies has the envelope it was made of. -/
theorem envelope_of_applied {op : ConsensusOp} (h : appliedOperation strict env ids = some op) :
    op.envelope = env := by
  rw [appliedOperation, branch, Option.map_eq_some_iff] at h
  obtain ⟨make, hmake, rfl⟩ := h
  have hmem := mem_of_lookup hmake
  suffices hall : (env.operationType, make) ∈ strictlyTyped ++ identityBranch ++
      unvalidatedBranches ++ commonBranches from envelope_of_mem_branches hall env ids
  cases strict with
  | true => exact hmem
  | false =>
    simp only [Bool.false_eq_true, if_false, List.nil_append, List.mem_append] at hmem ⊢
    rcases hmem with (hmem | hmem) | hmem
    · exact .inl (.inl (.inr hmem))
    · exact .inl (.inr hmem)
    · exact .inr hmem

theorem applied_transition (h : env.operationType = "EPOCH_TRANSITION") :
    appliedOperation strict env ids = some (.epochTransition env (some ids)) := by
  rw [appliedOperation, branch, h]
  cases strict <;> rfl

theorem applied_schedule (h : env.operationType = "CONSENSUS_VALIDATOR_SET_UPDATE") :
    appliedOperation strict env ids = some (.validatorSetUpdate env) := by
  rw [appliedOperation, branch, h]
  cases strict <;> rfl

/-- Recording an envelope alone is recording. -/
theorem records_recordAdmittedEnvelope {events : List String} {P : LedgerState → Prop}
    (h : ∀ L, P L) : Records (recordAdmittedEnvelope env events) env P := by
  intro L
  rw [leaves, recordAdmittedEnvelope]
  cases ha : admitEnvelope L env events with
  | error e => exact .inl rfl
  | ok pair =>
    obtain ⟨record, L'⟩ := pair
    obtain ⟨next, hadmits, -, rfl⟩ := admitEnvelope_eq_ok.mp ha
    exact .inr ⟨events, next, h L, hadmits, rfl⟩

section Execute

variable [Runtime] [LedgerRules]

/-- Whatever the application applies keeps the committed schedules. -/
theorem records_applyEnvelope (strict : Bool) (env : Envelope) (ids : List String) :
    Records (applyEnvelope strict env ids) env (KeepsCommitments env) := by
  unfold applyEnvelope
  cases h : appliedOperation strict env ids with
  | some op =>
    have hrecords := op.records_keepsCommitments
    rw [envelope_of_applied h] at hrecords
    exact hrecords
  | none =>
    refine records_recordAdmittedEnvelope fun L htype => ?_
    rw [applied_schedule htype] at h
    cases h

variable {config : ApplicationConfig} {block : BlockContext} {app app' : Application}
  {result : ABCIResult} {env : Envelope} {ids : List String}

/-- What one transaction does: it is refused and changes nothing, or it was admitted and is
applied. -/
theorem executeOne_cases {tx : Transaction}
    (h : executeOne config block app tx = .ok (result, app')) :
    app' = app ∧ result.code ≠ .ok ∨
      ∃ env, tx = .ok env ∧ app.admission.validate config.admission env = .ok none ∧
        specialOperationError config app env block.finalizedIds = .ok none ∧
        executeApply config app env block.finalizedIds = (result, app') := by
  unfold executeOne at h
  cases tx with
  | error complaint =>
    cases h
    exact .inl ⟨rfl, by simp⟩
  | ok env =>
    dsimp only at h
    rw [bind_eq_ok] at h
    obtain ⟨reason, hadmitted, h⟩ := h
    cases reason with
    | some reason =>
      cases h
      exact .inl ⟨rfl, by simp⟩
    | none =>
      dsimp only at h
      split at h
      · cases h
        exact .inl ⟨rfl, by simp [refusal]⟩
      · rw [bind_eq_ok] at h
        obtain ⟨complaint, hspecial, h⟩ := h
        cases complaint with
        | some complaint =>
          cases h
          exact .inl ⟨rfl, by simp [refusal]⟩
        | none =>
          dsimp only at h
          split at h
          · cases h
            exact .inl ⟨rfl, by simp [refusal]⟩
          · rw [pure_eq_ok] at h
            exact .inr ⟨env, rfl, hadmitted, hspecial, h⟩

/-- What applying an envelope does to the application. -/
theorem executeApply_cases (h : executeApply config app env ids = (result, app')) :
    (∃ record L, applyEnvelope config.strictOperationCoverage env ids app.ledger = .ok record L ∧
        result.code = .ok ∧ app' = app.noted env L) ∨
      ∃ e L, applyEnvelope config.strictOperationCoverage env ids app.ledger = .error e L ∧
        result.code ≠ .ok ∧ app' = { app with ledger := L } := by
  unfold executeApply at h
  split at h
  · next record L happly =>
    cases h
    exact .inl ⟨record, L, happly, rfl, rfl⟩
  · next e L happly =>
    split_ifs at h
    · cases h
      exact .inr ⟨e, L, happly, by simp, rfl⟩
    · cases h
      exact .inr ⟨e, L, happly, by simp, rfl⟩

/-- Applying an envelope leaves the ledger that the ledger's own operation leaves. -/
theorem ledger_of_executeApply (h : executeApply config app env ids = (result, app')) :
    app'.ledger = leaves (applyEnvelope config.strictOperationCoverage env ids) app.ledger := by
  rw [leaves]
  rcases executeApply_cases h with ⟨record, L, hL, -, rfl⟩ | ⟨e, L, hL, -, rfl⟩
  · rw [hL]
    rfl
  · rw [hL]

/-- A transaction that passes every check and is applied. -/
theorem executeOne_of_applied {record : LedgerOperationRecord} {L : LedgerState}
    (admitted : app.admission.validate config.admission env = .ok none)
    (authorized : protocolAuthorityError config.protocolAuthorityPolicy env = none)
    (placed : block.sameBlockComplaint env = none)
    (valid : specialOperationError config app env block.finalizedIds = .ok none)
    (covered : operationCoverageError config.strictOperationCoverage env.operationType = none)
    (applied : applyEnvelope config.strictOperationCoverage env block.finalizedIds app.ledger =
      .ok record L) :
    executeOne config block app (.ok env) =
      .ok (⟨.ok, "", "", [("operation_id", env.operationId), ("type", env.operationType)], []⟩,
        app.noted env L) := by
  unfold executeOne
  simp only [admitted, authorized, placed, Option.or_none, valid, covered, executeApply, applied]
  rfl

/-! ## Growing ledgers -/

end Execute

/-- How a ledger grows while transactions run: the active set stays, committed schedules
stay, and a new schedule is valid on the active set. -/
structure Grows (L L' : LedgerState) : Prop where
  active : L'.activeValidatorSet = L.activeValidatorSet
  epochs : L'.activatedValidatorSetEpochs = L.activatedValidatorSetEpochs
  kept : ∀ {epoch r}, validatorSetUpdateCommitment L epoch = some r →
    validatorSetUpdateCommitment L' epoch = some r
  fresh : ∀ {epoch r}, validatorSetUpdateCommitment L epoch = none →
    validatorSetUpdateCommitment L' epoch = some r → ∃ c, ScheduledOn r epoch c L.activeValidatorSet
  registered : Registered L → Registered L'

theorem Grows.refl (L : LedgerState) : Grows L L where
  active := rfl
  epochs := rfl
  kept h := h
  fresh hnone hr := by
    rw [hnone] at hr
    cases hr
  registered h := h

theorem Grows.trans {L L₁ L₂ : LedgerState} (h : Grows L L₁) (h' : Grows L₁ L₂) : Grows L L₂ where
  active := h'.active.trans h.active
  epochs := h'.epochs.trans h.epochs
  kept hr := h'.kept (h.kept hr)
  fresh {epoch r} hnone hr := by
    cases hmid : validatorSetUpdateCommitment L₁ epoch with
    | none =>
      rw [← h.active]
      exact h'.fresh hmid hr
    | some r₁ =>
      have hsame := h'.kept hmid
      rw [hr] at hsame
      cases hsame
      exact h.fresh hnone hmid
  registered hr := h'.registered (h.registered hr)

/-- Recording grows the ledger. -/
theorem grows_of_records {op : LedgerM LedgerOperationRecord}
    (h : Records op env (KeepsCommitments env)) (L : LedgerState) : Grows L (leaves op L) := by
  rcases h L with hcore | ⟨events, next, hkeeps, hadmits, hcore⟩
  · have hops := congrArg LedgerCore.operations hcore
    refine ⟨congrArg LedgerCore.activeValidatorSet hcore,
      congrArg LedgerCore.activatedValidatorSetEpochs hcore, h.commitment, ?_, ?_⟩
    · intro epoch r hnone hr
      rw [validatorSetUpdateCommitment_congr hops, hnone] at hr
      cases hr
    · exact h.registered
  · have hops : (leaves op L).operations = L.operations ++ [admittedRecord L env events next] :=
      congrArg LedgerCore.operations hcore
    refine ⟨congrArg LedgerCore.activeValidatorSet hcore,
      congrArg LedgerCore.activatedValidatorSetEpochs hcore, h.commitment, ?_, ?_⟩
    · intro epoch r hnone hr
      rw [validatorSetUpdateCommitment_append hops, hnone] at hr
      split_ifs at hr with hschedules
      cases hr
      simp only [LedgerOperationRecord.schedules, Bool.and_eq_true, beq_iff_eq] at hschedules
      obtain ⟨⟨e, c⟩, hvalid⟩ := hkeeps hschedules.1
      obtain ⟨hread, -, hfits, hdeclared⟩ := validateValidatorSetUpdate_eq_ok.mp hvalid
      have hepoch : e = epoch := by
        have hget := (readSchedule_spec hread).2.1
        have heq := hschedules.2
        rw [admittedRecord, hget] at heq
        exact beq_iff_eq.mp heq
      subst hepoch
      exact ⟨c, hread, hfits, hdeclared⟩
    · exact h.registered

variable [Runtime] [LedgerRules]

variable {config : ApplicationConfig} {block : BlockContext} {app app' : Application}
  {tx : Transaction} {result : ABCIResult} {results : List ABCIResult} {txs : List Transaction}

/-- One transaction grows the ledger. -/
theorem grows_executeOne (h : executeOne config block app tx = .ok (result, app')) :
    Grows app.ledger app'.ledger := by
  rcases executeOne_cases h with ⟨rfl, -⟩ | ⟨env, -, -, -, happly⟩
  · exact Grows.refl _
  · rw [ledger_of_executeApply happly]
    exact grows_of_records (records_applyEnvelope config.strictOperationCoverage env
      block.finalizedIds) app.ledger

theorem executeAll_cons {rest : List Transaction} :
    executeAll config block app (tx :: rest) = .ok (results, app') ↔
      ∃ result app₁ more, executeOne config block app tx = .ok (result, app₁) ∧
        executeAll config block app₁ rest = .ok (more, app') ∧ results = result :: more := by
  simp only [executeAll, checks_eq_ok, Prod.exists, Prod.mk.injEq]
  constructor
  · rintro ⟨result, app₁, hone, more, app₂, hall, rfl, rfl⟩
    exact ⟨result, app₁, more, hone, hall, rfl⟩
  · rintro ⟨result, app₁, more, hone, hall, rfl⟩
    exact ⟨result, app₁, hone, more, app', hall, rfl, rfl⟩

/-- A block of one transaction. -/
theorem executeAll_single (h : executeOne config block app tx = .ok (result, app')) :
    executeAll config block app [tx] = .ok ([result], app') :=
  executeAll_cons.mpr ⟨result, app', [], h, rfl, rfl⟩

/-- The transactions of a block grow the ledger. -/
theorem grows_executeAll (h : executeAll config block app txs = .ok (results, app')) :
    Grows app.ledger app'.ledger := by
  induction txs generalizing app results with
  | nil =>
    cases h
    exact Grows.refl _
  | cons tx txs ih =>
    obtain ⟨result, app₁, more, hone, hall, -⟩ := executeAll_cons.mp h
    exact (grows_executeOne hone).trans (ih hall)

/-- An opened epoch is the opening epoch of a transition and not negative. -/
theorem nonneg_of_openedEpochs (h : executeAll config block app txs = .ok (results, app'))
    {epoch : Int} (hmem : epoch ∈ openedEpochs txs results) : 0 ≤ epoch := by
  induction txs generalizing app results with
  | nil => cases hmem
  | cons tx txs ih =>
    obtain ⟨result, app₁, more, hone, hall, rfl⟩ := executeAll_cons.mp h
    cases tx with
    | error complaint => exact ih hall hmem
    | ok env =>
      simp only [openedEpochs] at hmem
      split_ifs at hmem with hopens
      · rcases List.mem_cons.mp hmem with rfl | hmem
        · rcases executeOne_cases hone with ⟨-, hcode⟩ | ⟨env', heq, -, -, happly⟩
          · exact absurd hopens.1 hcode
          · cases heq
            rcases executeApply_cases happly with ⟨record, L, hL, -, -⟩ | ⟨e, L, -, hcode, -⟩
            · rw [applyEnvelope, applied_transition hopens.2] at hL
              obtain ⟨⟨closing, opening⟩, L₁, hvalid, -, -⟩ := applyConsensus_eq_ok.mp hL
              simp only [validateEpochTransition, bind_eq_ok, require_eq_ok, requireInt_eq_ok,
                exists_and_left, exists_const, decide_eq_true_eq] at hvalid
              obtain ⟨-, -, -, -, n, -, m, ⟨hm, hpos⟩, -⟩ := hvalid
              rw [Fields.int_of_get hm]
              exact hpos
            · exact absurd hopens.1 hcode
        · exact ih hall hmem
      · exact ih hall hmem

/-! ## Blocks -/

/-- A block is finalized exactly when its transactions run and its activations succeed. -/
theorem finalizeBlock_eq_finalized {block : Block} :
    finalizeBlock config app block = .ok (.finalized result results app') ↔
      ∃ executed updates L,
        executeAll config (blockContext app block.txs) app block.txs = .ok (results, executed) ∧
        activateEpochs (finalizedOperationIds app.ledger) executed.ledger
          (openedEpochs block.txs results) = .ok (updates, L) ∧
        result = blockResult block results updates ∧ app' = executed.sealed block L := by
  simp only [finalizeBlock, bind_eq_ok, Prod.exists]
  constructor
  · rintro ⟨results', executed, hexecuted, h⟩
    split at h
    · next updates L hactivate =>
      cases h
      exact ⟨executed, updates, L, hexecuted, hactivate, rfl, rfl⟩
    · split_ifs at h
      cases h
  · rintro ⟨executed, updates, L, hexecuted, hactivate, rfl, rfl⟩
    refine ⟨results, executed, hexecuted, ?_⟩
    rw [show (blockContext app block.txs).finalizedIds = finalizedOperationIds app.ledger from rfl,
      hactivate]
    rfl

end AidnSpec.Consensus
