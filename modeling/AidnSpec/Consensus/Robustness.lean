import AidnSpec.Consensus.ExecutorAgreement

/-!
# Transactions that cannot stop the application

`consensus/abci.py:72–110, 445–537`: the mempool and `check_transaction`. Whatever bytes come in,
checking, proposing and executing them returns a result as long as the validations of the ledger
raise `ValueError` only, the end of the configured first epoch is a date, and no forced settlement
fails behind its record.
-/

namespace AidnSpec.Consensus

open Base Ledger

/-! ## Checking a transaction -/

/-- `ABCIMempool`. -/
structure Mempool where
  txs : List Transaction := []
  txIds : List String := []

/-- `ABCIMempool.add`; `none` stands for its `False`. -/
def Mempool.add (m : Mempool) (tx : Transaction) (operationId : String) : Option Mempool :=
  if m.txIds.contains operationId then none
  else some { txs := m.txs ++ [tx], txIds := operationId :: m.txIds }

section Check

variable [Runtime]

variable [LedgerRules]

end Check

/-! ## Tame transactions -/

section Tame

variable [Runtime] [LedgerRules]

omit [LedgerRules] in
/-- A text whose time, if it is one with a zone, is a time in UTC too. -/
def Representable (text : String) : Prop :=
  ∀ time, Runtime.fromisoformat (replaceZulu text) = some time → time.aware = true →
    firstMicrosecond ≤ time.micros ∧ time.micros ≤ lastMicrosecond

/-- An envelope that the application can handle in a state. -/
structure Tame (config : ApplicationConfig) (app : Application) (env : Envelope)
    (ids : List String) : Prop where
  /-- The validation of the ledger raises nothing but `ValueError`. -/
  caught : ∀ {op e}, validatedOperation config.strictOperationCoverage env ids = some op →
    validateOperation op app.ledger = .error e → e.kind = .value
  /-- Its expiry and the clock of the validator are times in UTC. -/
  expires : ∀ {text}, env.expiresAt = some text →
    Representable text ∧ Representable config.admission.currentTime
  /-- The time of the last block is one. -/
  timed : ∀ {time}, app.lastBlockTime = some time → Representable time
  /-- The first epoch of the schedule ends at a date. -/
  dated : ∀ {schedule time}, app.epochSchedule = some schedule → app.lastBlockTime = some time →
    ∃ reached, schedule.genesisBoundaryReached time = .ok reached
  /-- It is not a forced settlement that fails behind its record. -/
  prompt : ∀ {op}, appliedOperation config.strictOperationCoverage env ids = some op →
    ¬ op.RaisesLate app.ledger

/-- The transactions run one after the other, and one that is not executed changes nothing. -/
def RunsCleanly (config : ApplicationConfig) (block : BlockContext) :
    Application → List Transaction → Prop
  | _, [] => True
  | app, tx :: rest => ∃ result app', executeOne config block app tx = .ok (result, app') ∧
      (result.code ≠ .ok → app' = app) ∧ RunsCleanly config block app' rest

/-- The epochs that a block opens can be activated. -/
def Activatable (config : ApplicationConfig) (app : Application) (block : Block) : Prop :=
  ∀ results executed,
    executeAll config (blockContext app block.txs) app block.txs = .ok (results, executed) →
      ∃ activated, activateEpochs (finalizedOperationIds app.ledger) executed.ledger
        (openedEpochs block.txs results) = .ok activated

/-- What every application of a run has: a well-formed economy, and a replay cache that the
ledger knows. -/
structure Sound (app : Application) : Prop where
  wellFormed : app.ledger.economy.WellFormed
  cached : ∀ id ∈ app.admission.finalizedIds, id ∈ finalizedOperationIds app.ledger

variable {config : ApplicationConfig} {app app' : Application} {env : Envelope}
  {ids : List String} {block : BlockContext}

variable {L' L : LedgerState} {tx : Transaction} {result : ABCIResult} {strict : Bool}
  {txs : List Transaction} {results : List ABCIResult}

/-- A failed application of a tame envelope changes nothing. -/
theorem Tame.atomic (h : Tame config app env ids) (wf : app.ledger.economy.WellFormed) {e : PyError}
    (happly : applyEnvelope config.strictOperationCoverage env ids app.ledger = .error e L') :
    L' = app.ledger := by
  unfold applyEnvelope at happly
  cases hop : appliedOperation config.strictOperationCoverage env ids with
  | some op =>
    rw [hop] at happly
    exact (ConsensusOp.takes wf (h.prompt hop)).atomic happly
  | none =>
    simp only [hop, recordAdmittedEnvelope] at happly
    split at happly
    · cases happly
    · cases happly
      rfl

theorem wellFormed_executeOne (h : executeOne config block app tx = .ok (result, app'))
    (wf : app.ledger.economy.WellFormed) : app'.ledger.economy.WellFormed := by
  rcases executeOne_cases h with ⟨rfl, -⟩ | ⟨env, -, -, -, happly⟩
  · exact wf
  · have hleaves : app'.ledger =
        leaves (applyEnvelope config.strictOperationCoverage env block.finalizedIds) app.ledger :=
      ledger_of_executeApply happly
    rw [hleaves, applyEnvelope]
    cases hop : appliedOperation config.strictOperationCoverage env block.finalizedIds with
    | some op =>
      rw [← op.after_eq_leaves]
      exact op.wellFormed_after wf
    | none =>
      show (leaves (recordAdmittedEnvelope env []) app.ledger).economy.WellFormed
      rw [leaves, recordAdmittedEnvelope]
      cases hentry : admitEnvelope app.ledger env [] with
      | error e => exact wf
      | ok pair =>
        show pair.2.economy.WellFormed
        rw [economy_of_admitEnvelope hentry]
        exact wf

omit [Runtime] [LedgerRules] in
/-- Activations keep the economy. -/
theorem economy_of_activateEpochs {epochs : List Int} {updates : List ValidatorUpdate}
    (h : activateEpochs ids L epochs = .ok (updates, L')) : L'.economy = L.economy := by
  induction epochs generalizing L updates with
  | nil =>
    cases h
    rfl
  | cons epoch epochs ih =>
    simp only [activateEpochs, checks_eq_ok, Prod.exists, Prod.mk.injEq] at h
    obtain ⟨first, L₁, hfirst, more, L₂, hmore, -, rfl⟩ := h
    rw [ih hmore]
    obtain ⟨-, ⟨-, -, rfl⟩ | ⟨_, _, c, -, -, -, -, -, rfl⟩⟩ :=
      activateValidatorSetUpdate_eq_ok.mp hfirst
    · rfl
    · rfl

/-- A clean run gives one result for each transaction. -/
theorem RunsCleanly.executeAll (h : RunsCleanly config block app txs) :
    ∃ results executed, executeAll config block app txs = .ok (results, executed) ∧
      results.length = txs.length := by
  induction txs generalizing app with
  | nil => exact ⟨[], app, rfl, rfl⟩
  | cons tx txs ih =>
    obtain ⟨result, app₁, hone, -, hrest⟩ := h
    obtain ⟨results, executed, hall, hlength⟩ := ih hrest
    refine ⟨result :: results, executed, executeAll_cons.mpr ⟨_, _, _, hone, hall, rfl⟩, ?_⟩
    rw [List.length_cons, List.length_cons, hlength]

omit [Runtime] [LedgerRules] in
theorem raises_activateEpochs {epochs : List Int} : RaisesValue (activateEpochs ids L epochs) := by
  induction epochs generalizing L with
  | nil => exact raises_ok _
  | cons epoch epochs ih =>
    exact raises_activateValidatorSetUpdate.bind fun _ _ => ih.bind fun _ _ => raises_ok _

/-- A block whose transactions run cleanly is finalized or rolled back. -/
theorem RunsCleanly.ends {b : Block}
    (h : RunsCleanly config (blockContext app b.txs) app b.txs) (rollbackNote : String) :
    ∃ outcome, finalizeBlock config app b = .ok outcome ∧
      (outcome.txResults b rollbackNote).length = b.txs.length ∧
      (Activatable config app b →
        ∃ result results app', outcome = .finalized result results app') := by
  obtain ⟨results, executed, hall, hlength⟩ := h.executeAll
  cases hactivate : activateEpochs (finalizedOperationIds app.ledger) executed.ledger
      (openedEpochs b.txs results) with
  | ok activated =>
    exact ⟨_, finalizeBlock_eq_finalized.mpr ⟨executed, _, _, hall, hactivate, rfl, rfl⟩, hlength,
      fun _ => ⟨_, _, _, rfl⟩⟩
  | error e =>
    have hcaught : e.kind = .value ∨ e.kind = .type ∨ e.kind = .key :=
      .inl (raises_activateEpochs e hactivate)
    refine ⟨.activationFailed executed e, ?_, List.length_map _, fun hactivatable => ?_⟩
    · have hfailed : activateEpochs (blockContext app b.txs).finalizedIds executed.ledger
          (openedEpochs b.txs results) = .error e := hactivate
      simp only [finalizeBlock, hall, bind, Except.bind, hfailed, if_pos hcaught]
      rfl
    · obtain ⟨activated, hok⟩ := hactivatable results executed hall
      cases hactivate.symm.trans hok

end Tame

end AidnSpec.Consensus
