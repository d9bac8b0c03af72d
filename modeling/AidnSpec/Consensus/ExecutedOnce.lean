import AidnSpec.Consensus.Unbonding
import AidnSpec.Ledger.LogBooks

/-!
# What a chain executes once

Over any run of finalized blocks a transaction identity is executed at most once, and what was
executed is in the log, in the order of the blocks. A stake ends at most once.
-/

namespace AidnSpec.Consensus

open Base Ledger List

/-- The identity of a transaction whose result is `OK`. -/
def executedId : Transaction × ABCIResult → List String
  | (.ok env, result) => if result.code = .ok then [env.operationId] else []
  | (.error _, _) => []

def executedIds (run : List (Block × List ABCIResult)) : List String :=
  run.flatMap fun b => (b.1.txs.zip b.2).flatMap executedId

/-- What is executed is recorded, under an identity that is new to the log. -/
structure Logs (L L' : LedgerState) (ids : List String) : Prop where
  books : LogBooks L'.core
  grows : ∃ records, L'.operations = L.operations ++ records ∧
    ids.Sublist (records.map (·.operationId))

theorem Logs.refl {L : LedgerState} (h : LogBooks L.core) : Logs L L [] :=
  ⟨h, [], (append_nil _).symm, nil_sublist _⟩

theorem Logs.trans {L L₁ L₂ : LedgerState} {ids more : List String} (h : Logs L L₁ ids)
    (h' : Logs L₁ L₂ more) : Logs L L₂ (ids ++ more) := by
  obtain ⟨first, hfirst, hids⟩ := h.grows
  obtain ⟨second, hsecond, hmore⟩ := h'.grows
  refine ⟨h'.books, first ++ second, ?_, ?_⟩
  · rw [hsecond, hfirst, append_assoc]
  · rw [map_append]
    exact hids.append hmore

section

variable [Runtime] [LedgerRules] {config : ApplicationConfig} {context : BlockContext}
  {app app' : Application} {tx : Transaction} {txs : List Transaction} {result : ABCIResult}
  {results : List ABCIResult}

/-- A run of finalized blocks, with the results of the transactions of each. -/
inductive Executes (config : ApplicationConfig) :
    Application → List (Block × List ABCIResult) → Application → Prop
  | done (app : Application) : Executes config app [] app
  | block {app next last : Application} {block : Block} {result : ABCIResult}
      {results : List ABCIResult} {rest : List (Block × List ABCIResult)}
      (finalized : finalizeBlock config app block = .ok (.finalized result results next))
      (more : Executes config next rest last) : Executes config app ((block, results) :: rest) last

/-- An envelope is recorded, or it raises and changes nothing. -/
theorem applyEnvelope_raises_or_records (strict : Bool) (env : Envelope) (ids : List String)
    (L : LedgerState) : (∃ e, applyEnvelope strict env ids L = .error e L) ∨
      ∃ events next, Admits L env next ∧
        (leaves (applyEnvelope strict env ids) L).core = (L.admitted env events next).core := by
  unfold applyEnvelope
  cases h : appliedOperation strict env ids with
  | some op =>
    have hop := op.raises_or_records L
    rwa [envelope_of_applied h] at hop
  | none =>
    cases ha : admitEnvelope L env [] with
    | error e => exact .inl ⟨e, by simp only [recordAdmittedEnvelope, ha]⟩
    | ok pair =>
      obtain ⟨next, hadmits, -, hafter⟩ := admitEnvelope_eq_ok.mp ha
      refine .inr ⟨[], next, hadmits, ?_⟩
      simp only [leaves, recordAdmittedEnvelope, ha, hafter]

theorem logs_executeOne (books : LogBooks app.ledger.core)
    (h : executeOne config context app tx = .ok (result, app')) :
    Logs app.ledger app'.ledger (executedId (tx, result)) := by
  have hrefused : result.code ≠ .ok → executedId (tx, result) = [] := by
    intro hcode
    cases tx with
    | error complaint => rfl
    | ok env => exact if_neg hcode
  rcases executeOne_cases h with ⟨rfl, hcode⟩ | ⟨env, rfl, -, -, happly⟩
  · rw [hrefused hcode]
    exact .refl books
  · have hledger := ledger_of_executeApply happly
    rcases applyEnvelope_raises_or_records config.strictOperationCoverage env context.finalizedIds
      app.ledger with ⟨e, hraised⟩ | ⟨events, next, hadmits, hcore⟩
    · rcases executeApply_cases happly with ⟨record, L, hL, -, -⟩ | ⟨e', L, -, hcode, -⟩
      · rw [hraised] at hL
        cases hL
      · rw [hrefused hcode, hledger, leaves, hraised]
        exact .refl books
    · rw [hledger]
      refine ⟨hcore ▸ books.admitted hadmits, _, congrArg LedgerCore.operations hcore, ?_⟩
      rw [executedId]
      split_ifs
      · exact Sublist.refl _
      · exact nil_sublist _

theorem logs_executeAll (books : LogBooks app.ledger.core)
    (h : executeAll config context app txs = .ok (results, app')) :
    Logs app.ledger app'.ledger ((txs.zip results).flatMap executedId) := by
  induction txs generalizing app results with
  | nil =>
    cases h
    exact .refl books
  | cons tx txs ih =>
    obtain ⟨result, app₁, more, hone, hall, rfl⟩ := executeAll_cons.mp h
    have hfirst := logs_executeOne books hone
    exact hfirst.trans (ih hfirst.books hall)

/-- A finalized block records what it executes; the activations leave the log alone. -/
theorem logs_finalizeBlock {block : Block} (books : LogBooks app.ledger.core)
    (h : finalizeBlock config app block = .ok (.finalized result results app')) :
    Logs app.ledger app'.ledger ((block.txs.zip results).flatMap executedId) := by
  obtain ⟨executed, updates, L, hall, hactivate, -, rfl⟩ := finalizeBlock_eq_finalized.mp h
  have hlogs := logs_executeAll books hall
  obtain ⟨hops, hregistry⟩ := kept_of_activateEpochs hactivate
  obtain ⟨records, hrecords, hids⟩ := hlogs.grows
  refine ⟨⟨?_, ?_⟩, records, hops.trans hrecords, hids⟩
  · show (L.operations.map _).Nodup
    rw [hops]
    exact hlogs.books.distinct
  · show ∀ r ∈ L.operations, L.finalizedOperationRegistry.get? _ = _
    rw [hops, hregistry]
    exact hlogs.books.registered

/-- A run of blocks records what it executes. -/
theorem Executes.logs {run : List (Block × List ABCIResult)} (h : Executes config app run app')
    (books : LogBooks app.ledger.core) : Logs app.ledger app'.ledger (executedIds run) := by
  induction h with
  | done app => exact .refl books
  | block finalized more ih =>
    have hfirst := logs_finalizeBlock books finalized
    exact hfirst.trans (ih hfirst.books)

theorem Finalizes.executes {blocks : List Block} (h : Finalizes config app blocks app') :
    ∃ run, Executes config app run app' := by
  induction h with
  | nil app => exact ⟨[], .done app⟩
  | cons finalized code more ih =>
    obtain ⟨run, hrun⟩ := ih
    exact ⟨_, .block finalized hrun⟩

variable {app₀ : Application} {balances : Dict String Int} {manifest : Option Fields}
  {earlier later : List Block}

theorem logBooks_of_finalizes (start : app₀.ledger = genesis balances manifest)
    (run : Finalizes config app₀ earlier app) : LogBooks app.ledger.core := by
  obtain ⟨run, hrun⟩ := run.executes
  exact (hrun.logs (start ▸ logBooks_genesis balances manifest)).books

/-- On a chain no identity is executed that the log holds, and none twice, and what is executed is
recorded in the order of the blocks. -/
theorem transactions_executed_once (start : app₀.ledger = genesis balances manifest)
    (reached : Finalizes config app₀ earlier app) {run : List (Block × List ABCIResult)}
    (executes : Executes config app run app') :
    (app.ledger.operations.map (·.operationId) ++ executedIds run).Nodup ∧
      ∃ records, app'.ledger.operations = app.ledger.operations ++ records ∧
        (executedIds run).Sublist (records.map (·.operationId)) := by
  have hlogs := executes.logs (logBooks_of_finalizes start reached)
  obtain ⟨records, hrecords, hids⟩ := hlogs.grows
  refine ⟨?_, records, hrecords, hids⟩
  have hdistinct : (app'.ledger.operations.map _).Nodup := hlogs.books.distinct
  rw [hrecords, map_append] at hdistinct
  exact hdistinct.sublist ((Sublist.refl _).append hids)

end

/-- A lock and an unstake request in one block are executed, each once. -/
theorem unstaking_block_executed_once :
    letI := sampleRuntime
    letI := noRules
    ∃ app', Executes defaultConfig stakingApplication
        [(unstakingBlock, [executedResult stakeLockEnvelope, executedResult unstakeEnvelope])]
        app' ∧
      [stakeLockEnvelope.operationId, unstakeEnvelope.operationId].Nodup := by
  let _ := sampleRuntime
  let _ := noRules
  have hall : executeAll defaultConfig (blockContext stakingApplication unstakingBlock.txs)
      stakingApplication unstakingBlock.txs = .ok (_, afterUnstake) := executeAll_unstake _ rfl
  have hrun : Executes defaultConfig stakingApplication
      [(unstakingBlock, [executedResult stakeLockEnvelope, executedResult unstakeEnvelope])]
      (afterUnstake.sealed unstakingBlock unbondingLedger) :=
    .block (finalizeBlock_eq_finalized.mpr ⟨_, [], _, hall, rfl, rfl, rfl⟩) (.done _)
  exact ⟨_, hrun, (transactions_executed_once rfl (.nil _) hrun).1⟩

/-! ## How a stake ends -/

def releases (operations : List LedgerOperationRecord) (stakeId : String) : Nat :=
  (unbondingLog operations stakeId).countP (·.operationType == "STAKE_RELEASE")

def isReleased (L : LedgerState) (stakeId : String) : Bool :=
  (L.stakeRecords.get? stakeId).any (·.state = .released)

/-- The log releases a stake once when it is RELEASED, and never else. -/
theorem releases_eq {L : LedgerState} (h : StakesLogged L) (stakeId : String) :
    releases L.operations stakeId = (isReleased L stakeId).toNat := by
  have hhistory := h stakeId
  unfold releases isReleased
  generalize unbondingLog L.operations stakeId = log at hhistory
  generalize L.stakeRecords.get? stakeId = stored at hhistory
  cases hhistory with
  | absent => rfl
  | locked stake state => simp [state]
  | unbonding stake request state requested => simp [state, requested]
  | released stake request release state requested ends => simp [state, requested, ends]
  | slashed _ stake state unreleased =>
    have hnone : log.countP (·.operationType == "STAKE_RELEASE") = 0 := by
      rw [countP_eq_zero]
      intro r hr
      simpa using unreleased r hr
    simp [state, hnone]

/-- On a chain the log releases a stake once when it is RELEASED and never else; a released stake
stays released, and a slashed one stays as it is. -/
theorem stakes_end_once [Runtime] [LedgerRules] {config : ApplicationConfig}
    {balances : Dict String Int} {manifest : Option Fields} {app₀ app app' : Application}
    {earlier later : List Block} (start : app₀.ledger = genesis balances manifest)
    (reached : Finalizes config app₀ earlier app) (run : Finalizes config app later app')
    (stakeId : String) :
    releases app'.ledger.operations stakeId = (isReleased app'.ledger stakeId).toNat ∧
      (isReleased app.ledger stakeId = true → isReleased app'.ledger stakeId = true) ∧
      SlashedStays app.ledger app'.ledger := by
  have hgenesis : StakesSound app₀.ledger := by
    rw [start]
    exact ⟨Reachable.wellFormed ⟨balances, manifest, [], rfl⟩,
      stakesLogged_genesis balances manifest⟩
  have hsound := (hgenesis.run reached).1
  obtain ⟨hafter, hslashed⟩ := hsound.run run
  refine ⟨releases_eq hafter.logged stakeId, fun hreleased => ?_, hslashed⟩
  obtain ⟨executed, hexecuted⟩ := run.executes
  obtain ⟨records, hrecords, -⟩ :=
    (hexecuted.logs (logBooks_of_finalizes start reached)).grows
  have hgrows : releases app.ledger.operations stakeId ≤
      releases app'.ledger.operations stakeId := by
    rw [hrecords]
    exact ((prefix_append _ records).sublist.filter _).countP_le
  rw [releases_eq hsound.logged, releases_eq hafter.logged, hreleased] at hgrows
  cases hlast : isReleased app'.ledger stakeId with
  | true => rfl
  | false => simp [hlast] at hgrows

/-- A stake that was released in the block of its lock has one release in the log. -/
theorem releasing_block_ends_stake :
    letI := sampleRuntime
    letI := noRules
    ∃ app', Finalizes defaultConfig stakingApplication [releasingBlock] app' ∧
      isReleased app'.ledger "stake-1" = true ∧ releases app'.ledger.operations "stake-1" = 1 := by
  let _ := sampleRuntime
  let _ := noRules
  exact ⟨_, finalizes_releasingBlock, rfl,
    (stakes_end_once rfl (.nil _) finalizes_releasingBlock "stake-1").1⟩

end AidnSpec.Consensus
