import AidnSpec.Consensus.BlockLedger
import AidnSpec.Ledger.Applicability

/-!
# Blocks that finalize

When a block is finalized. The activations at the end of a block check every opened schedule again,
against the active set of that moment and the operations finalized before the block. A run is
orderly when no block opens an epoch that the same block scheduled, and every schedule that is
opened meets an active set that agrees with the one it was admitted against.
-/

namespace AidnSpec.Consensus

open Base Ledger

/-! ## Orderly runs -/

/-- The active sets that the schedules of the epochs were admitted against. -/
abbrev AdmissionSets := Int → Option (Dict String Fields)

/-- The admission sets after a block: what the block scheduled was admitted against the
active set that it found. -/
def AdmissionSets.next (sets : AdmissionSets) (before after : LedgerState) : AdmissionSets :=
  fun epoch =>
    if validatorSetUpdateCommitment before epoch = none ∧
        (validatorSetUpdateCommitment after epoch).isSome then some before.activeValidatorSet
    else sets epoch

/-- An epoch that a block may open: its schedule, if it is still to be activated, was there
before the block, and the active set agrees with the one it was admitted against. -/
def MayOpen (sets : AdmissionSets) (before L : LedgerState) (epoch : Int) : Prop :=
  ∀ r, epoch ∉ L.activatedValidatorSetEpochs → validatorSetUpdateCommitment L epoch = some r →
    (validatorSetUpdateCommitment before epoch).isSome ∧
      ∀ active c, sets epoch = some active → readSchedule r.toEnvelope = .ok (epoch, c) →
        c.Agrees active L.activeValidatorSet

def MayOpenAll (sets : AdmissionSets) (before : LedgerState) (ids : List String) :
    LedgerState → List Int → Prop
  | _, [] => True
  | L, epoch :: rest => MayOpen sets before L epoch ∧
      ∀ updates L', activateValidatorSetUpdate epoch ids L = .ok (updates, L') →
        MayOpenAll sets before ids L' rest

section Runs

variable [Runtime] [LedgerRules]

/-- A block whose transactions run without an uncaught exception, and whose transitions open
epochs that may be opened. -/
def OrderlyBlock (config : ApplicationConfig) (sets : AdmissionSets) (app : Application)
    (block : Block) : Prop :=
  ∃ results executed,
    executeAll config (blockContext app block.txs) app block.txs = .ok (results, executed) ∧
    MayOpenAll sets app.ledger (finalizedOperationIds app.ledger) executed.ledger
      (openedEpochs block.txs results)

def Orderly (config : ApplicationConfig) : AdmissionSets → Application → List Block → Prop
  | _, _, [] => True
  | sets, app, block :: rest => OrderlyBlock config sets app block ∧
      ∀ result results app', finalizeBlock config app block = .ok (.finalized result results app') →
        Orderly config (sets.next app.ledger app'.ledger) app' rest

/-- Every block of a run is finalized, with the code `ok`. -/
inductive Finalizes (config : ApplicationConfig) : Application → List Block → Application → Prop
  | nil (app : Application) : Finalizes config app [] app
  | cons {app app₁ app₂ : Application} {block : Block} {rest : List Block} {result : ABCIResult}
      {results : List ABCIResult}
      (finalized : finalizeBlock config app block = .ok (.finalized result results app₁))
      (code : result.code = .ok) (run : Finalizes config app₁ rest app₂) :
      Finalizes config app (block :: rest) app₂

end Runs

/-! ## The invariant -/

/-- A ledger whose schedules were all valid on their admission sets. -/
structure Tracked (sets : AdmissionSets) (L : LedgerState) : Prop where
  registered : Registered L
  scheduled : ∀ {epoch r}, validatorSetUpdateCommitment L epoch = some r →
    ∃ active c, sets epoch = some active ∧ ScheduledOn r epoch c active

variable {L L' before : LedgerState} {epoch : Int} {sets : AdmissionSets}
  {updates : List ValidatorUpdate} {epochs : List Int}

/-- A committed schedule is one of the records. -/
theorem mem_of_commitment {r : LedgerOperationRecord}
    (h : validatorSetUpdateCommitment L epoch = some r) : r ∈ L.operations :=
  List.mem_reverse.mp (List.mem_of_find?_eq_some h)

/-- Growing keeps the invariant, with the sets of the new schedules. -/
theorem Tracked.grows {L'' : LedgerState} (h : Tracked sets L) (grows : Grows L L')
    (same : L''.operations = L'.operations)
    (registry : L''.finalizedOperationRegistry = L'.finalizedOperationRegistry) :
    Tracked (sets.next L L'') L'' := by
  have hcommitment : ∀ epoch, validatorSetUpdateCommitment L'' epoch =
      validatorSetUpdateCommitment L' epoch := validatorSetUpdateCommitment_congr same
  constructor
  · intro r hr
    rw [same] at hr
    rw [registry]
    exact grows.registered h.registered r hr
  · intro epoch r hr
    rw [AdmissionSets.next]
    cases hbefore : validatorSetUpdateCommitment L epoch with
    | none =>
      rw [hcommitment] at hr
      obtain ⟨c, hscheduled⟩ := grows.fresh hbefore hr
      rw [if_pos ⟨rfl, by rw [hcommitment, hr]; rfl⟩]
      exact ⟨_, c, rfl, hscheduled⟩
    | some r₀ =>
      rw [if_neg (by simp)]
      have hsame := grows.kept hbefore
      rw [hcommitment, hsame] at hr
      cases hr
      exact h.scheduled hbefore

/-! ## Activations -/

/-- What a block needs to know about the schedules that it may open. -/
structure Known (sets : AdmissionSets) (before L : LedgerState) : Prop where
  registered : Registered before
  scheduled : ∀ {epoch r}, validatorSetUpdateCommitment L epoch = some r →
    (validatorSetUpdateCommitment before epoch).isSome →
    r ∈ before.operations ∧ ∃ active c, sets epoch = some active ∧ ScheduledOn r epoch c active

theorem Tracked.known (h : Tracked sets before) (grows : Grows before L) : Known sets before L where
  registered := h.registered
  scheduled {epoch r} hr hbefore := by
    obtain ⟨r₀, hr₀⟩ := Option.isSome_iff_exists.mp hbefore
    have hsame := grows.kept hr₀
    rw [hr] at hsame
    cases hsame
    exact ⟨mem_of_commitment hr₀, h.scheduled hr₀⟩

theorem Known.congr (h : Known sets before L) (same : L'.operations = L.operations) :
    Known sets before L' where
  registered := h.registered
  scheduled hr := by
    rw [validatorSetUpdateCommitment_congr same] at hr
    exact h.scheduled hr

/-- An epoch that may be opened is opened. -/
theorem Known.activate (h : Known sets before L) (positive : 0 ≤ epoch)
    (may : MayOpen sets before L epoch) :
    ∃ updates L', activateValidatorSetUpdate epoch (finalizedOperationIds before) L =
      .ok (updates, L') := by
  by_cases hdone : epoch ∈ L.activatedValidatorSetEpochs
  · exact ⟨[], L, activateValidatorSetUpdate_eq_ok.mpr ⟨positive, .inl ⟨.inl hdone, rfl, rfl⟩⟩⟩
  · cases hcommitted : validatorSetUpdateCommitment L epoch with
    | none =>
      exact ⟨[], L, activateValidatorSetUpdate_eq_ok.mpr
        ⟨positive, .inl ⟨.inr hcommitted, rfl, rfl⟩⟩⟩
    | some r =>
      obtain ⟨hbefore, hagrees⟩ := may r hdone hcommitted
      obtain ⟨hmem, active, c, hset, hscheduled⟩ := h.scheduled hcommitted hbefore
      have hmet := hscheduled.of_agrees (hagrees active c hset hscheduled.read)
      exact ⟨_, _, hmet.activate hcommitted hdone (Dict.mem_keys.mpr (h.registered r hmem))⟩

/-- Activations keep the records and the registry. -/
theorem kept_of_activate {finalized : List String}
    (h : activateValidatorSetUpdate epoch finalized L = .ok (updates, L')) :
    L'.operations = L.operations ∧
      L'.finalizedOperationRegistry = L.finalizedOperationRegistry := by
  obtain ⟨-, ⟨-, -, rfl⟩ | ⟨_, _, c, -, -, -, -, -, rfl⟩⟩ := activateValidatorSetUpdate_eq_ok.mp h
  · exact ⟨rfl, rfl⟩
  · exact ⟨rfl, rfl⟩

theorem kept_of_activateEpochs {ids : List String}
    (h : activateEpochs ids L epochs = .ok (updates, L')) :
    L'.operations = L.operations ∧
      L'.finalizedOperationRegistry = L.finalizedOperationRegistry := by
  induction epochs generalizing L updates with
  | nil =>
    cases h
    exact ⟨rfl, rfl⟩
  | cons epoch epochs ih =>
    simp only [activateEpochs, checks_eq_ok, Prod.exists, Prod.mk.injEq] at h
    obtain ⟨first, L₁, hfirst, more, L₂, hmore, -, rfl⟩ := h
    obtain ⟨hops₁, hregistry₁⟩ := kept_of_activate hfirst
    obtain ⟨hops₂, hregistry₂⟩ := ih hmore
    exact ⟨hops₂.trans hops₁, hregistry₂.trans hregistry₁⟩

/-- Epochs that may be opened one after the other are opened. -/
theorem Known.activateEpochs (h : Known sets before L) (positive : ∀ epoch ∈ epochs, 0 ≤ epoch)
    (may : MayOpenAll sets before (finalizedOperationIds before) L epochs) :
    ∃ updates L', activateEpochs (finalizedOperationIds before) L epochs = .ok (updates, L') ∧
      L'.operations = L.operations ∧
      L'.finalizedOperationRegistry = L.finalizedOperationRegistry := by
  induction epochs generalizing L with
  | nil => exact ⟨[], L, rfl, rfl, rfl⟩
  | cons epoch epochs ih =>
    obtain ⟨hfirst, hrest⟩ := may
    obtain ⟨updates, L₁, hactivate⟩ := h.activate (positive epoch List.mem_cons_self) hfirst
    obtain ⟨hops, hregistry⟩ := kept_of_activate hactivate
    obtain ⟨more, L₂, hmore, hops₂, hregistry₂⟩ := ih (h.congr hops)
      (fun e he => positive e (List.mem_cons_of_mem _ he)) (hrest updates L₁ hactivate)
    refine ⟨updates ++ more, L₂, ?_, hops₂.trans hops, hregistry₂.trans hregistry⟩
    simp only [Consensus.activateEpochs, checks_eq_ok, Prod.exists]
    exact ⟨updates, L₁, hactivate, more, L₂, hmore, rfl⟩

section Runs

variable [Runtime] [LedgerRules]

/-- An orderly block is finalized, and keeps the invariant. -/
theorem OrderlyBlock.finalizes {config : ApplicationConfig} {sets : AdmissionSets}
    {app : Application} {block : Block} (tracked : Tracked sets app.ledger)
    (orderly : OrderlyBlock config sets app block) :
    ∃ result results app', finalizeBlock config app block = .ok (.finalized result results app') ∧
      result.code = .ok ∧ Tracked (sets.next app.ledger app'.ledger) app'.ledger := by
  obtain ⟨results, executed, hexecuted, hmay⟩ := orderly
  have hgrows := grows_executeAll hexecuted
  obtain ⟨updates, L', hactivate, hops, hregistry⟩ := (tracked.known hgrows).activateEpochs
    (fun epoch he => nonneg_of_openedEpochs hexecuted he) hmay
  exact ⟨blockResult block results updates, results, executed.sealed block L',
    finalizeBlock_eq_finalized.mpr ⟨executed, updates, L', hexecuted, hactivate, rfl, rfl⟩, rfl,
    tracked.grows hgrows hops hregistry⟩

end Runs

/-! ## A schedule and the transition that opens it -/

def firstTransition : Envelope where
  operationType := "EPOCH_TRANSITION"
  originType := .protocol
  createdAt := "2026-01-01T00:00:00Z"
  payload :=
    [("closing_epoch", .int 0), ("opening_epoch", .int 1), ("closing_state_root",
      .str "sha256:state"), ("epoch_task_result_root", .str "sha256:tasks"),
      ("eligibility_snapshot_root", .str "sha256:eligibility"), ("reward_calculation_root",
      .str "sha256:rewards"), ("next_protocol_parameters_hash", .str "sha256:parameters"),
      ("pool_budgets", .dict [])]
  operationId := "e544f631e3fbe2e267590b1af641bcde6548b045ec97429bf06d36ba241d5e62"

/-- The payload of the schedule is as long as its set hash makes it. -/
theorem dumpsLength_schedule (setHash operationId : String) :
    dumpsLength (.dict
      (scheduleEnvelope 1 [.dict firstValidator] [] setHash operationId).payload) =
        2 + joinedLength [21, 223, 24, 26, 22 + (quoteText setHash).length, 49] := by
  rfl

theorem length_identitiesHash (vs : List ValidatorIdentity) : (identitiesHash vs).length = 71 := by
  rw [identitiesHash, length_canonicalHash]

theorem dumpsLength_firstSchedule : dumpsLength (.dict firstSchedule.payload) ≤ 65536 := by
  have hquoted := length_quoteText_le (identitiesHash [firstIdentity])
  rw [length_identitiesHash] at hquoted
  have hlength := dumpsLength_schedule (identitiesHash [firstIdentity]) firstSchedule.operationId
  simp only [joinedLength, List.sum_cons, List.sum_nil, List.length_cons, List.length_nil]
    at hlength
  generalize (quoteText (identitiesHash [firstIdentity])).length = n at hlength hquoted
  calc dumpsLength (.dict firstSchedule.payload) = _ := hlength
    _ ≤ 65536 := by omega

def executedResult (env : Envelope) : ABCIResult :=
  ⟨.ok, "", "", [("operation_id", env.operationId), ("type", env.operationType)], []⟩

section Sample

variable [Runtime]

theorem admitted_firstTransition (s : AdmissionState)
    (fresh : s.finalizedIds.contains firstTransition.operationId = false) :
    s.validate defaultConfig.admission firstTransition = .ok none :=
  AdmissionState.validate_of_passes fresh rfl rfl rfl

variable [LedgerRules]

variable {block : BlockContext} {app : Application} {ids : List String}

omit [Runtime] in
/-- The transition is valid while no epoch was closed and no schedule was committed. -/
theorem validate_firstTransition {L : LedgerState}
    (unclosed : L.operations.any (fun operation => operation.operationType == "EPOCH_TRANSITION" &&
      valueEqInt (PyValue.get operation.payload "closing_epoch") 0) = false)
    (uncommitted : epochScheduleCommitted L = false) :
    validateEpochTransition firstTransition (some ids) L = .ok (0, 1) := by
  simp only [validateEpochTransition, bind_eq_ok, require_eq_ok, requireInt_eq_ok,
    exists_and_left, exists_const]
  refine ⟨rfl, rfl, (), rfl, 0, ⟨rfl, by decide⟩, 1, ⟨rfl, by decide⟩, rfl, rfl, ?_⟩
  have hunscheduled : ¬ (PyValue.get firstTransition.payload "epoch_schedule_commit_operation_id" ≠
      .none ∨ epochScheduleCommitted L = true) := by
    rw [uncommitted]
    rintro (h | h)
    · exact h rfl
    · cases h
  rw [if_neg (by decide), if_neg hunscheduled, unclosed]
  rfl

theorem valid_firstTransition (unclosed : app.ledger.operations.any (fun operation =>
      operation.operationType == "EPOCH_TRANSITION" &&
        valueEqInt (PyValue.get operation.payload "closing_epoch") 0) = false)
    (uncommitted : epochScheduleCommitted app.ledger = false)
    (unscheduled : app.epochSchedule = none) :
    specialOperationError defaultConfig app firstTransition ids = .ok none := by
  show ledgerComplaint app firstTransition (.epochTransition firstTransition (some ids)) = .ok none
  rw [ledgerComplaint, validateOperation, validate_firstTransition unclosed uncommitted]
  show lateInitialScheduleActivationError app = .ok none
  rw [lateInitialScheduleActivationError, unscheduled]

/-- The transition runs while no epoch was closed and no schedule was committed. -/
theorem executeOne_firstTransition (admits : Admits app.ledger firstTransition none)
    (unclosed : app.ledger.operations.any (fun operation =>
      operation.operationType == "EPOCH_TRANSITION" &&
        valueEqInt (PyValue.get operation.payload "closing_epoch") 0) = false)
    (uncommitted : epochScheduleCommitted app.ledger = false)
    (fresh : app.admission.finalizedIds.contains firstTransition.operationId = false)
    (unscheduled : app.epochSchedule = none) (placed : block.containsScheduleCommit = false) :
    executeOne defaultConfig block app (.ok firstTransition) =
      .ok (executedResult firstTransition, app.noted firstTransition
        (app.ledger.admitted firstTransition ["EpochTransition"] none)) := by
  have happly : applyEpochTransition firstTransition (some block.finalizedIds) app.ledger =
      .ok (admittedRecord app.ledger firstTransition ["EpochTransition"] none)
        (app.ledger.admitted firstTransition ["EpochTransition"] none) :=
    applyConsensus_eq_ok.mpr ⟨_, _, validate_firstTransition unclosed uncommitted,
      admits.admitEnvelope _, rfl⟩
  refine executeOne_of_applied (admitted_firstTransition _ fresh) rfl ?_
    (valid_firstTransition unclosed uncommitted unscheduled) rfl happly
  rw [BlockContext.sameBlockComplaint, placed]
  rfl

end Sample

section Sample

variable [Runtime] [LedgerRules]

end Sample

end AidnSpec.Consensus
