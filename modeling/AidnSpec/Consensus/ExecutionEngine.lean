import AidnSpec.Consensus.BlockLedger
import Mathlib.Data.List.Infix

/-!
# The execution engine

`consensus/execution.py`: `ExecutionEngine.execute_block` without custom handlers. The engine
validates a transaction, reads what it reports of the payload, and only then applies the operation;
whatever an application raises is fatal for the whole block. The reports (`StateChange`, the emitted
events) stay in the engine and are left out, but not the reads that make them: a member that is
missing is an exception like any other.
-/

namespace AidnSpec.Consensus

open Base Ledger

/-! ## Reads of the payload -/

/-- `value[key]` with a text as the key. -/
def subscript : PyValue → String → Except PyError PyValue
  | .dict members, key =>
    match members.lookup key with
    | some value => .ok value
    | none => .error ⟨.key, "'" ++ key ++ "'"⟩
  | .list _, _ => raiseType "list indices must be integers or slices, not str"
  | .str _, _ => raiseType "string indices must be integers, not 'str'"
  | _, _ => raiseType "object is not subscriptable"

/-- A member of the payload that the engine reads, by its path. -/
inductive MemberRead where
  /-- `payload[k]…` or `str(payload[k]…)`. -/
  | value (path : List String)
  /-- `int(payload[k]…)`. -/
  | integer (path : List String)

def MemberRead.run (payload : Fields) : MemberRead → Except PyError Unit
  | value path => outcome (path.foldlM subscript (.dict payload))
  | integer path => outcome ((path.foldlM subscript (.dict payload)).bind PyValue.toInt)

def paymentReads : List MemberRead :=
  [.value ["reward_id"], .value ["contributor_id"], .value ["recipient_wallet"],
    .value ["payment_stage"], .integer ["amount_q_atoms"]]

/-- What the engine reads of a payload that passed its validation, by operation type. -/
def changeReads : List (String × List MemberRead) :=
  [("WALLET_TRANSFER", [.value ["recipient_wallet"], .integer ["amount"]]), ("OPERATOR_WALLET_BIND",
    [.value ["node_id"], .value ["wallet_id"], .value ["public_key"]]), ("ENDPOINT_PUBLISH",
    [.value ["publication", "publication_id"], .value ["publication", "endpoint_id"],
    .value ["publication", "configuration_hash"], .value ["publication", "sequence"]]),
    ("SESSION_OPEN", [.value ["session_id"], .value ["funding_lock_operation_id"],
    .value ["funding_state_reference"]]), ("SESSION_ACCEPT", [.value ["session_id"],
    .value ["session_open_operation_id"], .value ["accepted_by"]]), ("REWARD_MINT",
    [.value ["recipient_wallet"], .integer ["amount"]]), ("DEVELOPMENT_REWARD_CALCULATE",
    [.value ["commitment_id"], .integer ["epoch"], .value ["calculation_root"]]),
    ("DEVELOPMENT_REWARD_ACTIVATION_SCOPE_EXTEND", [.value ["extension_id"],
    .value ["base_activation_id"], .value ["scope_extension", "additional_operation_types"],
    .integer ["scope_extension", "effective_epoch"]]), ("DEVELOPMENT_POOL_ALLOCATE",
    [.value ["pool_allocation", "allocation_id"], .value ["pool_allocation", "pool_id"],
    .integer ["pool_allocation", "epoch"], .integer ["pool_allocation", "allocated_q_atoms"],
    .integer ["pool_allocation", "remaining_q_atoms"]]), ("DEVELOPMENT_REWARD_RESERVE",
    [.value ["reward_reserve", "reserve_id"], .value ["reward_reserve", "reward_id"],
    .value ["reward_reserve", "pool_allocation_id"], .integer ["reward_reserve",
    "reserved_q_atoms"], .integer ["reward_reserve", "remaining_q_atoms"]]),
    ("DEVELOPMENT_REWARD_PAY_IMMEDIATE", paymentReads), ("DEVELOPMENT_REWARD_PAY_MATURITY",
    paymentReads), ("DEVELOPMENT_REWARD_MARK_UNCLAIMED", [.value ["reward_id"],
    .value ["contributor_id"], .value ["payment_stage"], .integer ["amount_q_atoms"]]),
    ("DEVELOPMENT_REWARD_CLAIM", [.value ["unclaimed_id"], .value ["contributor_id"],
    .value ["recipient_wallet"], .value ["payment_stage"], .integer ["amount_q_atoms"],
    .integer ["claim_epoch"]]), ("DEVELOPMENT_REWARD_EXPIRE_UNCLAIMED", [.value ["unclaimed_id"],
    .value ["reward_id"], .value ["payment_stage"], .integer ["amount_q_atoms"],
    .integer ["expiry_epoch"]]), ("DEVELOPMENT_REWARD_FINALIZE_COMMITMENT",
    [.value ["calculation_root"], .integer ["finalization_epoch"], .value ["source_operation_root"],
    .value ["reserve_root"], .value ["payment_root"], .value ["unclaimed_root"],
    .value ["claim_root"], .value ["expiry_root"]]), ("EPOCH_TRANSITION", [.value ["closing_epoch"],
    .integer ["opening_epoch"], .value ["reward_calculation_root"]]),
    ("SERVICE_VERIFICATION_COMMIT", [.value ["verification_report_id"], .value ["service_id"],
    .integer ["verification_epoch"]]), ("REPUTATION_PROFILE_UPDATE", [.value ["object_id"],
    .value ["new_profile_hash"], .integer ["effective_epoch"]]), ("SNAPSHOT_COMMIT",
    [.value ["snapshot_id"], .integer ["block_height"], .value ["application_state_hash"]]),
    ("SESSION_FAILURE_EVIDENCE", [.value ["session_id"], .value ["failure_class"],
    .value ["failure_evidence_root"]]), ("CONSENSUS_VALIDATOR_SET_UPDATE",
    [.value ["activation_epoch"], .integer ["activation_epoch"], .value ["validator_set_hash"]]),
    ("TREASURY_MANIFEST_BIND", [.value ["treasury_manifest", "treasury_id"],
    .value ["treasury_manifest", "manifest_hash"]]), ("TREASURY_FUND",
    [.value ["treasury_wallet_id"], .integer ["amount"]]), ("PENALTY_APPLY",
    [.value ["target_wallet_or_lock"], .integer ["amount"]]), ("SESSION_ESCROW_LOCK",
    [.value ["session_id"], .integer ["total_locked_amount_q_atoms"],
    .value ["funding_state_hash"]]), ("SESSION_ESCROW_EXTEND", [.value ["session_id"],
    .value ["funding", "funding_state_hash"], .integer ["added_endpoint_payment_reserve_q_atoms"],
    .integer ["added_network_fee_reserve_q_atoms"]]), ("SESSION_ESCROW_RELEASE",
    [.value ["session_id"], .value ["funding", "funding_state_hash"],
    .integer ["release_payment_q_atoms"], .integer ["release_fee_q_atoms"]]),
    ("SESSION_CHECKPOINT_COMMIT", [.value ["checkpoint", "checkpoint_id"], .value ["session_id"],
    .integer ["checkpoint", "checkpoint_sequence"], .value ["checkpoint", "checkpoint_hash"]]),
    ("SESSION_SETTLEMENT_READY_COMMIT", [.value ["ready", "settlement_input_root"],
    .value ["session_id"], .value ["ready", "commitment_hash"]]), ("SESSION_SETTLEMENT_PROPOSE",
    [.value ["proposal", "settlement_id"], .value ["proposal", "settlement_input_root"],
    .value ["funding_state_reference"]]), ("SESSION_SETTLEMENT_ACCEPT", [.value ["acceptance",
    "settlement_id"], .value ["acceptance", "acceptance_hash"]]), ("SESSION_SETTLEMENT_DISPUTE",
    [.value ["dispute", "dispute_id"], .value ["dispute", "settlement_id"], .integer ["dispute",
    "disputed_amount_q_atoms"], .value ["dispute", "dispute_hash"]]),
    ("SESSION_SETTLEMENT_PARTIAL_FINALIZE", [.value ["transition", "session_id"],
    .value ["transition", "transition_hash"], .integer ["transition", "credit_endpoint_q_atoms"],
    .integer ["transition", "credit_consumer_q_atoms"], .integer ["transition",
    "retain_dispute_reserve_q_atoms"]]), ("SESSION_SETTLEMENT_CORRECT", [.value ["correction",
    "correction_id"], .value ["correction", "settlement_id"], .value ["correction",
    "correction_hash"], .integer ["correction", "endpoint_payment_delta_q_atoms"],
    .integer ["correction", "consumer_refund_delta_q_atoms"]]), ("SESSION_SETTLEMENT_FINALIZE",
    [.value ["transition", "session_id"], .value ["transition", "transition_hash"],
    .integer ["transition", "credit_endpoint_q_atoms"], .integer ["transition",
    "credit_consumer_q_atoms"]]), ("SESSION_FORCE_SETTLE", [.value ["session_id"],
    .value ["failure_class"], .integer ["transition", "credit_consumer_q_atoms"]]), ("STAKE_LOCK",
    [.value ["stake_id"], .integer ["amount"]]), ("UNSTAKE_REQUEST", [.value ["stake_id"],
    .integer ["request_epoch"]]), ("STAKE_RELEASE", [.value ["stake_id"],
    .integer ["current_epoch"]]), ("PARTICIPANT_SUSPEND", [.value ["target_id"],
    .integer ["minimum_recovery_epoch"]]), ("PARTICIPANT_REINSTATE", [.value ["target_id"],
    .integer ["current_epoch"]])]

/-- The reads that describe the change of a payload of an operation type. -/
def readChange (operationType : String) (payload : Fields) : Except PyError Unit :=
  ((changeReads.lookup operationType).getD []).forM (MemberRead.run payload)

namespace ExecutionEngine

/-! ## Gas -/

def defaultGasCosts : List (String × Nat) :=
  [("WALLET_TRANSFER", 200), ("OPERATOR_WALLET_BIND", 150), ("TESTNET_PARTICIPATION_HEARTBEAT", 80),
    ("SESSION_OPEN", 500), ("DEPOSIT_LOCK", 300), ("SESSION_ESCROW_LOCK", 300),
    ("SESSION_ESCROW_EXTEND", 250), ("SESSION_ESCROW_RELEASE", 250), ("SESSION_CHECKPOINT_COMMIT",
    200), ("SESSION_SETTLEMENT_READY_COMMIT", 175), ("SESSION_SETTLEMENT_PROPOSE", 250),
    ("SESSION_SETTLEMENT_ACCEPT", 200), ("SESSION_SETTLEMENT_DISPUTE", 250),
    ("SESSION_SETTLEMENT_PARTIAL_FINALIZE", 400), ("SESSION_SETTLEMENT_CORRECT", 300),
    ("SESSION_SETTLEMENT_FINALIZE", 400), ("SESSION_FORCE_SETTLE", 400), ("SESSION_SETTLE", 400),
    ("ENDPOINT_PUBLISH", 250), ("VALIDATION_REQUEST", 600), ("VALIDATION_REPORT", 350),
    ("VALIDATOR_STAKE", 450), ("VALIDATOR_UNSTAKE", 300), ("REGISTRY_UPSERT", 200),
    ("SNAPSHOT_COMMIT", 100), ("SESSION_FAILURE_EVIDENCE", 150), ("CONSENSUS_VALIDATOR_SET_UPDATE",
    200), ("EPOCH_TASK", 150), ("EPOCH_TRANSITION", 200), ("EPOCH_SCHEDULE_COMMIT", 150),
    ("EPOCH_SCHEDULE_REBASE", 150), ("EPOCH_RESULT_MANIFEST_COMMIT", 175),
    ("TREASURY_MANIFEST_BIND", 250), ("TREASURY_FUND", 250), ("REWARD_MINT", 250),
    ("SERVICE_VERIFICATION_COMMIT", 200), ("REPUTATION_PROFILE_UPDATE", 250), ("PENALTY_APPLY",
    250), ("STAKE_LOCK", 300), ("UNSTAKE_REQUEST", 200), ("STAKE_RELEASE", 200),
    ("PARTICIPANT_SUSPEND", 200), ("PARTICIPANT_REINSTATE", 200)]

/-- `_get_gas_cost`. -/
def gasCost (operationType : String) : Nat := (defaultGasCosts.lookup operationType).getD 100

def blockGasComplaint : String := "block gas limit exceeded"

def operationGasComplaint : String := "operation gas limit exceeded"

/-! ## One transaction -/

/-- The arguments of the engine that it never changes. -/
structure Config where
  admission : AdmissionConfig
  gasLimitPerBlock : Nat := 10000000
  gasLimitPerOperation : Nat := 1000000
  strictOperationCoverage : Bool := false
  /-- The complaint of the configured policy about an epoch operation. -/
  protocolAuthorityPolicy : Option (Envelope → Option String) := none

/-- What the engine changes while a block runs. -/
structure State where
  ledger : LedgerState
  admission : AdmissionState := {}
  seenOperationIds : List String := []
  gasUsed : Nat := 0

/-- `ExecutionEvent`, without its reports. -/
structure Event where
  operationId : String := ""
  operationType : String
  success : Bool := false
  envelope : Option Envelope := none
  error : Option String := none
  gasUsed : Nat := 0
  validatorUpdates : List ValidatorUpdate := []

/-- The operation of an envelope, if its type has a branch. -/
def operationOf (strict : Bool) (env : Envelope) (ids : List String) : Option ConsensusOp :=
  branch ((if strict then strictlyTyped else []) ++ unvalidatedBranches ++ commonBranches) env ids

/-- An event of a transaction that is refused before its gas is counted. -/
def refused (env : Envelope) (complaint : String) : Event where
  operationId := env.operationId
  operationType := env.operationType
  error := some complaint

section Execute

variable [Runtime] [LedgerRules]

/-- The `try` block of `_execute_one`: the validation and the reads of the report. -/
def examine (strict : Bool) (env : Envelope) (ids : List String) (L : LedgerState) :
    Except PyError Unit :=
  match operationOf strict env ids with
  | some op => do
    validateOperation op L
    readChange env.operationType env.payload
  | none => .ok ()

/-- `_execute_one` after the admission check: the event, and the gas that the transaction
used. -/
def executeAdmitted (config : Config) (block : BlockContext) (s : State) (env : Envelope) :
    Event × Nat :=
  if s.seenOperationIds.contains env.operationId then
    (refused env "admission: duplicate_operation_id", 0)
  else
    match (((if config.strictOperationCoverage then
        strictOperationCoverageError env.operationType else none).or
      (strictOperationVersionError env.operationType env.operationVersion)).or
      (protocolAuthorityError config.protocolAuthorityPolicy env)).or
      (block.sameBlockComplaint env) with
    | some complaint => ({ refused env complaint with envelope := some env }, 0)
    | none =>
      let cost := gasCost env.operationType
      if config.gasLimitPerOperation < cost then (refused env operationGasComplaint, 0)
      else if config.gasLimitPerBlock < s.gasUsed + cost then
        (refused env blockGasComplaint, 0)
      else
        match examine config.strictOperationCoverage env block.finalizedIds s.ledger with
        | .ok () =>
          ({ operationId := env.operationId
             operationType := env.operationType
             success := true
             envelope := some env
             gasUsed := cost }, cost)
        | .error e =>
          ({ refused env e.message with envelope := some env, gasUsed := cost }, cost)

/-- `_execute_one`; an exception of the admission check is not caught. -/
def executeOne (config : Config) (block : BlockContext) (s : State) (tx : Transaction) :
    Except PyError (Event × Nat) :=
  match tx with
  | .error complaint =>
    .ok ({ operationType := "PARSE_ERROR", error := some ("parse: " ++ complaint) }, 0)
  | .ok env => do
    match ← s.admission.validate config.admission env with
    | some reason => return (refused env ("admission: " ++ reason), 0)
    | none => return executeAdmitted config block s env

/-- `apply_consensus_*` of the branch, or `record_admitted_envelope`. -/
def applyEnvelope (strict : Bool) (env : Envelope) (ids : List String) :
    LedgerM LedgerOperationRecord :=
  match operationOf strict env ids with
  | some op => op.apply
  | none => recordAdmittedEnvelope env ["operation.recorded:" ++ env.operationId]

/-- What the engine keeps of an applied operation. -/
def State.noted (s : State) (env : Envelope) (L : LedgerState) : State :=
  { s with
    ledger := L
    admission := s.admission.noteApplied env
    seenOperationIds := env.operationId :: s.seenOperationIds }

/-- Apply a transaction that was examined successfully; an exception is fatal. -/
def commitOne (config : Config) (ids : List String) (s : State) (event : Event) :
    Event × State :=
  if event.success then
    match event.envelope with
    | none =>
      ({ event with
        success := false
        error := some "fatal: successful execution has no envelope" }, s)
    | some env =>
      match applyEnvelope config.strictOperationCoverage env ids s.ledger with
      | .ok _ L => (event, s.noted env L)
      | .error e L =>
        ({ event with
          success := false
          error := some ("fatal: ledger commit failed: " ++ e.message) },
          { s with ledger := L })
  else (event, s)

/-! ## Blocks -/

/-- `"fatal" in error.lower()`. -/
def isFatal (error : String) : Bool :=
  decide ("fatal".toList <:+: error.toList.map Char.toLower)

/-- The loop over the transactions; it ends early with a fatal error, in the state that the
rollback then finds. -/
def executeAll (config : Config) (block : BlockContext) (s : State) :
    List Transaction → Except PyError (List Event × State × Option String)
  | [] => .ok ([], s, none)
  | tx :: rest => do
    if config.gasLimitPerBlock ≤ s.gasUsed then
      let (events, s', fatal) ← executeAll config block s rest
      return ({ operationType := "GAS_EXHAUSTED", error := some blockGasComplaint } :: events,
        s', fatal)
    else
      let (examined, cost) ← executeOne config block s tx
      let (event, s₁) :=
        commitOne config block.finalizedIds { s with gasUsed := s.gasUsed + cost } examined
      match event.error.filter fun error => !event.success && isFatal error with
      | some error => return ([], s₁, some error)
      | none =>
        let (events, s', fatal) ← executeAll config block s₁ rest
        return (event :: events, s', fatal)

end Execute

/-- The epoch that an executed transition opens. -/
def Event.opens (event : Event) : Option Int :=
  match event.envelope with
  | some env =>
    if event.success = true ∧ env.operationType = "EPOCH_TRANSITION" then
      some (env.payload.int "opening_epoch")
    else none
  | none => none

/-- The loop over the events: each transition activates the schedule of its epoch. -/
def activateEvents (ids : List String) (L : LedgerState) :
    List Event → Except PyError (List Event × LedgerState)
  | [] => .ok ([], L)
  | event :: rest =>
    match event.opens with
    | none => do
      let (events, L₁) ← activateEvents ids L rest
      return (event :: events, L₁)
    | some epoch => do
      let (updates, L₁) ← activateValidatorSetUpdate epoch ids L
      let (events, L₂) ← activateEvents ids L₁ rest
      return ({ event with validatorUpdates := event.validatorUpdates ++ updates } :: events, L₂)

/-- `compute_execution_state_root`. -/
@[irreducible] def computeStateRoot (L : LedgerState) : String :=
  hexEncode false (sha256 (asciiBytes (canonicalText (.dict
    ([("operations", .int L.operations.length),
      ("wallets", .dict (L.walletNextSequences.entries.map fun e => (e.1, .int e.2)))] ++
      if L.activeValidatorSet.entries.isEmpty && L.activeValidatorSetEpoch.isNone &&
          L.activatedValidatorSetEpochs.isEmpty then []
        else [("consensus_state", consensusState L)])))))

/-- `BlockExecutionResult`, without its reports. -/
structure BlockResult where
  blockHeight : Nat
  blockHash : Bytes
  operationsExecuted : Nat
  operationsRejected : Nat
  executionEvents : List Event
  stateRoot : String
  error : Option String
  validatorUpdates : List ValidatorUpdate

/-- The result of a block whose execution went through. -/
def completedResult (block : Block) (events : List Event) (L : LedgerState) : BlockResult where
  blockHeight := block.height
  blockHash := block.hash
  operationsExecuted := events.countP (·.success)
  operationsRejected := events.countP (!·.success)
  executionEvents := events
  stateRoot := computeStateRoot L
  error := none
  validatorUpdates := events.flatMap (·.validatorUpdates)

def fatalResult (block : Block) (error : String) : BlockResult where
  blockHeight := block.height
  blockHash := block.hash
  operationsExecuted := 0
  operationsRejected := block.txs.length
  executionEvents := []
  stateRoot := ""
  error := some error
  validatorUpdates := []

/-- How a block ends. -/
inductive BlockOutcome where
  /-- The block went through: its result and the state it leaves. -/
  | completed (result : BlockResult) (s : State)
  /-- A fatal error: the result, and the state that the rollback finds. -/
  | fatal (result : BlockResult) (s : State)

def contextOf (L : LedgerState) (txs : List Transaction) : BlockContext where
  finalizedIds := finalizedOperationIds L
  preexistingScheduleCommit := epochScheduleCommitted L
  containsScheduleCommit := containsScheduleCommit txs

/-- `execute_block` up to the rollback of a fatal error; an exception that the call does not
catch is an error. -/
def executeBlock [Runtime] [LedgerRules] (config : Config) (L : LedgerState)
    (admission : AdmissionState) (block : Block) : Except PyError BlockOutcome := do
  let context := contextOf L block.txs
  match ← executeAll config context { ledger := L, admission := admission } block.txs with
  | (_, s, some error) => .ok (.fatal (fatalResult block error) s)
  | (events, s, none) =>
    match activateEvents context.finalizedIds s.ledger events with
    | .ok (activated, L') =>
      .ok (.completed (completedResult block activated L') { s with ledger := L' })
    | .error e =>
      if e.kind = .value ∨ e.kind = .type ∨ e.kind = .key then
        .ok (.fatal (fatalResult block ("fatal: validator set activation failed: " ++ e.message)) s)
      else .error e

/-! ## One turn of the loop -/

/-- An envelope that reaches its validation: it is admitted, its type and its version are
supported, and it does not depend on its own block. -/
structure Examined [Runtime] (config : AdmissionConfig) (block : BlockContext)
    (admission : AdmissionState) (env : Envelope) : Prop where
  admitted : admission.validate config env = .ok none
  covered : strictOperationCoverageError env.operationType = none
  versioned : strictOperationVersionError env.operationType env.operationVersion = none
  placed : block.sameBlockComplaint env = none

/-- An engine that covers operation types strictly and has no authority policy. -/
structure Config.Strict (config : Config) : Prop where
  covers : config.strictOperationCoverage = true
  unauthorized : config.protocolAuthorityPolicy = none

/-- Gas was not the reason of a refusal. -/
def Event.Fuelled (event : Event) : Prop :=
  event.error ≠ some blockGasComplaint ∧ event.error ≠ some operationGasComplaint

/-- What the engine has seen in this block is in the replay cache. -/
def State.Cached (s : State) : Prop :=
  ∀ id ∈ s.seenOperationIds, id ∈ s.admission.finalizedIds

section Turn

variable [Runtime] [LedgerRules]

/-- The transaction is refused and changes nothing but the gas. -/
structure Refuses (config : Config) (block : BlockContext) (s : State) (tx : Transaction)
    (event : Event) (s₁ : State) : Prop where
  failed : event.success = false
  ledger : s₁.ledger = s.ledger
  admission : s₁.admission = s.admission
  seen : s₁.seenOperationIds = s.seenOperationIds
  answered : ∀ {env}, tx = .ok env →
    ∃ reason, s.admission.validate config.admission env = .ok reason
  cause : ∀ {env}, tx = .ok env → Examined config.admission block s.admission env →
    ∃ e, examine true env block.finalizedIds s.ledger = .error e

/-- The transaction is examined, applied and noted. -/
structure Applies (config : Config) (block : BlockContext) (s : State) (env : Envelope)
    (event : Event) (s₁ : State) : Prop where
  succeeded : event.success = true
  envelope : event.envelope = some env
  examined : Examined config.admission block s.admission env
  valid : examine true env block.finalizedIds s.ledger = .ok ()
  applied : ∃ record, applyEnvelope true env block.finalizedIds s.ledger = .ok record s₁.ledger
  admission : s₁.admission = s.admission.noteApplied env
  seen : s₁.seenOperationIds = env.operationId :: s.seenOperationIds

variable {block : BlockContext} {s s₁ : State} {env : Envelope} {config : Config} {tx : Transaction}
  {event : Event} {cost : Nat}

omit [LedgerRules] in
theorem Cached.not_contains {config : AdmissionConfig} (h : s.Cached)
    (examined : Examined config block s.admission env) :
    s.seenOperationIds.contains env.operationId = false := by
  rw [List.contains_eq_mem, decide_eq_false_iff_not]
  intro hmem
  have hadmitted := examined.admitted
  rw [AdmissionState.validate, if_pos (List.contains_iff_mem.mpr (h _ hmem))] at hadmitted
  cases hadmitted

/-- A refused transaction without a complaint about gas was not examined, or its examination
raised; an accepted one was examined. -/
theorem executeOne_cases (hstrict : config.Strict) (hcached : s.Cached)
    (h : executeOne config block s tx = .ok (event, cost))
    (hfuelled : event.success = false → event.Fuelled) :
    (event.success = false ∧
      (∀ {env}, tx = .ok env → ∃ reason, s.admission.validate config.admission env = .ok reason) ∧
      ∀ {env}, tx = .ok env → Examined config.admission block s.admission env →
        ∃ e, examine true env block.finalizedIds s.ledger = .error e) ∨
    ∃ env, tx = .ok env ∧ Examined config.admission block s.admission env ∧
      examine true env block.finalizedIds s.ledger = .ok () ∧ event.success = true ∧
      event.envelope = some env := by
  unfold executeOne at h
  cases tx with
  | error complaint =>
    cases h
    exact .inl ⟨rfl, (fun h => by cases h), fun h => by cases h⟩
  | ok env =>
    obtain ⟨reason, hadmitted, h⟩ := bind_eq_ok.mp h
    have hanswered : ∀ {env'}, (.ok env : Transaction) = .ok env' →
        ∃ reason, s.admission.validate config.admission env' = .ok reason := by
      rintro _ ⟨⟩
      exact ⟨reason, hadmitted⟩
    cases reason with
    | some reason =>
      cases h
      refine .inl ⟨rfl, hanswered, ?_⟩
      rintro _ ⟨⟩ hexamined
      cases hadmitted.symm.trans hexamined.admitted
    | none =>
      have hauthority : protocolAuthorityError none env = none := by
        rw [protocolAuthorityError]
        split_ifs <;> rfl
      have h := Except.ok.inj h
      rw [executeAdmitted, hstrict.covers, hstrict.unauthorized] at h
      simp only [hauthority, if_true, Option.or_none] at h
      split at h
      · next hseen =>
        cases h
        refine .inl ⟨rfl, hanswered, ?_⟩
        rintro _ ⟨⟩ hexamined
        rw [Cached.not_contains hcached hexamined] at hseen
        cases hseen
      · split at h
        · next complaint hcomplaint =>
          cases h
          refine .inl ⟨rfl, hanswered, ?_⟩
          rintro _ ⟨⟩ hexamined
          rw [hexamined.covered, hexamined.versioned, hexamined.placed] at hcomplaint
          cases hcomplaint
        · next hnone =>
          obtain ⟨⟨hcovered, hversioned⟩, hplaced⟩ : (_ ∧ _) ∧ _ := by
            simpa only [Option.or_eq_none_iff] using hnone
          have hexamined : Examined config.admission block s.admission env :=
            ⟨hadmitted, hcovered, hversioned, hplaced⟩
          split_ifs at h with hoperation hblock
          · cases h
            exact absurd rfl (hfuelled rfl).2
          · cases h
            exact absurd rfl (hfuelled rfl).1
          · cases hvalid : examine true env block.finalizedIds s.ledger with
            | ok u =>
              rw [hvalid] at h
              cases h
              exact .inr ⟨env, rfl, hexamined, hvalid, rfl, rfl⟩
            | error e =>
              rw [hvalid] at h
              cases h
              refine .inl ⟨rfl, hanswered, ?_⟩
              rintro _ ⟨⟩ _
              exact ⟨e, hvalid⟩

omit [Runtime] [LedgerRules] in
/-- The text of a failed commit is fatal. -/
theorem isFatal_append (text : String) :
    isFatal ("fatal: ledger commit failed: " ++ text) = true := by
  rw [isFatal, decide_eq_true_eq, String.toList_append, List.map_append]
  exact (List.IsPrefix.isInfix (by decide)).trans (List.prefix_append _ _).isInfix

/-- A turn that is not fatal refuses its transaction or applies it. -/
theorem commitOne_cases {examined : Event} (hstrict : config.Strict) (hcached : s.Cached)
    (hone : executeOne config block s tx = .ok (examined, cost))
    (hcommit : commitOne config block.finalizedIds { s with gasUsed := s.gasUsed + cost } examined =
      (event, s₁))
    (hfatal : (event.error.filter fun error => !event.success && isFatal error) = none)
    (hfuelled : event.Fuelled) :
    Refuses config block s tx event s₁ ∨ ∃ env, tx = .ok env ∧
      Applies config block s env event s₁ := by
  unfold commitOne at hcommit
  cases hsuccess : examined.success with
  | false =>
    rw [hsuccess] at hcommit
    cases hcommit
    rcases executeOne_cases hstrict hcached hone fun _ => hfuelled with
      ⟨-, hanswered, hcause⟩ | ⟨env, -, -, -, htrue, -⟩
    · exact .inl ⟨hsuccess, rfl, rfl, rfl, hanswered, hcause⟩
    · cases hsuccess.symm.trans htrue
  | true =>
    have hcases := executeOne_cases hstrict hcached hone fun hfalse => by
      cases hsuccess.symm.trans hfalse
    rcases hcases with ⟨hfalse, -⟩ | ⟨env, rfl, hexamined, hvalid, -, henvelope⟩
    · cases hsuccess.symm.trans hfalse
    · rw [hsuccess, henvelope, if_pos rfl, hstrict.covers] at hcommit
      dsimp only at hcommit
      cases happly : applyEnvelope true env block.finalizedIds s.ledger with
      | ok record L =>
        rw [happly] at hcommit
        cases hcommit
        exact .inr ⟨env, rfl, hsuccess, henvelope, hexamined, hvalid, ⟨record, happly⟩, rfl, rfl⟩
      | error e L =>
        -- an exception of the ledger would have been fatal
        rw [happly] at hcommit
        cases hcommit
        simp [isFatal_append] at hfatal

/-- The first turn of a loop that ends without a fatal error. -/
theorem executeAll_cons {s' : State} {rest : List Transaction} {events : List Event}
    (hstrict : config.Strict) (hcached : s.Cached)
    (h : executeAll config block s (tx :: rest) = .ok (events, s', none))
    (hfuelled : ∀ event ∈ events, event.Fuelled) :
    ∃ event s₁ more, (Refuses config block s tx event s₁ ∨
        ∃ env, tx = .ok env ∧ Applies config block s env event s₁) ∧
      executeAll config block s₁ rest = .ok (more, s', none) ∧ events = event :: more := by
  unfold executeAll at h
  split_ifs at h with hgas
  · obtain ⟨⟨more, s₂, fatal⟩, -, h⟩ := bind_eq_ok.mp h
    cases h
    exact absurd rfl (hfuelled _ List.mem_cons_self).1
  · obtain ⟨⟨examined, cost⟩, hone, h⟩ := bind_eq_ok.mp h
    dsimp only at h
    cases hcommit : commitOne config block.finalizedIds { s with gasUsed := s.gasUsed + cost }
        examined with
    | mk event s₁ =>
      rw [hcommit] at h
      dsimp only at h
      split at h
      · cases h
      · next hfatal =>
        obtain ⟨⟨more, s₂, fatal⟩, hmore, h⟩ := bind_eq_ok.mp h
        cases h
        exact ⟨event, s₁, more, commitOne_cases hstrict hcached hone hcommit hfatal
          (hfuelled _ List.mem_cons_self), hmore, rfl⟩

omit [Runtime] [LedgerRules] in
theorem mem_finalizedIds_noteApplied {admission : AdmissionState} {id : String} :
    id ∈ (admission.noteApplied env).finalizedIds ↔
      id = env.operationId ∨ id ∈ admission.finalizedIds := by
  unfold AdmissionState.noteApplied
  cases env.senderWallet <;>
    simp [AdmissionState.recordFinalized, AdmissionState.advanceWalletSequence]

theorem Refuses.cached (h : Refuses config block s tx event s₁) (hcached : s.Cached) :
    s₁.Cached := by
  unfold State.Cached
  rw [h.seen, h.admission]
  exact hcached

theorem Applies.cached (h : Applies config block s env event s₁) (hcached : s.Cached) :
    s₁.Cached := by
  unfold State.Cached
  rw [h.seen, h.admission]
  intro id hid
  rw [mem_finalizedIds_noteApplied]
  exact (List.mem_cons.mp hid).imp_right (hcached id)

end Turn

end ExecutionEngine

end AidnSpec.Consensus
