import AidnSpec.Consensus.Dispatch
import AidnSpec.Consensus.StateHash

/-!
# The ABCI application

`consensus/abci.py:539–766, 1347–2033`: proposals and blocks of `AIDNABCIApplication`. A block runs
its transactions one by one, each against the ledger that the one before it left, and then activates
the validator sets of the epochs that its transitions opened. An exception that no handler catches
ends the call.
-/

namespace AidnSpec.Consensus

open Base Ledger

/-- The result codes that the application returns. -/
inductive ResultCode where
  | ok
  | rejected
  | invalid
  | duplicate
  | internal
  deriving DecidableEq

structure ABCIResult where
  code : ResultCode
  log : String := ""
  info : String := ""
  tags : List (String × String) := []
  validatorUpdates : List ValidatorUpdate := []

/-- What `_parse_envelope` makes of the bytes of a transaction: an envelope, or the text of
an exception. -/
abbrev Transaction := Except String Envelope

/-- The arguments of the application that it never changes. -/
structure ApplicationConfig where
  admission : AdmissionConfig
  strictOperationCoverage : Bool := false
  /-- The complaint of the configured policy about an epoch operation. -/
  protocolAuthorityPolicy : Option (Envelope → Option String) := none
  epochSchedule : Option EpochSchedule := none

/-- `ABCICanonicalCommitment`; its heights and lengths are checked by `Block`. -/
structure CanonicalCommitment where
  blockHash : String
  appHash : String

/-- The state of `AIDNABCIApplication`. -/
structure Application where
  ledger : LedgerState
  admission : AdmissionState := {}
  genesisTreasuryManifest : Option Fields := none
  epochSchedule : Option EpochSchedule := none
  lastBlockHeight : Nat := 0
  lastBlockHash : Bytes := List.replicate 32 0
  lastBlockTime : Option String := none
  appHash : Bytes := []
  commitments : Dict Nat CanonicalCommitment := .empty

def finalizedOperationIds (L : LedgerState) : List String := L.finalizedOperationRegistry.keys

/-- The operation that the application applies for an envelope, if its type has a branch. -/
def appliedOperation (strict : Bool) (env : Envelope) (ids : List String) : Option ConsensusOp :=
  branch ((if strict then strictlyTyped else []) ++ identityBranch ++ unvalidatedBranches ++
    commonBranches) env ids

/-- The operation that the application validates beforehand, if its type has a branch. -/
def validatedOperation (strict : Bool) (env : Envelope) (ids : List String) :
    Option ConsensusOp :=
  branch ((if strict then strictlyTyped else []) ++ identityBranch ++ commonBranches) env ids

def operationCoverageError (strict : Bool) (operationType : String) : Option String :=
  if strict then strictOperationCoverageError operationType else none

/-- The operation types that the protocol authority signs. -/
def authorityOperationTypes : List String :=
  ["EPOCH_TRANSITION", "EPOCH_SCHEDULE_COMMIT", "EPOCH_SCHEDULE_REBASE",
    "EPOCH_RESULT_MANIFEST_COMMIT"]

def protocolAuthorityError (policy : Option (Envelope → Option String)) (env : Envelope) :
    Option String :=
  if authorityOperationTypes.contains env.operationType then policy.bind fun verify => verify env
  else none

variable [Runtime]

def lateScheduleCommitError (app : Application) (env : Envelope) :
    Except PyError (Option String) :=
  if epochScheduleCommitted app.ledger then .ok none
  else
    match app.lastBlockTime, EpochSchedule.modelValidate
      (PyValue.get env.payload "epoch_schedule") with
    | some time, some schedule => do
      match ← parseTimestamps schedule.genesisStartTime time with
      | some (start, latest) =>
        return if start ≤ latest then
          some "epoch schedule commit start must be after the latest canonical block time"
        else none
      | none => return none
    | _, _ => .ok none

def lateInitialScheduleActivationError (app : Application) : Except PyError (Option String) :=
  match app.epochSchedule, app.lastBlockTime with
  | some schedule, some time =>
    if app.ledger.operations.any (·.operationType == "EPOCH_SCHEDULE_REBASE") then .ok none
    else if app.ledger.operations.any (·.operationType == "EPOCH_TRANSITION") then .ok none
    else do
      match ← schedule.genesisBoundaryReached time with
      | none => return some "epoch schedule canonical time is invalid"
      | some true => return some "epoch schedule activation is required before epoch activity"
      | some false => return none
  | _, _ => .ok none

variable [LedgerRules]

/-- The validation of an operation by the ledger and the checks of the canonical time; a
`ValueError` becomes a complaint. -/
def ledgerComplaint (app : Application) (env : Envelope) (op : ConsensusOp) :
    Except PyError (Option String) :=
  match validateOperation op app.ledger with
  | .error e => if e.kind = .value then .ok (some e.message) else .error e
  | .ok () =>
    if env.operationType = "EPOCH_SCHEDULE_COMMIT" then lateScheduleCommitError app env
    else if ["EPOCH_RESULT_MANIFEST_COMMIT", "EPOCH_TRANSITION"].contains env.operationType then
      lateInitialScheduleActivationError app
    else .ok none

def specialOperationError (config : ApplicationConfig) (app : Application) (env : Envelope)
    (ids : List String) : Except PyError (Option String) :=
  match ((operationCoverageError config.strictOperationCoverage env.operationType).or
    (strictOperationVersionError env.operationType env.operationVersion)).or
      (protocolAuthorityError config.protocolAuthorityPolicy env) with
  | some complaint => .ok (some complaint)
  | none =>
    match validatedOperation config.strictOperationCoverage env ids with
    | some op => ledgerComplaint app env op
    | none => .ok none

/-! ## One transaction -/

/-- `apply_consensus_*` of the branch, or `record_admitted_envelope`. -/
def applyEnvelope (strict : Bool) (env : Envelope) (ids : List String) :
    LedgerM LedgerOperationRecord :=
  match appliedOperation strict env ids with
  | some op => op.apply
  | none => recordAdmittedEnvelope env []

/-- What the application itself keeps of an applied operation. -/
def Application.noted (app : Application) (env : Envelope) (L : LedgerState) : Application :=
  { app with
    ledger := L
    admission := app.admission.noteApplied env
    epochSchedule :=
      if env.operationType = "EPOCH_SCHEDULE_COMMIT" then
        EpochSchedule.modelValidate (PyValue.get env.payload "epoch_schedule")
      else app.epochSchedule
    genesisTreasuryManifest :=
      if env.operationType = "TREASURY_MANIFEST_BIND" then L.faucetTreasuryManifest
      else app.genesisTreasuryManifest }

/-- Run the apply part of `_execute_one`; a raising operation leaves what it changed. -/
def executeApply (config : ApplicationConfig) (app : Application) (env : Envelope)
    (ids : List String) : ABCIResult × Application :=
  match applyEnvelope config.strictOperationCoverage env ids app.ledger with
  | .ok _ L =>
    (⟨.ok, "", "", [("operation_id", env.operationId), ("type", env.operationType)], []⟩,
      app.noted env L)
  | .error e L =>
    if e.kind = .value then
      (⟨.rejected, e.message, "", [("operation_id", env.operationId)], []⟩,
        { app with ledger := L })
    else (⟨.internal, "execution error: " ++ e.message, "", [], []⟩, { app with ledger := L })

/-- A transaction that is refused before it reaches the ledger. -/
def refusal (env : Envelope) (complaint : String) : ABCIResult :=
  ⟨.rejected, complaint, "", [("operation_id", env.operationId), ("reason", complaint)], []⟩

/-- What the block knows before its first transaction. -/
structure BlockContext where
  finalizedIds : List String
  preexistingScheduleCommit : Bool
  containsScheduleCommit : Bool

/-- An epoch transition in the block of the schedule commit that it would depend on. -/
def BlockContext.sameBlockComplaint (block : BlockContext) (env : Envelope) : Option String :=
  if env.operationType = "EPOCH_TRANSITION" ∧ block.containsScheduleCommit = true ∧
      block.preexistingScheduleCommit = false then
    some "epoch transition cannot depend on same-block epoch schedule commit"
  else none

def executeOne (config : ApplicationConfig) (block : BlockContext) (app : Application)
    (tx : Transaction) : Except PyError (ABCIResult × Application) :=
  match tx with
  | .error complaint => .ok (⟨.invalid, "parse error: " ++ complaint, "", [], []⟩, app)
  | .ok env => do
    match ← app.admission.validate config.admission env with
    | some reason => return (⟨.rejected, reason, "", [("operation_id", env.operationId)], []⟩, app)
    | none =>
      match (protocolAuthorityError config.protocolAuthorityPolicy env).or
        (block.sameBlockComplaint env) with
      | some complaint => return (refusal env complaint, app)
      | none =>
        match ← specialOperationError config app env block.finalizedIds with
        | some complaint => return (refusal env complaint, app)
        | none =>
          match operationCoverageError config.strictOperationCoverage env.operationType with
          | some complaint => return (refusal env complaint, app)
          | none => return executeApply config app env block.finalizedIds

/-! ## Blocks -/

/-- `_block_contains_epoch_schedule_commit`. -/
def containsScheduleCommit (txs : List Transaction) : Bool :=
  txs.any fun
    | .ok env => env.operationType == "EPOCH_SCHEDULE_COMMIT"
    | .error _ => false

/-- What a block knows of the application before its first transaction. -/
def blockContext (app : Application) (txs : List Transaction) : BlockContext where
  finalizedIds := finalizedOperationIds app.ledger
  preexistingScheduleCommit := epochScheduleCommitted app.ledger
  containsScheduleCommit := containsScheduleCommit txs

/-- The loop over the transactions: one result each. -/
def executeAll (config : ApplicationConfig) (block : BlockContext) (app : Application) :
    List Transaction → Except PyError (List ABCIResult × Application)
  | [] => .ok ([], app)
  | tx :: rest => do
    let (result, app₁) ← executeOne config block app tx
    let (results, app₂) ← executeAll config block app₁ rest
    return (result :: results, app₂)

/-- The epochs that the executed transitions of a block open, in order. -/
def openedEpochs : List Transaction → List ABCIResult → List Int
  | tx :: txs, result :: results =>
    let rest := openedEpochs txs results
    match tx with
    | .ok env =>
      if result.code = .ok ∧ env.operationType = "EPOCH_TRANSITION" then
        env.payload.int "opening_epoch" :: rest
      else rest
    | .error _ => rest
  | _, _ => []

/-- The loop over the opened epochs: the concatenated updates. -/
def activateEpochs (ids : List String) (L : LedgerState) :
    List Int → Except PyError (List ValidatorUpdate × LedgerState)
  | [] => .ok ([], L)
  | epoch :: rest => do
    let (updates, L₁) ← activateValidatorSetUpdate epoch ids L
    let (more, L₂) ← activateEpochs ids L₁ rest
    return (updates ++ more, L₂)

/-- A block as CometBFT hands it over, at a height and with a hash that
`ABCICanonicalCommitment` accepts. -/
structure Block where
  height : Nat
  hash : Bytes
  txs : List Transaction
  time : Option String
  committable : 1 ≤ height ∧ hash.length = 32

/-- The tail of `finalize_block_with_results` after the activations. -/
def Application.sealed (app : Application) (block : Block) (L : LedgerState) : Application :=
  let appHash := computeStateHash L app.genesisTreasuryManifest app.epochSchedule
  { app with
    ledger := L
    lastBlockHeight := block.height
    lastBlockHash := block.hash
    lastBlockTime := block.time
    appHash := appHash
    commitments := app.commitments.set block.height
      ⟨hexEncode true block.hash, hexEncode true appHash⟩ }

def blockResult (block : Block) (results : List ABCIResult) (updates : List ValidatorUpdate) :
    ABCIResult where
  code := .ok
  log := "executed=" ++ toString (results.countP (·.code = .ok)) ++ "; rejected=" ++
    toString (results.countP (·.code ≠ .ok))
  info := "block_" ++ toString block.height
  tags := [("height", toString block.height),
    ("executed", toString (results.countP (·.code = .ok))),
    ("rejected", toString (results.countP (·.code ≠ .ok)))]
  validatorUpdates := updates

/-- How a block ends. -/
inductive BlockOutcome where
  /-- The block is finalized: its result, the results of its transactions, the application. -/
  | finalized (result : ABCIResult) (txResults : List ABCIResult) (app : Application)
  /-- An activation raised: the application before the rollback, and the exception. -/
  | activationFailed (app : Application) (error : PyError)

/-- `finalize_block_with_results` up to the rollback of a failed activation; an exception
that the call does not catch is an error. -/
def finalizeBlock (config : ApplicationConfig) (app : Application) (block : Block) :
    Except PyError BlockOutcome := do
  let context := blockContext app block.txs
  let (results, executed) ← executeAll config context app block.txs
  match activateEpochs context.finalizedIds executed.ledger (openedEpochs block.txs results) with
  | .ok (updates, L) =>
    return .finalized (blockResult block results updates) results (executed.sealed block L)
  | .error e =>
    if e.kind = .value ∨ e.kind = .type ∨ e.kind = .key then return .activationFailed executed e
    else .error e

/-- The returned results of the transactions; in a block that is rolled back each is the failure,
with a note when the rollback failed too. -/
def BlockOutcome.txResults (block : Block) (rollbackNote : String) :
    BlockOutcome → List ABCIResult
  | .finalized _ results _ => results
  | .activationFailed _ e => block.txs.map fun _ =>
    ⟨.internal, "validator set activation failed: " ++ e.message ++ rollbackNote, "", [], []⟩

/-! ## Proposals -/

def canonicalFinalizedOperationError (config : ApplicationConfig) (app : Application)
    (env : Envelope) : Except PyError (Option String) :=
  let ids := finalizedOperationIds app.ledger
  if ids.contains env.operationId then
    if env.operationType = "WALLET_TRANSFER" then .ok (some "duplicate_operation_id")
    else do
      let complaint ← specialOperationError config app env ids
      return some ((complaint.filter (!·.isEmpty)).getD "duplicate_operation_id")
  else .ok none

/-- The loop of `process_proposal`. -/
def processTransactions (config : ApplicationConfig) (block : BlockContext) (app : Application)
    (seen : List String) : List Transaction → Except PyError ABCIResult
  | [] => .ok ⟨.ok, "", "", [], []⟩
  | .error complaint :: _ => .ok ⟨.invalid, "parse error: " ++ complaint, "", [], []⟩
  | .ok env :: rest =>
    if seen.contains env.operationId then
      .ok ⟨.duplicate, "duplicate operation in proposal", "", [], []⟩
    else
      match block.sameBlockComplaint env with
      | some complaint => .ok ⟨.rejected, complaint, "", [], []⟩
      | none => do
        match ← canonicalFinalizedOperationError config app env with
        | some complaint => return ⟨.rejected, complaint, "", [], []⟩
        | none =>
          match ← app.admission.validate config.admission env with
          | some reason => return ⟨.rejected, reason, "", [], []⟩
          | none =>
            match ← specialOperationError config app env block.finalizedIds with
            | some complaint => return ⟨.rejected, complaint, "", [], []⟩
            | none => processTransactions config block app (env.operationId :: seen) rest

def processProposal (config : ApplicationConfig) (app : Application) (txs : List Transaction) :
    Except PyError ABCIResult :=
  processTransactions config (blockContext app txs) app [] txs

end AidnSpec.Consensus
