import AidnSpec.Base.Dict
import AidnSpec.Ledger.DevelopmentRecords
import AidnSpec.Ledger.Settlement

/-!
# Ledger state and the operation log

The state of `LedgerOperationService` (`ledger/service.py:184–225`), the envelope of
`consensus/models.py`, the finalized-operation registry of `consensus/replay.py`, the wallet
primitives (227–246) and `record_admitted_envelope` (8984–9046). An operation runs in `LedgerM`: an
exception keeps every change made before it, as in the source, where no caller restores the ledger
of a single operation.
-/

namespace AidnSpec.Ledger

open Base

/-- `LedgerOriginType`. -/
inductive OriginType where
  | wallet
  | multiParty
  | protocol
  | evidenceTriggered
  deriving DecidableEq

def OriginType.toText : OriginType → String
  | wallet => "wallet"
  | multiParty => "multi_party"
  | protocol => "protocol"
  | evidenceTriggered => "evidence_triggered"

/-- `LedgerFeeClass`. -/
inductive FeeClass where
  | standard
  | session
  | protocolSponsored
  | onboardingExempt
  deriving DecidableEq

def FeeClass.toText : FeeClass → String
  | standard => "standard"
  | session => "session"
  | protocolSponsored => "protocol_sponsored"
  | onboardingExempt => "onboarding_exempt"

/-- `LedgerOperationEnvelope`. The identity is checked against the canonical preimage when
an envelope is parsed; the ledger only compares it. -/
structure Envelope where
  operationType : String
  operationVersion : String := "1.0.0"
  protocolVersion : String := "0.1"
  originType : OriginType
  initiatorId : Option String := none
  senderWallet : Option String := none
  senderSequence : Option Nat := none
  feePayer : Option String := none
  feeClass : FeeClass := .standard
  createdAt : String
  expiresAt : Option String := none
  targetEpoch : Option String := none
  payload : Fields := []
  evidenceReferences : List String := []
  signatures : List String := []
  operationId : String

def optNat : Option Nat → PyValue
  | none => .none
  | some n => .int n

namespace Envelope

/-- `model_dump(mode="json")` with the given identity and signatures. -/
def toValue (env : Envelope) (operationId : String) (signatures : List String) : PyValue :=
  .dict
    [("operation_type", .str env.operationType), ("operation_version", .str env.operationVersion),
      ("protocol_version", .str env.protocolVersion), ("origin_type", .str env.originType.toText),
      ("initiator_id", optText env.initiatorId), ("sender_wallet", optText env.senderWallet),
      ("sender_sequence", optNat env.senderSequence), ("fee_payer", optText env.feePayer),
      ("fee_class", .str env.feeClass.toText), ("created_at", .str env.createdAt), ("expires_at",
      optText env.expiresAt), ("target_epoch", optText env.targetEpoch), ("payload",
      .dict env.payload), ("evidence_references", .list (env.evidenceReferences.map .str)),
      ("signatures", .list (signatures.map .str)), ("operation_id", .str operationId)]

/-- `_compute_operation_id(canonical_bytes())`. -/
def computeOperationId (env : Envelope) : String := jsonDigest (env.toValue "" [])

def consensusTransactionHash (env : Envelope) : String :=
  hexEncode true (sha256 (asciiBytes (canonicalText (env.toValue env.operationId env.signatures))))

end Envelope

/-- `LedgerOperationRecord`, with its result. -/
structure LedgerOperationRecord where
  sequenceId : Nat
  operationId : String
  operationType : String
  operationVersion : String
  protocolVersion : String
  originType : OriginType
  initiatorId : Option String
  senderWallet : Option String
  senderSequence : Option Nat
  feeClass : FeeClass
  feePayer : Option String
  createdAt : String
  expiresAt : Option String
  targetEpoch : Option String
  payload : Fields
  evidenceReferences : List String
  signatures : List String
  transactionHash : Option String
  stateChangesRoot : String
  emittedEvents : List String
  walletNextSequence : Option Nat
  deriving DecidableEq

/-- `model_dump(mode="json")` of a record. -/
def LedgerOperationRecord.toValue (r : LedgerOperationRecord) : PyValue :=
  .dict
    [("sequence_id", .int r.sequenceId), ("operation_id", .str r.operationId),
      ("operation_type", .str r.operationType), ("operation_version", .str r.operationVersion),
      ("protocol_version", .str r.protocolVersion), ("origin_type", .str r.originType.toText),
      ("initiator_id", optText r.initiatorId), ("sender_wallet", optText r.senderWallet),
      ("sender_sequence", optNat r.senderSequence), ("fee_class", .str r.feeClass.toText),
      ("fee_payer", optText r.feePayer), ("created_at", .str r.createdAt),
      ("expires_at", optText r.expiresAt), ("target_epoch", optText r.targetEpoch),
      ("payload", .dict r.payload), ("evidence_references", .list (r.evidenceReferences.map .str)),
      ("signatures", .list (r.signatures.map .str)),
      ("transaction_hash", optText r.transactionHash), ("result", .dict
        [("status", .str "applied"), ("error_code", .none), ("error_details_hash", .none),
          ("fee_charged", .bool false), ("state_changes_root", .str r.stateChangesRoot),
          ("emitted_events", .list (r.emittedEvents.map .str))]),
      ("wallet_next_sequence", optNat r.walletNextSequence)]

structure FinalizedOperationReference where
  operationId : String
  operationType : String
  sequenceId : Nat
  recordDigest : String
  deriving DecidableEq

inductive StakeState where
  | locked
  | unbonding
  | released
  | slashed
  deriving DecidableEq

/-- One entry of `_stake_records`. -/
structure StakeRecord where
  stakeId : String
  stakeType : String
  amount : Int
  beneficiaryObjectId : String
  lockPolicyVersion : String
  ownerWallet : String
  state : StakeState
  lockedByOperationId : String
  unbondingStartEpoch : Option Int
  releaseEpoch : Option Int
  penaltyBlocked : Bool
  unstakeRequestOperationId : Option String
  releasedByOperationId : Option String
  slashedAmount : Int
  deriving DecidableEq

/-- The development-reward collections, each a map from record id to record. -/
structure DevelopmentRecords where
  poolAllocations : Dict String PoolAllocation := .empty
  rewardReserves : Dict String RewardReserve := .empty
  rewardPaymentRecords : Dict String RewardPaymentRecord := .empty
  rewardUnclaimedRecords : Dict String RewardUnclaimedRecord := .empty
  rewardClaimRecords : Dict String RewardClaimRecord := .empty
  rewardExpiryRecords : Dict String RewardExpiryRecord := .empty
  rewardFinalizedCommitments : Dict String Fields := .empty
  poolCarryovers : Dict String Fields := .empty
  bountyStates : Dict String Fields := .empty
  rewardAdjustmentSnapshots : Dict String Fields := .empty
  rewardCancellations : Dict String Fields := .empty
  rewardCorrections : Dict String Fields := .empty
  deriving DecidableEq

/-- Which party of a session a credit pays. -/
inductive SessionRole where
  | endpoint
  | consumer
  deriving DecidableEq

/-- One wallet credit made on behalf of a session. -/
structure SessionCredit where
  sessionId : String
  role : SessionRole
  walletId : String
  amount : Int
  deriving DecidableEq

/-- Q atoms that one operation locked for a session. -/
structure SessionLock where
  sessionId : String
  amount : Int
  deriving DecidableEq

/-- The state of `LedgerOperationService`. `sessionCredits` and `sessionLocks` are not part
of it: they list every credit that session operations made and every amount that locks and
extensions locked, newest first, and no operation reads them. -/
structure LedgerState where
  operations : List LedgerOperationRecord := []
  finalizedOperationRegistry : Dict String FinalizedOperationReference := .empty
  walletNextSequences : Dict String Nat := .empty
  walletQAtomBalances : Dict String Int := .empty
  recyclableQAtoms : Int := 0
  burnedQAtoms : Int := 0
  stakeRecords : Dict String StakeRecord := .empty
  participantSuspensions : Dict String Fields := .empty
  sessionFundingAccounts : Dict String SessionFundingAccount := .empty
  sessionOpenRecords : Dict String Fields := .empty
  sessionAcceptRecords : Dict String Fields := .empty
  settlementProposals : Dict String SessionSettlementProposal := .empty
  settlementReadyCommits : Dict String SettlementReadyCommitment := .empty
  settlementAcceptances : Dict String SessionSettlementAcceptance := .empty
  settlementDisputes : Dict String SettlementDispute := .empty
  settlementCorrections : Dict String SettlementCorrection := .empty
  sessionCheckpoints : Dict String SessionUsageCheckpoint := .empty
  settlementTransitionHashes : Dict String String := .empty
  development : DevelopmentRecords := {}
  faucetTreasuryManifest : Option Fields := none
  activeValidatorSet : Dict String Fields := .empty
  activeValidatorSetEpoch : Option Int := none
  activatedValidatorSetEpochs : List Int := []
  nextSequenceId : Nat := 1
  sessionCredits : List SessionCredit := []
  sessionLocks : List SessionLock := []
  deriving DecidableEq

/-- A ledger operation: it returns or raises, and in both cases leaves a state. -/
abbrev LedgerM (α : Type) := EStateM PyError LedgerState α

/-- Run a validation against the current state; it changes nothing. -/
def check {α : Type} (validation : LedgerState → Except PyError α) : LedgerM α := fun L =>
  match validation L with
  | .ok a => .ok a L
  | .error e => .error e L

/-- A first part that returns is followed by the rest. -/
theorem bind_run {α β : Type} {x : LedgerM α} {f : α → LedgerM β} {L L₁ : LedgerState} {a : α}
    (h : x L = .ok a L₁) : (x >>= f) L = f a L₁ := by
  simp only [bind, EStateM.bind, h]

namespace LedgerState

def walletQAtomBalance (L : LedgerState) (walletId : String) : Int :=
  (L.walletQAtomBalances.get? walletId).getD 0

def walletNextSequence (L : LedgerState) (walletId : String) : Nat :=
  (L.walletNextSequences.get? walletId).getD 1

/-- The latest record of an operation identity. -/
def operationById (L : LedgerState) (operationId : String) : Option LedgerOperationRecord :=
  L.operations.reverse.find? (·.operationId == operationId)

end LedgerState

def creditWalletQAtoms (walletId : String) (amount : Int) : LedgerM Unit := fun L =>
  if amount < 0 then .error ⟨.value, "wallet credit must be non-negative"⟩ L
  else
    .ok () { L with
      walletQAtomBalances :=
        L.walletQAtomBalances.set walletId (L.walletQAtomBalance walletId + amount) }

def debitWalletQAtoms (walletId : String) (amount : Int) : LedgerM Unit := fun L =>
  if amount ≤ 0 then .error ⟨.value, "wallet debit must be positive"⟩ L
  else if L.walletQAtomBalance walletId < amount then
    .error ⟨.value, "insufficient q_atoms for wallet debit"⟩ L
  else
    .ok () { L with
      walletQAtomBalances :=
        L.walletQAtomBalances.set walletId (L.walletQAtomBalance walletId - amount) }

/-- A credit on behalf of a session: `credit_wallet_q_atoms`, noted in `sessionCredits`. -/
def creditForSession (sessionId : String) (role : SessionRole) (walletId : String)
    (amount : Int) : LedgerM Unit := do
  creditWalletQAtoms walletId amount
  modify fun L => { L with sessionCredits := ⟨sessionId, role, walletId,
    amount⟩ :: L.sessionCredits }

/-! ## Recording -/

/-- `FinalizedOperationRegistry.register`. -/
def registerRecord (registry : Dict String FinalizedOperationReference)
    (record : LedgerOperationRecord) :
    Except PyError (Dict String FinalizedOperationReference) := do
  require (!isBlank record.operationId) "finalized operation ID is invalid"
  require (!isBlank record.operationType) "finalized operation type is invalid"
  require (1 ≤ record.sequenceId) "finalized operation sequence is invalid"
  let reference : FinalizedOperationReference :=
    ⟨record.operationId, record.operationType, record.sequenceId, jsonDigest record.toValue⟩
  match registry.get? record.operationId with
  | some existing =>
    if existing ≠ reference then raiseValue "conflicting finalized operation identity"
    else raiseValue "duplicate finalized operation ID"
  | none =>
    require (!registry.values.any (·.sequenceId == record.sequenceId))
      "finalized operation sequence is duplicated"
    return registry.set record.operationId reference

/-- The next sequence of a wallet operation, checked against the ledger. -/
def nextWalletSequence (L : LedgerState) (env : Envelope) : Except PyError (Option Nat) :=
  match env.originType with
  | .wallet =>
    match env.senderWallet, env.senderSequence with
    | some wallet, some sequence =>
      if sequence = L.walletNextSequence wallet then .ok (some (sequence + 1))
      else raiseValue "invalid wallet sequence"
    | _, _ => raiseValue "wallet operations require sender_wallet and sender_sequence"
  | _ => .ok none

/-- The record `record_admitted_envelope` builds. -/
def admittedRecord (L : LedgerState) (env : Envelope) (emittedEvents : List String)
    (walletNextSequence : Option Nat) : LedgerOperationRecord where
  sequenceId := L.nextSequenceId
  operationId := env.operationId
  operationType := env.operationType
  operationVersion := env.operationVersion
  protocolVersion := env.protocolVersion
  originType := env.originType
  initiatorId := env.initiatorId
  senderWallet := env.senderWallet
  senderSequence := env.senderSequence
  feeClass := env.feeClass
  feePayer := env.feePayer
  createdAt := env.createdAt
  expiresAt := env.expiresAt
  targetEpoch := env.targetEpoch
  payload := env.payload
  evidenceReferences := env.evidenceReferences
  signatures := env.signatures
  transactionHash := some env.consensusTransactionHash
  stateChangesRoot := jsonDigest (.dict
    [("operation_id", .str env.operationId), ("operation_type", .str env.operationType),
      ("payload", .dict env.payload)])
  emittedEvents := emittedEvents
  walletNextSequence := walletNextSequence

/-- The sequences after an operation is recorded. -/
def sequencesAfter (L : LedgerState) (env : Envelope) (walletNextSequence : Option Nat) :
    Dict String Nat :=
  match env.senderWallet, walletNextSequence with
  | some wallet, some next => L.walletNextSequences.set wallet next
  | _, _ => L.walletNextSequences

/-- `record_admitted_envelope`: every check comes before the first change. -/
def admitEnvelope (L : LedgerState) (env : Envelope) (emittedEvents : List String) :
    Except PyError (LedgerOperationRecord × LedgerState) := do
  require (!L.finalizedOperationRegistry.contains env.operationId) "duplicate operation id"
  let next ← nextWalletSequence L env
  let record := admittedRecord L env emittedEvents next
  -- the declared record refuses empty texts (`min_length=1`)
  require (!([record.operationId, record.operationType, record.operationVersion,
    record.protocolVersion, record.createdAt].any (·.isEmpty))) "declared field is invalid"
  let registry ← registerRecord L.finalizedOperationRegistry record
  return (record, { L with
    finalizedOperationRegistry := registry
    operations := L.operations ++ [record]
    nextSequenceId := L.nextSequenceId + 1
    walletNextSequences := sequencesAfter L env next })

/-- `record_admitted_envelope` as an operation. -/
def recordAdmittedEnvelope (env : Envelope) (emittedEvents : List String) :
    LedgerM LedgerOperationRecord := fun L =>
  match admitEnvelope L env emittedEvents with
  | .ok (record, L') => .ok record L'
  | .error e => .error e L

/-- The shape of every `apply_consensus_*` method: validate, record the envelope, then
change the state. -/
def applyConsensus {α : Type} (validate : LedgerState → Except PyError α)
    (emittedEvents : α → List String) (env : Envelope) (effect : α → LedgerM Unit) :
    LedgerM LedgerOperationRecord := do
  let validated ← check validate
  let record ← recordAdmittedEnvelope env (emittedEvents validated)
  effect validated
  return record

def recordOnly {α : Type} (validate : LedgerState → Except PyError α)
    (emittedEvents : List String) (env : Envelope) : LedgerM LedgerOperationRecord :=
  applyConsensus validate (fun _ => emittedEvents) env fun _ => pure ()

section Shape

variable {α : Type} {validate : LedgerState → Except PyError α}
  {emittedEvents : α → List String} {env : Envelope} {effect : α → LedgerM Unit}
  {L L' : LedgerState} {record : LedgerOperationRecord} {e : PyError}

/-- A successful operation validated, recorded and changed the state, in this order. -/
theorem applyConsensus_eq_ok :
    applyConsensus validate emittedEvents env effect L = .ok record L' ↔
      ∃ v L₁, validate L = .ok v ∧ admitEnvelope L env (emittedEvents v) = .ok (record, L₁) ∧
        effect v L₁ = .ok () L' := by
  simp only [applyConsensus, bind, EStateM.bind, check, recordAdmittedEnvelope]
  cases validate L with
  | error e => simp
  | ok v =>
    cases hr : admitEnvelope L env (emittedEvents v) with
    | error e => simp [hr]
    | ok pair =>
      obtain ⟨r, L₁⟩ := pair
      cases he : effect v L₁ with
      | error e L₂ => simp [hr, he]
      | ok u L₂ => simp [hr, he, pure, EStateM.pure]

/-- A raising operation changed nothing, unless the exception came after the record. -/
theorem applyConsensus_eq_error :
    applyConsensus validate emittedEvents env effect L = .error e L' ↔
      (validate L = .error e ∧ L' = L) ∨
      (∃ v, validate L = .ok v ∧ admitEnvelope L env (emittedEvents v) = .error e ∧ L' = L) ∨
      ∃ v record L₁, validate L = .ok v ∧
        admitEnvelope L env (emittedEvents v) = .ok (record, L₁) ∧
        effect v L₁ = .error e L' := by
  simp only [applyConsensus, bind, EStateM.bind, check, recordAdmittedEnvelope]
  cases validate L with
  | error e => simp [eq_comm]
  | ok v =>
    cases hr : admitEnvelope L env (emittedEvents v) with
    | error e => simp [hr, eq_comm]
    | ok pair =>
      obtain ⟨r, L₁⟩ := pair
      cases he : effect v L₁ with
      | error e L₂ => simp [hr, he]
      | ok u L₂ => simp [hr, he, pure, EStateM.pure]

end Shape

/-- The reference that the registry keeps of a record. -/
def LedgerOperationRecord.reference (record : LedgerOperationRecord) :
    FinalizedOperationReference :=
  ⟨record.operationId, record.operationType, record.sequenceId, jsonDigest record.toValue⟩

/-- The ledger after an envelope is recorded: the log, the registry and the sequences. -/
def LedgerState.admitted (L : LedgerState) (env : Envelope) (emittedEvents : List String)
    (next : Option Nat) : LedgerState :=
  { L with
    finalizedOperationRegistry := L.finalizedOperationRegistry.set env.operationId
      (admittedRecord L env emittedEvents next).reference
    operations := L.operations ++ [admittedRecord L env emittedEvents next]
    nextSequenceId := L.nextSequenceId + 1
    walletNextSequences := sequencesAfter L env next }

/-- An envelope that can be recorded, and the next sequence of its wallet. -/
@[mk_iff]
structure Admits (L : LedgerState) (env : Envelope) (next : Option Nat) : Prop where
  fresh : L.finalizedOperationRegistry.get? env.operationId = none
  sequence : nextWalletSequence L env = .ok next
  declared : [env.operationId, env.operationType, env.operationVersion, env.protocolVersion,
    env.createdAt].any (·.isEmpty) = false
  named : isBlank env.operationId = false
  typed : isBlank env.operationType = false
  counted : 1 ≤ L.nextSequenceId
  unused : L.finalizedOperationRegistry.values.any (·.sequenceId == L.nextSequenceId) = false

instance {L : LedgerState} {env : Envelope} {next : Option Nat} : Decidable (Admits L env next) :=
  decidable_of_iff' _ (admits_iff L env next)

theorem ne_empty_of_isBlank {text : String} (h : isBlank text = false) : text ≠ "" := by
  rintro rfl
  cases h

/-- A record is registered exactly when its identity and its sequence are new. -/
theorem registerRecord_eq_ok {registry registry' : Dict String FinalizedOperationReference}
    {record : LedgerOperationRecord} :
    registerRecord registry record = .ok registry' ↔
      isBlank record.operationId = false ∧ isBlank record.operationType = false ∧
      1 ≤ record.sequenceId ∧ registry.get? record.operationId = none ∧
      registry.values.any (·.sequenceId == record.sequenceId) = false ∧
      registry' = registry.set record.operationId record.reference := by
  simp only [registerRecord, bind_eq_ok, require_eq_ok, exists_unit,
    Bool.not_eq_true', decide_eq_true_eq]
  cases hget : registry.get? record.operationId with
  | some existing =>
    simp only [reduceCtorEq, false_and, and_false, iff_false, not_and]
    intro _ _ _
    split <;> simp [raiseValue]
  | none =>
    simp only [bind_eq_ok, require_eq_ok, pure_eq_ok, exists_unit,
      Bool.not_eq_true', true_and, LedgerOperationRecord.reference]
    rw [eq_comm (a := registry')]

/-- When an envelope is recorded, and what recording it changes. -/
theorem admitEnvelope_eq_ok {L L₁ : LedgerState} {env : Envelope} {events : List String}
    {record : LedgerOperationRecord} :
    admitEnvelope L env events = .ok (record, L₁) ↔
      ∃ next, Admits L env next ∧ record = admittedRecord L env events next ∧
        L₁ = L.admitted env events next := by
  simp only [admitEnvelope, bind_eq_ok, require_eq_ok, registerRecord_eq_ok, exists_unit,
    Bool.not_eq_true', pure_eq_ok, Prod.mk.injEq]
  constructor
  · rintro ⟨-, next, hnext, hdeclared, registry, ⟨hnamed, htyped, hcounted, hfresh, hunused, rfl⟩,
      rfl, rfl⟩
    exact ⟨next, ⟨hfresh, hnext, hdeclared, hnamed, htyped, hcounted, hunused⟩, rfl, rfl⟩
  · rintro ⟨next, h, rfl, rfl⟩
    refine ⟨?_, next, h.sequence, h.declared, _,
      ⟨h.named, h.typed, h.counted, h.fresh, h.unused, rfl⟩, rfl, rfl⟩
    rw [Dict.contains, h.fresh]
    rfl

theorem Admits.admitEnvelope {L : LedgerState} {env : Envelope} {next : Option Nat}
    (h : Admits L env next) (events : List String) :
    admitEnvelope L env events =
      .ok (admittedRecord L env events next, L.admitted env events next) :=
  admitEnvelope_eq_ok.mpr ⟨next, h, rfl, rfl⟩

/-! ## Finalized dependencies -/

/-- A stored record that an operation cannot do without. -/
def requireStored {α : Type} (stored : Option α) (complaint : String) : Except PyError α :=
  match stored with
  | some x => .ok x
  | none => raiseValue complaint

@[simp] theorem requireStored_eq_ok {α : Type} {stored : Option α} {complaint : String} {x : α} :
    requireStored stored complaint = .ok x ↔ stored = some x := by
  cases stored <;> simp [requireStored, raiseValue]

/-- What the checks and reads of a validation ask for when it returns. -/
theorem checks_eq_ok :
    (∀ {ε α β : Type} {x : Except ε α} {f : α → Except ε β} {b : β},
      x >>= f = .ok b ↔ ∃ a, x = .ok a ∧ f a = .ok b) ∧
    (∀ {ε α : Type} {a b : α}, (pure a : Except ε α) = .ok b ↔ a = b) ∧
    (∀ {condition message u}, require condition message = .ok u ↔ condition = true) ∧
    (∀ {fields complaint keys u},
      requireTexts fields complaint keys = .ok u ↔ ∀ key ∈ keys, fields.hasText key = true) ∧
    (∀ {fields key inRange complaint n}, requireInt fields key inRange complaint = .ok n ↔
      PyValue.get fields key = .int n ∧ inRange n = true) ∧
    (∀ {complaint conditions u},
      requireEach complaint conditions = .ok u ↔ ∀ c ∈ conditions, c.2 = true) ∧
    (∀ {α : Type} {complaint} {x : Except PyError α} {a},
      rewrap complaint x = .ok a ↔ x = .ok a) ∧
    ∀ {α : Type} {stored : Option α} {complaint x},
      requireStored stored complaint = .ok x ↔ stored = some x :=
  ⟨bind_eq_ok, pure_eq_ok, require_eq_ok, requireTexts_eq_ok, requireInt_eq_ok, requireEach_eq_ok,
    rewrap_eq_ok, requireStored_eq_ok⟩

/-- The `finalized_operation_ids` argument; `none` falls back to the registry. -/
abbrev FinalizedIds := Option (List String)

def requireFinalizedOperation (L : LedgerState) (operationId : String) (finalized : FinalizedIds)
    (complaint : String) : Except PyError LedgerOperationRecord := do
  match finalized with
  | some ids => require (ids.contains operationId) complaint
  | none => require (L.finalizedOperationRegistry.contains operationId) complaint
  match L.operationById operationId with
  | some operation => return operation
  | none => raiseValue complaint

def requireFinalizedDependency (L : LedgerState) (operationId expectedOperationType : String)
    (finalized : FinalizedIds) (complaint : String) : Except PyError LedgerOperationRecord := do
  let operation ← requireFinalizedOperation L operationId finalized complaint
  require (operation.operationType == expectedOperationType) complaint
  return operation

def requireFundingPredecessor (L : LedgerState) (operationId : String)
    (funding : SessionFundingAccount) (finalized : FinalizedIds) (references : List String)
    (complaint : String) : Except PyError Unit := do
  let operation ← requireFinalizedOperation L operationId finalized complaint
  require (["SESSION_ESCROW_LOCK", "SESSION_ESCROW_EXTEND", "SESSION_ESCROW_RELEASE"].contains
    operation.operationType) complaint
  require (references.contains operationId) complaint
  -- a lock carries the account as its payload, the other two carry it as a member
  let previous : Fields :=
    if operation.operationType = "SESSION_ESCROW_LOCK" then operation.payload
    else
      match PyValue.get operation.payload "funding" with
      | .dict members => members
      | _ => []
  require (PyValue.get previous "session_id" = .str funding.sessionId) complaint
  require (PyValue.get previous "funding_state_hash" = .str funding.fundingStateHash) complaint

end AidnSpec.Ledger
