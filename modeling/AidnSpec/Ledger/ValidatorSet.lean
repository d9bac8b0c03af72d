import AidnSpec.Ledger.Wallet

/-!
# The active validator set

`ledger/service.py:154–164, 2628–2908` and the set hash of `consensus/validator_schedule.py:42–52,
172–215`. A schedule is checked against the active set of its admission and recorded; its activation
checks it again, against the active set of that moment, and returns the updates for CometBFT.
-/

namespace AidnSpec.Ledger

open Base

/-- The bytes of an Ed25519 public key; `subject` is what the exceptions call the key. -/
def decodeEd25519PublicKey (subject : String) (value : PyValue) : Except PyError Bytes :=
  match value with
  | .str s =>
    if "ed25519:".toList.isPrefixOf s.toList then
      match b64Decode (String.ofList (removePre "ed25519:".toList s.toList)) with
      | some decoded =>
        if decoded.length = 32 then .ok decoded
        else raiseValue (subject ++ " public key must contain 32 bytes")
      | none => raiseValue (subject ++ " public key is invalid")
    else raiseValue (subject ++ " public key must use ed25519 encoding")
  | _ => raiseValue (subject ++ " public key must use ed25519 encoding")

def decodeConsensusPublicKey : PyValue → Except PyError Bytes :=
  decodeEd25519PublicKey "validator consensus"

/-- `_validate_ed25519_public_key`. -/
def validateEd25519PublicKey (value : PyValue) : Except PyError Unit := do
  let _ ← decodeEd25519PublicKey "validator candidate" value

/-- `str(entry["consensus_public_key"])`. -/
def consensusKey (entry : Fields) : String := entry.text "consensus_public_key"

/-! ## The hash of a set -/

/-- The members of one entry that the set hash covers. -/
structure ValidatorIdentity where
  nodeId : String
  operatorId : String
  consensusAddress : String
  consensusPublicKey : String
  stake : Int
  votingPower : Int
  deriving DecidableEq

/-- One normalized entry. -/
def ValidatorIdentity.toValue (v : ValidatorIdentity) : PyValue :=
  .dict
    [("node_id", .str v.nodeId), ("operator_id", .str v.operatorId), ("consensus_address",
      .str v.consensusAddress), ("consensus_public_key", .str v.consensusPublicKey), ("stake",
      .int v.stake), ("voting_power", .int v.votingPower)]

/-- The loop of `compute_validator_set_hash` over the entries: node ids and public keys occur
once. -/
def readIdentities (seen : List ValidatorIdentity) :
    List Fields → Except PyError (List ValidatorIdentity)
  | [] => .ok seen.reverse
  | entry :: rest => do
    requireTexts entry "validator set field is invalid: "
      ["node_id", "operator_id", "consensus_address", "consensus_public_key"]
    validateEd25519PublicKey (PyValue.get entry "consensus_public_key")
    require (!seen.any fun v =>
      v.nodeId == entry.text "node_id" || v.consensusPublicKey == consensusKey entry)
      "validator set identities are not unique"
    let stake ← requireInt entry "stake" (0 < ·) "validator set field is invalid: stake"
    let votingPower ← requireInt entry "voting_power" (0 < ·)
      "validator set field is invalid: voting_power"
    readIdentities
      (⟨entry.text "node_id", entry.text "operator_id", entry.text "consensus_address",
        consensusKey entry, stake, votingPower⟩ :: seen) rest

/-- The hash of normalized entries. -/
def identitiesHash (vs : List ValidatorIdentity) : String :=
  canonicalHash
    (.list ((vs.mergeSort fun a b => a.nodeId ≤ b.nodeId).map ValidatorIdentity.toValue))

def computeValidatorSetHash (entries : List Fields) : Except PyError String := do
  let vs ← readIdentities [] entries
  return identitiesHash vs

/-! ## Reading a schedule -/

structure MembershipChange where
  additions : List (String × Fields)
  removals : List String
  powerUpdates : List (String × Int)

def entryNode (label : String) (entry : PyValue) : Except PyError (String × Fields) := do
  match entry with
  | .dict fields =>
    require (Fields.hasText fields "node_id") (label ++ " node_id is invalid")
    return (Fields.text fields "node_id", fields)
  | _ => raiseValue (label ++ " entry is invalid")

def readAddition (entry : PyValue) : Except PyError (String × Fields) := do
  let (nodeId, fields) ← entryNode "validator addition" entry
  requireTexts fields "validator addition field is invalid: "
    ["operator_id", "consensus_address", "consensus_public_key"]
  let _ ← decodeConsensusPublicKey (PyValue.get fields "consensus_public_key")
  let _ ← requireInt fields "stake" (0 < ·) "validator addition field is invalid: stake"
  let _ ← requireInt fields "voting_power" (0 < ·)
    "validator addition field is invalid: voting_power"
  return (nodeId, fields)

def readRemoval (entry : PyValue) : Except PyError String := do
  let (nodeId, _) ← entryNode "validator removal" entry
  return nodeId

def readPowerUpdate (entry : PyValue) : Except PyError (String × Int) := do
  let (nodeId, fields) ← entryNode "validator voting-power update" entry
  let power ← requireInt fields "voting_power" (0 < ·) "validator voting-power update is invalid"
  return (nodeId, power)

/-- A member that must be a list. -/
def requireList (fields : Fields) (key complaint : String) : Except PyError (List PyValue) :=
  match PyValue.get fields key with
  | .list items => .ok items
  | _ => raiseValue complaint

/-- The membership change of a payload; no node is named twice. -/
def readChange (payload : Fields) : Except PyError MembershipChange := do
  let additions ← requireList payload "validator_additions" "validator additions must be a list"
  let removals ← requireList payload "validator_removals" "validator removals must be a list"
  let powerUpdates ← requireList payload "voting_power_updates"
    "validator voting-power updates must be a list"
  require (!(additions.isEmpty && removals.isEmpty && powerUpdates.isEmpty))
    "validator set update cannot be empty"
  let additions ← additions.mapM readAddition
  let removals ← removals.mapM readRemoval
  let powerUpdates ← powerUpdates.mapM readPowerUpdate
  require ((additions.map Prod.fst ++ removals ++ powerUpdates.map Prod.fst).Nodup)
    "validator set membership update has overlap"
  return ⟨additions, removals, powerUpdates⟩

/-! ## Applying a change -/

/-- One entry of the updates for CometBFT. -/
structure ValidatorUpdate where
  publicKey : String
  power : Int

/-- The set while a change is applied, and the updates so far. -/
structure Patch where
  active : Dict String Fields
  updates : List ValidatorUpdate

/-- One pass of the loop over the additions. -/
def addValidator (p : Patch) (addition : String × Fields) : Except PyError Patch := do
  require (!p.active.contains addition.1) "validator addition already exists in active set"
  require (!p.active.values.any (consensusKey · == consensusKey addition.2))
    "validator consensus public key is already active"
  return ⟨p.active.set addition.1 addition.2,
    p.updates ++ [⟨consensusKey addition.2, addition.2.int "voting_power"⟩]⟩

/-- One pass of the loop over the removals. -/
def removeValidator (p : Patch) (nodeId : String) : Except PyError Patch := do
  let current ← requireStored (p.active.get? nodeId)
    "validator removal does not target active member"
  return ⟨p.active.erase nodeId, p.updates ++ [⟨consensusKey current, 0⟩]⟩

/-- One pass of the loop over the voting-power updates. -/
def updatePower (p : Patch) (update : String × Int) : Except PyError Patch := do
  let current ← requireStored (p.active.get? update.1)
    "validator voting-power update does not target active member"
  return ⟨p.active.set update.1 (setMember current "voting_power" (.int update.2)),
    p.updates ++ [⟨consensusKey current, update.2⟩]⟩

/-- The three loops that both the validation and the activation run. -/
def patchActive (active : Dict String Fields) (change : MembershipChange) :
    Except PyError Patch := do
  let p ← change.additions.foldlM addValidator ⟨active, []⟩
  let p ← change.removals.foldlM removeValidator p
  change.powerUpdates.foldlM updatePower p

def validatorSetUpdateCommitment (L : LedgerState) (activationEpoch : Int) :
    Option LedgerOperationRecord :=
  L.operations.reverse.find? fun operation =>
    operation.operationType == "CONSENSUS_VALIDATOR_SET_UPDATE" &&
      valueEqInt (PyValue.get operation.payload "activation_epoch") activationEpoch

/-- The checks of `validate_consensus_validator_set_update` that read the envelope only: the
activation epoch and the change. -/
def readSchedule (env : Envelope) : Except PyError (Int × MembershipChange) := do
  require (env.operationType == "CONSENSUS_VALIDATOR_SET_UPDATE")
    "consensus validator set update requires CONSENSUS_VALIDATOR_SET_UPDATE"
  require (env.originType == .protocol && env.senderWallet.isNone)
    "validator set update requires protocol origin"
  let payload := env.payload
  let activationEpoch ← requireInt payload "activation_epoch" (0 ≤ ·)
    "validator set activation epoch is invalid"
  require (targetEpochMatches env activationEpoch)
    "validator set target epoch does not match payload"
  requireTexts payload "validator set field is invalid: "
    ["validator_set_hash", "eligibility_evidence_root"]
  let change ← readChange payload
  return (activationEpoch, change)

/-- `validate_consensus_validator_set_update`: the activation epoch and the change. -/
def validateValidatorSetUpdate (env : Envelope) (rejectExisting : Bool) (L : LedgerState) :
    Except PyError (Int × MembershipChange) := do
  let (activationEpoch, change) ← readSchedule env
  require (!(rejectExisting && (validatorSetUpdateCommitment L activationEpoch).isSome))
    "validator set update is already committed for activation epoch"
  let future ← patchActive L.activeValidatorSet change
  let expected ← computeValidatorSetHash future.active.values
  require (env.payload.text "validator_set_hash" == expected)
    "validator set hash does not match final Validator Set"
  return (activationEpoch, change)

/-- `apply_consensus_validator_set_update`. -/
def applyValidatorSetUpdate (env : Envelope) : LedgerM LedgerOperationRecord :=
  recordOnly (validateValidatorSetUpdate env true) ["ValidatorSetUpdateScheduled"] env

/-- `LedgerOperationEnvelope.model_validate(record)`: the record keeps every field of the
envelope that was recorded. -/
def LedgerOperationRecord.toEnvelope (r : LedgerOperationRecord) : Envelope where
  operationType := r.operationType
  operationVersion := r.operationVersion
  protocolVersion := r.protocolVersion
  originType := r.originType
  initiatorId := r.initiatorId
  senderWallet := r.senderWallet
  senderSequence := r.senderSequence
  feePayer := r.feePayer
  feeClass := r.feeClass
  createdAt := r.createdAt
  expiresAt := r.expiresAt
  targetEpoch := r.targetEpoch
  payload := r.payload
  evidenceReferences := r.evidenceReferences
  signatures := r.signatures
  operationId := r.operationId

/-- The order of the returned updates: by public key, then by power. -/
def ValidatorUpdate.le (a b : ValidatorUpdate) : Bool :=
  a.publicKey < b.publicKey || (a.publicKey == b.publicKey && a.power ≤ b.power)

/-- `activate_consensus_validator_set_update`. -/
def activateValidatorSetUpdate (activationEpoch : Int) (finalized : List String)
    (L : LedgerState) : Except PyError (List ValidatorUpdate × LedgerState) := do
  require (0 ≤ activationEpoch) "validator set activation epoch is invalid"
  if L.activatedValidatorSetEpochs.contains activationEpoch then return ([], L)
  match validatorSetUpdateCommitment L activationEpoch with
  | none => return ([], L)
  | some scheduled =>
    require (finalized.contains scheduled.operationId)
      "validator set schedule is not finalized"
    let (_, change) ← validateValidatorSetUpdate scheduled.toEnvelope false L
    let patch ← patchActive L.activeValidatorSet change
    return (patch.updates.mergeSort ValidatorUpdate.le, { L with
      activeValidatorSet := patch.active.sortKeys (· ≤ ·)
      activeValidatorSetEpoch := some activationEpoch
      activatedValidatorSetEpochs := activationEpoch :: L.activatedValidatorSetEpochs })

end AidnSpec.Ledger
