import AidnSpec.Ledger.Schedules

/-!
# Building validator schedules

`consensus/validator_schedule.py:55–138, 218–278, 356–620`: candidates, the selection parameters,
the deterministic selection and the schedule that commits to it. The schedule names the difference
between the selected candidates and an active set; its set hash is computed from the candidates
alone.
-/

namespace AidnSpec.Consensus

open Base Ledger

/-- `ValidatorCandidate`, with what its field validators guarantee. -/
structure ValidatorCandidate where
  nodeId : String
  participantId : Option String := none
  operatorId : String
  consensusAddress : String
  consensusPublicKey : String
  stake : Int
  kcgId : Option String := none
  eligible : Bool := true
  texts : ∀ t ∈ [nodeId, operatorId, consensusAddress, consensusPublicKey], isBlank t = false
  validKey : validateEd25519PublicKey (.str consensusPublicKey) = .ok ()
  staked : 0 < stake
  validParticipant : ∀ p, participantId = some p → isBlank p = false
  deriving DecidableEq

/-- `ValidatorScheduleConfig` of a `ValidatorScheduleBuilder`, whose constructor refuses a
retained fraction above one. -/
structure ValidatorScheduleConfig where
  targetValidatorCount : Nat
  minimumStake : Int
  maxValidatorsPerKcg : Nat
  retainedActiveFractionNumerator : Nat
  retainedActiveFractionDenominator : Nat
  equalVotingPower : Int
  target_pos : 0 < targetValidatorCount
  stake_pos : 0 < minimumStake
  group_pos : 0 < maxValidatorsPerKcg
  denominator_pos : 0 < retainedActiveFractionDenominator
  power_pos : 0 < equalVotingPower
  fraction_le : retainedActiveFractionNumerator ≤ retainedActiveFractionDenominator

/-! ## Suspensions -/

/-- One record of the suspension state, checked and completed. -/
def suspensionEntry (targetId : String) (record : PyValue) : Except PyError PyValue := do
  require (!isBlank targetId) "participant suspension state is invalid"
  match record with
  | .dict fields =>
    require ((fields.lookup "target_id").getD (.str targetId) == .str targetId)
      "participant suspension target ID is inconsistent"
    match PyValue.get fields "state" with
    | .str state =>
      require (state == "ACTIVE" || state == "SUSPENDED") "participant suspension state is invalid"
    | .list _ => raiseType "unhashable type: 'list'"
    | .dict _ => raiseType "unhashable type: 'dict'"
    | _ => raiseValue "participant suspension state is invalid"
    let effective := (fields.lookup "effective_epoch").getD (.int 0)
    let recovery := (fields.lookup "minimum_recovery_epoch").getD (.int 0)
    require (match effective, recovery with
      | .int e, .int r => 0 ≤ e && e ≤ r
      | _, _ => false) "participant suspension epochs are invalid"
    return .dict (setMember fields "target_id" (.str targetId))
  | _ => raiseValue "participant suspension state is invalid"

def computeParticipantSuspensionRoot (suspensions : Dict String PyValue) :
    Except PyError String := do
  let entries ← (suspensions.sortKeys (· ≤ ·)).entries.mapM fun e => suspensionEntry e.1 e.2
  return canonicalHash (.list entries)

/-- `_suspended_participants`, of a state that passed its check. -/
def suspendedParticipants (suspensions : Dict String PyValue) (activationEpoch : Int) :
    List String :=
  (suspensions.entries.filter fun e =>
    match e.2 with
    | .dict fields =>
      PyValue.get fields "state" == .str "SUSPENDED" &&
        match (fields.lookup "effective_epoch").getD (.int 0) with
        | .int epoch => epoch ≤ activationEpoch
        | _ => false
    | _ => false).map Prod.fst

/-! ## Selection -/

namespace ValidatorCandidate

def groupKey (c : ValidatorCandidate) : String :=
  match c.kcgId with
  | some group => if group.isEmpty then "independent:" ++ c.nodeId else group
  | none => "independent:" ++ c.nodeId

/-- `_participant_id`. -/
def participant (c : ValidatorCandidate) : String :=
  match c.participantId with
  | some p => if p.isEmpty then c.nodeId else p
  | none => c.nodeId

/-- The entry that a schedule commits to for a candidate. -/
def entry (c : ValidatorCandidate) (votingPower : Int) : Fields :=
  [("node_id", .str c.nodeId), ("operator_id", .str c.operatorId), ("consensus_address",
    .str c.consensusAddress), ("consensus_public_key", .str c.consensusPublicKey), ("stake",
    .int c.stake), ("voting_power", .int votingPower)]

end ValidatorCandidate

def selectionRank (selectionSeed nodeId : String) : Bytes :=
  sha256 (selectionSeed ++ ":" ++ nodeId).toUTF8.toList

/-- The order of candidates: by rank, then by node id. -/
def rankLe (selectionSeed : String) (a b : ValidatorCandidate) : Bool :=
  let ra := selectionRank selectionSeed a.nodeId
  let rb := selectionRank selectionSeed b.nodeId
  ra < rb || (ra == rb && a.nodeId ≤ b.nodeId)

/-- The selected candidates and how many each group has. -/
structure Selection where
  selected : List ValidatorCandidate := []
  groupCounts : Dict String Nat := .empty

def Selection.take (s : Selection) (maxPerGroup : Nat) (c : ValidatorCandidate) : Selection :=
  let count := (s.groupCounts.get? c.groupKey).getD 0
  if maxPerGroup ≤ count then s
  else ⟨s.selected ++ [c], s.groupCounts.set c.groupKey (count + 1)⟩

def retainIncumbents (limit maxPerGroup : Nat) (incumbents : List ValidatorCandidate) :
    Selection :=
  incumbents.foldl (fun s c => if limit ≤ s.selected.length then s else s.take maxPerGroup c) {}

def fillSelection (target maxPerGroup : Nat) (s : Selection) (ordered : List ValidatorCandidate) :
    Selection :=
  ordered.foldl (fun s c =>
    if target ≤ s.selected.length then s
    else if c ∈ s.selected then s
    else s.take maxPerGroup c) s

/-- How many incumbents are retained at most. -/
def retentionLimit (config : ValidatorScheduleConfig) (incumbents : Nat) : Nat :=
  let fraction := config.targetValidatorCount * config.retainedActiveFractionNumerator /
    config.retainedActiveFractionDenominator
  min incumbents
    (if 0 < config.retainedActiveFractionNumerator then max 1 fraction else fraction)

/-- The selected candidates in the order of their node ids. -/
def selectCandidates (config : ValidatorScheduleConfig) (candidates : List ValidatorCandidate)
    (active : Dict String Fields) (activationEpoch : Int) (selectionSeed : String)
    (suspensions : Dict String PyValue) : List ValidatorCandidate :=
  let suspended := suspendedParticipants suspensions activationEpoch
  let eligible := candidates.filter fun c =>
    c.eligible && config.minimumStake ≤ c.stake && !suspended.contains c.participant
  let ordered := eligible.mergeSort (rankLe selectionSeed)
  let incumbents := ordered.filter fun c => active.contains c.nodeId
  let retained := retainIncumbents (retentionLimit config incumbents.length)
    config.maxValidatorsPerKcg incumbents
  (fillSelection config.targetValidatorCount config.maxValidatorsPerKcg retained
    ordered).selected.mergeSort fun a b => a.nodeId ≤ b.nodeId

/-! ## The schedule -/

/-- The loop of `build_schedule` over the candidates: node ids and keys occur once. -/
def requireDistinct (seen : List ValidatorCandidate) :
    List ValidatorCandidate → Except PyError Unit
  | [] => .ok ()
  | c :: rest => do
    require (!seen.any (·.nodeId == c.nodeId)) "validator candidate node IDs are not unique"
    require (!seen.any (·.consensusPublicKey == c.consensusPublicKey))
      "validator candidate public keys are not unique"
    requireDistinct (c :: seen) rest

def validateActiveSnapshot (seen : List String) : List (String × Fields) → Except PyError Unit
  | [] => .ok ()
  | (nodeId, entry) :: rest => do
    require (!isBlank nodeId) "active validator snapshot is invalid"
    match PyValue.get entry "consensus_public_key" with
    | .str key =>
      validateEd25519PublicKey (.str key)
      require (!seen.contains key) "active validator snapshot public keys are invalid"
      let _ ← requireInt entry "voting_power" (0 < ·)
        "active validator snapshot voting power is invalid"
      validateActiveSnapshot (key :: seen) rest
    | _ => raiseValue "active validator snapshot public keys are invalid"

structure ValidatorSchedule where
  activationEpoch : Int
  selectedCandidates : List ValidatorCandidate
  selectedNodeIds : List String
  retainedNodeIds : List String
  payload : Fields

section Difference

variable (config : ValidatorScheduleConfig) (selected : List ValidatorCandidate)
  (active : Dict String Fields)

/-- The selected candidates that are not active. -/
def addedCandidates : List ValidatorCandidate :=
  selected.filter fun c => !active.contains c.nodeId

/-- The active nodes that are not selected. -/
def removedNodes : List String :=
  (active.keys.filter fun n => !selected.any (·.nodeId == n)).mergeSort (· ≤ ·)

/-- The selected candidates whose active entry has another voting power. -/
def repoweredCandidates : List ValidatorCandidate :=
  selected.filter fun c =>
    match active.get? c.nodeId with
    | some entry => entry.int "voting_power" != config.equalVotingPower
    | none => false

end Difference

/-- Distinct non-empty texts in order: `sorted({text for text in texts if text})`. -/
def sortedTexts (texts : List String) : List String :=
  (texts.filter (!·.isEmpty)).dedup.mergeSort (· ≤ ·)

def ValidatorSchedule.toEnvelope (s : ValidatorSchedule) (createdAt : String)
    (expiresAt : Option String) (initiatorId protocolVersion : String)
    (evidenceReferences signatures : List String) : Envelope :=
  let env : Envelope :=
    { operationType := "CONSENSUS_VALIDATOR_SET_UPDATE"
      operationVersion := "1.0.0"
      protocolVersion := protocolVersion
      originType := .protocol
      initiatorId := some initiatorId
      createdAt := createdAt
      expiresAt := expiresAt
      targetEpoch := some (toString s.activationEpoch)
      payload := s.payload
      evidenceReferences := sortedTexts
        (s.payload.text "eligibility_evidence_root" ::
          s.payload.text "participant_suspension_root" :: evidenceReferences)
      signatures := sortedTexts signatures
      operationId := "" }
  { env with operationId := env.computeOperationId }

def buildSchedule (config : ValidatorScheduleConfig) (candidates : List ValidatorCandidate)
    (active : Dict String Fields) (activationEpoch : Int)
    (selectionSeed eligibilityEvidenceRoot : String) (suspensions : Dict String PyValue) :
    Except PyError ValidatorSchedule := do
  require (0 ≤ activationEpoch) "validator schedule activation epoch is invalid"
  require (!isBlank selectionSeed) "validator selection seed is required"
  require (!isBlank eligibilityEvidenceRoot) "validator eligibility evidence root is required"
  requireDistinct [] candidates
  let suspensionRoot ← computeParticipantSuspensionRoot suspensions
  validateActiveSnapshot [] active.entries
  let selected := selectCandidates config candidates active activationEpoch selectionSeed
    suspensions
  require (!selected.any fun c => active.entries.any fun e =>
      consensusKey e.2 == c.consensusPublicKey && e.1 != c.nodeId)
    "validator consensus public key is already active"
  let validatorSetHash ←
    computeValidatorSetHash (selected.map (·.entry config.equalVotingPower))
  return {
    activationEpoch := activationEpoch
    selectedCandidates := selected
    selectedNodeIds := selected.map (·.nodeId)
    retainedNodeIds := ((selected.filter fun c => active.contains c.nodeId).map
      (·.nodeId)).mergeSort (· ≤ ·)
    payload :=
      [("activation_epoch", .int activationEpoch),
        ("candidate_selection_seed", .str selectionSeed),
        ("validator_additions", .list ((addedCandidates selected active).map fun c =>
          .dict (c.entry config.equalVotingPower))),
        ("validator_removals", .list ((removedNodes selected active).map fun n =>
          .dict [("node_id", .str n)])),
        ("voting_power_updates", .list ((repoweredCandidates config selected active).map fun c =>
          .dict [("node_id", .str c.nodeId), ("voting_power", .int config.equalVotingPower)])),
        ("validator_set_hash", .str validatorSetHash),
        ("eligibility_evidence_root", .str eligibilityEvidenceRoot),
        ("participant_suspension_root", .str suspensionRoot)] }

end AidnSpec.Consensus
