import AidnSpec.Base.Runs
import AidnSpec.Registry.FailureReport
import AidnSpec.Registry.SegmentTree

/-!
# Observations that peers deliver

The part of `registry/replicator.py` that issues challenges, keeps the observations that peers
deliver, and reports a challenge that was not answered. Observations are kept as they come: a report
is built of all of them, or none is.
-/

namespace AidnSpec.Registry

open Base NonResponseConfirmationEngine RegistryNonResponseObservation List

/-! ## Reports of the engine -/

namespace NonResponseConfirmationEngine

variable {engine : NonResponseConfirmationEngine} {challenge : RegistryChallenge}
  {request : RegistryRequestEvidence} {observations : List RegistryNonResponseObservation}
  {groups : List (String × String)} {minimum : Int} {createdAt : PyFloat}
  {report : RegistryFailureReport} {signer : Bytes → String}

theorem buildFailureReport_eq_ok (hsigner : engine.signer = some signer) :
    engine.buildFailureReport challenge request observations groups minimum createdAt =
        .ok report ↔
      EvidenceRules challenge request observations groups minimum ∧
        hasEd25519Prefix (signer (canonicalBytes (engine.unsignedReport challenge request
          observations createdAt).signedFields)) = true ∧
        report = { engine.unsignedReport challenge request observations createdAt with
          signatures := [(engine.registryId, signer (canonicalBytes (engine.unsignedReport challenge
            request observations createdAt).signedFields))] } := by
  rw [← validateEvidence_valid]
  unfold buildFailureReport
  rw [hsigner]
  dsimp only
  constructor
  · intro h
    split_ifs at h with hinvalid hmarked
    · cases h
    · cases h
      exact ⟨by simpa using hinvalid, hmarked, rfl⟩
    · cases h
  · rintro ⟨hvalid, hmarked, rfl⟩
    rw [hvalid, if_neg (by simp), if_pos hmarked]

/-- Evidence that breaks a rule raises. -/
theorem buildFailureReport_refuses (createdAt : PyFloat) (hsigner : engine.signer = some signer)
    (h : ¬ EvidenceRules challenge request observations groups minimum) :
    ∃ reason, engine.buildFailureReport challenge request observations groups minimum createdAt =
      raiseValue reason := by
  rw [← validateEvidence_valid, Bool.not_eq_true] at h
  unfold buildFailureReport
  rw [hsigner]
  simp [h]

/-- The observations of a report are read as they were. -/
theorem mapM_modelValidate [Runtime] [FloatRuntime] (drawn : ℕ → DrawnIds)
    (xs : List RegistryNonResponseObservation) (k : ℕ) :
    ((xs.map (·.toFields)).zipIdx k).mapM (fun item =>
      modelValidate item.1 (drawn (item.2 + 1))) = some xs := by
  induction xs generalizing k with
  | nil => rfl
  | cons x xs ih =>
    rw [map_cons, zipIdx_cons, mapM_cons, ih]
    simp

theorem evidence_of_report [Runtime] [FloatRuntime] (drawn : ℕ → DrawnIds)
    (hrequest : report.requestEvidence = request.toFields)
    (hobservations : report.confirmationEvidence = observations.map (·.toFields)) :
    report.evidence drawn = some (request, observations) := by
  rw [RegistryFailureReport.evidence, hrequest, hobservations, mapM_modelValidate]
  simp

/-- Sorting observations of distinct observers twice sorts them once. -/
theorem sorted_sorted (hdistinct : (observations.map (·.observerId)).Nodup) :
    sorted (sorted observations) =
      sorted observations := by
  have hkeys : (observations.map sortKey).Nodup := by
    apply List.Nodup.of_map (fun key : String ×ₗ String => (ofLex key).1)
    rw [map_map]
    have hval := hdistinct.map Subtype.val_injective
    rw [map_map] at hval
    exact hval
  symm
  apply mergeSort_eq_of_perm _ hkeys
  exact (mergeSort_perm observations _).symm

variable {keys : List (String × String)}

/-- A report whose evidence is validly signed is accepted by whoever knows the keys. -/
theorem verify_built [Runtime] [FloatRuntime] {key : String}
    (hsigner : engine.signer = some signer) (hkey : keys.lookup engine.registryId.val = some key)
    (hsigns : Signs signer key)
    (hbuilt : engine.buildFailureReport challenge request observations groups minimum createdAt =
      .ok report)
    (hrequest : signatureHolds keys request.challengerId request.challengerSignature
      (canonicalBytes request.signedFields) = true)
    (hobservations : ∀ item ∈ observations, ValidlySigned keys item) (drawn : ℕ → DrawnIds) :
    (verifyFailureReport challenge report keys groups minimum drawn).valid = true := by
  obtain ⟨hrules, -, rfl⟩ := (buildFailureReport_eq_ok hsigner).mp hbuilt
  have hperm : observations.Perm (sorted observations) :=
    (mergeSort_perm observations _).symm
  rw [verifyFailureReport_valid]
  refine ⟨request, sorted observations, evidence_of_report drawn rfl rfl, ?_⟩
  constructor
  · exact hrules.perm hperm
  · rfl
  · rfl
  · rfl
  · rfl
  · exact hrequest
  · intro item hitem
    exact hobservations item (hperm.mem_iff.mpr hitem)
  · rw [sorted_sorted hrules.distinct]
    rfl
  · rfl
  · rfl
  · rw [sorted_sorted hrules.distinct]
    rfl
  · have hholds := hsigns.holds hkey (canonicalBytes (engine.unsignedReport challenge request
      observations createdAt).signedFields)
    dsimp only
    rw [show (engine.unsignedReport challenge request observations createdAt).reportSignerId =
      engine.registryId from rfl, lookup_cons_self]
    exact hholds

/-- The evidence of a report is read as it was built. -/
theorem evidence_of_built [Runtime] [FloatRuntime] (hsigner : engine.signer = some signer)
    (hbuilt : engine.buildFailureReport challenge request observations groups minimum createdAt =
      .ok report) (drawn : ℕ → DrawnIds) :
    report.evidence drawn = some (request, sorted observations) := by
  obtain ⟨-, -, hmade⟩ := (buildFailureReport_eq_ok hsigner).mp hbuilt
  rw [hmade]
  exact evidence_of_report drawn rfl rfl

/-- A report over an observation that is not validly signed is rejected. -/
theorem verify_built_unsigned [Runtime] [FloatRuntime] (hsigner : engine.signer = some signer)
    (hbuilt : engine.buildFailureReport challenge request observations groups minimum createdAt =
      .ok report)
    {item : RegistryNonResponseObservation} (hitem : item ∈ observations)
    (hunsigned : ¬ ValidlySigned keys item) (drawn : ℕ → DrawnIds) :
    (verifyFailureReport challenge report keys groups minimum drawn).valid = false := by
  rw [← Bool.not_eq_true, verifyFailureReport_valid, evidence_of_built hsigner hbuilt]
  rintro ⟨request', observations', hevidence, hreport⟩
  cases hevidence
  apply hunsigned
  apply hreport.observationsSigned
  exact mem_mergeSort.mpr hitem

end NonResponseConfirmationEngine

/-! ## The replicator -/

/-- The fields of `ReplicationState` that challenges and reports write. -/
structure ReplicationState where
  lastProofChallengeId : Option String := none
  lastProofStatus : Option String := none
  lastFailureReportId : Option String := none
  lastFailureStatus : Option String := none
  error : Option String := none

/-- `RegistryReplicator`, what challenges and reports use of it. -/
structure RegistryReplicator where
  nodeId : FilledText
  proofSigner : Option (Bytes → String) := none
  failureSigner : Option (Bytes → String) := none
  peerStates : Dict String ReplicationState := Dict.empty
  proofChallenges : Dict String RegistryChallenge := Dict.empty
  requestEvidence : Dict String RegistryRequestEvidence := Dict.empty
  nonResponseObservations : Dict String (List RegistryNonResponseObservation) := Dict.empty
  failureReports : Dict String RegistryFailureReport := Dict.empty

/-- The arguments of `issue_proof_challenge`. -/
structure ChallengeCall where
  peerId : FilledText
  targetSegmentId : Option String := none
  challengeType : String := "completeness"
  responseTimeoutSeconds : PyFloat := .finite "300.0" 300
  challengeNonce : Option FilledText := none

/-- What `issue_proof_challenge` reads and draws: whether the peer is rejected, the root of its
inventory manifest when there is one that verifies, the clock, and ids. -/
structure ChallengeReadings where
  rejected : Bool := false
  inventoryRoot : Option FilledText
  issuedAt : PyFloat
  countedFrom : PyFloat
  sentAt : PyFloat
  challengeId : FilledText
  nonce : FilledText
  evidenceId : FilledText

namespace RegistryReplicator

variable (s : RegistryReplicator)

/-- `_failure`. -/
def engine : NonResponseConfirmationEngine := ⟨s.nodeId, s.failureSigner.or s.proofSigner⟩

/-- The state of a peer, which is created when there is none, is written. -/
def updatePeer (peerId : String) (update : ReplicationState → ReplicationState) :
    RegistryReplicator :=
  { s with peerStates := s.peerStates.set peerId (update ((s.peerStates.get? peerId).getD {})) }

def createChallenge [FloatRuntime] (call : ChallengeCall) (readings : ChallengeReadings)
    (inventoryRoot : FilledText) : Except PyError RegistryChallenge :=
  if call.responseTimeoutSeconds.le (.finite "0.0" 0) then
    raiseValue "response_timeout_seconds must be positive"
  else
    let nonce := call.challengeNonce.getD readings.nonce
    let selector := PyValue.dict [("inventory_root", .str inventoryRoot),
      ("segment_id", optText call.targetSegmentId), ("nonce", .str nonce)]
    .ok {
      challengeId := readings.challengeId
      challengeType := call.challengeType
      targetRegistryId := call.peerId
      targetInventoryRoot := inventoryRoot
      targetSegmentId := call.targetSegmentId
      objectSelector := ⟨jsonDigest selector, isEmpty_jsonDigest selector⟩
      issuedAt := readings.issuedAt
      responseDeadline := FloatRuntime.add readings.countedFrom call.responseTimeoutSeconds
      challengerId := s.nodeId
      challengeNonce := nonce }

/-- The challenge with the signature of the proof signer, when there is one. -/
def signChallenge (challenge : RegistryChallenge) : Except PyError RegistryChallenge :=
  match s.proofSigner with
  | none => .ok challenge
  | some signer =>
    let signature := signer (canonicalBytes challenge.signedFields)
    if hasEd25519Prefix signature then .ok { challenge with challengerSignature := signature }
    else raiseValue "Registry proof signer must return an ed25519 signature"

def issueProofChallenge [FloatRuntime] (call : ChallengeCall) (readings : ChallengeReadings) :
    Except PyError (RegistryChallenge × RegistryReplicator) := do
  require (!readings.rejected) "Registry peer authentication is required"
  match readings.inventoryRoot with
  | none => raiseValue "peer inventory manifest is not available"
  | some inventoryRoot =>
    let challenge ← s.createChallenge call readings inventoryRoot
    let challenge ← s.signChallenge challenge
    let request ← s.engine.createRequestEvidence challenge readings.evidenceId readings.sentAt
    let issued : RegistryReplicator := { s with
      requestEvidence := s.requestEvidence.set challenge.challengeId request
      proofChallenges := s.proofChallenges.set challenge.challengeId challenge }
    .ok (challenge, issued.updatePeer call.peerId fun state => { state with
      lastProofChallengeId := some challenge.challengeId
      lastProofStatus := some "issued" })

def held (challengeId : String) : List RegistryNonResponseObservation :=
  (s.nonResponseObservations.get? challengeId).getD []

/-- `_non_response_observations.setdefault(challenge_id, []).append(observation)`. -/
def keep (observation : RegistryNonResponseObservation) : RegistryReplicator :=
  { s with
    nonResponseObservations := s.nonResponseObservations.set observation.challengeId
      (s.held observation.challengeId ++ [observation]) }

def createNonResponseObservation (challenge : RegistryChallenge) (request : RegistryRequestEvidence)
    (attempt : ObservationAttempt) (drawn : DrawnIds) (now : PyFloat) :
    Except PyError (RegistryNonResponseObservation × RegistryReplicator) := do
  let observation ← s.engine.createObservation request challenge attempt drawn now
  .ok (observation, s.keep observation)

def readObservation [Runtime] [FloatRuntime] (message : PyValue) (drawn : DrawnIds) :
    Option RegistryNonResponseObservation :=
  match message with
  | .dict fields => modelValidate fields drawn
  | _ => none

def handleNonResponseObservation [Runtime] [FloatRuntime] (peerId : String) (message : PyValue)
    (drawn : DrawnIds) : Bool × RegistryReplicator :=
  match readObservation message drawn with
  | none => (false, s.updatePeer peerId fun state => { state with
      lastFailureStatus := some "observation_invalid"
      error := some "non_response_observation_invalid" })
  | some observation =>
    if observation.observerId.val ≠ peerId then
      (false, s.updatePeer peerId fun state => { state with
        lastFailureStatus := some "observation_source_mismatch"
        error := some "non_response_observation_source_mismatch" })
    else
      (true, (s.keep observation).updatePeer peerId fun state => { state with
        lastFailureStatus := some "observation_received" })

/-- What `build_failure_report` writes. -/
def recordReport (challenge : RegistryChallenge) (report : RegistryFailureReport) :
    RegistryReplicator :=
  RegistryReplicator.updatePeer
    { s with failureReports := s.failureReports.set report.reportId report }
    challenge.targetRegistryId fun state => { state with
      lastFailureReportId := some report.reportId
      lastFailureStatus := some "confirmed_non_response" }

def buildFailureReport (challengeId : String) (groups : List (String × String)) (minimum : Int)
    (createdAt : PyFloat) : Except PyError (RegistryFailureReport × RegistryReplicator) :=
  match s.proofChallenges.get? challengeId, s.requestEvidence.get? challengeId with
  | some challenge, some request => do
    let report ← s.engine.buildFailureReport challenge request (s.held challengeId) groups minimum
      createdAt
    .ok (report, s.recordReport challenge report)
  | _, _ => raiseValue "challenge evidence is not available"

end RegistryReplicator

/-! ## Runs -/

/-- What happens at a challenger once it has issued a challenge: a peer delivers a message, it makes
an observation itself, or a report is asked for. -/
inductive ObservationEvent where
  | deliver (peerId : String) (message : PyValue) (drawn : DrawnIds)
  | observe (challenge : RegistryChallenge) (request : RegistryRequestEvidence)
      (attempt : ObservationAttempt) (drawn : DrawnIds) (now : PyFloat)
  | report (challengeId : String) (groups : List (String × String)) (minimum : Int)
      (createdAt : PyFloat)

def ObservationEvent.kept [Runtime] [FloatRuntime] (engine : NonResponseConfirmationEngine) :
    ObservationEvent → Option RegistryNonResponseObservation
  | .deliver peerId message drawn =>
    (RegistryReplicator.readObservation message drawn).filter (·.observerId.val == peerId)
  | .observe challenge request attempt drawn now =>
    (engine.createObservation request challenge attempt drawn now).toOption
  | .report _ _ _ _ => none

namespace RegistryReplicator

section Runs

variable [Runtime] [FloatRuntime] {s s' : RegistryReplicator}

/-- One event; what raises leaves the state as it was. -/
def step (s : RegistryReplicator) : ObservationEvent → RegistryReplicator
  | .deliver peerId message drawn => (s.handleNonResponseObservation peerId message drawn).2
  | .observe challenge request attempt drawn now =>
    match s.createNonResponseObservation challenge request attempt drawn now with
    | .ok created => created.2
    | .error _ => s
  | .report challengeId groups minimum createdAt =>
    match s.buildFailureReport challengeId groups minimum createdAt with
    | .ok built => built.2
    | .error _ => s

omit [Runtime] [FloatRuntime] in
theorem held_keep (observation : RegistryNonResponseObservation) (challengeId : String) :
    (s.keep observation).held challengeId =
      s.held challengeId ++ [observation].filter (·.challengeId.val == challengeId) := by
  unfold held keep
  dsimp only
  rw [Dict.get?_set]
  by_cases hid : challengeId = observation.challengeId.val
  · simp [hid, held]
  · have hne : (observation.challengeId.val == challengeId) = false := by simpa using Ne.symm hid
    simp [hid, hne]

/-- What one event does to the observations; the engine and the evidence stay. -/
structure Extended (s s' : RegistryReplicator)
    (kept : Option RegistryNonResponseObservation) : Prop where
  engine : s'.engine = s.engine
  proofChallenges : s'.proofChallenges = s.proofChallenges
  requestEvidence : s'.requestEvidence = s.requestEvidence
  held : ∀ challengeId, s'.held challengeId =
    s.held challengeId ++ kept.toList.filter (·.challengeId.val == challengeId)

omit [Runtime] [FloatRuntime] in
theorem extended_none (hengine : s'.engine = s.engine)
    (hchallenges : s'.proofChallenges = s.proofChallenges)
    (hevidence : s'.requestEvidence = s.requestEvidence)
    (hobservations : s'.nonResponseObservations = s.nonResponseObservations) :
    Extended s s' none := by
  refine ⟨hengine, hchallenges, hevidence, fun challengeId => ?_⟩
  simp [held, hobservations]

theorem extended_step (event : ObservationEvent) :
    Extended s (step s event) (event.kept s.engine) := by
  cases event with
  | deliver peerId message drawn =>
    rw [step, handleNonResponseObservation, ObservationEvent.kept]
    cases hread : readObservation message drawn with
    | none => exact extended_none rfl rfl rfl rfl
    | some observation =>
      by_cases hpeer : observation.observerId.val = peerId
      · simp only [hpeer, ne_eq, not_true_eq_false, if_false, Option.filter_some, beq_self_eq_true,
          if_true]
        exact ⟨rfl, rfl, rfl, held_keep observation⟩
      · simp only [ne_eq, hpeer, not_false_eq_true, if_true, Option.filter_some, beq_iff_eq,
          if_false]
        exact extended_none rfl rfl rfl rfl
  | observe challenge request attempt drawn now =>
    rw [step, createNonResponseObservation, ObservationEvent.kept]
    cases s.engine.createObservation request challenge attempt drawn now with
    | error e => exact extended_none rfl rfl rfl rfl
    | ok observation => exact ⟨rfl, rfl, rfl, held_keep observation⟩
  | report challengeId groups minimum createdAt =>
    rw [step, ObservationEvent.kept]
    cases hbuilt : s.buildFailureReport challengeId groups minimum createdAt with
    | error e => exact extended_none rfl rfl rfl rfl
    | ok built =>
      unfold buildFailureReport at hbuilt
      split at hbuilt
      · obtain ⟨report, -, hreport⟩ := bind_eq_ok.mp hbuilt
        cases hreport
        exact extended_none rfl rfl rfl rfl
      · cases hbuilt

/-- A run keeps the evidence and appends the observations that are kept, in their order. -/
theorem run_extended (events : List ObservationEvent) :
    (run step s events).engine = s.engine ∧
      (run step s events).proofChallenges = s.proofChallenges ∧
      (run step s events).requestEvidence = s.requestEvidence ∧
      ∀ challengeId, (run step s events).held challengeId = s.held challengeId ++
        (events.filterMap (·.kept s.engine)).filter (·.challengeId.val == challengeId) := by
  induction events generalizing s with
  | nil => simp
  | cons event events ih =>
    obtain ⟨hengine, hchallenges, hevidence, hheld⟩ := extended_step (s := s) event
    obtain ⟨ihengine, ihchallenges, ihevidence, ihheld⟩ := ih (s := step s event)
    rw [run_cons]
    refine ⟨ihengine.trans hengine, ihchallenges.trans hchallenges, ihevidence.trans hevidence,
      fun challengeId => ?_⟩
    rw [ihheld, hheld, hengine, filterMap_cons]
    cases event.kept s.engine with
    | none => simp
    | some observation =>
      by_cases hid : observation.challengeId.val = challengeId
      · simp [hid]
      · simp [hid]

/-! ## Evidence that is signed -/

variable {engine : NonResponseConfirmationEngine} {request : RegistryRequestEvidence}
  {signer : Bytes → String} {observation : RegistryNonResponseObservation}
  {challenge : RegistryChallenge} {keys groups : List (String × String)} {key : String}
  {report : RegistryFailureReport} {minimum : Int}

omit [Runtime] [FloatRuntime] in
theorem signRequest_eq (hsigner : engine.signer = some signer)
    (hmarked : hasEd25519Prefix (signer (canonicalBytes request.signedFields)) = true) :
    engine.signRequest request =
      .ok { request with challengerSignature := signer (canonicalBytes request.signedFields) } := by
  unfold signRequest signedBy
  rw [hsigner]
  dsimp only
  rw [if_pos hmarked]
  rfl

omit [Runtime] [FloatRuntime] in
theorem signObservation_eq (hsigner : engine.signer = some signer)
    (hmarked : hasEd25519Prefix (signer (canonicalBytes observation.signedFields)) = true) :
    engine.signObservation observation = .ok { observation with
      observerSignature := signer (canonicalBytes observation.signedFields) } := by
  unfold signObservation signedBy
  rw [hsigner]
  dsimp only
  rw [if_pos hmarked]
  rfl

omit [FloatRuntime] in
/-- The evidence of the request of a signer is validly signed. -/
theorem request_signed {evidenceId : FilledText} {sentAt : PyFloat}
    (hsigner : engine.signer = some signer) (hkey : keys.lookup engine.registryId.val = some key)
    (hsigns : Signs signer key)
    (h : engine.createRequestEvidence challenge evidenceId sentAt = .ok request) :
    signatureHolds keys request.challengerId request.challengerSignature
      (canonicalBytes request.signedFields) = true := by
  unfold createRequestEvidence at h
  split_ifs at h with hchallenger
  · cases h
  · rw [not_not] at hchallenger
    rw [signRequest_eq hsigner (prefix_of_verifies (hsigns _))] at h
    cases h
    apply hsigns.holds
    rw [← hkey, ← hchallenger]
    rfl

omit [FloatRuntime] in
/-- An observation that a signer makes is validly signed. -/
theorem observation_signed {attempt : ObservationAttempt} {drawn : DrawnIds} {now : PyFloat}
    (hsigner : engine.signer = some signer) (hkey : keys.lookup engine.registryId.val = some key)
    (hsigns : Signs signer key)
    (h : engine.createObservation request challenge attempt drawn now = .ok observation) :
    observation.observerId = engine.registryId ∧ ValidlySigned keys observation := by
  unfold createObservation at h
  simp only [bind_eq_ok, require_eq_ok] at h
  obtain ⟨-, -, -, -, -, -, h⟩ := h
  rw [signObservation_eq hsigner (prefix_of_verifies (hsigns _))] at h
  cases h
  exact ⟨rfl, hsigns.holds hkey _⟩

/-! ## What is reported and believed -/

/-- What a challenger reports of a challenge, and what a verifier makes of it. -/
structure Reports (s : RegistryReplicator) (challenge : RegistryChallenge)
    (request : RegistryRequestEvidence) (keys groups : List (String × String)) (minimum : Int)
    (createdAt : PyFloat) : Prop where
  reported : EvidenceRules challenge request (s.held challenge.challengeId) groups minimum →
    ∃ report reported,
      s.buildFailureReport challenge.challengeId groups minimum createdAt = .ok (report, reported)
  refused : ¬ EvidenceRules challenge request (s.held challenge.challengeId) groups minimum →
    ∃ reason, s.buildFailureReport challenge.challengeId groups minimum createdAt =
      raiseValue reason
  believed : ∀ {report reported}, s.buildFailureReport challenge.challengeId groups minimum
      createdAt = .ok (report, reported) →
    (∀ item ∈ s.held challenge.challengeId, ValidlySigned keys item) →
    ∀ drawn, (verifyFailureReport challenge report keys groups minimum drawn).valid = true

/-- The evidence of a report confirms that a challenge was not answered. -/
structure Confirms (challenge : RegistryChallenge) (request : RegistryRequestEvidence)
    (observations : List RegistryNonResponseObservation) (keys groups : List (String × String))
    (minimum : Int) : Prop where
  sameRequest : request.challengeId = challenge.challengeId ∧
    request.targetRegistryId = challenge.targetRegistryId ∧
    request.targetInventoryRoot = challenge.targetInventoryRoot ∧
    request.responseDeadline.eq challenge.responseDeadline = true
  requestSigned : signatureHolds keys request.challengerId request.challengerSignature
    (canonicalBytes request.signedFields) = true
  signed : ∀ item ∈ observations, ValidlySigned keys item
  quorum : 2 ≤ minimum ∧ minimum ≤ (observations.map (controlGroup groups)).dedup.length
  bound : ∀ item ∈ observations, item.challengeId = challenge.challengeId ∧
    item.targetRegistryId = challenge.targetRegistryId ∧ item.requestHash = request.requestHash

/-- An observation that its observer makes of a request and delivers is kept as it was signed. -/
def KeepsHonest (engine : NonResponseConfirmationEngine) (challenge : RegistryChallenge)
    (request : RegistryRequestEvidence) (keys : List (String × String)) : Prop :=
  ∀ {observer : NonResponseConfirmationEngine} {signer key attempt drawn now observation},
    observer.signer = some signer → keys.lookup observer.registryId.val = some key →
    Signs signer key →
    observer.createObservation request challenge attempt drawn now = .ok observation →
    ValidlySigned keys observation ∧ ∀ fresh, (ObservationEvent.deliver observer.registryId
      (.dict observation.toFields) fresh).kept engine = some observation

theorem keepsHonest (engine : NonResponseConfirmationEngine) (challenge : RegistryChallenge)
    (request : RegistryRequestEvidence) (keys : List (String × String)) :
    KeepsHonest engine challenge request keys := by
  intro observer signer key attempt drawn now observation hsigner hkey hsigns hmade
  obtain ⟨hobserver, hsigned⟩ := observation_signed hsigner hkey hsigns hmade
  refine ⟨hsigned, fun fresh => ?_⟩
  simp [ObservationEvent.kept, readObservation, hobserver]

theorem confirms_of_valid {drawn : ℕ → DrawnIds}
    (h : (verifyFailureReport challenge report keys groups minimum drawn).valid = true) :
    ∃ request observations, report.evidence drawn = some (request, observations) ∧
      Confirms challenge request observations keys groups minimum := by
  obtain ⟨request, observations, hevidence, hreport⟩ := verifyFailureReport_valid.mp h
  have hrules := hreport.rules
  refine ⟨request, observations, hevidence, ?_⟩
  constructor
  · exact ⟨hrules.challengeId, hrules.target, hrules.root, hrules.deadline⟩
  · exact hreport.requestSigned
  · exact hreport.observationsSigned
  · exact ⟨hrules.confirmed, hrules.quorum⟩
  · intro item hitem
    have hbound := hrules.items item hitem
    exact ⟨hbound.challengeId, hbound.target, hbound.requestHash⟩

omit [Runtime] in
/-- What is written when a challenge is issued. -/
theorem of_issueProofChallenge {call : ChallengeCall} {readings : ChallengeReadings}
    (h : s.issueProofChallenge call readings = .ok (challenge, s')) :
    s'.engine = s.engine ∧ s'.proofChallenges.get? challenge.challengeId = some challenge ∧
      ∃ request, s'.requestEvidence.get? challenge.challengeId = some request ∧
        s.engine.createRequestEvidence challenge readings.evidenceId readings.sentAt =
          .ok request := by
  unfold issueProofChallenge at h
  obtain ⟨-, -, h⟩ := bind_eq_ok.mp h
  split at h
  · cases h
  · obtain ⟨draft, -, h⟩ := bind_eq_ok.mp h
    obtain ⟨signed, -, h⟩ := bind_eq_ok.mp h
    obtain ⟨request, hrequest, h⟩ := bind_eq_ok.mp h
    cases h
    exact ⟨rfl, Dict.get?_set_self _ _ _, request, Dict.get?_set_self _ _ _, hrequest⟩

variable (hchallenge : s.proofChallenges.get? challenge.challengeId = some challenge)

include hchallenge

omit [Runtime] [FloatRuntime] in
/-- The report of a challenge whose evidence is there is the report of the engine. -/
theorem buildFailureReport_eq
    (hrequest : s.requestEvidence.get? challenge.challengeId = some request)
    (groups : List (String × String)) (minimum : Int) (createdAt : PyFloat) :
    s.buildFailureReport challenge.challengeId groups minimum createdAt =
      (s.engine.buildFailureReport challenge request (s.held challenge.challengeId) groups minimum
        createdAt).map fun report => (report, s.recordReport challenge report) := by
  unfold buildFailureReport
  rw [hchallenge, hrequest]
  dsimp only
  cases s.engine.buildFailureReport challenge request (s.held challenge.challengeId) groups minimum
    createdAt with
  | error e => rfl
  | ok report => rfl

omit [Runtime] [FloatRuntime] in
theorem engine_built {createdAt : PyFloat}
    (hrequest : s.requestEvidence.get? challenge.challengeId = some request)
    (hbuilt : s.buildFailureReport challenge.challengeId groups minimum createdAt =
      .ok (report, s')) :
    s.engine.buildFailureReport challenge request (s.held challenge.challengeId) groups minimum
      createdAt = .ok report := by
  rw [buildFailureReport_eq hchallenge hrequest] at hbuilt
  cases hreport : s.engine.buildFailureReport challenge request (s.held challenge.challengeId)
      groups minimum createdAt with
  | error e =>
    rw [hreport] at hbuilt
    cases hbuilt
  | ok built =>
    rw [hreport] at hbuilt
    cases hbuilt
    rfl

/-- A challenger whose evidence of a request is validly signed. -/
theorem reports_of_signed (hrequest : s.requestEvidence.get? challenge.challengeId = some request)
    (hsigner : s.engine.signer = some signer)
    (hkey : keys.lookup s.engine.registryId.val = some key) (hsigns : Signs signer key)
    (hsigned : signatureHolds keys request.challengerId request.challengerSignature
      (canonicalBytes request.signedFields) = true)
    (groups : List (String × String)) (minimum : Int) (createdAt : PyFloat) :
    Reports s challenge request keys groups minimum createdAt := by
  have hbuild := buildFailureReport_eq hchallenge hrequest groups minimum createdAt
  constructor
  · intro hrules
    rw [hbuild, (NonResponseConfirmationEngine.buildFailureReport_eq_ok hsigner).mpr
      ⟨hrules, prefix_of_verifies (hsigns _), rfl⟩]
    exact ⟨_, _, rfl⟩
  · intro hrules
    obtain ⟨reason, hrefused⟩ :=
      NonResponseConfirmationEngine.buildFailureReport_refuses createdAt hsigner hrules
    rw [hbuild, hrefused]
    exact ⟨reason, rfl⟩
  · intro report reported hbuilt hall drawn
    have hreport := engine_built hchallenge hrequest hbuilt
    exact NonResponseConfirmationEngine.verify_built hsigner hkey hsigns hreport hsigned hall drawn

omit hchallenge

/-- After a run the observations of a challenge are those that were kept, in their order; they can
be reported when they follow the rules together, and are believed when they are validly signed. A
report that is accepted confirms that the challenge was not answered. -/
def CanBeConfirmed (engine : NonResponseConfirmationEngine) (issued : RegistryReplicator)
    (challenge : RegistryChallenge) (keys groups : List (String × String)) (minimum : Int)
    (createdAt : PyFloat) (events : List ObservationEvent) : Prop :=
  ∃ request, (run step issued events).requestEvidence.get? challenge.challengeId = some request ∧
    (run step issued events).held challenge.challengeId = issued.held challenge.challengeId ++
      (events.filterMap (·.kept engine)).filter
        (·.challengeId.val == challenge.challengeId.val) ∧
    KeepsHonest engine challenge request keys ∧
    Reports (run step issued events) challenge request keys groups minimum createdAt ∧
    ∀ report drawn,
      (verifyFailureReport challenge report keys groups minimum drawn).valid = true →
      ∃ request observations, report.evidence drawn = some (request, observations) ∧
        Confirms challenge request observations keys groups minimum

/-- A challenge that a registry with a signer has issued can be confirmed, whatever is delivered. -/
theorem non_response_confirmed {call : ChallengeCall} {readings : ChallengeReadings}
    {challenge : RegistryChallenge} {issued : RegistryReplicator}
    (hissued : s.issueProofChallenge call readings = .ok (challenge, issued))
    {signer : Bytes → String} (hsigner : s.engine.signer = some signer)
    {keys : List (String × String)} {key : String} (hkey : keys.lookup s.nodeId.val = some key)
    (hsigns : Signs signer key) (groups : List (String × String)) (minimum : Int)
    (createdAt : PyFloat) (events : List ObservationEvent) :
    CanBeConfirmed s.engine issued challenge keys groups minimum createdAt events := by
  obtain ⟨hengine, hchallenge, request, hrequest, hmade⟩ := of_issueProofChallenge hissued
  obtain ⟨hkept, hchallenges, hevidence, hheld⟩ := run_extended (s := issued) events
  have hsigned := request_signed hsigner hkey hsigns hmade
  rw [hengine] at hkept hheld
  rw [← hchallenges] at hchallenge
  rw [← hevidence] at hrequest
  refine ⟨request, hrequest, hheld _, keepsHonest _ _ _ _, ?_, fun report drawn =>
    confirms_of_valid⟩
  rw [← hkept] at hsigner
  apply reports_of_signed hchallenge hrequest hsigner _ hsigns hsigned
  rw [hkept]
  exact hkey

end Runs

/-! ## A challenge in a small network -/

@[reducible] def echoSignatures : Runtime where
  coerceInt _ := none
  fromisoformat _ := none
  ed25519Verify key signature message := signature == key ++ message

@[reducible] def sampleSum : FloatRuntime where
  add _ _ := .finite "400.0" 400
  coerceFloat _ := none
  coerceBool _ := none

def sampleKey (k : UInt8) : String := "ed25519:" ++ hexEncode false [k]

def sampleSigner (k : UInt8) (payload : Bytes) : String :=
  "ed25519:" ++ hexEncode false (k :: payload)

theorem hasEd25519Prefix_append (text : String) : hasEd25519Prefix ("ed25519:" ++ text) = true := by
  rw [hasEd25519Prefix, String.toList_append, isPrefixOf_iff_prefix]
  exact prefix_append _ _

theorem fromHexChars_text (bytes : Bytes) :
    fromHexChars (removePre "ed25519:".toList ("ed25519:" ++ hexEncode false bytes).toList) =
      some bytes := by
  have hmarked := hasEd25519Prefix_append (hexEncode false bytes)
  rw [hasEd25519Prefix] at hmarked
  rw [removePre, if_pos hmarked, String.toList_append, drop_left, hexEncode,
    String.toList_ofList, fromHexChars_hexChars]

theorem signs_sampleSigner (k : UInt8) :
    letI := echoSignatures
    Signs (sampleSigner k) (sampleKey k) := by
  intro payload
  unfold verifyEd25519Signature sampleSigner sampleKey
  rw [hasEd25519Prefix_append, hasEd25519Prefix_append, fromHexChars_text, fromHexChars_text]
  exact beq_self_eq_true (k :: payload)

def filled (text : String) (h : text.isEmpty = false := by decide) : FilledText := ⟨text, h⟩

def sampleKeys : List (String × String) :=
  [("challenger", sampleKey 1), ("first", sampleKey 2), ("second", sampleKey 3),
    ("other", sampleKey 4)]

def sampleReplicator : RegistryReplicator where
  nodeId := filled "challenger"
  proofSigner := some (sampleSigner 1)

def sampleCall : ChallengeCall where
  peerId := filled "target"

def sampleReadings : ChallengeReadings where
  inventoryRoot := some (filled "root")
  issuedAt := .finite "100.0" 100
  countedFrom := .finite "100.0" 100
  sentAt := .finite "100.0" 100
  challengeId := filled "challenge"
  nonce := filled "nonce"
  evidenceId := filled "evidence"

def draftChallenge : RegistryChallenge :=
  let selector := PyValue.dict [("inventory_root", .str "root"), ("segment_id", .none),
    ("nonce", .str "nonce")]
  { challengeId := filled "challenge"
    targetRegistryId := filled "target"
    targetInventoryRoot := filled "root"
    objectSelector := ⟨jsonDigest selector, isEmpty_jsonDigest selector⟩
    issuedAt := .finite "100.0" 100
    responseDeadline := .finite "400.0" 400
    challengerId := filled "challenger"
    challengeNonce := filled "nonce" }

def sampleChallenge : RegistryChallenge :=
  { draftChallenge with
    challengerSignature := sampleSigner 1 (canonicalBytes draftChallenge.signedFields) }

def signedRequest (k : UInt8) (request : RegistryRequestEvidence) : RegistryRequestEvidence :=
  { request with challengerSignature := sampleSigner k (canonicalBytes request.signedFields) }

theorem signatureHolds_signed [Runtime] {k : UInt8} {request : RegistryRequestEvidence}
    (hsigns : Signs (sampleSigner k) (sampleKey k))
    (hkey : sampleKeys.lookup request.challengerId.val = some (sampleKey k)) :
    signatureHolds sampleKeys (signedRequest k request).challengerId
      (signedRequest k request).challengerSignature
      (canonicalBytes (signedRequest k request).signedFields) = true := hsigns.holds hkey _

def sampleRequest : RegistryRequestEvidence :=
  signedRequest 1 (NonResponseConfirmationEngine.requestEvidence sampleChallenge
    (filled "evidence") (.finite "100.0" 100))

def sampleIssued : RegistryReplicator :=
  ({ sampleReplicator with
    requestEvidence := Dict.empty.set "challenge" sampleRequest
    proofChallenges := Dict.empty.set "challenge" sampleChallenge } : RegistryReplicator).updatePeer
      "target" fun state => { state with
        lastProofChallengeId := some "challenge"
        lastProofStatus := some "issued" }

theorem issue_sample :
    letI := sampleSum
    sampleReplicator.issueProofChallenge sampleCall sampleReadings =
      .ok (sampleChallenge, sampleIssued) := by
  have hcreate : @createChallenge sampleReplicator sampleSum sampleCall sampleReadings
      (filled "root") = .ok draftChallenge := by
    rw [createChallenge, if_neg (by decide +kernel)]
    rfl
  have hsign : sampleReplicator.signChallenge draftChallenge = .ok sampleChallenge :=
    if_pos (hasEd25519Prefix_append _)
  have hrequest : sampleReplicator.engine.createRequestEvidence sampleChallenge (filled "evidence")
      (.finite "100.0" 100) = .ok sampleRequest := by
    have hid : sampleChallenge.challengerId = sampleReplicator.engine.registryId := rfl
    rw [createRequestEvidence, if_neg (not_not.mpr hid)]
    exact signRequest_eq rfl (hasEd25519Prefix_append _)
  unfold issueProofChallenge
  dsimp only [sampleReadings] at hcreate ⊢
  rw [hcreate]
  dsimp only [bind, Except.bind]
  rw [hsign]
  dsimp only
  rw [hrequest]
  rfl

def sampleObserver (id : FilledText) (k : UInt8) : NonResponseConfirmationEngine :=
  ⟨id, some (sampleSigner k)⟩

def sampleObservation (id : FilledText) (k : UInt8) (request : RegistryRequestEvidence) :
    RegistryNonResponseObservation :=
  let observation := (sampleObserver id k).observation request sampleChallenge {}
    ⟨filled "observation", filled "attempt"⟩ (.finite "401.0" 401)
  { observation with
    observerSignature := sampleSigner k (canonicalBytes observation.signedFields) }

theorem createObservation_sample {id : FilledText} {k : UInt8} {request : RegistryRequestEvidence}
    (hchallenge : request.challengeId = sampleChallenge.challengeId)
    (htarget : request.targetRegistryId = sampleChallenge.targetRegistryId) :
    (sampleObserver id k).createObservation request sampleChallenge {}
      ⟨filled "observation", filled "attempt"⟩ (.finite "401.0" 401) =
        .ok (sampleObservation id k request) := by
  have hsigner : (sampleObserver id k).signer = some (sampleSigner k) := rfl
  unfold createObservation
  simp only [bind_eq_ok, require_eq_ok]
  refine ⟨(), by simp [hchallenge], (), by simp [htarget], (), by decide, ?_⟩
  exact signObservation_eq hsigner (hasEd25519Prefix_append _)

def delivery (observation : RegistryNonResponseObservation) : ObservationEvent :=
  .deliver observation.observerId (.dict observation.toFields)
    ⟨filled "drawn observation", filled "drawn attempt"⟩

def firstObservation : RegistryNonResponseObservation :=
  sampleObservation (filled "first") 2 sampleRequest

def secondObservation : RegistryNonResponseObservation :=
  sampleObservation (filled "second") 3 sampleRequest

/-- The report of two observers that make their observations as they should. -/
theorem non_response_confirmed_by_two :
    letI := echoSignatures
    letI := sampleSum
    CanBeConfirmed sampleReplicator.engine sampleIssued sampleChallenge sampleKeys [] 2
      (.finite "402.0" 402) [delivery firstObservation, delivery secondObservation] := by
  apply @non_response_confirmed echoSignatures sampleSum
  · exact issue_sample
  · rfl
  · rfl
  · exact signs_sampleSigner 1

/-! ## Messages that spoil the evidence -/

section Spoiled

variable [Runtime] [FloatRuntime]

variable {observations : List RegistryNonResponseObservation} {request : RegistryRequestEvidence}

theorem held_deliveries
    (h : ∀ item ∈ observations, item.challengeId = sampleChallenge.challengeId) :
    (run step sampleIssued (observations.map delivery)).held sampleChallenge.challengeId =
      observations := by
  have hkept : ∀ engine, (fun event => ObservationEvent.kept engine event) ∘ delivery = some := by
    intro engine
    funext item
    simp [ObservationEvent.kept, readObservation, delivery]
  rw [(run_extended _).2.2.2, filterMap_map, hkept, filterMap_some,
    filter_eq_self.mpr fun item hitem => by simp [h item hitem]]
  rfl

theorem reports_sample (hsigns : Signs (sampleSigner 1) (sampleKey 1))
    (events : List ObservationEvent) :
    Reports (run step sampleIssued events) sampleChallenge sampleRequest sampleKeys [] 2
      (.finite "402.0" 402) := by
  obtain ⟨hengine, hchallenges, hevidence, -⟩ := run_extended (s := sampleIssued) events
  have hkey : sampleKeys.lookup "challenger" = some (sampleKey 1) := rfl
  apply reports_of_signed
  · rw [hchallenges]
    rfl
  · rw [hevidence]
    rfl
  · rw [hengine]
    rfl
  · rw [hengine]
    exact hkey
  · exact hsigns
  · exact hsigns.holds hkey _

section

omit [Runtime] [FloatRuntime]

theorem itemRules_sample {id : FilledText} {k : UInt8}
    (hdeadline : request.responseDeadline = sampleChallenge.responseDeadline) :
    ItemRules sampleChallenge request (sampleObservation id k request) where
  challengeId := rfl
  target := rfl
  requestHash := rfl
  late := by
    have hlate : (PyFloat.finite "401.0" 401).lt (.finite "400.0" 400) = false := by decide +kernel
    rw [hdeadline]
    exact hlate
  silent := rfl
  network := mem_cons_self
  transport := mem_cons_self

section RequestSent

variable (hrequest : request.challengeId = sampleChallenge.challengeId)
  (htarget : request.targetRegistryId = sampleChallenge.targetRegistryId)
  (hroot : request.targetInventoryRoot = sampleChallenge.targetInventoryRoot)
  (hdeadline : request.responseDeadline = sampleChallenge.responseDeadline)
  (hsent : request.sentAt = .finite "100.0" 100)

include hrequest htarget hroot hdeadline hsent

/-- Observations of the sample run follow the rules when enough observers, of whom none is the
challenger, make them. -/
theorem rules_sample (hdistinct : (observations.map (·.observerId)).Nodup)
    (hquorum : 2 ≤ (observations.map (controlGroup [])).dedup.length)
    (hindependent : ∃ item ∈ observations, item.observerRole = "independent_verifier")
    (hchallenger : ∀ item ∈ observations, item.observerId ≠ request.challengerId)
    (hitems : ∀ item ∈ observations, ItemRules sampleChallenge request item) :
    EvidenceRules sampleChallenge request observations [] 2 where
  confirmed := le_rfl
  challengeId := hrequest
  target := htarget
  root := hroot
  deadline := by
    have hdeadlines : (PyFloat.finite "400.0" 400).eq (.finite "400.0" 400) = true := by
      decide +kernel
    rw [hdeadline]
    exact hdeadlines
  sent := by
    have hbefore : (PyFloat.finite "400.0" 400).lt (.finite "100.0" 100) = false := by
      decide +kernel
    rw [hsent]
    exact hbefore
  distinct := hdistinct
  quorum := by exact_mod_cast hquorum
  independent := hindependent
  challenger item hitem hid := absurd hid (hchallenger item hitem)
  items := hitems

theorem rules_two (hfirst : filled "first" ≠ request.challengerId)
    (hsecond : filled "second" ≠ request.challengerId) :
    EvidenceRules sampleChallenge request [sampleObservation (filled "first") 2 request,
      sampleObservation (filled "second") 3 request] [] 2 := by
  have hpair : [filled "first", filled "second"].Nodup := by decide
  have hgroups : 2 ≤ ["first", "second"].dedup.length := by decide
  apply rules_sample hrequest htarget hroot hdeadline hsent
  · exact hpair
  · exact hgroups
  · exact ⟨_, mem_cons_self, rfl⟩
  · simp only [mem_cons, not_mem_nil, or_false]
    rintro item (rfl | rfl)
    · exact hfirst
    · exact hsecond
  · simp only [mem_cons, not_mem_nil, or_false]
    rintro item (rfl | rfl)
    · exact itemRules_sample hdeadline
    · exact itemRules_sample hdeadline

end RequestSent

/-- What a third peer delivers without a signature. -/
def unsignedObservation : RegistryNonResponseObservation :=
  { sampleObservation (filled "third") 5 sampleRequest with observerSignature := "" }

theorem rules_three : EvidenceRules sampleChallenge sampleRequest
    [firstObservation, secondObservation, unsignedObservation] [] 2 := by
  have hthree : [filled "first", filled "second", filled "third"].Nodup := by decide
  have hgroups : 2 ≤ ["first", "second", "third"].dedup.length := by decide
  apply rules_sample rfl rfl rfl rfl rfl
  · exact hthree
  · exact hgroups
  · exact ⟨_, mem_cons_self, rfl⟩
  · simp only [mem_cons, not_mem_nil, or_false]
    rintro item (rfl | rfl | rfl)
    · exact show filled "first" ≠ filled "challenger" by decide
    · exact show filled "second" ≠ filled "challenger" by decide
    · exact show filled "third" ≠ filled "challenger" by decide
  · simp only [mem_cons, not_mem_nil, or_false]
    rintro item (rfl | rfl | rfl)
    · exact itemRules_sample rfl
    · exact itemRules_sample rfl
    · have hitem : ItemRules sampleChallenge sampleRequest
          (sampleObservation (filled "third") 5 sampleRequest) := itemRules_sample rfl
      exact ⟨hitem.challengeId, hitem.target, hitem.requestHash, hitem.late, hitem.silent,
        hitem.network, hitem.transport⟩

end

/-- A request that another registry signs for the challenge. -/
def otherRequest : RegistryRequestEvidence :=
  signedRequest 4 { sampleRequest with
    challengerId := filled "other"
    requestHash := filled "sha256:0" }

theorem repeated_refused (hsigns : Signs (sampleSigner 1) (sampleKey 1)) :
    ∃ reason, (run step sampleIssued ([firstObservation, secondObservation,
      firstObservation].map delivery)).buildFailureReport "challenge" [] 2 (.finite "402.0" 402) =
        raiseValue reason := by
  apply (reports_sample hsigns _).refused
  rw [held_deliveries (by simp only [forall_mem_cons]; exact ⟨rfl, rfl, rfl, nofun⟩)]
  intro hrules
  have hrepeated : ¬ [filled "first", filled "second", filled "first"].Nodup := by decide
  exact hrepeated hrules.distinct

theorem unsigned_disbelieved (hsigns : Signs (sampleSigner 1) (sampleKey 1)) :
    ∃ report reported, (run step sampleIssued ([firstObservation, secondObservation,
        unsignedObservation].map delivery)).buildFailureReport "challenge" [] 2
          (.finite "402.0" 402) = .ok (report, reported) ∧
      ∀ drawn,
        (verifyFailureReport sampleChallenge report sampleKeys [] 2 drawn).valid = false := by
  have hheld : (run step sampleIssued ([firstObservation, secondObservation,
      unsignedObservation].map delivery)).held sampleChallenge.challengeId = _ :=
    held_deliveries (by simp only [forall_mem_cons]; exact ⟨rfl, rfl, rfl, nofun⟩)
  have hreports := reports_sample hsigns
    ([firstObservation, secondObservation, unsignedObservation].map delivery)
  obtain ⟨hengine, hchallenges, hevidence, -⟩ := run_extended (s := sampleIssued)
    ([firstObservation, secondObservation, unsignedObservation].map delivery)
  generalize run step sampleIssued _ = s at *
  obtain ⟨report, reported, hbuilt⟩ := hreports.reported (by rw [hheld]; exact rules_three)
  have hchallenge : s.proofChallenges.get? sampleChallenge.challengeId = some sampleChallenge := by
    rw [hchallenges]
    rfl
  have hrequest : s.requestEvidence.get? sampleChallenge.challengeId = some sampleRequest := by
    rw [hevidence]
    rfl
  have hreport := engine_built hchallenge hrequest hbuilt
  rw [hengine, hheld] at hreport
  refine ⟨report, reported, hbuilt, ?_⟩
  have hsigner : sampleIssued.engine.signer = some (sampleSigner 1) := rfl
  apply NonResponseConfirmationEngine.verify_built_unsigned hsigner hreport
    (mem_cons_of_mem _ (mem_cons_of_mem _ mem_cons_self))
  intro hvalid
  have hempty := isEmpty_of_holds hvalid
  exact absurd hempty (by decide)

theorem other_request_believed (hsigns : ∀ k, Signs (sampleSigner k) (sampleKey k)) :
    ∃ report, ∀ drawn,
      (verifyFailureReport sampleChallenge report sampleKeys [] 2 drawn).valid = true ∧
      ∀ {request observations}, report.evidence drawn = some (request, observations) →
        ∀ item ∈ observations, item.requestHash ≠ sampleRequest.requestHash := by
  have hsigner : (sampleObserver (filled "other") 4).signer = some (sampleSigner 4) := rfl
  have hkey : sampleKeys.lookup "other" = some (sampleKey 4) := rfl
  have hfirst : sampleKeys.lookup "first" = some (sampleKey 2) := rfl
  have hsecond : sampleKeys.lookup "second" = some (sampleKey 3) := rfl
  have hrules : EvidenceRules sampleChallenge otherRequest [sampleObservation (filled "first") 2
      otherRequest, sampleObservation (filled "second") 3 otherRequest] [] 2 :=
    rules_two rfl rfl rfl rfl rfl (by decide) (by decide)
  obtain ⟨report, hbuilt⟩ : ∃ report, (sampleObserver (filled "other") 4).buildFailureReport
      sampleChallenge otherRequest [sampleObservation (filled "first") 2 otherRequest,
        sampleObservation (filled "second") 3 otherRequest] [] 2 (.finite "402.0" 402) =
          .ok report :=
    ⟨_, (NonResponseConfirmationEngine.buildFailureReport_eq_ok hsigner).mpr
      ⟨hrules, hasEd25519Prefix_append _, rfl⟩⟩
  refine ⟨report, fun drawn => ⟨?_, ?_⟩⟩
  · apply NonResponseConfirmationEngine.verify_built hsigner hkey (hsigns 4) hbuilt
    · exact signatureHolds_signed (hsigns 4) hkey
    · simp only [forall_mem_cons]
      exact ⟨(hsigns 2).holds hfirst _, (hsigns 3).holds hsecond _, nofun⟩
  · intro request observations hevidence item hitem hsame
    rw [NonResponseConfirmationEngine.evidence_of_built hsigner hbuilt] at hevidence
    cases hevidence
    rw [(hrules.items item (mem_mergeSort.mp hitem)).requestHash] at hsame
    have hlength := length_canonicalHash (.dict [("challenge", .dict sampleChallenge.toFields)])
    rw [← show "sha256:0" = canonicalHash _ from congrArg Subtype.val hsame] at hlength
    exact absurd hlength (by decide)

end Spoiled

/-- The observations of honest observers are spoiled by a message that comes twice and by one that
is not signed, and a report about the request of another registry is accepted. -/
theorem evidence_spoiled :
    letI := echoSignatures
    letI := sampleSum
    sampleReplicator.issueProofChallenge sampleCall sampleReadings =
        .ok (sampleChallenge, sampleIssued) ∧
      (sampleObserver (filled "first") 2).createObservation sampleRequest sampleChallenge {}
        ⟨filled "observation", filled "attempt"⟩ (.finite "401.0" 401) = .ok firstObservation ∧
      (sampleObserver (filled "second") 3).createObservation sampleRequest sampleChallenge {}
        ⟨filled "observation", filled "attempt"⟩ (.finite "401.0" 401) = .ok secondObservation ∧
      EvidenceRules sampleChallenge sampleRequest [firstObservation, secondObservation] [] 2 ∧
      (∃ reason, (run step sampleIssued ([firstObservation, secondObservation,
        firstObservation].map delivery)).buildFailureReport "challenge" [] 2
          (.finite "402.0" 402) = raiseValue reason) ∧
      (∃ report reported, (run step sampleIssued ([firstObservation, secondObservation,
          unsignedObservation].map delivery)).buildFailureReport "challenge" [] 2
            (.finite "402.0" 402) = .ok (report, reported) ∧
        ∀ drawn, (verifyFailureReport sampleChallenge report sampleKeys [] 2 drawn).valid = false) ∧
      ∃ report, ∀ drawn,
        (verifyFailureReport sampleChallenge report sampleKeys [] 2 drawn).valid = true ∧
        ∀ {request observations}, report.evidence drawn = some (request, observations) →
          ∀ item ∈ observations, item.requestHash ≠ sampleRequest.requestHash := by
  refine ⟨issue_sample, createObservation_sample rfl rfl, createObservation_sample rfl rfl,
    rules_two rfl rfl rfl rfl rfl (by decide) (by decide), ?_, ?_, ?_⟩
  · exact @repeated_refused echoSignatures sampleSum (signs_sampleSigner 1)
  · exact @unsigned_disbelieved echoSignatures sampleSum (signs_sampleSigner 1)
  · exact @other_request_believed echoSignatures sampleSum signs_sampleSigner

end RegistryReplicator

end AidnSpec.Registry
