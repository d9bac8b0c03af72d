import AidnSpec.Base.CanonicalJson
import AidnSpec.Base.Dict
import AidnSpec.Base.PyFloat
import Mathlib.Data.List.Dedup
import Mathlib.Data.Prod.Lex
import Mathlib.Data.String.Basic

/-!
# Signed reports of a challenge that was not answered

The engine of `registry/failure.py`: signed evidence of a request, signed observations that no
response came, and the report that is built of them and verified. Building and verifying apply the
same rules to all observations; the signatures of the observations are checked by verifying only.
-/

namespace AidnSpec.Registry

open Base

/-! ## Records -/

structure RegistryChallenge where
  challengeId : FilledText
  challengeType : String := "completeness"
  targetRegistryId : FilledText
  targetInventoryRoot : FilledText
  targetSegmentId : Option String := none
  objectSelector : FilledText
  requiredProof : List String := ["segment_manifest", "object"]
  issuedAt : PyFloat
  responseDeadline : PyFloat
  challengerId : FilledText
  challengeNonce : FilledText
  challengerSignature : String := ""

/-- `model_dump` without the signature. -/
def RegistryChallenge.signedFields (challenge : RegistryChallenge) : Fields :=
  [("challenge_id", .str challenge.challengeId), ("challenge_type", .str challenge.challengeType),
    ("target_registry_id", .str challenge.targetRegistryId), ("target_inventory_root",
    .str challenge.targetInventoryRoot), ("target_segment_id", optText challenge.targetSegmentId),
    ("object_selector", .str challenge.objectSelector), ("required_proof",
    .list (challenge.requiredProof.map .str)), ("issued_at", challenge.issuedAt.toValue),
    ("response_deadline", challenge.responseDeadline.toValue), ("challenger_id",
    .str challenge.challengerId), ("challenge_nonce", .str challenge.challengeNonce)]

/-- `model_dump`. -/
def RegistryChallenge.toFields (challenge : RegistryChallenge) : Fields :=
  challenge.signedFields ++ [("challenger_signature", .str challenge.challengerSignature)]

structure RegistryRequestEvidence where
  evidenceId : FilledText
  challengeId : FilledText
  targetRegistryId : FilledText
  targetInventoryRoot : FilledText
  challengerId : FilledText
  requestHash : FilledText
  sentAt : PyFloat
  responseDeadline : PyFloat
  transportSessionId : String := ""
  transportState : String := "request_sent"
  challengerSignature : String := ""

namespace RegistryRequestEvidence

/-- `model_dump` without the signature. -/
def signedFields (request : RegistryRequestEvidence) : Fields :=
  [("evidence_id", .str request.evidenceId), ("challenge_id", .str request.challengeId),
    ("target_registry_id", .str request.targetRegistryId), ("target_inventory_root",
    .str request.targetInventoryRoot), ("challenger_id", .str request.challengerId),
    ("request_hash", .str request.requestHash), ("sent_at", request.sentAt.toValue),
    ("response_deadline", request.responseDeadline.toValue), ("transport_session_id",
    .str request.transportSessionId), ("transport_state", .str request.transportState)]

/-- `model_dump`. -/
def toFields (request : RegistryRequestEvidence) : Fields :=
  request.signedFields ++ [("challenger_signature", .str request.challengerSignature)]

/-- `model_validate`, with the id that is drawn when there is none. -/
def modelValidate [Runtime] [FloatRuntime] (fields : Fields) (drawn : FilledText) :
    Option RegistryRequestEvidence := do
  let evidenceId ← fieldFilledD fields "evidence_id" drawn
  let challengeId ← fieldFilled fields "challenge_id"
  let targetRegistryId ← fieldFilled fields "target_registry_id"
  let targetInventoryRoot ← fieldFilled fields "target_inventory_root"
  let challengerId ← fieldFilled fields "challenger_id"
  let requestHash ← fieldFilled fields "request_hash"
  let sentAt ← fieldFloat fields "sent_at"
  let responseDeadline ← fieldFloat fields "response_deadline"
  let transportSessionId ← fieldTextD fields "transport_session_id" ""
  let transportState ← fieldTextD fields "transport_state" "request_sent"
  let challengerSignature ← fieldTextD fields "challenger_signature" ""
  some {
    evidenceId := evidenceId
    challengeId := challengeId
    targetRegistryId := targetRegistryId
    targetInventoryRoot := targetInventoryRoot
    challengerId := challengerId
    requestHash := requestHash
    sentAt := sentAt
    responseDeadline := responseDeadline
    transportSessionId := transportSessionId
    transportState := transportState
    challengerSignature := challengerSignature }

@[simp] theorem modelValidate_toFields [Runtime] [FloatRuntime] (request : RegistryRequestEvidence)
    (drawn : FilledText) : modelValidate request.toFields drawn = some request := by
  rw [modelValidate, fieldFilledD_of_lookup rfl, fieldFilled_of_lookup rfl,
    fieldFilled_of_lookup rfl, fieldFilled_of_lookup rfl, fieldFilled_of_lookup rfl,
    fieldFilled_of_lookup rfl, fieldFloat_of_lookup rfl, fieldFloat_of_lookup rfl,
    fieldTextD_of_lookup rfl, fieldTextD_of_lookup rfl, fieldTextD_of_lookup rfl]
  rfl

end RegistryRequestEvidence

structure RegistryNonResponseObservation where
  observationId : FilledText
  challengeId : FilledText
  targetRegistryId : FilledText
  observerId : FilledText
  observerRole : String := "independent_verifier"
  requestHash : FilledText
  attemptId : FilledText
  observedAt : PyFloat
  responseReceived : Bool := false
  responseHash : String := ""
  transportState : String := "no_response"
  networkCondition : String := "healthy"
  observerSignature : String := ""

structure DrawnIds where
  observationId : FilledText
  attemptId : FilledText

namespace RegistryNonResponseObservation

/-- `model_dump` without the signature. -/
def signedFields (observation : RegistryNonResponseObservation) : Fields :=
  [("observation_id", .str observation.observationId), ("challenge_id",
    .str observation.challengeId), ("target_registry_id", .str observation.targetRegistryId),
    ("observer_id", .str observation.observerId), ("observer_role", .str observation.observerRole),
    ("request_hash", .str observation.requestHash), ("attempt_id", .str observation.attemptId),
    ("observed_at", observation.observedAt.toValue), ("response_received",
    .bool observation.responseReceived), ("response_hash", .str observation.responseHash),
    ("transport_state", .str observation.transportState), ("network_condition",
    .str observation.networkCondition)]

/-- `model_dump`. -/
def toFields (observation : RegistryNonResponseObservation) : Fields :=
  observation.signedFields ++ [("observer_signature", .str observation.observerSignature)]

def modelValidate [Runtime] [FloatRuntime] (fields : Fields) (drawn : DrawnIds) :
    Option RegistryNonResponseObservation := do
  let observationId ← fieldFilledD fields "observation_id" drawn.observationId
  let challengeId ← fieldFilled fields "challenge_id"
  let targetRegistryId ← fieldFilled fields "target_registry_id"
  let observerId ← fieldFilled fields "observer_id"
  let observerRole ← fieldTextD fields "observer_role" "independent_verifier"
  let requestHash ← fieldFilled fields "request_hash"
  let attemptId ← fieldFilledD fields "attempt_id" drawn.attemptId
  let observedAt ← fieldFloat fields "observed_at"
  let responseReceived ← fieldBoolD fields "response_received" false
  let responseHash ← fieldTextD fields "response_hash" ""
  let transportState ← fieldTextD fields "transport_state" "no_response"
  let networkCondition ← fieldTextD fields "network_condition" "healthy"
  let observerSignature ← fieldTextD fields "observer_signature" ""
  some {
    observationId := observationId
    challengeId := challengeId
    targetRegistryId := targetRegistryId
    observerId := observerId
    observerRole := observerRole
    requestHash := requestHash
    attemptId := attemptId
    observedAt := observedAt
    responseReceived := responseReceived
    responseHash := responseHash
    transportState := transportState
    networkCondition := networkCondition
    observerSignature := observerSignature }

@[simp] theorem modelValidate_toFields [Runtime] [FloatRuntime]
    (observation : RegistryNonResponseObservation) (drawn : DrawnIds) :
    modelValidate observation.toFields drawn = some observation := by
  rw [modelValidate, fieldFilledD_of_lookup rfl, fieldFilled_of_lookup rfl,
    fieldFilled_of_lookup rfl, fieldFilled_of_lookup rfl, fieldTextD_of_lookup rfl,
    fieldFilled_of_lookup rfl, fieldFilledD_of_lookup rfl, fieldFloat_of_lookup rfl,
    fieldBoolD_of_lookup rfl, fieldTextD_of_lookup rfl, fieldTextD_of_lookup rfl,
    fieldTextD_of_lookup rfl, fieldTextD_of_lookup rfl]
  rfl

def sortKey (observation : RegistryNonResponseObservation) : String ×ₗ String :=
  toLex (observation.observerId, observation.attemptId)

/-- `sorted(observations, key=lambda item: (item.observer_id, item.attempt_id))`. -/
def sorted (observations : List RegistryNonResponseObservation) :
    List RegistryNonResponseObservation :=
  observations.mergeSort fun a b => sortKey a ≤ sortKey b

end RegistryNonResponseObservation

structure RegistryFailureReport where
  reportId : FilledText
  targetRegistryId : FilledText
  challengeId : FilledText
  failureType : String := "challenge_non_response"
  requestEvidence : Fields
  confirmationEvidence : List Fields := []
  verifierIds : List String := []
  networkConditionSummary : String := "healthy"
  result : String := "confirmed_non_response"
  evidenceRoot : FilledText
  reportSignerId : FilledText
  signatures : List (String × String) := []
  createdAt : PyFloat

/-- `model_dump` without the signatures. -/
def RegistryFailureReport.signedFields (report : RegistryFailureReport) : Fields :=
  [("report_id", .str report.reportId), ("target_registry_id", .str report.targetRegistryId),
    ("challenge_id", .str report.challengeId), ("failure_type", .str report.failureType),
    ("request_evidence", .dict report.requestEvidence),
    ("confirmation_evidence", .list (report.confirmationEvidence.map .dict)),
    ("verifier_ids", .list (report.verifierIds.map .str)),
    ("network_condition_summary", .str report.networkConditionSummary),
    ("result", .str report.result), ("evidence_root", .str report.evidenceRoot),
    ("report_signer_id", .str report.reportSignerId), ("created_at", report.createdAt.toValue)]

structure RegistryFailureVerificationResult where
  valid : Bool
  reportId : String
  result : String
  reason : String := ""

/-! ## Digests and signatures -/

/-- `"sha256:" + _digest(value)`. -/
def hashText (value : PyValue) : FilledText :=
  ⟨canonicalHash value, by
    rw [← Bool.not_eq_true, String.isEmpty_iff]
    intro hempty
    have hlength := length_canonicalHash value
    rw [hempty] at hlength
    cases hlength⟩

def canonicalBytes (fields : Fields) : Bytes := asciiBytes (canonicalText (.dict fields))

/-- `text.startswith("ed25519:")`. -/
def hasEd25519Prefix (text : String) : Bool := "ed25519:".toList.isPrefixOf text.toList

/-- `verify_ed25519_signature`. -/
def verifyEd25519Signature [Runtime] (publicKey signature : String) (payload : Bytes) : Bool :=
  if !hasEd25519Prefix publicKey || !hasEd25519Prefix signature then false
  else match fromHexChars (removePre "ed25519:".toList publicKey.toList),
      fromHexChars (removePre "ed25519:".toList signature.toList) with
    | some key, some bytes => Runtime.ed25519Verify key bytes payload
    | _, _ => false

/-! ## The engine -/

/-- `NonResponseConfirmationEngine`; what the clock reads is an argument. -/
structure NonResponseConfirmationEngine where
  registryId : FilledText
  signer : Option (Bytes → String) := none

/-- What an observer reports of an attempt, with the defaults of `create_observation`. -/
structure ObservationAttempt where
  responseReceived : Bool := false
  responseHash : String := ""
  transportState : String := "no_response"
  networkCondition : String := "healthy"
  observerRole : String := "independent_verifier"
  attemptId : Option FilledText := none

namespace NonResponseConfirmationEngine

variable (engine : NonResponseConfirmationEngine)

/-- The signature of a signer over a payload, which is checked for its prefix. -/
def signedBy (payload : Bytes) (complaint : String) : Except PyError (Option String) :=
  match engine.signer with
  | none => .ok none
  | some signer =>
    if hasEd25519Prefix (signer payload) then .ok (some (signer payload)) else raiseValue complaint

def signRequest (request : RegistryRequestEvidence) : Except PyError RegistryRequestEvidence := do
  match ← engine.signedBy (canonicalBytes request.signedFields)
      "Registry request evidence signer must return an ed25519 signature" with
  | none => .ok request
  | some signature => .ok { request with challengerSignature := signature }

def signObservation (observation : RegistryNonResponseObservation) :
    Except PyError RegistryNonResponseObservation := do
  match ← engine.signedBy (canonicalBytes observation.signedFields)
      "Registry observation signer must return an ed25519 signature" with
  | none => .ok observation
  | some signature => .ok { observation with observerSignature := signature }

def requestEvidence (challenge : RegistryChallenge) (evidenceId : FilledText) (sentAt : PyFloat) :
    RegistryRequestEvidence where
  evidenceId := evidenceId
  challengeId := challenge.challengeId
  targetRegistryId := challenge.targetRegistryId
  targetInventoryRoot := challenge.targetInventoryRoot
  challengerId := challenge.challengerId
  requestHash := hashText (.dict [("challenge", .dict challenge.toFields)])
  sentAt := sentAt
  responseDeadline := challenge.responseDeadline

/-- `create_request_evidence`, without a transport session. -/
def createRequestEvidence (challenge : RegistryChallenge) (evidenceId : FilledText)
    (sentAt : PyFloat) : Except PyError RegistryRequestEvidence :=
  if challenge.challengerId ≠ engine.registryId then
    raiseValue "challenge challenger does not match local Registry"
  else engine.signRequest (requestEvidence challenge evidenceId sentAt)

def observation (request : RegistryRequestEvidence) (challenge : RegistryChallenge)
    (attempt : ObservationAttempt) (drawn : DrawnIds) (observedAt : PyFloat) :
    RegistryNonResponseObservation where
  observationId := drawn.observationId
  challengeId := challenge.challengeId
  targetRegistryId := challenge.targetRegistryId
  observerId := engine.registryId
  observerRole := attempt.observerRole
  requestHash := request.requestHash
  attemptId := attempt.attemptId.getD drawn.attemptId
  observedAt := observedAt
  responseReceived := attempt.responseReceived
  responseHash := attempt.responseHash
  transportState := attempt.transportState
  networkCondition := attempt.networkCondition

def createObservation (request : RegistryRequestEvidence) (challenge : RegistryChallenge)
    (attempt : ObservationAttempt) (drawn : DrawnIds) (observedAt : PyFloat) :
    Except PyError RegistryNonResponseObservation := do
  require (request.challengeId == challenge.challengeId) "request evidence challenge mismatch"
  require (request.targetRegistryId == challenge.targetRegistryId)
    "request evidence target mismatch"
  require (!attempt.observerRole.isEmpty) "observer_role is required"
  engine.signObservation (engine.observation request challenge attempt drawn observedAt)

end NonResponseConfirmationEngine

/-! ## The rules of evidence -/

/-- `groups.get(item.observer_id, item.observer_id)`. -/
def controlGroup (groups : List (String × String)) (item : RegistryNonResponseObservation) :
    String :=
  (groups.lookup item.observerId.val).getD item.observerId

/-- Evidence that confirms nothing. -/
def inconclusive (reason : String) : RegistryFailureVerificationResult :=
  ⟨false, "", "inconclusive", reason⟩

/-- What `_validate_evidence` returns for an observation, if it does. -/
def itemFault (challenge : RegistryChallenge) (request : RegistryRequestEvidence)
    (item : RegistryNonResponseObservation) : Option RegistryFailureVerificationResult :=
  if item.challengeId ≠ challenge.challengeId ∨
      item.targetRegistryId ≠ challenge.targetRegistryId then
    some (inconclusive "observation_binding_mismatch")
  else if item.requestHash ≠ request.requestHash then
    some (inconclusive "observation_request_mismatch")
  else if item.observedAt.lt request.responseDeadline then
    some (inconclusive "observation_before_deadline")
  else if item.responseReceived then some ⟨false, "", "not_confirmed", "response_received"⟩
  else if item.networkCondition ∉ ["healthy", "degraded"] then
    some (inconclusive "network_condition_unreliable")
  else if item.transportState ∉ ["no_response", "request_sent", "connected"] then
    some (inconclusive "transport_state_unreliable")
  else none

def validateEvidence (challenge : RegistryChallenge) (request : RegistryRequestEvidence)
    (observations : List RegistryNonResponseObservation) (groups : List (String × String))
    (minimum : Int) : RegistryFailureVerificationResult :=
  if minimum < 2 then inconclusive "minimum_independent_observers_must_include_confirmation"
  else if request.challengeId ≠ challenge.challengeId then inconclusive "challenge_id_mismatch"
  else if request.targetRegistryId ≠ challenge.targetRegistryId then
    inconclusive "target_registry_id_mismatch"
  else if request.targetInventoryRoot ≠ challenge.targetInventoryRoot then
    inconclusive "inventory_root_mismatch"
  else if !request.responseDeadline.eq challenge.responseDeadline then
    inconclusive "response_deadline_mismatch"
  else if challenge.responseDeadline.lt request.sentAt then
    inconclusive "request_sent_after_deadline"
  else if observations.isEmpty then inconclusive "observations_missing"
  else if (observations.map (·.observerId)).dedup.length ≠ observations.length then
    inconclusive "duplicate_observer"
  else if ((observations.map (controlGroup groups)).dedup.length : Int) < minimum then
    inconclusive "independent_quorum_missing"
  else if !observations.any (·.observerRole == "independent_verifier") then
    inconclusive "independent_verifier_missing"
  else if observations.any fun item => item.observerId == request.challengerId &&
      item.observerRole == "independent_verifier" then
    inconclusive "challenger_cannot_be_independent_verifier"
  else match observations.findSome? (itemFault challenge request) with
    | some fault => fault
    | none => ⟨true, "", "confirmed_non_response", "evidence_sufficient"⟩

/-- An observation confirms that the request of a challenge was not answered. -/
structure ItemRules (challenge : RegistryChallenge) (request : RegistryRequestEvidence)
    (item : RegistryNonResponseObservation) : Prop where
  challengeId : item.challengeId = challenge.challengeId
  target : item.targetRegistryId = challenge.targetRegistryId
  requestHash : item.requestHash = request.requestHash
  late : item.observedAt.lt request.responseDeadline = false
  silent : item.responseReceived = false
  network : item.networkCondition ∈ ["healthy", "degraded"]
  transport : item.transportState ∈ ["no_response", "request_sent", "connected"]

/-- Observations confirm that the request of a challenge was not answered. -/
structure EvidenceRules (challenge : RegistryChallenge) (request : RegistryRequestEvidence)
    (observations : List RegistryNonResponseObservation) (groups : List (String × String))
    (minimum : Int) : Prop where
  confirmed : 2 ≤ minimum
  challengeId : request.challengeId = challenge.challengeId
  target : request.targetRegistryId = challenge.targetRegistryId
  root : request.targetInventoryRoot = challenge.targetInventoryRoot
  deadline : request.responseDeadline.eq challenge.responseDeadline = true
  sent : challenge.responseDeadline.lt request.sentAt = false
  distinct : (observations.map (·.observerId)).Nodup
  quorum : minimum ≤ (observations.map (controlGroup groups)).dedup.length
  independent : ∃ item ∈ observations, item.observerRole = "independent_verifier"
  challenger : ∀ item ∈ observations,
    item.observerId = request.challengerId → item.observerRole ≠ "independent_verifier"
  items : ∀ item ∈ observations, ItemRules challenge request item

section Rules

variable {challenge : RegistryChallenge} {request : RegistryRequestEvidence}
  {observations : List RegistryNonResponseObservation} {groups : List (String × String)}
  {minimum : Int}

theorem itemFault_eq_none {item : RegistryNonResponseObservation} :
    itemFault challenge request item = none ↔ ItemRules challenge request item := by
  constructor
  · intro h
    unfold itemFault at h
    split_ifs at h with hbinding hrequest hlate hsilent hnetwork htransport
    rw [not_or, not_not, not_not] at hbinding
    exact {
      challengeId := hbinding.1
      target := hbinding.2
      requestHash := not_not.mp hrequest
      late := Bool.not_eq_true _ ▸ hlate
      silent := Bool.not_eq_true _ ▸ hsilent
      network := hnetwork
      transport := htransport }
  · intro h
    simp [itemFault, h.challengeId, h.target, h.requestHash, h.late, h.silent, h.network,
      h.transport, -List.mem_cons]

theorem itemFault_invalid {item : RegistryNonResponseObservation}
    {fault : RegistryFailureVerificationResult}
    (h : itemFault challenge request item = some fault) : fault.valid = false := by
  unfold itemFault at h
  split_ifs at h <;> (cases h; rfl)

/-- A check of `_validate_evidence`. -/
theorem valid_ite {c : Prop} [Decidable c] {reason : String}
    {rest : RegistryFailureVerificationResult} :
    (if c then inconclusive reason else rest).valid = true ↔ ¬ c ∧ rest.valid = true := by
  by_cases hc : c
  · simp [hc, inconclusive]
  · simp [hc]

theorem nodup_iff_length_dedup {α : Type} [DecidableEq α] {xs : List α} :
    xs.dedup.length = xs.length ↔ xs.Nodup := by
  constructor
  · intro h
    rw [← List.dedup_eq_self]
    exact (List.dedup_sublist xs).eq_of_length h
  · intro h
    rw [h.dedup]

/-- The evidence is sufficient when it follows the rules. -/
theorem validateEvidence_valid :
    (validateEvidence challenge request observations groups minimum).valid = true ↔
      EvidenceRules challenge request observations groups minimum := by
  have hitems : (match observations.findSome? (itemFault challenge request) with
      | some fault => fault
      | none => (⟨true, "", "confirmed_non_response", "evidence_sufficient"⟩ :
        RegistryFailureVerificationResult)).valid = true ↔
      ∀ item ∈ observations, ItemRules challenge request item := by
    simp only [← itemFault_eq_none, ← List.findSome?_eq_none_iff]
    cases hfault : observations.findSome? (itemFault challenge request) with
    | none => simp
    | some fault =>
      obtain ⟨item, -, hitem⟩ := List.exists_of_findSome?_eq_some hfault
      simp [itemFault_invalid hitem]
  have hdistinct : (observations.map (·.observerId)).dedup.length = observations.length ↔
      (observations.map (·.observerId)).Nodup := by
    rw [← nodup_iff_length_dedup, List.length_map]
  rw [validateEvidence]
  simp only [valid_ite, hitems, not_lt, ne_eq, not_not, hdistinct]
  constructor
  · rintro ⟨hminimum, hchallenge, htarget, hroot, hdeadline, hsent, -, hnodup, hquorum, hverifier,
      hchallenger, hall⟩
    constructor
    · exact hminimum
    · exact hchallenge
    · exact htarget
    · exact hroot
    · simpa using hdeadline
    · simpa using hsent
    · exact hnodup
    · exact hquorum
    · simpa using hverifier
    · simpa [Subtype.ext_iff] using hchallenger
    · exact hall
  · intro h
    have hchallenger := h.challenger
    simp only [Subtype.ext_iff] at hchallenger
    refine ⟨h.confirmed, h.challengeId, h.target, h.root, by simp [h.deadline],
      by simp [h.sent], ?_, h.distinct, h.quorum, by simpa using h.independent,
      by simpa using hchallenger, h.items⟩
    obtain ⟨item, hitem, -⟩ := h.independent
    rw [List.isEmpty_iff]
    exact List.ne_nil_of_mem hitem

/-- The rules do not look at the order of the observations. -/
theorem EvidenceRules.perm {others : List RegistryNonResponseObservation}
    (h : EvidenceRules challenge request observations groups minimum)
    (hperm : observations.Perm others) : EvidenceRules challenge request others groups minimum where
  confirmed := h.confirmed
  challengeId := h.challengeId
  target := h.target
  root := h.root
  deadline := h.deadline
  sent := h.sent
  distinct := (hperm.map _).nodup_iff.mp h.distinct
  quorum := by
    rw [← (hperm.map (controlGroup groups)).dedup.length_eq]
    exact h.quorum
  independent := by
    obtain ⟨item, hitem, hrole⟩ := h.independent
    exact ⟨item, hperm.subset hitem, hrole⟩
  challenger item hitem := h.challenger item (hperm.mem_iff.mpr hitem)
  items item hitem := h.items item (hperm.mem_iff.mpr hitem)

end Rules

/-! ## Reports -/

/-- `sorted({...})` of texts. -/
def sortedSet (texts : List String) : List String := texts.dedup.mergeSort fun a b => a ≤ b

/-- `sorted({item.observer_id for item in observations})`. -/
def verifierIds (observations : List RegistryNonResponseObservation) : List String :=
  sortedSet (observations.map (·.observerId.val))

def conditionSummary (observations : List RegistryNonResponseObservation) : String :=
  match sortedSet (observations.map (·.networkCondition)) with
  | [condition] => condition
  | _ => "mixed_healthy_degraded"

/-- The evidence root over the evidence of a request and sorted observations. -/
def evidenceRoot (challenge : RegistryChallenge) (request : RegistryRequestEvidence)
    (ordered : List RegistryNonResponseObservation) (verifiers : List String) : FilledText :=
  hashText (.dict [("request_evidence", .dict request.toFields),
    ("confirmation_evidence", .list (ordered.map fun item => .dict item.toFields)),
    ("verifier_ids", .list (verifiers.map .str)),
    ("target_registry_id", .str challenge.targetRegistryId),
    ("challenge_id", .str challenge.challengeId)])

def failureReportId (challenge : RegistryChallenge) (root : FilledText) : FilledText :=
  hashText (.dict [("evidence_root", .str root), ("failure_type", .str "challenge_non_response"),
    ("target_registry_id", .str challenge.targetRegistryId),
    ("challenge_id", .str challenge.challengeId)])

namespace NonResponseConfirmationEngine

variable (engine : NonResponseConfirmationEngine)

def unsignedReport (challenge : RegistryChallenge) (request : RegistryRequestEvidence)
    (observations : List RegistryNonResponseObservation) (createdAt : PyFloat) :
    RegistryFailureReport :=
  let ordered := RegistryNonResponseObservation.sorted observations
  let root := evidenceRoot challenge request ordered (verifierIds ordered)
  { reportId := failureReportId challenge root
    targetRegistryId := challenge.targetRegistryId
    challengeId := challenge.challengeId
    requestEvidence := request.toFields
    confirmationEvidence := ordered.map (·.toFields)
    verifierIds := verifierIds ordered
    networkConditionSummary := conditionSummary ordered
    evidenceRoot := root
    reportSignerId := engine.registryId
    createdAt := createdAt }

def buildFailureReport (challenge : RegistryChallenge) (request : RegistryRequestEvidence)
    (observations : List RegistryNonResponseObservation) (groups : List (String × String))
    (minimum : Int) (createdAt : PyFloat) : Except PyError RegistryFailureReport :=
  match engine.signer with
  | none => raiseValue "a report signer is required"
  | some signer =>
    let structural := validateEvidence challenge request observations groups minimum
    if !structural.valid then raiseValue structural.reason
    else
      let report := engine.unsignedReport challenge request observations createdAt
      let signature := signer (canonicalBytes report.signedFields)
      if hasEd25519Prefix signature then
        .ok { report with signatures := [(engine.registryId, signature)] }
      else raiseValue "Registry failure report signer must return an ed25519 signature"

end NonResponseConfirmationEngine

/-- What `verify_failure_report` returns when it rejects. -/
def RegistryFailureReport.failure (report : RegistryFailureReport) (reason : String) :
    RegistryFailureVerificationResult :=
  ⟨false, report.reportId, report.result, reason⟩

/-- The reason to reject a report for the signature of an observation. -/
def signatureFault [Runtime] (keys : List (String × String))
    (item : RegistryNonResponseObservation) : Option String :=
  match keys.lookup item.observerId.val with
  | none => some "observation_signature_missing"
  | some key =>
    if item.observerSignature.isEmpty then some "observation_signature_missing"
    else if verifyEd25519Signature key item.observerSignature (canonicalBytes item.signedFields)
      then none
    else some "observation_signature_invalid"

/-- The key of a signer is known and verifies its signature. -/
def signatureHolds [Runtime] (keys : List (String × String)) (signer signature : String)
    (payload : Bytes) : Bool :=
  match keys.lookup signer with
  | none => false
  | some key => verifyEd25519Signature key signature payload

/-- The evidence of a report, with the ids that are drawn where there are none. -/
def RegistryFailureReport.evidence [Runtime] [FloatRuntime] (report : RegistryFailureReport)
    (drawn : ℕ → DrawnIds) :
    Option (RegistryRequestEvidence × List RegistryNonResponseObservation) := do
  let request ← RegistryRequestEvidence.modelValidate report.requestEvidence (drawn 0).observationId
  let observations ← report.confirmationEvidence.zipIdx.mapM fun item =>
    RegistryNonResponseObservation.modelValidate item.1 (drawn (item.2 + 1))
  some (request, observations)

def verifyFailureReport [Runtime] [FloatRuntime] (challenge : RegistryChallenge)
    (report : RegistryFailureReport) (keys groups : List (String × String)) (minimum : Int)
    (drawn : ℕ → DrawnIds) : RegistryFailureVerificationResult :=
  match report.evidence drawn with
  | none => report.failure "failure_report_evidence_invalid"
  | some (request, observations) =>
    let structural := validateEvidence challenge request observations groups minimum
    let root := evidenceRoot challenge request (RegistryNonResponseObservation.sorted observations)
      (verifierIds observations)
    if !structural.valid then report.failure structural.reason
    else if report.targetRegistryId ≠ challenge.targetRegistryId ∨
        report.challengeId ≠ challenge.challengeId ∨
        report.failureType ≠ "challenge_non_response" ∨
        report.result ≠ "confirmed_non_response" then
      report.failure "failure_report_binding_invalid"
    else if request.challengerSignature.isEmpty then
      report.failure "request_evidence_signature_missing"
    else if !signatureHolds keys request.challengerId request.challengerSignature
        (canonicalBytes request.signedFields) then
      report.failure "request_evidence_signature_invalid"
    else match observations.findSome? (signatureFault keys) with
    | some fault => report.failure fault
    | none =>
      if report.evidenceRoot ≠ root then report.failure "failure_evidence_root_mismatch"
      else if report.verifierIds ≠ verifierIds observations then
        report.failure "failure_verifier_ids_mismatch"
      else if report.networkConditionSummary ≠ conditionSummary observations then
        report.failure "failure_network_summary_mismatch"
      else if report.reportId ≠ failureReportId challenge root then
        report.failure "failure_report_id_mismatch"
      else
        let signature := (report.signatures.lookup report.reportSignerId.val).getD ""
        if signature.isEmpty || !signatureHolds keys report.reportSignerId signature
            (canonicalBytes report.signedFields) then
          report.failure "failure_report_signature_invalid"
        else ⟨true, report.reportId, report.result, "verified"⟩

/-! ## Accepted reports -/

variable [Runtime] {challenge : RegistryChallenge} {request : RegistryRequestEvidence}
  {observations : List RegistryNonResponseObservation} {report : RegistryFailureReport}
  {keys groups : List (String × String)} {minimum : Int}

/-- An observation is signed by its observer, whose key is known. -/
def ValidlySigned (keys : List (String × String)) (item : RegistryNonResponseObservation) : Prop :=
  signatureHolds keys item.observerId item.observerSignature (canonicalBytes item.signedFields) =
    true

def Signs (signer : Bytes → String) (key : String) : Prop :=
  ∀ payload, verifyEd25519Signature key (signer payload) payload = true

theorem prefix_of_verifies {key signature : String} {payload : Bytes}
    (h : verifyEd25519Signature key signature payload = true) :
    hasEd25519Prefix signature = true := by
  unfold verifyEd25519Signature at h
  by_cases hmarked : hasEd25519Prefix signature = true
  · exact hmarked
  · simp [hmarked] at h

omit [Runtime] in
theorem isEmpty_of_prefix {text : String} (h : hasEd25519Prefix text = true) :
    text.isEmpty = false := by
  rw [← Bool.not_eq_true, String.isEmpty_iff]
  rintro rfl
  exact absurd h (by decide)

theorem isEmpty_of_holds {signer signature : String} {payload : Bytes}
    (h : signatureHolds keys signer signature payload = true) : signature.isEmpty = false := by
  unfold signatureHolds at h
  cases hkey : keys.lookup signer with
  | none => simp [hkey] at h
  | some key =>
    rw [hkey] at h
    exact isEmpty_of_prefix (prefix_of_verifies h)

theorem Signs.holds {signer : Bytes → String} {key id : String} (h : Signs signer key)
    (hkey : keys.lookup id = some key) (payload : Bytes) :
    signatureHolds keys id (signer payload) payload = true := by
  rw [signatureHolds, hkey]
  exact h payload

theorem signatureFault_eq_none {item : RegistryNonResponseObservation} :
    signatureFault keys item = none ↔ ValidlySigned keys item := by
  constructor
  · intro h
    unfold signatureFault at h
    unfold ValidlySigned signatureHolds
    cases hkey : keys.lookup item.observerId.val with
    | none => simp [hkey] at h
    | some key =>
      simp only [hkey] at h ⊢
      split_ifs at h with hempty hverifies
      exact hverifies
  · intro h
    have hfilled := isEmpty_of_holds h
    unfold ValidlySigned signatureHolds at h
    unfold signatureFault
    cases hkey : keys.lookup item.observerId.val with
    | none => simp [hkey] at h
    | some key =>
      simp only [hkey] at h ⊢
      simp [hfilled, h]

/-- What is checked of a report with its evidence. -/
structure ReportRules (challenge : RegistryChallenge) (report : RegistryFailureReport)
    (request : RegistryRequestEvidence) (observations : List RegistryNonResponseObservation)
    (keys groups : List (String × String)) (minimum : Int) : Prop where
  rules : EvidenceRules challenge request observations groups minimum
  target : report.targetRegistryId = challenge.targetRegistryId
  challengeId : report.challengeId = challenge.challengeId
  failureType : report.failureType = "challenge_non_response"
  result : report.result = "confirmed_non_response"
  requestSigned : signatureHolds keys request.challengerId request.challengerSignature
    (canonicalBytes request.signedFields) = true
  observationsSigned : ∀ item ∈ observations, ValidlySigned keys item
  root : report.evidenceRoot = evidenceRoot challenge request
    (RegistryNonResponseObservation.sorted observations) (verifierIds observations)
  verifiers : report.verifierIds = verifierIds observations
  summary : report.networkConditionSummary = conditionSummary observations
  reportId : report.reportId = failureReportId challenge (evidenceRoot challenge request
    (RegistryNonResponseObservation.sorted observations) (verifierIds observations))
  signature : signatureHolds keys report.reportSignerId
    ((report.signatures.lookup report.reportSignerId.val).getD "")
    (canonicalBytes report.signedFields) = true

omit [Runtime] in
/-- A check of `verify_failure_report`. -/
theorem valid_failure_ite {c : Prop} [Decidable c] {reason : String}
    {rest : RegistryFailureVerificationResult} :
    (if c then report.failure reason else rest).valid = true ↔ ¬ c ∧ rest.valid = true := by
  by_cases hc : c
  · simp [hc, RegistryFailureReport.failure]
  · simp [hc]

variable [FloatRuntime] {drawn : ℕ → DrawnIds}

/-- A report is accepted when its evidence can be read and follows the rules. -/
theorem verifyFailureReport_valid :
    (verifyFailureReport challenge report keys groups minimum drawn).valid = true ↔
      ∃ request observations, report.evidence drawn = some (request, observations) ∧
        ReportRules challenge report request observations keys groups minimum := by
  unfold verifyFailureReport
  cases hevidence : report.evidence drawn with
  | none => simp [RegistryFailureReport.failure]
  | some evidence =>
    obtain ⟨request, observations⟩ := evidence
    have hsigned : observations.findSome? (signatureFault keys) = none ↔
        ∀ item ∈ observations, ValidlySigned keys item := by
      simp only [← signatureFault_eq_none, List.findSome?_eq_none_iff]
    simp only [valid_failure_ite, Bool.not_eq_true', Bool.not_eq_false, validateEvidence_valid,
      Option.some.injEq, Prod.mk.injEq, ↓existsAndEq, true_and]
    constructor
    · rintro ⟨hrules, hbinding, -, hrequest, hrest⟩
      cases hfault : observations.findSome? (signatureFault keys) with
      | some fault => simp [hfault, RegistryFailureReport.failure] at hrest
      | none =>
        simp only [hfault, valid_failure_ite, ne_eq, not_not, Bool.or_eq_true, not_or,
          Bool.not_eq_true', Bool.not_eq_false] at hrest
        obtain ⟨hroot, hverifiers, hsummary, hid, hsignature, -⟩ := hrest
        rw [not_or, not_or, not_or, ne_eq, ne_eq, ne_eq, ne_eq, not_not, not_not, not_not,
          not_not] at hbinding
        exact {
          rules := hrules
          target := hbinding.1
          challengeId := hbinding.2.1
          failureType := hbinding.2.2.1
          result := hbinding.2.2.2
          requestSigned := hrequest
          observationsSigned := hsigned.mp hfault
          root := hroot
          verifiers := hverifiers
          summary := hsummary
          reportId := hid
          signature := hsignature.2 }
    · intro h
      refine ⟨h.rules, by simp [h.target, h.challengeId, h.failureType, h.result],
        by simp [isEmpty_of_holds h.requestSigned], h.requestSigned, ?_⟩
      rw [hsigned.mpr h.observationsSigned]
      simp only [valid_failure_ite, ne_eq, not_not, Bool.or_eq_true, not_or, Bool.not_eq_true',
        Bool.not_eq_false]
      exact ⟨h.root, h.verifiers, h.summary, h.reportId,
        ⟨by simp [isEmpty_of_holds h.signature], h.signature⟩, trivial⟩

end AidnSpec.Registry
