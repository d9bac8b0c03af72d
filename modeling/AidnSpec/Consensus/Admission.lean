import AidnSpec.Base.Datetime
import AidnSpec.Ledger.ForceSettle

/-!
# Admission of operations

`consensus/admission.py`: the checks that an envelope passes before the ledger sees it. The
validator keeps its own replay cache and its own counter for every wallet; the clock is the time at
which the validator was constructed.
-/

namespace AidnSpec.Consensus

open Base Ledger

/-! ## The size of a payload -/

/-- The length of joined texts: a comma and a blank stand between two of them. -/
def joinedLength (lengths : List Nat) : Nat := lengths.sum + 2 * (lengths.length - 1)

mutual
/-- `len(json.dumps(value).encode("utf-8"))`. -/
def dumpsLength : PyValue → Nat
  | .none => 4
  | .bool b => if b then 4 else 5
  | .int n => (toString n).length
  | .float repr _ => repr.length
  | .nonFinite repr => repr.length
  | .str s => (quoteText s).length
  | .list items => 2 + joinedLength (itemLengths items)
  | .dict members => 2 + joinedLength (memberLengths members)
def itemLengths : List PyValue → List Nat
  | [] => []
  | item :: items => dumpsLength item :: itemLengths items
/-- The lengths of the members of an object, each with its key, a colon and a blank. -/
def memberLengths : List (String × PyValue) → List Nat
  | [] => []
  | (key, value) :: members =>
    ((quoteText key).length + 2 + dumpsLength value) :: memberLengths members
end

/-! ## The validator -/

/-- The arguments of an `AdmissionValidator` that it never changes. -/
structure AdmissionConfig where
  currentTime : String
  maxPayloadBytes : Nat := 65536
  maxEvidenceRefs : Nat := 16
  maxSignatures : Nat := 8
  signatureVerifier : Option (Envelope → Bool) := none
  requireSignatureForOrigins : List OriginType := []

/-- The replay cache and the sequences of an `AdmissionValidator`. -/
structure AdmissionState where
  finalizedIds : List String := []
  walletSequences : Dict String Nat := .empty

def parseTimestamp [Runtime] (text : String) : Except PyError Int :=
  match Runtime.fromisoformat (replaceZulu text) with
  | some instant =>
    if instant.aware then instant.toUtc else raiseValue "timestamp must include a timezone"
  | none => raiseValue "Invalid isoformat string"

/-- Two calls of `_parse_timestamp`; `none` stands for their `ValueError`, which every caller
catches, and an `OverflowError` goes through. -/
def parseTimestamps [Runtime] (first second : String) : Except PyError (Option (Int × Int)) :=
  match do return (← parseTimestamp first, ← parseTimestamp second) with
  | .ok times => .ok (some times)
  | .error e => if e.kind = .value then .ok none else .error e

/-- The expiry check, by the clock of the validator. -/
def expiryComplaint [Runtime] (currentTime : String) (env : Envelope) :
    Except PyError (Option String) :=
  match env.expiresAt with
  | none => .ok none
  | some text =>
    if text.isEmpty then .ok none
    else do
      match ← parseTimestamps text currentTime with
      | some (expires, now) => return if expires < now then some "operation_expired" else none
      | none => return some "invalid_expiration"

/-- The checks after the expiry check: sizes and signatures. -/
def AdmissionConfig.limitComplaint (config : AdmissionConfig) (env : Envelope) : Option String :=
  if config.maxPayloadBytes < dumpsLength (.dict env.payload) then some "payload_too_large"
  else if config.maxEvidenceRefs < env.evidenceReferences.length then
    some "too_many_evidence_refs"
  else if config.maxSignatures < env.signatures.length then some "too_many_signatures"
  else if config.requireSignatureForOrigins.contains env.originType && env.signatures.isEmpty then
    some "signature_required"
  else
    match config.signatureVerifier with
    | some verify =>
      if !env.signatures.isEmpty && !verify env then some "signature_invalid" else none
    | none => none

namespace AdmissionState

/-- The next sequence that the validator expects of a wallet. -/
def nextSequence (s : AdmissionState) (wallet : String) : Nat :=
  (s.walletSequences.get? wallet).getD 1

/-- The sequence check; it is left out for an envelope without a sender or a sequence. -/
def sequenceMatches (s : AdmissionState) (env : Envelope) : Bool :=
  match env.senderWallet, env.senderSequence with
  | some wallet, some sequence => wallet.isEmpty || sequence == s.nextSequence wallet
  | _, _ => true

/-- `validate`: the reason of a refusal. -/
def validate [Runtime] (config : AdmissionConfig) (s : AdmissionState) (env : Envelope) :
    Except PyError (Option String) :=
  if s.finalizedIds.contains env.operationId then .ok (some "duplicate_operation_id")
  else if !s.sequenceMatches env then .ok (some "invalid_sender_sequence")
  else do return (← expiryComplaint config.currentTime env).or (config.limitComplaint env)

def recordFinalized (s : AdmissionState) (operationId : String) : AdmissionState :=
  { s with finalizedIds := operationId :: s.finalizedIds }

def advanceWalletSequence (s : AdmissionState) (wallet : String) : AdmissionState :=
  { s with walletSequences := s.walletSequences.set wallet (s.nextSequence wallet + 1) }

/-- What the executors note about an operation that the ledger applied. -/
def noteApplied (s : AdmissionState) (env : Envelope) : AdmissionState :=
  match env.senderWallet with
  | some wallet => (s.recordFinalized env.operationId).advanceWalletSequence wallet
  | none => s.recordFinalized env.operationId

theorem validate_of_passes [Runtime] {config : AdmissionConfig} {s : AdmissionState}
    {env : Envelope}
    (hnew : s.finalizedIds.contains env.operationId = false)
    (hsequence : s.sequenceMatches env = true)
    (hexpiry : expiryComplaint config.currentTime env = .ok none)
    (hlimits : config.limitComplaint env = none) : s.validate config env = .ok none := by
  simp only [validate, hnew, hsequence, hexpiry, hlimits, Bool.not_true, Bool.false_eq_true,
    if_false]
  rfl

end AdmissionState

end AidnSpec.Consensus
