import AidnSpec.Base.Dict
import AidnSpec.Faucet.Policies

/-!
# The faucet service

`FaucetService.claim` and `reconcile` of `aidn_faucet/service.py` over the store of
`aidn_faucet/store.py`. A call of a client takes one step for each of its calls of the store, of the
chain and of the submitter; steps of several clients interleave. The chain takes the transfers of
the Treasury in the order of their sequences.
-/

namespace AidnSpec.Faucet

open Base

/-! ## Records -/

structure FaucetClaimRequest where
  requestId : String
  walletId : String
  walletPublicKey : String
  challengeId : String
  walletSignature : String

/-- A row of `challenges`. -/
structure FaucetChallenge where
  challengeId : String
  walletId : String
  challenge : String
  expiresAt : Int
  used : Bool := false

/-- The envelope of a transfer, without the members that all transfers share. -/
structure Transfer where
  senderSequence : ℕ
  createdAt : String
  recipientWallet : String
  amount : Int
  claimId : String
  policyId : String
  policyVersion : String
  quotaKey : String
  policyDecisionHash : String
  deriving DecidableEq

inductive ClaimStatus where
  | pending
  | rejected
  | finalized
  deriving DecidableEq

/-- A row of `claims`. -/
structure ClaimRecord (σ : Type) where
  requestId : String
  claimId : String
  walletId : String
  quotaKey : String
  policyId : String
  policyVersion : String
  policyStateKey : String
  amountQAtoms : Int
  stateAfterSuccess : σ
  transfer : Transfer
  operationId : String
  status : ClaimStatus := .pending
  detail : Option String := none
  createdAt : String
  finalizedAt : Option String := none

structure FaucetClaimResponse where
  requestId : String
  claimId : Option String := none
  status : String
  amountQAtoms : Int := 0
  operationId : Option String := none
  transactionHash : Option String := none
  policyId : String
  policyVersion : String
  detail : Option String := none

/-- What a call ends with. -/
inductive Outcome where
  | response (response : FaucetClaimResponse)
  | raised (detail : String)

/-! ## The store -/

/-- The tables of `FaucetStore`. -/
structure FaucetStore (σ : Type) where
  challenges : Dict String FaucetChallenge := .empty
  claims : Dict String (ClaimRecord σ) := .empty
  policyStates : Dict String σ := .empty

namespace FaucetStore

variable {σ : Type} (store : FaucetStore σ)

/-- `mark_challenge_used`; `none` when no row is updated. -/
def markChallengeUsed (challengeId : String) : Option (FaucetStore σ) :=
  match store.challenges.get? challengeId with
  | some challenge =>
    if challenge.used then none
    else some { store with
      challenges := store.challenges.set challengeId { challenge with used := true } }
  | none => none

/-- The claim that comes first in an order of the times of creation. -/
def preferred (before : String → String → Bool) (best : Option (ClaimRecord σ))
    (claim : ClaimRecord σ) : Option (ClaimRecord σ) :=
  match best with
  | some found => if before claim.createdAt found.createdAt then some claim else some found
  | none => some claim

/-- The first claim in an order of the times of creation. -/
def firstClaim (before : String → String → Bool) (claims : List (ClaimRecord σ)) :
    Option (ClaimRecord σ) :=
  claims.foldl (preferred before) none

def findActiveQuotaClaim (walletId quotaKey : String) : Option (ClaimRecord σ) :=
  firstClaim (fun a b => b < a) (store.claims.values.filter fun claim =>
    claim.walletId == walletId && claim.quotaKey == quotaKey && claim.status != .rejected)

def findPendingTreasuryClaim : Option (ClaimRecord σ) :=
  firstClaim (fun a b => a < b) (store.claims.values.filter (·.status == .pending))

/-- `create_pending_claim`; `none` when a constraint of the table fails. -/
def createPendingClaim (claim : ClaimRecord σ) : Option (FaucetStore σ) :=
  if store.claims.contains claim.requestId || store.claims.values.any fun existing =>
      existing.claimId == claim.claimId || existing.operationId == claim.operationId then none
  else some { store with claims := store.claims.set claim.requestId claim }

def updateClaim (requestId : String) (f : ClaimRecord σ → ClaimRecord σ) :
    Dict String (ClaimRecord σ) :=
  match store.claims.get? requestId with
  | some claim =>
    if claim.status = .finalized then store.claims else store.claims.set requestId (f claim)
  | none => store.claims

/-- `mark_submission_unknown` and `mark_submission_rejected`. -/
def markSubmission (requestId : String) (status : ClaimStatus) (detail : String) :
    FaucetStore σ :=
  { store with
    claims := store.updateClaim requestId fun claim => { claim with
      status := status
      detail := detail } }

/-- `finalize_claim`: the state of the policy is written in any case. -/
def finalizeClaim (requestId policyStateKey : String) (stateAfterSuccess : σ)
    (finalizedAt : String) (detail : Option String) : FaucetStore σ :=
  { store with
    claims := store.updateClaim requestId fun claim => { claim with
      status := .finalized
      detail := detail
      finalizedAt := some finalizedAt }
    policyStates := store.policyStates.set policyStateKey stateAfterSuccess }

end FaucetStore

/-! ## Steps of a call -/

/-- `TransferSubmission.status`. -/
inductive SubmissionStatus where
  | finalized
  | admitted
  | rejected
  | unknown
  deriving DecidableEq

inductive SubmitterAnswer where
  | raised (error : String)
  | submission (operationId : String) (status : SubmissionStatus) (detail : Option String)

/-- The local variables of `claim` once the policy has decided. -/
structure Choice (σ : Type) where
  request : FaucetClaimRequest
  now : UtcReading
  state : σ
  decision : PolicyDecision σ

/-- Where a call stands, with its local variables. -/
inductive Stage (σ : Type) where
  | idle
  | claiming (request : FaucetClaimRequest)
  | fresh (request : FaucetClaimRequest)
  | proven (request : FaucetClaimRequest) (now : UtcReading)
  | unobstructed (request : FaucetClaimRequest) (now : UtcReading)
  | informed (request : FaucetClaimRequest) (now : UtcReading) (state : σ)
  | decided (choice : Choice σ)
  | assembled (choice : Choice σ) (senderSequence : ℕ)
  | spent (choice : Choice σ) (senderSequence : ℕ)
  | reconciling (requestId : String)
  | submitting (record : ClaimRecord σ)
  | submitted (record : ClaimRecord σ)
  | answered (record : ClaimRecord σ) (answer : SubmitterAnswer)
  | finished (outcome : Outcome)

/-- A new call can start. -/
def Stage.free {σ : Type} : Stage σ → Bool
  | .idle | .finished _ => true
  | _ => false

/-- What a step reads outside of the store: the clock, twice, the checks of
`_ensure_claims_enabled`, the failure of the sequence and the answer of the submitter. -/
structure Readings where
  now : UtcReading
  later : UtcReading
  refused : Option String := none
  sequenceError : Option String := none
  answer : SubmitterAnswer := .raised "no answer"

/-- The transfers of the Treasury: those that were sent, and those that are final. -/
structure TreasuryChain where
  nextSequence : ℕ
  sent : List Transfer := []
  final : List Transfer := []

/-- The faucet and its clients. `spent` are the challenges that were consumed with the requests they
were consumed for, and `latest` is the latest reading of the clock. -/
structure FaucetSystem (σ : Type) where
  store : FaucetStore σ
  chain : TreasuryChain
  stages : ℕ → Stage σ := fun _ => .idle
  spent : List (String × String) := []
  latest : Int

/-- `value or default` of a text. -/
def orText (value : Option String) (default : String) : String :=
  match value with
  | some text => if text.isEmpty then default else text
  | none => default

/-- What `_submit_or_recover` writes for an answer of the submitter; `none` when it raises. -/
def FaucetStore.recordAnswer {σ : Type} (store : FaucetStore σ) (record : ClaimRecord σ)
    (now : UtcReading) : SubmitterAnswer → Option (FaucetStore σ)
  | .raised error =>
    some (store.markSubmission record.requestId .pending ("SUBMISSION_UNKNOWN: " ++ error))
  | .submission operationId status detail =>
    if operationId ≠ record.operationId then none
    else some (match status with
      | .finalized => store.finalizeClaim record.requestId record.policyStateKey
          record.stateAfterSuccess now.text detail
      | .admitted => store.markSubmission record.requestId .pending
          ("PENDING_FINALITY: " ++ orText detail "consensus admission accepted")
      | .rejected => store.markSubmission record.requestId .rejected
          ("SUBMISSION_REJECTED: " ++ orText detail "consensus rejected the envelope")
      | .unknown => store.markSubmission record.requestId .pending
          ("SUBMISSION_UNKNOWN: " ++ orText detail "UNKNOWN"))

/-- `FaucetService`, with what it computes outside of its class. -/
structure FaucetService (σ : Type) where
  serviceId : String := "aidn-faucet"
  policy : FaucetPolicy σ
  policyStateKey : String
  /-- `canonical_hash`. -/
  hash : PyValue → String := canonicalHash
  /-- `wallet_id_for_public_key`. -/
  walletIdForPublicKey : String → Except String String
  /-- The signature of the request is one of its wallet over the challenge. -/
  provesWallet : FaucetClaimRequest → FaucetChallenge → Bool
  /-- `LedgerOperationEnvelope.operation_id`, over the signed envelope. -/
  operationId : Transfer → String
  /-- `cometbft_transaction_hash` of the envelope. -/
  transactionHash : Transfer → String

namespace FaucetService

variable {σ : Type} (service : FaucetService σ)

/-- The id of the claim of a request: 32 digits of the hash, without its algorithm. -/
def claimIdOf (requestId : String) : String :=
  let digest := (service.hash (.dict [("service_id", .str service.serviceId),
    ("request_id", .str requestId)])).toList
  let digits := if "sha256:".toList.isPrefixOf digest then digest.drop 7 else digest
  "faucet-claim-" ++ String.ofList (digits.take 32)

def responseFromRecord (record : ClaimRecord σ) : FaucetClaimResponse where
  requestId := record.requestId
  claimId := some record.claimId
  status := match record.status with
    | .finalized => "APPROVED"
    | .rejected => "SUBMISSION_REJECTED"
    | .pending =>
      if record.detail.any (·.startsWith "PENDING_FINALITY") then "PENDING_FINALITY"
      else "SUBMISSION_UNKNOWN"
  amountQAtoms := record.amountQAtoms
  operationId := some record.operationId
  transactionHash := some (service.transactionHash record.transfer)
  policyId := record.policyId
  policyVersion := record.policyVersion
  detail := record.detail

def verifyWalletProof (store : FaucetStore σ) (request : FaucetClaimRequest) (now : UtcReading) :
    Except String Unit := do
  let expected ← service.walletIdForPublicKey request.walletPublicKey
  if expected ≠ request.walletId then .error "FAUCET_WALLET_ID_MISMATCH"
  else match store.challenges.get? request.challengeId with
    | none => .error "FAUCET_CHALLENGE_INVALID"
    | some challenge =>
      if challenge.walletId ≠ request.walletId then .error "FAUCET_CHALLENGE_INVALID"
      else if challenge.used then .error "FAUCET_CHALLENGE_USED"
      else if challenge.expiresAt ≤ now.micros then .error "FAUCET_CHALLENGE_EXPIRED"
      else if service.provesWallet request challenge then .ok ()
      else .error "FAUCET_WALLET_PROOF_INVALID"

def refusal (request : FaucetClaimRequest) (status detail : String) : Outcome :=
  .response {
    requestId := request.requestId
    status := status
    policyId := service.policy.policyId
    policyVersion := service.policy.policyVersion
    detail := some detail }

/-- The decision of the policy in `claim`. -/
def decideClaim (store : FaucetStore σ) (request : FaucetClaimRequest) (now : UtcReading)
    (state : σ) : Stage σ :=
  match service.policy.quotaKey request.walletId state now with
  | .error e => .finished (.raised e.detail)
  | .ok quotaKey =>
    let active := store.findActiveQuotaClaim request.walletId quotaKey
    match service.policy.decide request.walletId state now active.isSome with
    | .error e =>
      if e.code = "FAUCET_QUOTA_EXHAUSTED" then
        .finished (service.refusal request "QUOTA_EXHAUSTED" e.detail)
      else if e.code = "FAUCET_POOL_EMPTY" then
        .finished (service.refusal request "POOL_EMPTY" e.detail)
      else match active with
        | some claim => .finished (.response (service.responseFromRecord claim))
        | none => .finished (.raised e.detail)
    | .ok decision =>
      if decision.quotaKey ≠ quotaKey then .finished (.raised "FAUCET_POLICY_QUOTA_KEY_CHANGED")
      else .decided ⟨request, now, state, decision⟩

/-- `_build_transfer_envelope`. -/
def transferOf (choice : Choice σ) (senderSequence : ℕ) : Transfer where
  senderSequence := senderSequence
  createdAt := choice.now.text
  recipientWallet := choice.request.walletId
  amount := choice.decision.amountQAtoms
  claimId := service.claimIdOf choice.request.requestId
  policyId := choice.decision.policyId
  policyVersion := choice.decision.policyVersion
  quotaKey := choice.decision.quotaKey
  policyDecisionHash := choice.decision.decisionHash

/-- The claim that `claim` creates. -/
def newClaim (choice : Choice σ) (senderSequence : ℕ) : ClaimRecord σ where
  requestId := choice.request.requestId
  claimId := service.claimIdOf choice.request.requestId
  walletId := choice.request.walletId
  quotaKey := choice.decision.quotaKey
  policyId := choice.decision.policyId
  policyVersion := choice.decision.policyVersion
  policyStateKey := service.policyStateKey
  amountQAtoms := choice.decision.amountQAtoms
  stateAfterSuccess := choice.decision.stateAfterSuccess
  transfer := service.transferOf choice senderSequence
  operationId := service.operationId (service.transferOf choice senderSequence)
  createdAt := choice.now.text

def recorded (store : FaucetStore σ) (requestId : String) : Outcome :=
  match store.claims.get? requestId with
  | some record => .response (service.responseFromRecord record)
  | none => .raised "Faucet claim disappeared during submission"

end FaucetService

namespace FaucetSystem

variable {σ : Type} (service : FaucetService σ) (s : FaucetSystem σ)

def move (client : ℕ) (stage : Stage σ) : FaucetSystem σ :=
  { s with stages := fun other => if other = client then stage else s.stages other }

def readClock (micros : Int) : FaucetSystem σ := { s with latest := max s.latest micros }

/-- The submitter answers that a transfer is final only when it is. -/
def possible (record : ClaimRecord σ) : SubmitterAnswer → Bool
  | .submission _ .finalized _ => record.transfer ∈ s.chain.final
  | _ => true

/-- The next step of the call of a client. -/
def advance (client : ℕ) (readings : Readings) : FaucetSystem σ :=
  match s.stages client with
  | .idle | .finished _ => s
  | .claiming request => s.move client <| match s.store.claims.get? request.requestId with
    | some existing =>
      if existing.walletId ≠ request.walletId then
        .finished (.raised "FAUCET_REQUEST_ID_REUSED_FOR_ANOTHER_WALLET")
      else .finished (.response (service.responseFromRecord existing))
    | none => .fresh request
  | .fresh request =>
    ((s.readClock readings.now.micros).readClock readings.later.micros).move client <|
    match readings.refused with
    | some detail => .finished (.raised detail)
    | none => match service.verifyWalletProof s.store request readings.later with
      | .error detail => .finished (.raised detail)
      | .ok _ => .proven request readings.now
  | .proven request now => s.move client <|
    if s.store.findPendingTreasuryClaim.isSome then
      .finished (.raised "FAUCET_TREASURY_TRANSFER_PENDING")
    else .unobstructed request now
  | .unobstructed request now => s.move client <|
    match s.store.policyStates.get? service.policyStateKey with
    | none => .finished (.raised "FAUCET_POLICY_STATE_MISSING")
    | some state => .informed request now state
  | .informed request now state => s.move client (service.decideClaim s.store request now state)
  | .decided choice => s.move client <| match readings.sequenceError with
    | some error => .finished (.raised ("FAUCET_SEQUENCE_UNAVAILABLE: " ++ error))
    | none => .assembled choice s.chain.nextSequence
  | .assembled choice sequence =>
    match s.store.markChallengeUsed choice.request.challengeId with
    | none => s.move client (.finished (.raised "FAUCET_CHALLENGE_USED"))
    | some store => { s with
        store := store
        spent := s.spent ++ [(choice.request.challengeId, choice.request.requestId)] }.move client
          (.spent choice sequence)
  | .spent choice sequence =>
    match s.store.createPendingClaim (service.newClaim choice sequence) with
    | none => s.move client (.finished (.raised "UNIQUE constraint failed"))
    | some store =>
      { s with store := store }.move client (.submitting (service.newClaim choice sequence))
  | .reconciling requestId => s.move client <| match s.store.claims.get? requestId with
    | none => .finished (.raised "FAUCET_CLAIM_NOT_FOUND")
    | some record =>
      if record.status = .finalized then .finished (.response (service.responseFromRecord record))
      else .submitting record
  | .submitting record =>
    { s with chain := { s.chain with sent := s.chain.sent ++ [record.transfer] } }.move client
      (.submitted record)
  | .submitted record =>
    if s.possible record readings.answer then s.move client (.answered record readings.answer)
    else s
  | .answered record answer =>
    match s.store.recordAnswer record readings.now answer with
    | none => s.move client (.finished (.raised "FAUCET_SUBMITTER_OPERATION_MISMATCH"))
    | some store => ({ s with store := store }.readClock readings.now.micros).move client
        (.finished (service.recorded store record.requestId))

end FaucetSystem

/-- What happens: a challenge is issued, a client calls, a call takes a step, or the chain finalizes
a transfer. -/
inductive FaucetEvent where
  | challenge (walletId walletPublicKey challengeId challenge : String) (now : UtcReading)
  | claim (client : ℕ) (request : FaucetClaimRequest)
  | reconcile (client : ℕ) (requestId : String)
  | advance (client : ℕ) (readings : Readings)
  | finalize (transfer : Transfer)

namespace FaucetSystem

variable {σ : Type} (service : FaucetService σ)

/-- `issue_challenge`, with what it draws; a wallet that is not that of the key, or an id that is
taken, raises. -/
def issueChallenge (s : FaucetSystem σ) (walletId walletPublicKey challengeId challenge : String)
    (now : UtcReading) : FaucetSystem σ :=
  if service.walletIdForPublicKey walletPublicKey = .ok walletId ∧
      !s.store.challenges.contains challengeId then
    { s.readClock now.micros with
      store := { s.store with
        challenges := s.store.challenges.set challengeId {
          challengeId := challengeId
          walletId := walletId
          challenge := challenge
          expiresAt := now.micros + 600000000 } } }
  else s

def step (s : FaucetSystem σ) : FaucetEvent → FaucetSystem σ
  | .challenge walletId walletPublicKey challengeId challenge now =>
    s.issueChallenge service walletId walletPublicKey challengeId challenge now
  | .claim client request =>
    if (s.stages client).free then s.move client (.claiming request) else s
  | .reconcile client requestId =>
    if (s.stages client).free then s.move client (.reconciling requestId) else s
  | .advance client readings => s.advance service client readings
  | .finalize transfer =>
    if transfer ∈ s.chain.sent ∧ transfer.senderSequence = s.chain.nextSequence then
      { s with chain := { s.chain with
        nextSequence := s.chain.nextSequence + 1
        final := s.chain.final ++ [transfer] } }
    else s

def initial (now : UtcReading) (nextSequence : ℕ) : FaucetSystem σ where
  store := {
    policyStates := Dict.empty.set service.policyStateKey (service.policy.initialState now) }
  chain := { nextSequence := nextSequence }
  latest := now.micros

end FaucetSystem

end AidnSpec.Faucet
