import Mathlib.Data.List.Chain
import AidnSpec.Base.Datetime
import AidnSpec.Consensus.Admission
import AidnSpec.Consensus.HeaderHash

/-!
# The light client

`consensus/light_client.py`: a trusted checkpoint moves to a later signed header on two thirds of
the power of the header's own validator set and, when heights are skipped, on an overlap with the
set that was trusted before. Hashing of validator sets and checking of signatures are those of a
backend; `str.upper` maps the letters of Unicode.
-/

namespace AidnSpec.Consensus

open Base Ledger List

/-- `str.upper`. -/
class UpperCase where
  upper : String → String

/-! ## Validator sets and checkpoints -/

structure CometBftValidator where
  address : String
  publicKey : String
  votingPower : Int
  identified : (isBlank address || isBlank publicKey) = false
  powered : 1 ≤ votingPower
  deriving DecidableEq

structure CometBftValidatorSet where
  validators : List CometBftValidator
  nonempty : validators ≠ []
  distinct : (validators.map (·.address)).Nodup
  deriving DecidableEq

def CometBftValidatorSet.totalVotingPower (set : CometBftValidatorSet) : Int :=
  (set.validators.map (·.votingPower)).sum

def CometBftValidatorSet.votingPowerOf (set : CometBftValidatorSet) (addresses : List String) :
    Int :=
  ((set.validators.filter (addresses.contains ·.address)).map (·.votingPower)).sum

structure CheckpointFields where
  chainId : String
  height : Int
  blockId : String
  appHash : String
  headerTime : String
  validatorSet : CometBftValidatorSet
  validatorSetHash : String
  nextValidatorSetHash : String
  deriving DecidableEq

/-- The fields that must not be blank. -/
def CheckpointFields.requiredNonemptyFields (c : CheckpointFields) : List String :=
  [c.chainId, c.blockId, c.headerTime, c.validatorSetHash, c.nextValidatorSetHash]

structure TrustedCometBftCheckpoint extends CheckpointFields where
  named : toCheckpointFields.requiredNonemptyFields.any isBlank = false
  positive : 1 ≤ height
  deriving DecidableEq

/-- `TrustedCometBftCheckpoint.__post_init__`. -/
def CheckpointFields.validated (c : CheckpointFields) : Except PyError TrustedCometBftCheckpoint :=
  if named : c.requiredNonemptyFields.any isBlank = false then
    if positive : 1 ≤ c.height then .ok ⟨c, named, positive⟩
    else raiseValue "Trusted CometBFT checkpoint height must be positive"
  else raiseValue "Trusted CometBFT checkpoint has an empty required field"

/-! ## The client -/

/-- `CometBftCryptographicBackend`. -/
structure CryptographicBackend where
  validatorSetHash : CometBftValidatorSet → Except PyError String
  /-- The signers of the header, by the set, the chain, the height and the block id. -/
  verifiedSignerAddresses : Fields → CometBftValidatorSet → String → Int → String →
    Except PyError (List String)

/-- What a `CometBftLightClient` is constructed with, apart from its checkpoint. -/
structure CometBftLightClient where
  cryptography : CryptographicBackend
  trustPeriodSeconds : Int
  trustLevelNumerator : Int
  trustLevelDenominator : Int
  period : 1 ≤ trustPeriodSeconds
  level : 1 ≤ trustLevelNumerator ∧ 3 ≤ trustLevelDenominator
  atLeastOneThird : trustLevelDenominator ≤ 3 * trustLevelNumerator
  belowTwoThirds : 3 * trustLevelNumerator < 2 * trustLevelDenominator

/-- The arguments of `verify_and_trust`, and the time that the clock of the client shows. -/
structure HeaderCall where
  signedHeader : Fields
  validatorSet : CometBftValidatorSet
  nextValidatorSet : CometBftValidatorSet
  chainId : String
  blockHeight : Int
  blockId : String
  appHash : String
  now : Instant

/-- `dict`, or the given complaint. -/
def requireDict (value : PyValue) (complaint : String) : Except PyError Fields :=
  match value with
  | .dict members => .ok members
  | _ => raiseValue complaint

/-- The hash of the block id that a commit names. -/
def commitHash (commit : Fields) : PyValue :=
  match PyValue.get commit "block_id" with
  | .dict blockId => PyValue.get blockId "hash"
  | _ => .none

/-- `header.get("time") or ""`; a header that has a hash has a text here. -/
def headerTimeText (header : Fields) : String := header.text "time"

section Client

variable [UpperCase]

/-- The block id of a call is the one that the commit names. -/
def commitBinding (commit : Fields) (blockId : String) : Bool :=
  match commitHash commit with
  | .str hash => UpperCase.upper hash == UpperCase.upper blockId
  | _ => false

def checkpointFromSignedHeader (client : CometBftLightClient) (call : HeaderCall) :
    Except PyError TrustedCometBftCheckpoint := do
  let invalid := "CometBFT signed header is invalid"
  let header ← requireDict (PyValue.get call.signedHeader "header") invalid
  let commit ← requireDict (PyValue.get call.signedHeader "commit") invalid
  let identity := "CometBFT signed header identity is invalid"
  require (PyValue.get header "chain_id" = .str call.chainId) identity
  let height ← (PyValue.get header "height").toInt
  require (height = call.blockHeight) identity
  require (PyValue.get header "app_hash" = .str call.appHash)
    "CometBFT signed header app hash is invalid"
  require (commitBinding commit call.blockId) "CometBFT commit block binding is invalid"
  let headerHash ← cometbftHeaderHash header
  require (headerHash = UpperCase.upper call.blockId)
    "CometBFT header does not match the committed block ID"
  let validatorHash ← client.cryptography.validatorSetHash call.validatorSet
  let nextValidatorHash ← client.cryptography.validatorSetHash call.nextValidatorSet
  require (PyValue.get header "validators_hash" = .str validatorHash)
    "CometBFT validator set does not match header"
  require (PyValue.get header "next_validators_hash" = .str nextValidatorHash)
    "CometBFT next validator set does not match header"
  CheckpointFields.validated {
    chainId := call.chainId, height := call.blockHeight, blockId := call.blockId,
    appHash := call.appHash, headerTime := headerTimeText header,
    validatorSet := call.validatorSet, validatorSetHash := validatorHash,
    nextValidatorSetHash := nextValidatorHash }

variable [Runtime]

/-- `_parse_time`, in microseconds; a time without a zone is one of UTC. -/
def parseTime (value : String) : Except PyError Int :=
  match Runtime.fromisoformat (replaceZulu value) with
  | some instant => .ok instant.micros
  | none => raiseValue "Invalid isoformat string"

def trustedIsCurrent (client : CometBftLightClient) (trusted : TrustedCometBftCheckpoint)
    (now : Instant) : Except PyError Bool := do
  let trustedTime ← parseTime trusted.headerTime
  let bound ← plusSeconds trustedTime client.trustPeriodSeconds
  now.notAfter ⟨true, bound⟩

def hasTwoThirds (set : CometBftValidatorSet) (signers : List String) : Bool :=
  2 * set.totalVotingPower < 3 * set.votingPowerOf signers

def hasTrustedOverlap (client : CometBftLightClient) (trusted : TrustedCometBftCheckpoint)
    (signers : List String) : Bool :=
  trusted.validatorSet.totalVotingPower * client.trustLevelNumerator <
    trusted.validatorSet.votingPowerOf signers * client.trustLevelDenominator

/-- The checks of `verify_and_trust` on the signers: two thirds of the power of the set of the
header, and the set that was announced or an overlap with the set trusted before. -/
def isBackedBy (client : CometBftLightClient) (trusted : TrustedCometBftCheckpoint)
    (call : HeaderCall) (candidate : TrustedCometBftCheckpoint) (signers : List String) : Bool :=
  !signers.isEmpty && hasTwoThirds call.validatorSet signers &&
    if candidate.height = trusted.height + 1 then
      trusted.nextValidatorSetHash == candidate.validatorSetHash
    else hasTrustedOverlap client trusted signers

/-- The `try` block of `verify_and_trust`: the answer, and the checkpoint that is trusted
behind it. -/
def verifyBody (client : CometBftLightClient) (trusted : TrustedCometBftCheckpoint)
    (call : HeaderCall) : Except PyError (Bool × TrustedCometBftCheckpoint) := do
  let candidate ← checkpointFromSignedHeader client call
  if candidate.height = trusted.height then
    return (candidate.blockId = trusted.blockId && candidate.appHash = trusted.appHash &&
      candidate.validatorSetHash = trusted.validatorSetHash, trusted)
  else if candidate.height < trusted.height then return (false, trusted)
  else if !(← trustedIsCurrent client trusted call.now) then return (false, trusted)
  else if (← parseTime candidate.headerTime) ≤ (← parseTime trusted.headerTime) then
    return (false, trusted)
  else
    let signers ← client.cryptography.verifiedSignerAddresses call.signedHeader call.validatorSet
      call.chainId call.blockHeight call.blockId
    return if isBackedBy client trusted call candidate signers then (true, candidate)
      else (false, trusted)

/-- `verify_and_trust`: three classes of exceptions are a refusal, the others leave the
checkpoint as well. -/
def verifyAndTrust (client : CometBftLightClient) (trusted : TrustedCometBftCheckpoint)
    (call : HeaderCall) : Except PyError Bool × TrustedCometBftCheckpoint :=
  match verifyBody client trusted call with
  | .ok (answer, checkpoint) => (.ok answer, checkpoint)
  | .error e =>
    if [PyErrorKind.key, .type, .value].contains e.kind then (.ok false, trusted)
    else (.error e, trusted)

/-! ## Promotions -/

/-- What stands behind the move from one trusted checkpoint to the next. -/
structure Promotion (client : CometBftLightClient) (call : HeaderCall)
    (previous next : TrustedCometBftCheckpoint) : Prop where
  heights : previous.height < next.height
  times : ∃ before after, parseTime previous.headerTime = .ok before ∧
    parseTime next.headerTime = .ok after ∧ before < after ∧
    call.now.micros ≤ before + 1000000 * client.trustPeriodSeconds
  carried : ∃ header, PyValue.get call.signedHeader "header" = .dict header ∧
    PyValue.get header "validators_hash" = .str next.validatorSetHash
  hashed : client.cryptography.validatorSetHash call.validatorSet = .ok next.validatorSetHash
  signed : ∃ signers, client.cryptography.verifiedSignerAddresses call.signedHeader
      call.validatorSet call.chainId call.blockHeight call.blockId = .ok signers ∧
    2 * call.validatorSet.totalVotingPower < 3 * call.validatorSet.votingPowerOf signers ∧
    (next.height = previous.height + 1 ∧
        next.validatorSetHash = previous.nextValidatorSetHash ∨
      previous.height + 1 < next.height ∧
        previous.validatorSet.totalVotingPower * client.trustLevelNumerator <
          previous.validatorSet.votingPowerOf signers * client.trustLevelDenominator)

variable {client : CometBftLightClient} {call : HeaderCall}
  {candidate trusted : TrustedCometBftCheckpoint}

omit [Runtime] in
/-- What a candidate takes over from the call. -/
theorem checkpointFromSignedHeader_eq_ok
    (h : checkpointFromSignedHeader client call = .ok candidate) :
    candidate.chainId = call.chainId ∧
      (∃ header, PyValue.get call.signedHeader "header" = .dict header ∧
        PyValue.get header "validators_hash" = .str candidate.validatorSetHash) ∧
      client.cryptography.validatorSetHash call.validatorSet = .ok candidate.validatorSetHash := by
  simp only [checkpointFromSignedHeader, checks_eq_ok, decide_eq_true_eq] at h
  obtain ⟨header, hheader, commit, -, _, -, height, -, _, -, _, -, _, -, headerHash, -, _, -,
    validatorHash, hhash, nextHash, -, _, hvalidators, _, -, hbuilt⟩ := h
  have hdict : PyValue.get call.signedHeader "header" = .dict header := by
    unfold requireDict at hheader
    split at hheader
    · cases hheader
      assumption
    · cases hheader
  unfold CheckpointFields.validated at hbuilt
  split_ifs at hbuilt
  · cases hbuilt
    exact ⟨rfl, ⟨header, hdict, hvalidators⟩, hhash⟩
  · cases hbuilt
  · cases hbuilt

omit [UpperCase] in
/-- A checkpoint that is current was not left longer ago than the trust period. -/
theorem trustedIsCurrent_eq_true {now : Instant}
    (h : trustedIsCurrent client trusted now = .ok true) :
    ∃ time, parseTime trusted.headerTime = .ok time ∧
      now.micros ≤ time + 1000000 * client.trustPeriodSeconds := by
  simp only [trustedIsCurrent, bind_eq_ok, plusSeconds_eq_ok] at h
  obtain ⟨time, htime, bound, ⟨-, rfl⟩, hnow⟩ := h
  unfold Instant.notAfter at hnow
  split_ifs at hnow
  · exact ⟨time, htime, of_decide_eq_true (Except.ok.inj hnow)⟩
  · cases hnow

omit [UpperCase] [Runtime] in
/-- Signers that back a later candidate. -/
theorem isBackedBy_eq_true {signers : List String} (later : trusted.height < candidate.height)
    (h : isBackedBy client trusted call candidate signers = true) :
    2 * call.validatorSet.totalVotingPower < 3 * call.validatorSet.votingPowerOf signers ∧
    (candidate.height = trusted.height + 1 ∧
        candidate.validatorSetHash = trusted.nextValidatorSetHash ∨
      trusted.height + 1 < candidate.height ∧
        trusted.validatorSet.totalVotingPower * client.trustLevelNumerator <
          trusted.validatorSet.votingPowerOf signers * client.trustLevelDenominator) := by
  simp only [isBackedBy, hasTwoThirds, Bool.and_eq_true, decide_eq_true_eq] at h
  obtain ⟨⟨-, hthirds⟩, hrule⟩ := h
  refine ⟨hthirds, ?_⟩
  by_cases hadjacent : candidate.height = trusted.height + 1
  · rw [if_pos hadjacent, beq_iff_eq] at hrule
    exact .inl ⟨hadjacent, hrule.symm⟩
  · rw [if_neg hadjacent, hasTrustedOverlap, decide_eq_true_eq] at hrule
    exact .inr ⟨by omega, hrule⟩

/-- The body of a call keeps the checkpoint, or it answers true and promotes a candidate. -/
theorem verifyBody_eq_ok {next : TrustedCometBftCheckpoint} {answer : Bool}
    (h : verifyBody client trusted call = .ok (answer, next)) :
    next = trusted ∨
      answer = true ∧ next.chainId = call.chainId ∧ Promotion client call trusted next := by
  obtain ⟨candidate, hcandidate, h⟩ := bind_eq_ok.mp h
  obtain ⟨hchain, hcarried, hhashed⟩ := checkpointFromSignedHeader_eq_ok hcandidate
  by_cases hsame : candidate.height = trusted.height
  · rw [if_pos hsame] at h
    cases h
    exact .inl rfl
  by_cases hbelow : candidate.height < trusted.height
  · rw [if_neg hsame, if_pos hbelow] at h
    cases h
    exact .inl rfl
  rw [if_neg hsame, if_neg hbelow] at h
  obtain ⟨current, hcurrent, h⟩ := bind_eq_ok.mp h
  cases current with
  | false =>
    cases h
    exact .inl rfl
  | true =>
    simp only [Bool.not_true, Bool.false_eq_true, if_false, bind_eq_ok] at h
    obtain ⟨after, hafter, before, hbefore, h⟩ := h
    by_cases hearly : after ≤ before
    · rw [if_pos hearly] at h
      cases h
      exact .inl rfl
    rw [if_neg hearly, bind_eq_ok] at h
    obtain ⟨signers, hsigners, h⟩ := h
    by_cases hbacked : isBackedBy client trusted call candidate signers = true
    · rw [if_pos hbacked] at h
      cases h
      have heights : trusted.height < next.height := by omega
      obtain ⟨time, htime, hperiod⟩ := trustedIsCurrent_eq_true hcurrent
      obtain rfl : before = time := Except.ok.inj (hbefore.symm.trans htime)
      obtain ⟨hthirds, hrule⟩ := isBackedBy_eq_true heights hbacked
      exact .inr ⟨rfl, hchain, heights,
        ⟨before, after, hbefore, hafter, by omega, hperiod⟩, hcarried, hhashed, signers, hsigners,
        hthirds, hrule⟩
    · rw [if_neg hbacked] at h
      cases h
      exact .inl rfl

/-- A call keeps the checkpoint, or it answers true and promotes a candidate. -/
theorem verifyAndTrust_cases (client : CometBftLightClient) (trusted : TrustedCometBftCheckpoint)
    (call : HeaderCall) :
    (verifyAndTrust client trusted call).2 = trusted ∨
      (verifyAndTrust client trusted call).1 = .ok true ∧
      (verifyAndTrust client trusted call).2.chainId = call.chainId ∧
      Promotion client call trusted (verifyAndTrust client trusted call).2 := by
  unfold verifyAndTrust
  cases h : verifyBody client trusted call with
  | ok result =>
    obtain ⟨answer, next⟩ := result
    obtain hkept | ⟨rfl, hchain, hpromotion⟩ := verifyBody_eq_ok h
    · exact .inl hkept
    · exact .inr ⟨rfl, hchain, hpromotion⟩
  | error e =>
    simp only
    split_ifs
    · exact .inl rfl
    · exact .inl rfl

/-! ## Runs -/

def trustedAfter (client : CometBftLightClient) (trusted : TrustedCometBftCheckpoint)
    (calls : List HeaderCall) : TrustedCometBftCheckpoint :=
  calls.foldl (fun checkpoint call => (verifyAndTrust client checkpoint call).2) trusted

/-- The checkpoints that are trusted one after the other in a run of calls. -/
def trustedCheckpoints (client : CometBftLightClient) (trusted : TrustedCometBftCheckpoint) :
    List HeaderCall → List TrustedCometBftCheckpoint
  | [] => [trusted]
  | call :: calls =>
    let next := (verifyAndTrust client trusted call).2
    if next = trusted then trustedCheckpoints client trusted calls
    else trusted :: trustedCheckpoints client next calls

structure TrustChain (client : CometBftLightClient) (initial : TrustedCometBftCheckpoint)
    (calls : List HeaderCall) : Prop where
  chain : ∀ checkpoint ∈ trustedCheckpoints client initial calls,
    checkpoint.chainId = initial.chainId
  promoted : (trustedCheckpoints client initial calls).IsChain fun previous next =>
    ∃ call ∈ calls, Promotion client call previous next
  refused : ∀ before call after, calls = before ++ call :: after →
    (verifyAndTrust client (trustedAfter client initial before) call).1 = .ok false →
    trustedAfter client initial (before ++ [call]) = trustedAfter client initial before

/-- The checkpoints of a run begin with the first one. -/
theorem head?_trustedCheckpoints (client : CometBftLightClient)
    (trusted : TrustedCometBftCheckpoint) (calls : List HeaderCall) :
    (trustedCheckpoints client trusted calls).head? = some trusted := by
  induction calls with
  | nil => rfl
  | cons call calls ih =>
    simp only [trustedCheckpoints]
    split_ifs
    · exact ih
    · rfl

theorem isChain_trustedCheckpoints (client : CometBftLightClient)
    (trusted : TrustedCometBftCheckpoint) (calls : List HeaderCall) :
    (trustedCheckpoints client trusted calls).IsChain fun previous next =>
      ∃ call ∈ calls, Promotion client call previous next := by
  induction calls generalizing trusted with
  | nil => exact .singleton _
  | cons call calls ih =>
    have hweaker : ∀ previous next, (∃ c ∈ calls, Promotion client c previous next) →
        ∃ c ∈ call :: calls, Promotion client c previous next :=
      fun _ _ ⟨c, hc, hp⟩ => ⟨c, mem_cons_of_mem _ hc, hp⟩
    simp only [trustedCheckpoints]
    split_ifs with hkept
    · exact (ih trusted).imp hweaker
    · obtain hsame | ⟨-, -, hpromotion⟩ := verifyAndTrust_cases client trusted call
      · exact absurd hsame hkept
      · refine isChain_cons.mpr ⟨?_, (ih _).imp hweaker⟩
        intro next hnext
        rw [head?_trustedCheckpoints] at hnext
        cases hnext
        exact ⟨call, mem_cons_self, hpromotion⟩

theorem chainId_of_mem_trustedCheckpoints {checkpoint : TrustedCometBftCheckpoint}
    {calls : List HeaderCall} (named : ∀ call ∈ calls, call.chainId = trusted.chainId)
    (h : checkpoint ∈ trustedCheckpoints client trusted calls) :
    checkpoint.chainId = trusted.chainId := by
  induction calls generalizing trusted with
  | nil =>
    cases mem_singleton.mp h
    rfl
  | cons call calls ih =>
    simp only [trustedCheckpoints] at h
    split_ifs at h with hkept
    · exact ih (fun c hc => named c (mem_cons_of_mem _ hc)) h
    · obtain hsame | ⟨-, hchain, -⟩ := verifyAndTrust_cases client trusted call
      · exact absurd hsame hkept
      · have hnext := hchain.trans (named call mem_cons_self)
        rcases mem_cons.mp h with rfl | h
        · rfl
        · rw [← hnext]
          exact ih (fun c hc => (named c (mem_cons_of_mem _ hc)).trans hnext.symm) h

/-- A run whose calls all name the chain of the first checkpoint is a trust chain. -/
theorem trust_chain (client : CometBftLightClient) (initial : TrustedCometBftCheckpoint)
    (calls : List HeaderCall) (named : ∀ call ∈ calls, call.chainId = initial.chainId) :
    TrustChain client initial calls where
  chain _ := chainId_of_mem_trustedCheckpoints named
  promoted := isChain_trustedCheckpoints client initial calls
  refused before call after _ hfalse := by
    obtain hkept | ⟨htrue, -, -⟩ :=
      verifyAndTrust_cases client (trustedAfter client initial before) call
    · rw [trustedAfter, List.foldl_append]
      exact hkept
    · rw [htrue] at hfalse
      cases hfalse

end Client

/-! ## A header of another chain -/

@[reducible] def asciiUpper : UpperCase := ⟨String.toUpper⟩

/-- `datetime.fromisoformat` on timestamps of RFC 3339. -/
@[reducible] def rfc3339Times : Runtime where
  coerceInt _ := none
  fromisoformat text := (readTimestamp "" text).toOption.map fun t =>
    ⟨true, 1000000 * t.instant.1 + t.nanos / 1000⟩
  ed25519Verify _ _ _ := false

def oneValidator (power : Nat) (h : 1 ≤ power) : CometBftValidatorSet where
  validators := [⟨"validator-a", "ed25519:validator-a", power, by decide, by omega⟩]
  nonempty := by simp
  distinct := by simp

/-- A backend that tells sets apart by their power, and takes every validator for a signer. -/
def powerBackend : CryptographicBackend where
  validatorSetHash set :=
    .ok (hexEncode true (List.replicate 32 (UInt8.ofNat set.totalVotingPower.toNat)))
  verifiedSignerAddresses _ set _ _ _ := .ok (set.validators.map (·.address))

/-- A client with the default trust level and a period of one hour. -/
def hourClient : CometBftLightClient :=
  ⟨powerBackend, 3600, 1, 3, by decide, by decide, by decide, by decide⟩

/-- A trusted checkpoint of the given chain below the header of `headerAt`. -/
def checkpointSix (chainId : String) (h : isBlank chainId = false) : TrustedCometBftCheckpoint where
  chainId := chainId
  height := 6
  blockId := "block-6"
  appHash := ""
  headerTime := "2024-01-01T12:00:00Z"
  validatorSet := oneValidator 4 (by decide)
  validatorSetHash := hexEncode true (List.replicate 32 4)
  nextValidatorSetHash := hexEncode true (List.replicate 32 5)
  named := by
    have hrest : ["block-6", "2024-01-01T12:00:00Z", hexEncode true (List.replicate 32 4),
        hexEncode true (List.replicate 32 5)].any isBlank = false := by decide
    simp only [CheckpointFields.requiredNonemptyFields, any_cons, h, Bool.false_or] at hrest ⊢
    exact hrest
  positive := by decide

def minuteBlockId : String :=
  (cometbftHeaderHash (headerAt "2024-01-01T12:01:00Z")).toOption.getD ""

/-- The call that brings this header. -/
def minuteCall : HeaderCall where
  signedHeader := [("header", .dict (headerAt "2024-01-01T12:01:00Z")),
    ("commit", .dict [("block_id", .dict [("hash", .str minuteBlockId)])])]
  validatorSet := oneValidator 5 (by decide)
  nextValidatorSet := oneValidator 6 (by decide)
  chainId := "aidn"
  blockHeight := 7
  blockId := minuteBlockId
  appHash := hexEncode true (List.replicate 32 8)
  now := ⟨true, 1704110580000000⟩

/-- Upper-case digits stay. -/
theorem toUpper_hexEncode (bs : Bytes) : (hexEncode true bs).toUpper = hexEncode true bs := by
  have hdigit : ∀ v < 16, (hexDigit true v).toUpper = hexDigit true v := by decide
  apply String.toList_injective
  rw [hexEncode, String.toUpper, String.toList_map, String.toList_ofList]
  refine (map_congr_left fun c hc => ?_).trans (map_id _)
  obtain ⟨v, hv, rfl⟩ := mem_hexChars hc
  exact hdigit v hv

/-- A hexadecimal text of a byte or more is not blank. -/
theorem isBlank_hexEncode {bs : Bytes} (h : bs ≠ []) : isBlank (hexEncode true bs) = false := by
  have hdigit : ∀ v < 16, isPySpace (hexDigit true v) = false := by decide
  cases bs with
  | nil => exact absurd rfl h
  | cons b bs =>
    have hb : b.toNat < 256 := b.toNat_lt
    rw [hexEncode, isBlank, String.toList_ofList, hexChars, all_cons,
      hdigit (b.toNat / 16) (by omega), Bool.false_and]

/-- The header of the call has the block id that the call names. -/
theorem headerHash_minuteCall : ∃ bs : Bytes, bs ≠ [] ∧ minuteBlockId = hexEncode true bs ∧
    cometbftHeaderHash (headerAt "2024-01-01T12:01:00Z") = .ok minuteBlockId := by
  have hread : (headerLeaves (headerAt "2024-01-01T12:01:00Z")).toOption.any (· ≠ []) := by
    decide +kernel
  cases h : headerLeaves (headerAt "2024-01-01T12:01:00Z") with
  | error e => rw [h] at hread; cases hread
  | ok leaves =>
    have hne : leaves ≠ [] := by simpa [h, Except.toOption] using hread
    have hhash : cometbftHeaderHash (headerAt "2024-01-01T12:01:00Z") =
        .ok (hexEncode true (merkleHash leaves)) := by
      simp [cometbftHeaderHash, h, headerMerkleHash_eq hne, bind, Except.bind, pure, Except.pure]
    have hid : minuteBlockId = hexEncode true (merkleHash leaves) := by
      rw [minuteBlockId, hhash]
      rfl
    refine ⟨merkleHash leaves, ?_, hid, hid ▸ hhash⟩
    intro hnil
    have hlength := length_merkleTree_root leaves
    rw [← merkleHash_eq_root, hnil] at hlength
    cases hlength

/-- The candidate of the call. -/
theorem checkpoint_minuteCall : letI := asciiUpper
    ∃ candidate, checkpointFromSignedHeader hourClient minuteCall = .ok candidate ∧
      candidate.chainId = "aidn" ∧ candidate.height = 7 ∧
      candidate.headerTime = "2024-01-01T12:01:00Z" ∧
      candidate.validatorSetHash = hexEncode true (List.replicate 32 5) := by
  let _ := asciiUpper
  obtain ⟨bs, hne, hid, hhash⟩ := headerHash_minuteCall
  have hupper : UpperCase.upper minuteBlockId = minuteBlockId := by
    rw [hid]
    exact toUpper_hexEncode bs
  let fields : CheckpointFields :=
    ⟨"aidn", 7, minuteBlockId, hexEncode true (List.replicate 32 8), "2024-01-01T12:01:00Z",
      oneValidator 5 (by decide), hexEncode true (List.replicate 32 5),
      hexEncode true (List.replicate 32 6)⟩
  have named : fields.requiredNonemptyFields.any isBlank = false := by
    have hblank : isBlank minuteBlockId = false := by
      rw [hid]
      exact isBlank_hexEncode hne
    have hrest : ["aidn", "2024-01-01T12:01:00Z", hexEncode true (List.replicate 32 5),
        hexEncode true (List.replicate 32 6)].any isBlank = false := by decide
    simp only [fields, CheckpointFields.requiredNonemptyFields, any_cons, hblank,
      Bool.false_or] at hrest ⊢
    exact hrest
  refine ⟨⟨fields, named, by decide⟩, ?_, rfl, rfl, rfl, rfl⟩
  simp only [checkpointFromSignedHeader, checks_eq_ok]
  refine ⟨headerAt "2024-01-01T12:01:00Z", rfl, _, rfl, (), rfl, 7, rfl, (), rfl, (), rfl, (), ?_,
    minuteBlockId, hhash, (), ?_, _, rfl, _, rfl, (), rfl, (), rfl, ?_⟩
  · exact beq_self_eq_true _
  · exact decide_eq_true hupper.symm
  · show fields.validated = _
    rw [CheckpointFields.validated, dif_pos named, dif_pos (show (1 : Int) ≤ 7 by decide)]

theorem verifyAndTrust_minuteCall (chainId : String) (h : isBlank chainId = false) :
    letI := asciiUpper
    letI := rfc3339Times
    ∃ candidate, verifyAndTrust hourClient (checkpointSix chainId h) minuteCall =
      (.ok true, candidate) ∧ candidate.chainId = "aidn" ∧ candidate.height = 7 := by
  let _ := asciiUpper
  let _ := rfc3339Times
  obtain ⟨candidate, hcandidate, hchain, hheight, htime, hset⟩ := checkpoint_minuteCall
  have hcurrent : trustedIsCurrent hourClient (checkpointSix chainId h) minuteCall.now =
      .ok true := by
    have hparsed : parseTime "2024-01-01T12:00:00Z" = .ok 1704110400000000 := by decide +kernel
    show (parseTime "2024-01-01T12:00:00Z" >>= _) = _
    rw [hparsed]
    rfl
  have hlater : parseTime candidate.headerTime = .ok 1704110460000000 := by
    rw [htime]
    decide +kernel
  have hearlier : parseTime (checkpointSix chainId h).headerTime = .ok 1704110400000000 := by
    show parseTime "2024-01-01T12:00:00Z" = _
    decide +kernel
  have hbacked : isBackedBy hourClient (checkpointSix chainId h) minuteCall candidate
      ["validator-a"] = true := by
    have hthirds : hasTwoThirds minuteCall.validatorSet ["validator-a"] = true := by decide
    rw [isBackedBy, if_pos (by rw [hheight]; rfl), hset, hthirds]
    exact beq_self_eq_true _
  refine ⟨candidate, ?_, hchain, hheight⟩
  have hbody : verifyBody hourClient (checkpointSix chainId h) minuteCall =
      .ok (true, candidate) := by
    rw [verifyBody, hcandidate]
    simp only [bind, Except.bind]
    rw [if_neg (by rw [hheight]; show ¬ (7 : Int) = 6; decide),
      if_neg (by rw [hheight]; show ¬ (7 : Int) < 6; decide), hcurrent]
    simp only [hlater, hearlier, Bool.not_true, Bool.false_eq_true, if_false]
    rw [if_neg (by decide)]
    show pure
        (if isBackedBy hourClient _ minuteCall candidate ["validator-a"] = true then _ else _) = _
    rw [if_pos hbacked]
    rfl
  rw [verifyAndTrust, hbody]

/-- A header of another chain is trusted: the call names the chain of the header, and nobody
compares it with the one of the checkpoint. -/
theorem header_of_other_chain_trusted :
    letI := asciiUpper
    letI := rfc3339Times
    let checkpoint := checkpointSix "other" (by decide)
    powerBackend.validatorSetHash checkpoint.validatorSet = .ok checkpoint.validatorSetHash ∧
      ¬ TrustChain hourClient checkpoint [minuteCall] := by
  let _ := asciiUpper
  let _ := rfc3339Times
  refine ⟨rfl, fun htrust => ?_⟩
  obtain ⟨candidate, hverify, hchain, hheight⟩ := verifyAndTrust_minuteCall "other" (by decide)
  have hmoved : candidate ≠ checkpointSix "other" (by decide) := by
    rintro rfl
    cases hheight
  have hmem : candidate ∈ trustedCheckpoints hourClient (checkpointSix "other" (by decide))
      [minuteCall] := by
    simp [trustedCheckpoints, hverify, hmoved]
  have hsame := htrust.chain candidate hmem
  rw [hchain] at hsame
  exact absurd hsame (by decide)

/-- On the chain of the checkpoint the same call is a link of the trust chain. -/
theorem minute_call_extends_chain :
    letI := asciiUpper
    letI := rfc3339Times
    TrustChain hourClient (checkpointSix "aidn" (by decide)) [minuteCall] ∧
      (trustedAfter hourClient (checkpointSix "aidn" (by decide)) [minuteCall]).height = 7 := by
  let _ := asciiUpper
  let _ := rfc3339Times
  refine ⟨trust_chain hourClient _ [minuteCall] ?_, ?_⟩
  · intro call hcall
    cases List.mem_singleton.mp hcall
    rfl
  · obtain ⟨candidate, hverify, -, hheight⟩ := verifyAndTrust_minuteCall "aidn" (by decide)
    rw [trustedAfter, List.foldl_cons, List.foldl_nil, hverify]
    exact hheight

end AidnSpec.Consensus
