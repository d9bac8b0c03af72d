import AidnSpec.Base.CanonicalJson
import Mathlib.Tactic.Linarith
import Mathlib.Tactic.Ring

/-!
# Faucet policies

The policies of `aidn_faucet/policy.py`: a fixed amount per wallet and day, and a pool that accrues
over time. A policy decides on an amount and on its next state; the service stores that state when
the transfer is final. States are those that the policies write.
-/

namespace AidnSpec.Faucet

open Base

def qAtomsPerQ : ℕ := 1000000

def faucetPolicyVersion : String := "aidn.faucet-policy.v1"

/-- `datetime.now(UTC)`: microseconds after the epoch, and `isoformat()`. -/
structure UtcReading where
  micros : Int
  text : String

structure FaucetPolicyError where
  code : String
  detail : String

/-- `PolicyDecision`, with the state of the policy as it is after the transfer. -/
structure PolicyDecision (σ : Type) where
  policyId : String
  policyVersion : String
  quotaKey : String
  amountQAtoms : Int
  decisionHash : String
  stateAfterSuccess : σ

structure FaucetPolicy (σ : Type) where
  policyId : String
  policyVersion : String
  initialState : UtcReading → σ
  quotaKey : String → σ → UtcReading → Except FaucetPolicyError String
  decide : String → σ → UtcReading → Bool → Except FaucetPolicyError (PolicyDecision σ)

/-! ## A fixed amount per day -/

/-- `FixedDailyPolicy`, with the hash that it takes of its decisions. -/
structure FixedDailyPolicy where
  amountQ : ℕ := 50
  policyVersion : String := faucetPolicyVersion ++ ".fixed-daily.1"
  hash : PyValue → String := canonicalHash
  positive : 0 < amountQ

namespace FixedDailyPolicy

variable (policy : FixedDailyPolicy)

/-- `quota_key`: the wallet and the date of the reading. -/
def quotaKey (walletId : String) (now : UtcReading) : String :=
  walletId ++ ":" ++ String.ofList (now.text.toList.take 10)

def amountQAtoms : Int := policy.amountQ * qAtomsPerQ

def decisionHash (walletId : String) (now : UtcReading) : String :=
  policy.hash (.dict [("policy_id", .str "fixed-daily"), ("policy_version",
    .str policy.policyVersion), ("quota_key", .str (quotaKey walletId now)), ("amount_q_atoms",
    .int policy.amountQAtoms), ("wallet_id", .str walletId), ("decision_at", .str now.text)])

def decide (walletId : String) (now : UtcReading) (quotaExists : Bool) :
    Except FaucetPolicyError (PolicyDecision Unit) :=
  if quotaExists then
    .error ⟨"FAUCET_QUOTA_EXHAUSTED", "wallet has already claimed its daily allocation"⟩
  else .ok {
    policyId := "fixed-daily"
    policyVersion := policy.policyVersion
    quotaKey := quotaKey walletId now
    amountQAtoms := policy.amountQAtoms
    decisionHash := policy.decisionHash walletId now
    stateAfterSuccess := () }

def toFaucetPolicy : FaucetPolicy Unit where
  policyId := "fixed-daily"
  policyVersion := policy.policyVersion
  initialState _ := ()
  quotaKey walletId _ now := .ok (quotaKey walletId now)
  decide walletId _ now quotaExists := policy.decide walletId now quotaExists

end FixedDailyPolicy

/-! ## Whole seconds

`int(delta.total_seconds())`: the quotient of the microseconds and 10⁶ is rounded to a float, half
to even, and truncated. -/

/-- The quotient of two numbers, rounded half to even. -/
def roundHalfEven (n d : ℕ) : ℕ :=
  if 2 * (n % d) < d then n / d
  else if d < 2 * (n % d) then n / d + 1
  else n / d + n / d % 2

/-- The bits behind the point of a float between `2 ^ k` and `2 ^ (k + 1)`, where `2 ^ k` is the
largest power that is not above the number. -/
def fractionBits (n : ℕ) : ℕ := 52 - n.log2

/-- `int(delta.total_seconds())` for the microseconds of a delta that is not negative. -/
def truncatedSeconds (micros : ℕ) : ℕ :=
  let bits := fractionBits (micros / 1000000)
  roundHalfEven (micros * 2 ^ bits) 1000000 / 2 ^ bits

/-! ## A pool that accrues -/

/-- `AccumulatingPoolPolicy`, with the hash that it takes of its decisions. -/
structure AccumulatingPoolPolicy where
  rateQ : ℕ := 5
  intervalSeconds : ℕ := 60
  policyVersion : String := faucetPolicyVersion ++ ".accumulating-pool.1"
  hash : PyValue → String := canonicalHash
  rate_positive : 0 < rateQ
  interval_positive : 0 < intervalSeconds

/-- The state of the pool; the last drip in microseconds after the epoch. -/
structure PoolState where
  generation : Int
  lastDripAt : Int
  accumulatedQAtoms : Int
  deriving DecidableEq

namespace AccumulatingPoolPolicy

variable (policy : AccumulatingPoolPolicy)

def rateQAtoms : Int := policy.rateQ * qAtomsPerQ

def initialState (now : UtcReading) : PoolState := ⟨0, now.micros, 0⟩

/-- The intervals that have elapsed since the last drip. -/
def intervals (state : PoolState) (now : UtcReading) : ℕ :=
  truncatedSeconds (now.micros - state.lastDripAt).toNat / policy.intervalSeconds

def accruedState (state : PoolState) (now : UtcReading) :
    Except FaucetPolicyError (PoolState × Int) :=
  if state.generation < 0 ∨ state.accumulatedQAtoms < 0 then
    .error ⟨"FAUCET_POLICY_STATE_INVALID", "accumulating pool state is invalid"⟩
  else
    let intervals := policy.intervals state now
    let accrued := state.accumulatedQAtoms + intervals * policy.rateQAtoms
    .ok ({
      generation := state.generation
      lastDripAt := state.lastDripAt + intervals * policy.intervalSeconds * 1000000
      accumulatedQAtoms := accrued }, accrued)

def quotaKey (state : PoolState) : String := "pool-generation:" ++ toString state.generation

/-- The state after the amount is paid. -/
def nextState (state : PoolState) (now : UtcReading) : PoolState :=
  ⟨state.generation + 1, now.micros, 0⟩

def decisionHash (walletId : String) (accrued : PoolState) (now : UtcReading) (amount : Int) :
    String :=
  policy.hash (.dict [("policy_id", .str "accumulating-pool"),
    ("policy_version", .str policy.policyVersion), ("quota_key", .str (quotaKey accrued)),
    ("amount_q_atoms", .int amount), ("wallet_id", .str walletId),
    ("state_after_success", .dict [("generation", .int (accrued.generation + 1)),
      ("last_drip_at", .str now.text), ("accumulated_q_atoms", .int 0)])])

def decide (walletId : String) (state : PoolState) (now : UtcReading) (quotaExists : Bool) :
    Except FaucetPolicyError (PolicyDecision PoolState) := do
  let (accrued, amount) ← policy.accruedState state now
  if quotaExists then
    .error ⟨"FAUCET_POOL_CLAIM_PENDING", "the current pool generation already has a claim"⟩
  else if amount ≤ 0 then
    .error ⟨"FAUCET_POOL_EMPTY", "the accumulation interval has not elapsed"⟩
  else .ok {
    policyId := "accumulating-pool"
    policyVersion := policy.policyVersion
    quotaKey := quotaKey accrued
    amountQAtoms := amount
    decisionHash := policy.decisionHash walletId accrued now amount
    stateAfterSuccess := nextState accrued now }

/-- The policy as the service uses it. -/
def toFaucetPolicy : FaucetPolicy PoolState where
  policyId := "accumulating-pool"
  policyVersion := policy.policyVersion
  initialState := initialState
  quotaKey _ state _ := .ok (quotaKey state)
  decide := policy.decide

theorem of_accruedState {state accrued : PoolState} {now : UtcReading} {amount : Int}
    (h : policy.accruedState state now = .ok (accrued, amount)) :
    accrued.generation = state.generation ∧
      amount = state.accumulatedQAtoms + policy.intervals state now * policy.rateQAtoms := by
  unfold accruedState at h
  split_ifs at h with hinvalid
  cases h
  exact ⟨rfl, rfl⟩

/-- A decision pays what has accrued, and the next state starts at its reading. -/
theorem of_decide {walletId : String} {state : PoolState} {now : UtcReading} {quotaExists : Bool}
    {decision : PolicyDecision PoolState}
    (h : policy.decide walletId state now quotaExists = .ok decision) :
    decision.amountQAtoms =
        state.accumulatedQAtoms + policy.intervals state now * policy.rateQAtoms ∧
      0 < decision.amountQAtoms ∧ decision.stateAfterSuccess = nextState state now := by
  unfold decide at h
  cases haccrued : policy.accruedState state now with
  | error e =>
    rw [haccrued] at h
    cases h
  | ok pair =>
    obtain ⟨accrued, amount⟩ := pair
    obtain ⟨hgeneration, hamount⟩ := policy.of_accruedState haccrued
    rw [haccrued] at h
    dsimp only [bind, Except.bind] at h
    split_ifs at h with hquota hempty
    cases h
    refine ⟨hamount, not_le.mp hempty, ?_⟩
    simp only [nextState, hgeneration]

end AccumulatingPoolPolicy

/-! ## Quotas that are taken -/

/-- A quota that has a claim is refused. -/
def FaucetPolicy.RefusesTaken {σ : Type} (policy : FaucetPolicy σ) : Prop :=
  ∀ walletId state now decision, policy.decide walletId state now true ≠ .ok decision

theorem FixedDailyPolicy.refusesTaken (policy : FixedDailyPolicy) :
    policy.toFaucetPolicy.RefusesTaken := by
  rintro walletId state now decision ⟨⟩

theorem AccumulatingPoolPolicy.refusesTaken (policy : AccumulatingPoolPolicy) :
    policy.toFaucetPolicy.RefusesTaken := by
  intro walletId state now decision h
  obtain ⟨⟨accrued, amount⟩, -, h⟩ := bind_eq_ok.mp h
  cases h

end AidnSpec.Faucet
