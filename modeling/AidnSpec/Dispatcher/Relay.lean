import AidnSpec.Base.Dict
import AidnSpec.Base.Schema
import Mathlib.Data.Finset.Card

/-!
# Relay router

`dispatcher/relay.py:27–288`: the relay envelope, the rate limiter and the router. A clock reading
is given in microseconds; the monotonic clock is read in seconds.
-/

namespace AidnSpec.Dispatcher

open Base

structure RelayEnvelope where
  relayMessageId : String
  sourceHypervisorId : String
  destinationHypervisorId : String
  innerMessageHash : String
  relayPath : List String := []
  hopCount : Int := 0
  hopLimit : Int := 2
  expiration : String
  sourceSignature : String := ""
  payload : Bytes := []
  createdAt : String
  deriving DecidableEq

namespace RelayEnvelope

variable [Runtime]

/-- The instant in the expiration of an envelope; a time without a zone is one of UTC. -/
def expiresAt (e : RelayEnvelope) : Option Int :=
  (Runtime.fromisoformat e.expiration).map Instant.micros

def isExpired (now : Int) (e : RelayEnvelope) : Except PyError Bool :=
  match e.expiresAt with
  | none => raiseValue ("Invalid isoformat string: '" ++ e.expiration ++ "'")
  | some expiration => .ok (expiration ≤ now)

omit [Runtime] in
def hasHopsRemaining (e : RelayEnvelope) : Bool := e.hopCount < e.hopLimit

def wouldFormLoop (e : RelayEnvelope) (nextRelayId : String) : Bool :=
  e.relayPath.contains nextRelayId

def recordHop (e : RelayEnvelope) (relayId : String) : RelayEnvelope :=
  { e with relayPath := e.relayPath ++ [relayId], hopCount := e.hopCount + 1 }

end RelayEnvelope

/-- `RateLimiter`: the readings of the monotonic clock by source. -/
structure RateLimiter where
  maxTokens : Int := 50
  windowSecs : ℚ := 1
  buckets : Dict String (List ℚ) := .empty

def RateLimiter.allow (limiter : RateLimiter) (tick : ℚ) (sourceId : String) :
    Bool × RateLimiter :=
  let recent := ((limiter.buckets.get? sourceId).getD []).dropWhile
    fun seen => seen < tick - limiter.windowSecs
  if limiter.maxTokens ≤ recent.length then
    (false, { limiter with buckets := limiter.buckets.set sourceId recent })
  else (true, { limiter with buckets := limiter.buckets.set sourceId (recent ++ [tick]) })

structure RelayStats where
  forwarded : ℕ := 0
  expired : ℕ := 0
  hopLimitExceeded : ℕ := 0
  loopsDetected : ℕ := 0
  rateLimited : ℕ := 0
  duplicates : ℕ := 0
  noRoute : ℕ := 0
  cleanedUp : ℕ := 0

structure RelayRouter where
  localRelayId : String
  maxHops : Int := 2
  rateLimiter : RateLimiter := {}
  forwardTargets : Dict String String := .empty
  processedIds : Finset String := ∅
  stats : RelayStats := {}

namespace RelayRouter

variable (r : RelayRouter)

/-- The router after one more of a kind of envelope. -/
def counting (count : RelayStats → RelayStats) : RelayRouter := { r with stats := count r.stats }

def registerForwardTarget (destination nextHop : String) : RelayRouter :=
  { r with forwardTargets := r.forwardTargets.set destination nextHop }

def cleanupProcessed : ℕ × RelayRouter :=
  (r.processedIds.card,
    { r with processedIds := ∅, stats := { r.stats with cleanedUp := r.processedIds.card } })

@[simp] theorem localRelayId_registerForwardTarget (destination nextHop : String) :
    (r.registerForwardTarget destination nextHop).localRelayId = r.localRelayId := rfl

@[simp] theorem localRelayId_cleanupProcessed :
    r.cleanupProcessed.2.localRelayId = r.localRelayId := rfl

def resolveForwardTarget (e : RelayEnvelope) : Option String × RelayRouter :=
  match r.forwardTargets.get? e.destinationHypervisorId with
  | none => (none, r.counting fun s => { s with noRoute := s.noRoute + 1 })
  | some nextHop => (some nextHop, r)

/-- The router after its rate limiter was asked. -/
def limited (tick : ℚ) (e : RelayEnvelope) : RelayRouter :=
  { r with rateLimiter := (r.rateLimiter.allow tick e.sourceHypervisorId).2 }

variable [Runtime]

/-- `validate_envelope`. A text that is no time raises before anything is counted. -/
def validateEnvelope (now : Int) (tick : ℚ) (e : RelayEnvelope) :
    Except PyError (Bool × RelayRouter) := do
  let expired ← e.isExpired now
  return if expired then (false, r.counting fun s => { s with expired := s.expired + 1 })
    else if e.hasHopsRemaining = false then
      (false, r.counting fun s => { s with hopLimitExceeded := s.hopLimitExceeded + 1 })
    else if e.wouldFormLoop r.localRelayId then
      (false, r.counting fun s => { s with loopsDetected := s.loopsDetected + 1 })
    else if (r.rateLimiter.allow tick e.sourceHypervisorId).1 = false then
      (false, (r.limited tick e).counting fun s => { s with rateLimited := s.rateLimited + 1 })
    else if e.relayMessageId ∈ r.processedIds then
      (false, (r.limited tick e).counting fun s => { s with duplicates := s.duplicates + 1 })
    else
      (true, { r.limited tick e with processedIds := insert e.relayMessageId r.processedIds })

/-- `process_inbound`: the envelope for the next hop, if there is one. -/
def processInbound (now : Int) (tick : ℚ) (e : RelayEnvelope) :
    Except PyError (Option RelayEnvelope × RelayRouter) := do
  let checked ← r.validateEnvelope now tick e
  return if checked.1 = false then (none, checked.2)
    else
      let counted := { checked.2 with
        processedIds := insert e.relayMessageId checked.2.processedIds }.counting
          fun s => { s with forwarded := s.forwarded + 1 }
      let hopped := e.recordHop r.localRelayId
      let routed := counted.resolveForwardTarget hopped
      (routed.1.map fun _ => hopped, routed.2)

/-- A router and an envelope that reaches it; a call that raises leaves the router. -/
def inbound (now : Int) (tick : ℚ) (e : RelayEnvelope) : Option RelayEnvelope × RelayRouter :=
  match r.processInbound now tick e with
  | .ok answer => answer
  | .error _ => (none, r)

/-! ## What a router does with an envelope -/

omit [Runtime]

/-- The settings stay, and what was seen stays seen. -/
structure Keeps (r r' : RelayRouter) : Prop where
  localRelayId : r'.localRelayId = r.localRelayId
  maxHops : r'.maxHops = r.maxHops
  forwardTargets : r'.forwardTargets = r.forwardTargets
  processedIds : r.processedIds ⊆ r'.processedIds

variable {r}

theorem Keeps.trans {r₁ r₂ r₃ : RelayRouter} (h : Keeps r₁ r₂) (h' : Keeps r₂ r₃) :
    Keeps r₁ r₃ where
  localRelayId := h'.localRelayId.trans h.localRelayId
  maxHops := h'.maxHops.trans h.maxHops
  forwardTargets := h'.forwardTargets.trans h.forwardTargets
  processedIds := h.processedIds.trans h'.processedIds

theorem keeps_counting (count : RelayStats → RelayStats) : Keeps r (r.counting count) :=
  ⟨rfl, rfl, rfl, Finset.Subset.refl _⟩

theorem keeps_resolveForwardTarget (e : RelayEnvelope) : Keeps r (r.resolveForwardTarget e).2 := by
  unfold resolveForwardTarget
  split
  · dsimp only
    apply keeps_counting
  · exact ⟨rfl, rfl, rfl, Finset.Subset.refl _⟩

variable [Runtime]

/-- An accepted envelope is in time, has hops left, has not visited the relay and is new. -/
theorem validateEnvelope_eq_ok {now : Int} {tick : ℚ} {e : RelayEnvelope} {valid : Bool}
    {r' : RelayRouter} (h : r.validateEnvelope now tick e = .ok (valid, r')) :
    Keeps r r' ∧ (valid = true → e.isExpired now = .ok false ∧ e.hasHopsRemaining = true ∧
      e.wouldFormLoop r.localRelayId = false ∧ e.relayMessageId ∉ r.processedIds) := by
  obtain ⟨expired, hexpired, h⟩ := bind_eq_ok.mp h
  rw [pure_eq_ok] at h
  split_ifs at h with htime hhops hloop hrate hseen
  · cases h
    exact ⟨keeps_counting _, nofun⟩
  · cases h
    exact ⟨keeps_counting _, nofun⟩
  · cases h
    exact ⟨keeps_counting _, nofun⟩
  · cases h
    exact ⟨⟨rfl, rfl, rfl, Finset.Subset.refl _⟩, nofun⟩
  · cases h
    exact ⟨⟨rfl, rfl, rfl, Finset.Subset.refl _⟩, nofun⟩
  · cases h
    refine ⟨⟨rfl, rfl, rfl, Finset.subset_insert _ _⟩, fun _ => ?_⟩
    simp_all

/-- A forwarded envelope is the accepted one with one hop more, and its id counts as seen. -/
theorem processInbound_eq_ok {now : Int} {tick : ℚ} {e : RelayEnvelope}
    {answer : Option RelayEnvelope} {r' : RelayRouter}
    (h : r.processInbound now tick e = .ok (answer, r')) :
    Keeps r r' ∧ ∀ e' ∈ answer, e' = e.recordHop r.localRelayId ∧
      e.isExpired now = .ok false ∧ e.hasHopsRemaining = true ∧
      e.wouldFormLoop r.localRelayId = false ∧ e.relayMessageId ∉ r.processedIds ∧
      e.relayMessageId ∈ r'.processedIds := by
  obtain ⟨⟨valid, checked⟩, hchecked, h⟩ := bind_eq_ok.mp h
  obtain ⟨hkeeps, hvalid⟩ := validateEnvelope_eq_ok hchecked
  rw [pure_eq_ok] at h
  cases valid with
  | false =>
    cases h
    exact ⟨hkeeps, nofun⟩
  | true =>
    cases h
    have hcounted : Keeps checked ({ checked with
        processedIds := insert e.relayMessageId checked.processedIds }.counting
          fun s => { s with forwarded := s.forwarded + 1 }) :=
      ⟨rfl, rfl, rfl, Finset.subset_insert _ _⟩
    have hrouted := keeps_resolveForwardTarget (r := { checked with
        processedIds := insert e.relayMessageId checked.processedIds }.counting
          fun s => { s with forwarded := s.forwarded + 1 }) (e.recordHop r.localRelayId)
    refine ⟨hkeeps.trans (hcounted.trans hrouted), fun e' he' => ?_⟩
    obtain ⟨_, _, rfl⟩ := Option.map_eq_some_iff.mp he'
    obtain ⟨htime, hhops, hloop, hnew⟩ := hvalid rfl
    exact ⟨rfl, htime, hhops, hloop, hnew, hrouted.processedIds (Finset.mem_insert_self _ _)⟩

theorem keeps_inbound (now : Int) (tick : ℚ) (e : RelayEnvelope) :
    Keeps r (r.inbound now tick e).2 := by
  unfold inbound
  split
  · next h => exact (processInbound_eq_ok h).1
  · exact ⟨rfl, rfl, rfl, Finset.Subset.refl _⟩

theorem of_inbound {now : Int} {tick : ℚ} {e e' : RelayEnvelope}
    (h : (r.inbound now tick e).1 = some e') :
    e' = e.recordHop r.localRelayId ∧ e.isExpired now = .ok false ∧ e.hasHopsRemaining = true ∧
      e.wouldFormLoop r.localRelayId = false ∧ e.relayMessageId ∉ r.processedIds ∧
      e.relayMessageId ∈ (r.inbound now tick e).2.processedIds := by
  unfold inbound at h ⊢
  split at h
  · next answer hanswer => exact (processInbound_eq_ok hanswer).2 e' h
  · cases h

end RelayRouter

end AidnSpec.Dispatcher
