import AidnSpec.Base.Runs
import AidnSpec.Dispatcher.Relay

/-!
# Networks of relays

Honest routers and the envelopes on their way between them. A source puts any envelope in at any
relay; what is on its way can be delivered at any time and any number of times. The routers compare
the hop count with the limit of the envelope and never with their own, and they may forget what they
have forwarded while it is still in time.
-/

namespace AidnSpec.Dispatcher

open Base

/-- An envelope on its way to a relay, and the honest relays that have forwarded it. -/
structure Delivery where
  target : String
  envelope : RelayEnvelope
  forwarders : List String
  deriving DecidableEq

/-- A router with the limit `maxHops` has returned an envelope. -/
structure Forward where
  relayId : String
  maxHops : Int
  envelope : RelayEnvelope
  forwarders : List String
  at_ : Int

/-- Routers by their ids, the envelopes on their way, what was forwarded and the time. -/
structure RelayNetwork where
  routers : Dict String RelayRouter
  inFlight : List Delivery := []
  forwards : List Forward := []
  now : Int := 0
  named : ∀ id r, routers.get? id = some r → r.localRelayId = id

/-- What happens in a network. -/
inductive RelayEvent where
  | originate (target : String) (e : RelayEnvelope)
  | deliver (d : Delivery) (tick : ℚ)
  | cleanup (relayId : String)
  | register (relayId destination nextHop : String)
  | wait (micros : ℕ)

namespace RelayNetwork

variable (n : RelayNetwork)

/-- Routers of different names, and nothing on its way. -/
def ofRouters (routers : List RelayRouter) (h : (routers.map (·.localRelayId)).Nodup) :
    RelayNetwork where
  routers := ⟨routers.map fun r => (r.localRelayId, r), by
    rw [List.map_map]
    exact h⟩
  named := by
    intro id r hr
    obtain ⟨r', _, heq⟩ := List.mem_map.mp (Dict.mem_entries_of_get? hr)
    cases heq
    rfl

def update (id : String) (change : RelayRouter → RelayRouter)
    (h : ∀ r, (change r).localRelayId = r.localRelayId) : RelayNetwork :=
  match hr : n.routers.get? id with
  | none => n
  | some r =>
    { n with
      routers := n.routers.set id (change r)
      named := by
        intro j s hs
        rw [Dict.get?_set] at hs
        split at hs
        · next hj =>
          cases hs
          rw [h, n.named id r hr, hj]
        · exact n.named j s hs }

variable [Runtime]

/-- A delivery to a router: what it returns is on its way to the next hop. -/
def deliver (d : Delivery) (tick : ℚ) : RelayNetwork :=
  match n.routers.get? d.target with
  | none => n
  | some r =>
    let updated := n.update d.target (fun r => (r.inbound n.now tick d.envelope).2)
      fun _ => (RelayRouter.keeps_inbound ..).localRelayId
    match r.inbound n.now tick d.envelope with
    | (none, _) => updated
    | (some e, r') => { updated with
        inFlight := n.inFlight ++ ((r'.resolveForwardTarget e).1.toList.map fun nextHop =>
          { target := nextHop, envelope := e, forwarders := d.forwarders ++ [r.localRelayId] })
        forwards := n.forwards ++ [{
          relayId := r.localRelayId
          maxHops := r.maxHops
          envelope := e
          forwarders := d.forwarders ++ [r.localRelayId]
          at_ := n.now }] }

/-- One event; only what is on its way is delivered. -/
def step (n : RelayNetwork) : RelayEvent → RelayNetwork
  | .originate target e =>
    { n with inFlight := n.inFlight ++ [{ target := target, envelope := e, forwarders := [] }] }
  | .deliver d tick => if d ∈ n.inFlight then n.deliver d tick else n
  | .cleanup id => n.update id (fun r => r.cleanupProcessed.2)
      RelayRouter.localRelayId_cleanupProcessed
  | .register id destination nextHop =>
    n.update id (fun r => r.registerForwardTarget destination nextHop)
      fun r => r.localRelayId_registerForwardTarget destination nextHop
  | .wait micros => { n with now := n.now + micros }

/-! ## What an event changes -/

omit [Runtime]

section Update

variable {n} {id : String} {change : RelayRouter → RelayRouter}
  {h : ∀ r, (change r).localRelayId = r.localRelayId}

@[simp] theorem update_inFlight : (n.update id change h).inFlight = n.inFlight := by
  unfold update
  split <;> rfl

@[simp] theorem update_forwards : (n.update id change h).forwards = n.forwards := by
  unfold update
  split <;> rfl

@[simp] theorem update_now : (n.update id change h).now = n.now := by
  unfold update
  split <;> rfl

theorem get?_update (j : String) : (n.update id change h).routers.get? j =
    if j = id then (n.routers.get? id).map change else n.routers.get? j := by
  unfold update
  split
  · next hnone =>
    by_cases hj : j = id
    · simp [hj, hnone]
    · simp [hj]
  · next r hr =>
    by_cases hj : j = id
    · simp [hj, hr]
    · simp [hj, Dict.get?_set]

end Update

variable [Runtime] {n}

/-- A delivery changes one router, and something is on its way only when the router returns it. -/
theorem deliver_cases (d : Delivery) (tick : ℚ) :
    n.deliver d tick = n ∨ ∃ r, n.routers.get? d.target = some r ∧
      (∀ j, (n.deliver d tick).routers.get? j =
        if j = d.target then some (r.inbound n.now tick d.envelope).2 else n.routers.get? j) ∧
      (n.deliver d tick).now = n.now ∧
      (((n.deliver d tick).inFlight = n.inFlight ∧ (n.deliver d tick).forwards = n.forwards) ∨
        ∃ e hops, (r.inbound n.now tick d.envelope).1 = some e ∧
          (n.deliver d tick).inFlight = n.inFlight ++ hops ∧
          (∀ next ∈ hops, next.envelope = e ∧
            next.forwarders = d.forwarders ++ [r.localRelayId]) ∧
          (n.deliver d tick).forwards = n.forwards ++
            [{ relayId := r.localRelayId, maxHops := r.maxHops, envelope := e,
               forwarders := d.forwarders ++ [r.localRelayId], at_ := n.now }]) := by
  unfold deliver
  split
  · exact .inl rfl
  · next r hr =>
    right
    refine ⟨r, hr, ?_⟩
    dsimp only
    split
    · next r' hanswer =>
      refine ⟨fun j => ?_, update_now, .inl ⟨update_inFlight, update_forwards⟩⟩
      rw [get?_update, hr]
      rfl
    · next e r' hanswer =>
      refine ⟨fun j => ?_, update_now, .inr ⟨e, _, by rw [hanswer], rfl, ?_, rfl⟩⟩
      · rw [get?_update, hr]
        rfl
      · simp

end RelayNetwork

end AidnSpec.Dispatcher
