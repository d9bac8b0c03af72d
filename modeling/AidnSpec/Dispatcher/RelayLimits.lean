import AidnSpec.Dispatcher.RelayNetwork

/-!
# Limits of relayed messages

What holds in every run of a network of relays: the path that honest relays record. What holds when
sources start their counts at zero or above, envelopes reach a router below its own limit, and a
router forgets only messages that are past their expiration: the bound on the number of forwards,
and no second forward in time.
-/

namespace AidnSpec.Dispatcher

open Base List

variable [Runtime]

def Forward.Expired (f : Forward) (now : Int) : Prop :=
  ∀ expiration ∈ f.envelope.expiresAt, expiration ≤ now

instance (f : Forward) (now : Int) : Decidable (f.Expired now) :=
  inferInstanceAs (Decidable (∀ expiration ∈ f.envelope.expiresAt, expiration ≤ now))

theorem Forward.Expired.mono {f : Forward} {now later : Int} (h : f.Expired now)
    (hle : now ≤ later) : f.Expired later := fun expiration he => (h expiration he).trans hle

namespace RelayNetwork

/-- Relayed messages die out. -/
structure DiesOut (n : RelayNetwork) : Prop where
  bounded : ∀ f ∈ n.forwards, (f.forwarders.length : Int) ≤ f.maxHops
  once : n.forwards.Pairwise fun f g => f.relayId = g.relayId →
    f.envelope.relayMessageId = g.envelope.relayMessageId → f.Expired g.at_
  recorded : ∀ f ∈ n.forwards, f.forwarders.Nodup ∧ f.forwarders <:+ f.envelope.relayPath

/-- An event keeps to the limits: a source does not count below zero, an envelope that a router
takes is below the limit of that router, and what a router forgets has expired. -/
def WithinLimits (n : RelayNetwork) : RelayEvent → Prop
  | .originate _ e => 0 ≤ e.hopCount
  | .deliver d _ => ∀ r ∈ n.routers.get? d.target, d.envelope.hasHopsRemaining = true →
      d.envelope.wouldFormLoop r.localRelayId = false →
      d.envelope.relayMessageId ∉ r.processedIds → d.envelope.hopCount < r.maxHops
  | .cleanup id => ∀ f ∈ n.forwards, f.relayId = id → f.Expired n.now
  | .register .. => True
  | .wait _ => True

instance (n : RelayNetwork) : ∀ event, Decidable (n.WithinLimits event)
  | .originate _ e => inferInstanceAs (Decidable (0 ≤ e.hopCount))
  | .deliver d _ => inferInstanceAs (Decidable (∀ r ∈ n.routers.get? d.target, _ → _ → _ → _))
  | .cleanup _ => inferInstanceAs (Decidable (∀ _ ∈ n.forwards, _ → _))
  | .register .. => inferInstanceAs (Decidable True)
  | .wait _ => inferInstanceAs (Decidable True)

/-- What a step keeps of the envelopes on their way and of the forwards: it holds of what a source
sends, and with a hop that a router takes of what the router returns. -/
theorem step_keeps {n : RelayNetwork} {event : RelayEvent} {P : List String → RelayEnvelope → Prop}
    {Q : Forward → Prop} (inFlight : ∀ d ∈ n.inFlight, P d.forwarders d.envelope)
    (forwards : ∀ f ∈ n.forwards, Q f) (sent : ∀ target e, event = .originate target e → P [] e)
    (taken : ∀ d ∈ n.inFlight, ∀ tick, event = .deliver d tick →
      ∀ r ∈ n.routers.get? d.target, d.envelope.hasHopsRemaining = true →
        d.envelope.wouldFormLoop r.localRelayId = false →
        d.envelope.relayMessageId ∉ r.processedIds →
        P (d.forwarders ++ [r.localRelayId]) (d.envelope.recordHop r.localRelayId) ∧
          Q ⟨r.localRelayId, r.maxHops, d.envelope.recordHop r.localRelayId,
            d.forwarders ++ [r.localRelayId], n.now⟩) :
    (∀ d ∈ (n.step event).inFlight, P d.forwarders d.envelope) ∧
      ∀ f ∈ (n.step event).forwards, Q f := by
  cases event with
  | originate target e =>
    refine ⟨fun d hd => ?_, forwards⟩
    simp only [RelayNetwork.step, mem_append, mem_singleton] at hd
    rcases hd with hd | rfl
    · exact inFlight d hd
    · exact sent target e rfl
  | deliver d tick =>
    simp only [RelayNetwork.step]
    split
    · next hd =>
      obtain hsame | ⟨r, hr, -, -, hout⟩ := deliver_cases (n := n) d tick
      · rw [hsame]
        exact ⟨inFlight, forwards⟩
      obtain ⟨hflight, hforwards⟩ | ⟨e, hops, he, hflight, hhops, hforwards⟩ := hout
      · rw [hflight, hforwards]
        exact ⟨inFlight, forwards⟩
      · obtain ⟨rfl, -, hleft, hloop, hnew, -⟩ := RelayRouter.of_inbound he
        have htaken := taken d hd tick rfl r hr hleft hloop hnew
        constructor
        · intro next hnext
          rw [hflight, mem_append] at hnext
          rcases hnext with hnext | hnext
          · exact inFlight next hnext
          · rw [(hhops next hnext).1, (hhops next hnext).2]
            exact htaken.1
        · intro f hf
          rw [hforwards, mem_append, mem_singleton] at hf
          rcases hf with hf | rfl
          · exact forwards f hf
          · exact htaken.2
    · exact ⟨inFlight, forwards⟩
  | cleanup | register => simpa [RelayNetwork.step] using ⟨inFlight, forwards⟩
  | wait micros => exact ⟨inFlight, forwards⟩

/-! ## The recorded path -/

omit [Runtime] in
/-- What honest relays have recorded is the end of the path, each of them once. -/
structure Recording (n : RelayNetwork) : Prop where
  inFlight : ∀ d ∈ n.inFlight, d.forwarders.Nodup ∧ d.forwarders <:+ d.envelope.relayPath
  forwards : ∀ f ∈ n.forwards, f.forwarders.Nodup ∧ f.forwarders <:+ f.envelope.relayPath

omit [Runtime] in
/-- A hop that forms no loop is recorded as the others are. -/
theorem recorded_recordHop {e : RelayEnvelope} {forwarders : List String} {id : String}
    (h : forwarders.Nodup ∧ forwarders <:+ e.relayPath) (hloop : e.wouldFormLoop id = false) :
    (forwarders ++ [id]).Nodup ∧ forwarders ++ [id] <:+ (e.recordHop id).relayPath := by
  have hnew : id ∉ e.relayPath := by simpa [RelayEnvelope.wouldFormLoop] using hloop
  constructor
  · simp only [nodup_append, h.1, nodup_singleton, mem_singleton, true_and]
    intro a ha b hb hab
    subst hb hab
    exact hnew (h.2.subset ha)
  · obtain ⟨given, hgiven⟩ := h.2
    exact ⟨given, by simp [RelayEnvelope.recordHop, ← hgiven]⟩

theorem Recording.step {n : RelayNetwork} (h : Recording n) (event : RelayEvent) :
    Recording (n.step event) := by
  obtain ⟨inFlight, forwards⟩ := @step_keeps _ n event
    (fun forwarders e => forwarders.Nodup ∧ forwarders <:+ e.relayPath) _ h.inFlight h.forwards
    (by simp)
    (fun d hd tick _ r _ _ hloop _ => by simpa using recorded_recordHop (h.inFlight d hd) hloop)
  exact ⟨inFlight, forwards⟩

/-! ## The bound on the forwards -/

omit [Runtime] in
/-- A hop count is at least the number of honest relays that have counted. -/
structure Counting (n : RelayNetwork) : Prop where
  inFlight : ∀ d ∈ n.inFlight, (d.forwarders.length : Int) ≤ d.envelope.hopCount
  forwards : ∀ f ∈ n.forwards, (f.forwarders.length : Int) ≤ f.maxHops

theorem Counting.step {n : RelayNetwork} (h : Counting n) {event : RelayEvent}
    (limits : n.WithinLimits event) : Counting (n.step event) := by
  obtain ⟨inFlight, forwards⟩ := @step_keeps _ n event
    (fun forwarders e => (forwarders.length : Int) ≤ e.hopCount) _ h.inFlight h.forwards
    (by
      rintro target e rfl
      simpa [WithinLimits] using limits)
    (by
      rintro d hd tick rfl r hr hleft hloop hnew
      have hcount := h.inFlight d hd
      have hlimit := limits r hr hleft hloop hnew
      simp only [RelayEnvelope.recordHop, length_append, length_singleton]
      omega)
  exact ⟨inFlight, forwards⟩

/-! ## No second forward in time -/

/-- What a router has forwarded it remembers, or it is past its expiration. -/
structure Remembering (n : RelayNetwork) : Prop where
  seen : ∀ f ∈ n.forwards, ∀ r ∈ n.routers.get? f.relayId,
    f.envelope.relayMessageId ∈ r.processedIds ∨ f.Expired n.now
  once : n.forwards.Pairwise fun f g => f.relayId = g.relayId →
    f.envelope.relayMessageId = g.envelope.relayMessageId → f.Expired g.at_

/-- A router that forgets nothing leaves what is remembered. -/
theorem Remembering.of_routers {n n' : RelayNetwork} (h : Remembering n)
    (hforwards : n'.forwards = n.forwards) (hnow : n.now ≤ n'.now)
    (hrouters : ∀ id, ∀ r' ∈ n'.routers.get? id, ∃ r ∈ n.routers.get? id,
      ∀ f ∈ n.forwards, f.relayId = id → f.envelope.relayMessageId ∈ r.processedIds →
        f.envelope.relayMessageId ∈ r'.processedIds ∨ f.Expired n'.now) : Remembering n' := by
  constructor
  · intro f hf r' hr'
    rw [hforwards] at hf
    obtain ⟨r, hr, hkept⟩ := hrouters f.relayId r' hr'
    rcases h.seen f hf r hr with hseen | hexpired
    · exact hkept f hf rfl hseen
    · exact .inr (hexpired.mono hnow)
  · rw [hforwards]
    exact h.once

theorem Remembering.of_update {n : RelayNetwork} (h : Remembering n) {id : String}
    {change : RelayRouter → RelayRouter} (hname : ∀ r, (change r).localRelayId = r.localRelayId)
    (hkept : ∀ r, ∀ f ∈ n.forwards, f.relayId = id → f.envelope.relayMessageId ∈ r.processedIds →
      f.envelope.relayMessageId ∈ (change r).processedIds ∨ f.Expired n.now) :
    Remembering (n.update id change hname) := by
  apply h.of_routers update_forwards (le_of_eq update_now.symm)
  intro j r' hr'
  rw [get?_update] at hr'
  by_cases hj : j = id
  · subst hj
    rw [if_pos rfl] at hr'
    obtain ⟨r, hr, rfl⟩ := Option.map_eq_some_iff.mp hr'
    rw [update_now]
    exact ⟨r, hr, hkept r⟩
  · rw [if_neg hj] at hr'
    exact ⟨r', hr', fun f _ _ hseen => .inl hseen⟩

theorem Remembering.step {n : RelayNetwork} (h : Remembering n) {event : RelayEvent}
    (limits : n.WithinLimits event) : Remembering (n.step event) := by
  cases event with
  | originate target e => exact ⟨h.seen, h.once⟩
  | deliver d tick =>
    simp only [RelayNetwork.step]
    split
    · obtain hsame | ⟨r, hr, hrouters, hnow, hout⟩ := deliver_cases (n := n) d tick
      · rw [hsame]
        exact h
      have hkeeps := RelayRouter.keeps_inbound (r := r) n.now tick d.envelope
      have hname := n.named d.target r hr
      have hold : ∀ f ∈ n.forwards, ∀ r' ∈ (n.deliver d tick).routers.get? f.relayId,
          f.envelope.relayMessageId ∈ r'.processedIds ∨ f.Expired n.now := by
        intro f hf r' hr'
        rw [hrouters] at hr'
        by_cases hid : f.relayId = d.target
        · rw [if_pos hid] at hr'
          cases hr'
          rcases h.seen f hf r (hid ▸ hr) with hseen | hexpired
          · exact .inl (hkeeps.processedIds hseen)
          · exact .inr hexpired
        · rw [if_neg hid] at hr'
          exact h.seen f hf r' hr'
      obtain ⟨-, hforwards⟩ | ⟨e, hops, he, -, -, hforwards⟩ := hout
      · exact ⟨by simpa only [hforwards, hnow] using hold, by rw [hforwards]; exact h.once⟩
      · obtain ⟨rfl, -, -, -, hnew, hseen⟩ := RelayRouter.of_inbound he
        constructor
        · intro f hf r' hr'
          rw [hforwards, mem_append, mem_singleton] at hf
          rw [hnow]
          rcases hf with hf | rfl
          · exact hold f hf r' hr'
          · rw [hrouters, if_pos hname] at hr'
            cases hr'
            exact .inl hseen
        · rw [hforwards, pairwise_append]
          refine ⟨h.once, pairwise_singleton _ _, ?_⟩
          intro f hf g hg hrelay hmessage
          rw [mem_singleton] at hg
          subst hg
          -- what the router still remembers it would not have forwarded again
          have hf' := h.seen f hf r (by rw [hrelay, hname]; exact hr)
          apply hf'.resolve_left
          rw [hmessage]
          exact hnew
    · exact h
  | cleanup id =>
    exact h.of_update RelayRouter.localRelayId_cleanupProcessed
      fun r f hf hid _ => .inr (limits f hf hid)
  | register id destination nextHop =>
    exact h.of_update (fun r => r.localRelayId_registerForwardTarget destination nextHop)
      fun r f _ _ hseen => .inl hseen
  | wait micros =>
    refine ⟨fun f hf r hr => ?_, h.once⟩
    rcases h.seen f hf r hr with hseen | hexpired
    · exact .inl hseen
    · exact .inr (hexpired.mono (by simp [RelayNetwork.step]))

/-! ## All runs -/

/-- The routers of a network with nothing on its way, whatever they have done before. -/
def Quiet (n : RelayNetwork) : Prop := n.inFlight = [] ∧ n.forwards = []

/-- The path of honest relays repeats none of them, in every run. -/
theorem recording_run {n : RelayNetwork} (quiet : n.Quiet) (events : List RelayEvent) :
    Recording (run step n events) := by
  apply run_invariant (I := Recording) fun n event h => h.step event
  exact ⟨by simp [quiet.1], by simp [quiet.2]⟩

/-- Relayed messages die out in a run that keeps within the limits. -/
theorem dies_out_within_limits {n : RelayNetwork} (quiet : n.Quiet) {events : List RelayEvent}
    (limits : Careful step WithinLimits n events) : DiesOut (run step n events) := by
  have hcounting : Counting (run step n events) :=
    run_keeps (I := Counting) (fun n event h hevent => h.step hevent)
      ⟨by simp [quiet.1], by simp [quiet.2]⟩ limits
  have hremembering : Remembering (run step n events) :=
    run_keeps (I := Remembering) (fun n event h hevent => h.step hevent)
      ⟨by simp [quiet.2], by simp [quiet.2]⟩ limits
  exact ⟨hcounting.forwards, hremembering.once, (recording_run quiet events).forwards⟩

/-! ## Four relays -/

@[reducible] def minuteTimes : Runtime where
  coerceInt _ := none
  fromisoformat text :=
    if text = "1970-01-01T00:01:00+00:00" then some { aware := true, micros := 60000000 } else none
  ed25519Verify _ _ _ := false

omit [Runtime]

def relayTo (id nextHop : String) : RelayRouter :=
  RelayRouter.registerForwardTarget { localRelayId := id } "h" nextHop

/-- Each relay forwards to the next one, and the last one to the destination. -/
def fourRelays : RelayNetwork :=
  ofRouters [relayTo "a" "b", relayTo "b" "c", relayTo "c" "d", relayTo "d" "h"] (by decide)

def sourceEnvelope (hopCount hopLimit : Int) : RelayEnvelope where
  relayMessageId := "m"
  sourceHypervisorId := "s"
  destinationHypervisorId := "h"
  innerMessageHash := "00"
  hopCount := hopCount
  hopLimit := hopLimit
  expiration := "1970-01-01T00:01:00+00:00"
  createdAt := "1970-01-01T00:00:00+00:00"

def wayThrough (e : RelayEnvelope) : List String → List String → List RelayEvent
  | _, [] => []
  | forwarders, id :: rest =>
    .deliver { target := id, envelope := e, forwarders := forwarders } 0 ::
      wayThrough (e.recordHop id) (forwarders ++ [id]) rest

/-- A way over two relays, and a cleanup after the expiration. -/
theorem dies_out_two_hops : letI := minuteTimes
    DiesOut (run step fourRelays (.originate "a" (sourceEnvelope 0 10) ::
      wayThrough (sourceEnvelope 0 10) [] ["a", "b", "a"] ++ [.wait 60000000, .cleanup "a"])) := by
  apply @dies_out_within_limits minuteTimes fourRelays ⟨rfl, rfl⟩
  decide +kernel

/-- A source whose limit is above that of the routers, a source that counts from below zero, and a
router that forgets in time. -/
theorem limits_exceeded : letI := minuteTimes
    ¬ DiesOut (run step fourRelays (.originate "a" (sourceEnvelope 0 10) ::
        wayThrough (sourceEnvelope 0 10) [] ["a", "b", "c", "d"])) ∧
      ¬ DiesOut (run step fourRelays (.originate "a" (sourceEnvelope (-5) 2) ::
        wayThrough (sourceEnvelope (-5) 2) [] ["a", "b", "c", "d"])) ∧
      ¬ DiesOut (run step fourRelays [.originate "a" (sourceEnvelope 0 2), .deliver ⟨"a",
        sourceEnvelope 0 2, []⟩ 0, .cleanup "a", .deliver ⟨"a", sourceEnvelope 0 2, []⟩ 1]) := by
  refine ⟨fun h => absurd (@DiesOut.bounded minuteTimes _ h) ?_,
    fun h => absurd (@DiesOut.bounded minuteTimes _ h) ?_,
    fun h => absurd (@DiesOut.once minuteTimes _ h) ?_⟩
  · decide +kernel
  · decide +kernel
  · decide +kernel

end RelayNetwork

end AidnSpec.Dispatcher
