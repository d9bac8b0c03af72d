import AidnSpec.RuntimeProtocol.StaleConnections

/-!
# Draining

A drain is remembered as the state of one connection. As long as no call takes a drained runtime
back to READY, no request of its generation is registered; a graceful shutdown asks for a drain of
the runtime only, whatever its generation was.
-/

namespace AidnSpec.RuntimeProtocol

open Base RuntimeProtocolStore
open RuntimeProtocolStore (OneLive Rewired connected closed handshakeChecked readyChecked
  recoveryResultChecked)

/-- The store, and the runtimes with the generations that were drained and have not ended. -/
structure DrainHistory where
  store : RuntimeProtocolStore := {}
  drained : List (String × ℕ) := []

namespace DrainHistory

/-- One call: a drain that is taken begins, and a handshake ends the other generations of its
runtime. -/
def step [Runtime] [Conversions] (h : DrainHistory) (call : ServiceCall) : DrainHistory :=
  let after : DrainHistory := { h with store := h.store.step call }
  match call with
  | .lifecycle env (.drain connectionId drain) =>
    match h.store.requestRuntimeDrain env connectionId drain with
    | .ok _ => { after with drained := (drain.runtimeId, drain.runtimeGeneration) :: h.drained }
    | .error _ => after
  | .lifecycle env (.completeHandshake complete connectionId) =>
    match h.store.completeHandshake env complete connectionId with
    | .ok _ => { after with drained := h.drained.filter fun e =>
        e.1 != complete.runtimeId || e.2 == complete.runtimeGeneration }
    | .error _ => after
  | _ => after

def readyAt (h : DrainHistory) (connectionId : String) : Bool :=
  (h.store.connections.get? connectionId).any (·.connectionState == .ready)

def completedFor (s : RuntimeProtocolStore) (runtimeId : String) : Bool :=
  s.drainCompletes.values.any (·.runtimeId == runtimeId)

def completedOf (s : RuntimeProtocolStore) (runtimeId : String) (generation : ℕ) : Bool :=
  s.drainCompletes.values.any fun complete =>
    complete.runtimeId == runtimeId && complete.runtimeGeneration == generation

/-- The call takes a drained runtime back to READY: by a new ready state, a recovery without
conflicts or a handshake without recovery, or it answers a drain again over a READY connection. Or
it is a graceful shutdown, and the drains of the runtime that were completed are of other
generations. -/
def undoes (h : DrainHistory) : ServiceCall → Bool
  | .lifecycle env (.ready connectionId ready) =>
    readyChecked env h.store connectionId ready &&
      h.drained.contains (ready.runtimeId, ready.runtimeGeneration)
  | .lifecycle env (.recoveryResult connectionId result) =>
    recoveryResultChecked env h.store connectionId result && result.remainingConflicts.isEmpty &&
      h.drained.contains (result.runtimeId, result.runtimeGeneration)
  | .lifecycle env (.completeHandshake complete _) =>
    ((h.store.pendingHandshakes.get? complete.handshakeId).any fun pending =>
      handshakeChecked env complete pending.1 pending.2 && !pending.2.reconcile) &&
      h.drained.contains (complete.runtimeId, complete.runtimeGeneration)
  | .lifecycle env (.drain connectionId drain) =>
    connected env h.store connectionId (drain.claim true) &&
      (h.store.drainRequests.get? drain.drainId).any (·.drainHash == drain.drainHash) &&
      h.readyAt connectionId
  | .lifecycle env (.shutdown connectionId shutdown) =>
    connected env h.store connectionId (shutdown.claim true) && shutdown.graceful &&
      !h.store.shutdowns.contains shutdown.shutdownId &&
      completedFor h.store shutdown.runtimeId &&
      !completedOf h.store shutdown.runtimeId shutdown.runtimeGeneration
  | _ => false

def KeepsDrained (h : DrainHistory) (call : ServiceCall) : Prop := h.undoes call = false

instance decidableKeepsDrained (h : DrainHistory) (call : ServiceCall) :
    Decidable (h.KeepsDrained call) := inferInstanceAs (Decidable (_ = false))

/-! ## No connection of a drained generation is READY -/

def NoneReady (drained : List (String × ℕ)) (connections : Dict String RuntimeConnection) : Prop :=
  ∀ ⦃id connection⦄, connections.get? id = some connection →
    (connection.runtimeId, connection.runtimeGeneration) ∈ drained →
    connection.connectionState ≠ .ready

variable {drained : List (String × ℕ)} {connections : Dict String RuntimeConnection}

variable {id connectionId : String} {connection : RuntimeConnection} {env : ServiceEnvironment}
  {drain answer : RuntimeDrainRequest} {tables : LifecycleTables}

theorem NoneReady.set (h : NoneReady drained connections)
    (hnew : (connection.runtimeId, connection.runtimeGeneration) ∈ drained →
      connection.connectionState ≠ .ready) :
    NoneReady drained (connections.set id connection) := by
  intro other found hget hdrained
  rw [Dict.get?_set] at hget
  split_ifs at hget with hid
  · cases hget
    exact hnew hdrained
  · exact h hget hdrained

theorem NoneReady.closed (h : NoneReady drained connections) (runtimeId : String) :
    NoneReady drained (connections.mapValues (closed runtimeId)) := by
  intro id found hget hdrained hready
  rw [Dict.get?_mapValues, Option.map_eq_some_iff] at hget
  obtain ⟨connection, hconnection, rfl⟩ := hget
  have hlive : (RuntimeProtocolStore.closed runtimeId connection).Live := by
    constructor <;> rw [hready] <;> nofun
  obtain ⟨hkept, -⟩ := of_live_closed hlive
  rw [hkept] at hdrained hready
  exact h hconnection hdrained hready

theorem NoneReady.subset (h : NoneReady drained connections) {fewer : List (String × ℕ)}
    (hfewer : fewer ⊆ drained) : NoneReady fewer connections :=
  fun _ _ hget hdrained => h hget (hfewer hdrained)

/-- The only live connection of the runtime is not READY. -/
theorem NoneReady.cons (h : NoneReady drained connections) (hone : OneLive connections)
    (hget : connections.get? id = some connection) (hlive : connection.Live)
    (hstate : connection.connectionState ≠ .ready) (generation : ℕ) :
    NoneReady ((connection.runtimeId, generation) :: drained) connections := by
  intro other found hfound hdrained hready
  rcases List.mem_cons.mp hdrained with hnew | hold
  · have hfoundLive : found.Live := by
      constructor <;> rw [hready] <;> nofun
    have hsame : other = id := hone hfound hget (congrArg Prod.fst hnew) hfoundLive hlive
    subst hsame
    rw [hget] at hfound
    cases hfound
    exact hstate hready
  · exact h hfound hold hready

/-! ## One call -/

/-- What every run keeps. -/
structure Rested (h : DrainHistory) : Prop where
  oneLive : OneLive h.store.connections
  noneReady : NoneReady h.drained h.store.connections

variable {h : DrainHistory} {call : ServiceCall}

/-- A drain is answered again, or its connection is moved. -/
theorem drain_cases {s : RuntimeProtocolStore}
    (h : s.requestRuntimeDrain env connectionId drain = .ok (answer, tables)) :
    ∃ connection,
      validateConnection env s.connections connectionId (drain.claim true) = .ok connection ∧
      (((s.drainRequests.get? drain.drainId).any (·.drainHash == drain.drainHash) = true ∧
          tables.connections = s.connections) ∨
        tables.connections = s.connectionMoved connectionId connection .draining) := by
  unfold requestRuntimeDrain at h
  obtain ⟨connection, hconnection, h⟩ := bind_eq_ok.mp h
  refine ⟨connection, hconnection, ?_⟩
  cases hexisting : s.drainRequests.get? drain.drainId with
  | some existing =>
    simp only [hexisting, bind_eq_ok, demand_eq_ok, decide_eq_true_eq, pure_eq_ok,
      Prod.mk.injEq] at h
    obtain ⟨_, hhash, -, rfl⟩ := h
    left
    simp [hhash]
  | none =>
    simp only [hexisting, bind_eq_ok, pure_eq_ok, Prod.mk.injEq] at h
    obtain ⟨_, -, -, rfl⟩ := h
    exact .inr rfl

/-- After a drain no connection of its generation is READY. -/
theorem Rested.after_drain (hr : h.Rested)
    (hok : h.store.requestRuntimeDrain env connectionId drain = .ok (answer, tables))
    (hkeeps : h.KeepsDrained (.lifecycle env (.drain connectionId drain))) :
    NoneReady ((drain.runtimeId, drain.runtimeGeneration) :: h.drained) tables.connections := by
  obtain ⟨connection, hconnection, hcases⟩ := drain_cases hok
  obtain ⟨hget, hlive⟩ := live_of_validate hconnection
  obtain ⟨-, hruntime, hgeneration⟩ := of_validateConnection hconnection
  change connection.runtimeId = drain.runtimeId at hruntime
  rw [← hruntime]
  rcases hcases with ⟨hreplayed, hsame⟩ | hmoved
  · rw [hsame]
    apply hr.noneReady.cons hr.oneLive hget hlive
    intro hready
    simp [KeepsDrained, undoes, connected_of_ok hconnection, hreplayed,
      readyAt, hget, hready] at hkeeps
  · rw [hmoved]
    have hset : NoneReady h.drained
        (h.store.connectionMoved connectionId connection .draining) :=
      hr.noneReady.set fun _ => nofun
    have hone : OneLive (h.store.connectionMoved connectionId connection .draining) :=
      hr.oneLive.moved hget hlive rfl
    exact hset.cons hone (Dict.get?_set_self ..) ⟨nofun, nofun⟩ nofun drain.runtimeGeneration

/-- After a handshake no connection of the generations that are drained and have not ended is
READY. -/
theorem Rested.after_handshake (hr : h.Rested) {complete : RuntimeHelloComplete}
    {answer : RuntimeConnection}
    (hok : h.store.completeHandshake env complete connectionId = .ok (answer, tables))
    (hkeeps : h.KeepsDrained (.lifecycle env (.completeHandshake complete connectionId))) :
    NoneReady h.drained tables.connections := by
  obtain ⟨hrewired, -, -⟩ := rewired_completeHandshake _ hok
  generalize tables.connections = connections at hrewired
  cases hrewired with
  | @established _ _ hello response connection hpending hchecked hruntime hgeneration hstate =>
    apply (hr.noneReady.closed complete.runtimeId).set
    rw [hruntime, hgeneration, hstate]
    intro hdrained hready
    cases hreconcile : response.reconcile with
    | true => simp [hreconcile] at hready
    | false =>
      simp [KeepsDrained, undoes, hpending, hchecked, hreconcile, hdrained] at hkeeps

/-! ## Runs -/

section Runs

variable [Runtime] [Conversions]

/-- No request of a drained generation is registered, and a graceful shutdown is recorded only for
a generation that was drained. -/
structure RespectsDrain (h : DrainHistory) (call : ServiceCall) : Prop where
  register : ∀ {env connectionId request}, call = .request env (.register connectionId request) →
    (request.runtimeId, request.runtimeGeneration) ∈ h.drained →
    (h.step call).store.requests = h.store.requests
  shutdown : ∀ {env connectionId shutdown},
    call = .lifecycle env (.shutdown connectionId shutdown) → shutdown.graceful = true →
    h.store.shutdowns.get? shutdown.shutdownId = none →
    (h.step call).store.shutdowns.contains shutdown.shutdownId = true →
    completedOf h.store shutdown.runtimeId shutdown.runtimeGeneration = true

theorem store_step : (h.step call).store = h.store.step call := by
  unfold step
  split
  · dsimp only
    split <;> rfl
  · dsimp only
    split <;> rfl
  · rfl

theorem oneLive_step (hlive : OneLive h.store.connections) :
    OneLive (h.step call).store.connections := by
  rw [store_step]
  rcases ConnectionHistory.connections_cases h.store call with hsame | ⟨env, lifecycle, -, hrewired⟩
  · rw [hsame]
    exact hlive
  · exact hrewired.oneLive hlive

/-- Of the calls that are no drain and no handshake, none takes a drained runtime back to READY. -/
theorem Rested.noneReady_step (hr : h.Rested) (hkeeps : h.KeepsDrained call)
    (hdrain : ∀ env id drain, call ≠ .lifecycle env (.drain id drain))
    (hcomplete : ∀ env complete id, call ≠ .lifecycle env (.completeHandshake complete id)) :
    NoneReady h.drained (h.store.step call).connections := by
  rcases ConnectionHistory.connections_cases h.store call with
    hsame | ⟨env, lifecycle, rfl, hrewired⟩
  · rw [hsame]
    exact hr.noneReady
  · generalize (h.store.step (.lifecycle env lifecycle)).connections = connections at hrewired ⊢
    cases hrewired with
    | @established complete id hello response connection =>
      exact absurd rfl (hcomplete env complete id)
    | @drained id drain connection => exact absurd rfl (hdrain env id drain)
    | @ready id ready connection hconnection hchecked =>
      apply hr.noneReady.set
      intro hdrained
      obtain ⟨-, hruntime, hgeneration⟩ := of_validateConnection hconnection
      change connection.runtimeId = ready.runtimeId at hruntime
      change connection.runtimeGeneration = ready.runtimeGeneration at hgeneration
      rw [hruntime, hgeneration] at hdrained
      simp [KeepsDrained, undoes, hchecked, hdrained] at hkeeps
    | stopped | rebound => exact hr.noneReady.set fun _ => nofun
    | @recovered id result connection hconnection hchecked =>
      apply hr.noneReady.set
      intro hdrained hready
      obtain ⟨-, hruntime, hgeneration⟩ := of_validateConnection hconnection
      change connection.runtimeId = result.runtimeId at hruntime
      change connection.runtimeGeneration = result.runtimeGeneration at hgeneration
      dsimp only at hdrained hready
      rw [hruntime, hgeneration] at hdrained
      cases hempty : result.remainingConflicts.isEmpty with
      | false => simp [hempty] at hready
      | true => simp [KeepsDrained, undoes, hchecked, hempty, hdrained] at hkeeps

/-- A call that leaves the drained generations as they are. -/
theorem Rested.other (hr : h.Rested) (hkeeps : h.KeepsDrained call)
    (hdrain : ∀ env id drain, call ≠ .lifecycle env (.drain id drain))
    (hcomplete : ∀ env complete id, call ≠ .lifecycle env (.completeHandshake complete id))
    (hdrained : (h.step call).drained = h.drained) : (h.step call).Rested where
  oneLive := oneLive_step hr.oneLive
  noneReady := by
    rw [hdrained, store_step]
    exact hr.noneReady_step hkeeps hdrain hcomplete

theorem Rested.step (hr : h.Rested) (hkeeps : h.KeepsDrained call) : (h.step call).Rested := by
  cases call with
  | request env call =>
    exact hr.other hkeeps (by simp) (by simp) rfl
  | lifecycle env lifecycle =>
    have hlive : OneLive (h.step (.lifecycle env lifecycle)).store.connections :=
      oneLive_step hr.oneLive
    cases lifecycle with
    | drain connectionId drain =>
      refine ⟨hlive, ?_⟩
      cases hok : h.store.requestRuntimeDrain env connectionId drain with
      | error e =>
        simp only [DrainHistory.step, hok, RuntimeProtocolStore.step, lifecycleTables]
        exact hr.noneReady
      | ok pair =>
        simp only [DrainHistory.step, hok, RuntimeProtocolStore.step, lifecycleTables]
        exact hr.after_drain hok hkeeps
    | completeHandshake complete connectionId =>
      refine ⟨hlive, ?_⟩
      cases hok : h.store.completeHandshake env complete connectionId with
      | error e =>
        simp only [DrainHistory.step, hok, RuntimeProtocolStore.step, lifecycleTables]
        exact hr.noneReady
      | ok pair =>
        simp only [DrainHistory.step, hok, RuntimeProtocolStore.step, lifecycleTables]
        exact (hr.after_handshake hok hkeeps).subset fun _ => List.mem_of_mem_filter
    | _ => exact hr.other hkeeps (by simp) (by simp) rfl

variable {env : ServiceEnvironment} {connectionId : String}

/-- A request of a drained generation is refused before anything is written. -/
theorem Rested.refuses (hr : h.Rested) {request : RuntimeExecuteRequest}
    (hdrained : (request.runtimeId, request.runtimeGeneration) ∈ h.drained) :
    h.store.step (.request env (.register connectionId request)) = h.store := by
  unfold RuntimeProtocolStore.step
  dsimp only
  cases htables : h.store.requestTables env (.register connectionId request) with
  | error e => rfl
  | ok tables =>
    obtain ⟨answer, hok⟩ := ok_of_map htables
    obtain ⟨connection, hconnection, -⟩ := bind_eq_ok.mp hok
    obtain ⟨hget, hruntime, hgeneration⟩ := of_validateConnection hconnection
    have hready := permits_of_validate hconnection
    refine absurd ?_ (hr.noneReady hget ?_)
    · simpa [ConnectionClaim.permits, RuntimeIdentity.claim] using hready
    · rw [hruntime, hgeneration]
      exact hdrained

theorem shutdown_cases {s : RuntimeProtocolStore} {shutdown : RuntimeShutdown}
    (hgraceful : shutdown.graceful = true) (hnew : s.shutdowns.get? shutdown.shutdownId = none)
    (hstored : (s.step (.lifecycle env (.shutdown connectionId shutdown))).shutdowns.contains
      shutdown.shutdownId = true) :
    connected env s connectionId (shutdown.claim true) = true ∧
      completedFor s shutdown.runtimeId = true := by
  unfold RuntimeProtocolStore.step at hstored
  dsimp only at hstored
  cases htables : s.lifecycleTables env (.shutdown connectionId shutdown) with
  | error e =>
    rw [htables] at hstored
    dsimp only at hstored
    rw [Dict.contains, hnew] at hstored
    cases hstored
  | ok tables =>
    obtain ⟨answer, hok⟩ := ok_of_map htables
    unfold requestRuntimeShutdown at hok
    obtain ⟨connection, hconnection, hok⟩ := bind_eq_ok.mp hok
    rw [hnew] at hok
    obtain ⟨_, hcompleted, -⟩ := bind_eq_ok.mp hok
    simp only [demand_eq_ok, hgraceful, Bool.not_true, Bool.false_or] at hcompleted
    exact ⟨connected_of_ok hconnection, hcompleted⟩

theorem Rested.respects (hr : h.Rested) (hkeeps : h.KeepsDrained call) : h.RespectsDrain call where
  register {env connectionId request} hcall hdrained := by
    subst hcall
    rw [store_step, hr.refuses hdrained]
  shutdown {env connectionId shutdown} hcall hgraceful hnew hstored := by
    subst hcall
    rw [store_step] at hstored
    obtain ⟨hconnected, hcompleted⟩ := shutdown_cases hgraceful hnew hstored
    simpa [KeepsDrained, undoes, hconnected, hgraceful, Dict.contains, hnew, hcompleted]
      using hkeeps

/-- In a run in which no call undoes a drain, no request of a drained generation is registered, and
a graceful shutdown is recorded only for a generation that was drained. -/
theorem drain_respected {calls : List ServiceCall} (hkeeps : Careful step KeepsDrained {} calls) :
    Careful step RespectsDrain {} calls :=
  careful_of_keeps (I := Rested) (fun _ _ hr hc => ⟨hr.step hc, hr.respects hc⟩)
    ⟨(fun _ _ _ _ h => nomatch h), (fun _ _ h => nomatch h)⟩ hkeeps

/-- The call registers a request of a drained generation, or records a graceful shutdown of a
generation that was not drained. -/
def breaks (h : DrainHistory) (call : ServiceCall) : Bool :=
  match call with
  | .request _ (.register _ request) =>
    h.drained.contains (request.runtimeId, request.runtimeGeneration) &&
      !h.store.requests.contains request.requestId &&
      (h.step call).store.requests.contains request.requestId
  | .lifecycle _ (.shutdown _ shutdown) =>
    shutdown.graceful && !h.store.shutdowns.contains shutdown.shutdownId &&
      (h.step call).store.shutdowns.contains shutdown.shutdownId &&
      !completedOf h.store shutdown.runtimeId shutdown.runtimeGeneration
  | _ => false

theorem not_respectsDrain (hbreaks : h.breaks call = true) : ¬ h.RespectsDrain call := by
  intro hrespects
  unfold breaks at hbreaks
  split at hbreaks
  · simp only [Bool.and_eq_true, List.contains_iff_mem, Bool.not_eq_true'] at hbreaks
    obtain ⟨⟨hdrained, hnew⟩, hcreated⟩ := hbreaks
    rw [hrespects.register rfl hdrained, hnew] at hcreated
    cases hcreated
  · simp only [Bool.and_eq_true, Dict.not_contains] at hbreaks
    obtain ⟨⟨⟨hgraceful, hnew⟩, hstored⟩, hother⟩ := hbreaks
    rw [hrespects.shutdown rfl hgraceful hnew hstored] at hother
    cases hother
  · cases hbreaks

end Runs

/-! ## A drained runtime -/

open RuntimeProtocolStore (sampleEnvironment sampleBinding sampleRoute sampleIdentity sampleRequest
  sampleRecovery handshake deadlineTimes textConversions)
open ConnectionHistory (sampleBegin sampleComplete)

def oneDrained : List ServiceCall :=
  handshake "r1" ++
    [.lifecycle sampleEnvironment (.drain "r1" {
        toRuntimeIdentity := sampleIdentity "r1", drainId := "drain", drainHash := "drain" }),
      .lifecycle sampleEnvironment (.drainComplete "r1" {
        toRuntimeIdentity := sampleIdentity "r1", drainId := "drain", completionHash := "done" })]

def lateRequest (connectionId : String) : ServiceCall :=
  .request sampleEnvironment (.register connectionId (sampleRequest "r1" "late"))

def sampleShutdown (env : ServiceEnvironment) (generation : ℕ) : ServiceCall :=
  .lifecycle env (.shutdown "r1" {
    toRuntimeIdentity := { sampleIdentity "r1" with runtimeGeneration := generation }
    shutdownId := "shutdown"
    graceful := true
    shutdownHash := "shutdown" })

/-- The drained runtime refuses a request and is shut down. -/
theorem drain_respected_shutdown : letI := deadlineTimes; letI := textConversions
    Careful step RespectsDrain {} (oneDrained ++
      [lateRequest "r1", sampleShutdown sampleEnvironment 1]) := by
  apply @drain_respected deadlineTimes textConversions
  decide +kernel

def secondGeneration : ServiceEnvironment :=
  { sampleEnvironment with
    binding := fun runtimeId => some { sampleBinding runtimeId with runtimeGeneration := 2 }
    route := fun runtimeId => some { sampleRoute runtimeId with runtimeGeneration := some 2 } }

def secondHandshake : List ServiceCall :=
  [.lifecycle secondGeneration (.beginHandshake {
      runtimeId := "r1"
      runtimeGeneration := 2
      instanceId := "instance"
      runtimeConfigurationHash := "configuration of r1"
      capabilityId := "chat"
      supportedCapabilityVersions := ["1"]
      supportedDefinitionHashes := ["definition"]
      supportedRuntimeProtocolVersions := ["1.0"]
      runtimeChallenge := "challenge" } "second" "challenge"),
    .lifecycle secondGeneration (.completeHandshake {
      handshakeId := "second"
      runtimeId := "r1"
      runtimeGeneration := 2
      routeGeneration := 1
      hypervisorChallengeResponse := challengeResponse "challenge" } "r1")]

/-- What undoes the drain, and the call after it: a ready state, a recovery and a new handshake
before a request, and a new generation before a graceful shutdown. -/
def undoings : List (List ServiceCall × ServiceCall) :=
  [([.lifecycle sampleEnvironment (.ready "r1" {
        toRuntimeIdentity := sampleIdentity "r1"
        operationalState := "READY"
        readinessDimensions := [true, true, true, true, true, true, true, true]
        capabilityDefinitionHash := "definition"
        rest := [] })], lateRequest "r1"),
    ([sampleRecovery [] [], .lifecycle sampleEnvironment (.recoveryResult "r1" {
        runtimeId := "r1"
        runtimeGeneration := 1
        routeGeneration := 1
        planId := "plan"
        resultHash := "recovered" })], lateRequest "r1"),
    ([sampleBegin "again", sampleComplete "again" "c2"], lateRequest "c2"),
    (secondHandshake, sampleShutdown secondGeneration 2)]

/-- A request of the drained generation is registered in each of three ways, and a generation that
was never drained is shut down gracefully. -/
theorem drain_undone : letI := deadlineTimes; letI := textConversions
    undoings.Forall fun e =>
      ¬ Careful step RespectsDrain {} (oneDrained ++ e.1 ++ [e.2]) := by
  rw [List.forall_iff_forall_mem]
  intro e he h
  have hlast := (careful_append.mp h).2.1
  revert hlast
  clear h
  apply @not_respectsDrain _ _ deadlineTimes textConversions
  revert e
  decide +kernel

end DrainHistory

end AidnSpec.RuntimeProtocol
