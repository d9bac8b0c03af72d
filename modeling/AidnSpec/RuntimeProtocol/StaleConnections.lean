import AidnSpec.RuntimeProtocol.Connections

/-!
# Stale connections

Handshakes of a runtime may overlap, and routes and bindings change from call to call. In every run
one connection of a runtime at most is live, and a call over a connection that is superseded, closed
or expired, or whose route is not the active one, leaves the store.
-/

namespace AidnSpec.RuntimeProtocol

open Base RuntimeProtocolStore
open RuntimeProtocolStore (OneLive)

/-- What the collaborators of the service answer during a call. -/
def ServiceCall.environment : ServiceCall → ServiceEnvironment
  | .lifecycle env _ | .request env _ => env

def ServiceCall.connectionId : ServiceCall → Option String
  | .lifecycle _ call => call.connectionId
  | .request _ call => some call.connectionId

/-- The call is a recovery with `allow_route_rebind`. -/
def ServiceCall.rebinds : ServiceCall → Bool
  | .lifecycle _ call => call.rebinds
  | .request _ _ => false

/-- The store, the ids drawn for handshakes, the handshakes that were completed, and the connections
that a later handshake of their runtime superseded. -/
structure ConnectionHistory where
  store : RuntimeProtocolStore := {}
  begun : List String := []
  completed : List String := []
  superseded : List String := []

namespace ConnectionHistory

def connectionsOf (h : ConnectionHistory) (runtimeId : String) : List String :=
  (h.store.connections.entries.filter (·.2.runtimeId == runtimeId)).map (·.1)

/-- The ids that the service draws are new. -/
def Fresh (h : ConnectionHistory) : ServiceCall → Prop
  | .lifecycle _ (.beginHandshake _ handshakeId _) => handshakeId ∉ h.begun
  | .lifecycle _ (.completeHandshake _ connectionId) => h.store.connections.get? connectionId = none
  | _ => True

instance decidableFresh (h : ConnectionHistory) : ∀ call, Decidable (h.Fresh call)
  | .lifecycle _ (.beginHandshake _ _ _) => inferInstanceAs (Decidable (_ ∉ _))
  | .lifecycle _ (.completeHandshake _ _) => inferInstanceAs (Decidable (_ = none))
  | .lifecycle _ (.message _) | .lifecycle _ (.ready _ _) | .lifecycle _ (.health _ _)
  | .lifecycle _ (.capacity _ _) | .lifecycle _ (.checkpoint _ _) | .lifecycle _ (.drain _ _)
  | .lifecycle _ (.drainStatus _ _) | .lifecycle _ (.drainComplete _ _)
  | .lifecycle _ (.shutdown _ _) | .lifecycle _ (.recoveryState _ _ _)
  | .lifecycle _ (.recoveryPlan _ _ _ _) | .lifecycle _ (.recoveryResult _ _)
  | .request _ _ => inferInstanceAs (Decidable True)

/-- The connection is superseded, closed or expired, or its route is not the active one and the call
does not rebind it. -/
def Stale (h : ConnectionHistory) (env : ServiceEnvironment) (connectionId : String)
    (rebinds : Bool) : Prop :=
  connectionId ∈ h.superseded ∨
    ∃ connection, h.store.connections.get? connectionId = some connection ∧
      (connection.connectionState = .closed ∨ connection.expiresAt ≤ env.now.micros ∨
        rebinds = false ∧ ∀ route, env.route connection.runtimeId = some route →
          route.routeState = .active → route.routeGeneration ≠ connection.routeGeneration)

/-- What every run keeps: the ids of pending and completed handshakes were drawn, no completed
handshake is pending, and no superseded connection is live. -/
structure Orderly (h : ConnectionHistory) : Prop where
  oneLive : OneLive h.store.connections
  pending : ∀ {id}, (h.store.pendingHandshakes.get? id).isSome = true →
    id ∈ h.begun ∧ id ∉ h.completed
  drawn : ∀ id ∈ h.completed, id ∈ h.begun
  once : h.completed.Nodup
  superseded : ∀ id ∈ h.superseded, ∃ connection,
    h.store.connections.get? id = some connection ∧ ¬ connection.Live

section Runs

variable [Runtime] [Conversions]

def step (h : ConnectionHistory) (call : ServiceCall) : ConnectionHistory :=
  let after : ConnectionHistory := { h with store := h.store.step call }
  match call with
  | .lifecycle _ (.beginHandshake _ handshakeId _) => { after with begun := handshakeId :: h.begun }
  | .lifecycle env (.completeHandshake complete connectionId) =>
    match h.store.completeHandshake env complete connectionId with
    | .ok _ => { after with
        completed := complete.handshakeId :: h.completed
        superseded := h.connectionsOf complete.runtimeId ++ h.superseded }
    | .error _ => after
  | _ => after

/-- What a call leaves of connections and handshakes. -/
structure Inert (h : ConnectionHistory) (call : ServiceCall) : Prop where
  oneLive : OneLive (h.step call).store.connections
  closed : ∀ {id connection}, h.store.connections.get? id = some connection →
    connection.connectionState = .closed →
    (h.step call).store.connections.get? id = some connection
  once : (h.step call).completed.Nodup
  stale : ∀ {id}, call.connectionId = some id → h.Stale call.environment id call.rebinds →
    (h.step call).store = h.store

variable {h : ConnectionHistory} {call : ServiceCall}

theorem store_step : (h.step call).store = h.store.step call := by
  unfold step
  split
  · rfl
  · dsimp only
    split <;> rfl
  · rfl

/-- A call that leaves the store, or a call about a runtime whose tables are taken, or a call about
a request over a current connection. -/
theorem store_cases (s : RuntimeProtocolStore) (call : ServiceCall) :
    s.step call = s ∨
      (∃ env request tables, call = .request env request ∧
        s.step call = { s with toRequestTables := tables } ∧
        RuntimeProtocolStore.Current env s.connections request.connectionId false) ∨
      ∃ env lifecycle tables, call = .lifecycle env lifecycle ∧
        s.lifecycleTables env lifecycle = .ok tables ∧
        s.step call = { s with toLifecycleTables := tables } := by
  cases call with
  | request env call =>
    unfold RuntimeProtocolStore.step
    dsimp only
    cases htables : s.requestTables env call with
    | error e => exact .inl rfl
    | ok tables =>
      rcases request_current _ htables with rfl | hcurrent
      · exact .inl rfl
      · exact .inr (.inl ⟨env, call, tables, rfl, rfl, hcurrent⟩)
  | lifecycle env call =>
    unfold RuntimeProtocolStore.step
    dsimp only
    cases htables : s.lifecycleTables env call with
    | error e => exact .inl rfl
    | ok tables => exact .inr (.inr ⟨env, call, tables, rfl, htables, rfl⟩)

variable {env : ServiceEnvironment} {id : String}

omit [Runtime] [Conversions] in
theorem Orderly.not_current (ho : h.Orderly) {rebinds : Bool} (hstale : h.Stale env id rebinds) :
    ¬ RuntimeProtocolStore.Current env h.store.connections id rebinds := by
  rintro ⟨connection, hget, hlive, hexpires, hroute⟩
  rcases hstale with hsuperseded | ⟨found, hfound, hstale⟩
  · obtain ⟨found, hfound, hdead⟩ := ho.superseded id hsuperseded
    rw [hget] at hfound
    cases hfound
    exact hdead hlive
  · rw [hget] at hfound
    cases hfound
    rcases hstale with hclosed | hexpired | ⟨hrebinds, hroutes⟩
    · exact hlive.1 hclosed
    · omega
    · obtain ⟨route, hfound, hactive, hgeneration⟩ := hroute hrebinds
      exact hroutes route hfound hactive hgeneration

/-- A call over a stale connection leaves the store. -/
theorem Orderly.stale_left (ho : h.Orderly) (hid : call.connectionId = some id)
    (hstale : h.Stale call.environment id call.rebinds) : h.store.step call = h.store := by
  have hnot := ho.not_current hstale
  rcases store_cases h.store call with hsame | ⟨env, request, tables, rfl, -, hcurrent⟩ |
    ⟨env, lifecycle, tables, rfl, htables, -⟩
  · exact hsame
  · cases hid
    exact absurd hcurrent hnot
  · exact absurd (lifecycle_current hid _ htables) hnot

/-- The connections after a call: the same, or rewired by a call about a runtime. -/
theorem connections_cases (s : RuntimeProtocolStore) (call : ServiceCall) :
    (s.step call).connections = s.connections ∨ ∃ env lifecycle, call = .lifecycle env lifecycle ∧
      RuntimeProtocolStore.Rewired env s lifecycle (s.step call).connections := by
  rcases store_cases s call with hsame | ⟨env, request, tables, -, hstep, -⟩ |
    ⟨env, lifecycle, tables, rfl, htables, hstep⟩
  · rw [hsame]
    exact .inl rfl
  · rw [hstep]
    exact .inl rfl
  · rw [hstep]
    rcases (handled _ htables).connections with hsame | hrewired
    · exact .inl hsame
    · exact .inr ⟨env, lifecycle, rfl, hrewired⟩

theorem oneLive_step (hlive : OneLive h.store.connections) :
    OneLive (h.step call).store.connections := by
  rw [store_step]
  rcases connections_cases h.store call with hsame | ⟨env, lifecycle, -, hrewired⟩
  · rw [hsame]
    exact hlive
  · exact hrewired.oneLive hlive

/-- A connection that is not live stays as it is. -/
theorem dead_step (hfresh : h.Fresh call) {connection : RuntimeConnection}
    (hget : h.store.connections.get? id = some connection) (hdead : ¬ connection.Live) :
    (h.step call).store.connections.get? id = some connection := by
  rw [store_step]
  rcases connections_cases h.store call with hsame | ⟨env, lifecycle, rfl, hrewired⟩
  · rw [hsame]
    exact hget
  · apply hrewired.dead _ hget hdead
    intro complete id hcall
    subst hcall
    exact hfresh

theorem superseded_step (ho : h.Orderly) (hfresh : h.Fresh call) :
    ∀ id ∈ h.superseded, ∃ connection,
      (h.step call).store.connections.get? id = some connection ∧ ¬ connection.Live := by
  intro id hid
  obtain ⟨connection, hget, hdead⟩ := ho.superseded id hid
  exact ⟨connection, dead_step hfresh hget hdead, hdead⟩

/-- A call that is no handshake, or fails, leaves the handshakes that are pending. -/
theorem Orderly.other (ho : h.Orderly) (hfresh : h.Fresh call)
    (hpending : (h.store.step call).pendingHandshakes = h.store.pendingHandshakes)
    (hstep : h.step call = { h with store := h.store.step call }) : (h.step call).Orderly where
  oneLive := oneLive_step ho.oneLive
  pending {id} hid := by
    rw [hstep] at hid ⊢
    rw [hpending] at hid
    exact ho.pending hid
  drawn := by
    rw [hstep]
    exact ho.drawn
  once := by
    rw [hstep]
    exact ho.once
  superseded := by
    have hsuperseded := superseded_step ho hfresh
    rw [hstep] at hsuperseded ⊢
    exact hsuperseded

theorem pending_of_other {s : RuntimeProtocolStore} {lifecycle : LifecycleCall}
    (hbegin : ∀ hello id challenge, lifecycle ≠ .beginHandshake hello id challenge)
    (hcomplete : ∀ complete id, lifecycle ≠ .completeHandshake complete id) :
    (s.step (.lifecycle env lifecycle)).pendingHandshakes = s.pendingHandshakes := by
  unfold RuntimeProtocolStore.step
  dsimp only
  cases htables : s.lifecycleTables env lifecycle with
  | error e => rfl
  | ok tables =>
    have hpending := (handled _ htables).pending
    cases lifecycle with
    | beginHandshake hello id challenge => exact absurd rfl (hbegin hello id challenge)
    | completeHandshake complete id => exact absurd rfl (hcomplete complete id)
    | _ => exact hpending

/-- The handshake that begins has an id of its own. -/
theorem Orderly.begun (ho : h.Orderly) {hello : RuntimeHello} {handshakeId challenge : String}
    (hfresh : h.Fresh (.lifecycle env (.beginHandshake hello handshakeId challenge))) :
    (h.step (.lifecycle env (.beginHandshake hello handshakeId challenge))).Orderly := by
  have hpending : ∀ {id}, ((h.store.step (.lifecycle env
      (.beginHandshake hello handshakeId challenge))).pendingHandshakes.get? id).isSome = true →
      id = handshakeId ∨ (h.store.pendingHandshakes.get? id).isSome = true := by
    intro id hid
    unfold RuntimeProtocolStore.step at hid
    dsimp only at hid
    cases htables : h.store.lifecycleTables env (.beginHandshake hello handshakeId challenge) with
    | error e =>
      rw [htables] at hid
      exact .inr hid
    | ok tables =>
      rw [htables] at hid
      obtain ⟨response, hset⟩ := (handled _ htables).pending
      dsimp only at hid
      rw [hset, Dict.get?_set] at hid
      split_ifs at hid with hsame
      · exact .inl hsame
      · exact .inr hid
  constructor
  · exact oneLive_step ho.oneLive
  · intro id hid
    rcases hpending hid with rfl | hold
    · exact ⟨List.mem_cons_self, fun hcompleted => hfresh (ho.drawn id hcompleted)⟩
    · exact ⟨List.mem_cons_of_mem _ (ho.pending hold).1, (ho.pending hold).2⟩
  · exact fun id hid => List.mem_cons_of_mem _ (ho.drawn id hid)
  · exact ho.once
  · exact superseded_step ho hfresh

/-- The handshake that completes is not pending any more, and the connections of its runtime are
superseded. -/
theorem Orderly.completed (ho : h.Orderly) {complete : RuntimeHelloComplete}
    {connectionId : String} {answer : RuntimeConnection} {tables : LifecycleTables}
    (hok : h.store.completeHandshake env complete connectionId = .ok (answer, tables))
    (hfresh : h.Fresh (.lifecycle env (.completeHandshake complete connectionId))) :
    (h.step (.lifecycle env (.completeHandshake complete connectionId))).Orderly := by
  have hstep : h.step (.lifecycle env (.completeHandshake complete connectionId)) = {
      store := { h.store with toLifecycleTables := tables }
      begun := h.begun
      completed := complete.handshakeId :: h.completed
      superseded := h.connectionsOf complete.runtimeId ++ h.superseded } := by
    simp only [step, hok, RuntimeProtocolStore.step, lifecycleTables]
    rfl
  obtain ⟨hrewired, hpending, herased⟩ := rewired_completeHandshake _ hok
  have hlive : OneLive
      (h.step (.lifecycle env (.completeHandshake complete connectionId))).store.connections :=
    oneLive_step ho.oneLive
  have hsuperseded := superseded_step ho hfresh
  rw [hstep] at hlive hsuperseded ⊢
  constructor
  · exact hlive
  · intro id hid
    dsimp only at hid
    rw [herased, Dict.get?_erase] at hid
    split_ifs at hid with hsame
    · cases hid
    · refine ⟨(ho.pending hid).1, ?_⟩
      rw [List.mem_cons, not_or]
      exact ⟨hsame, (ho.pending hid).2⟩
  · intro id hid
    rcases List.mem_cons.mp hid with rfl | hold
    · exact (ho.pending hpending).1
    · exact ho.drawn id hold
  · exact List.nodup_cons.mpr ⟨(ho.pending hpending).2, ho.once⟩
  · intro id hid
    rcases List.mem_append.mp hid with hnew | hold
    · simp only [connectionsOf, List.mem_map, List.mem_filter, beq_iff_eq, Prod.exists] at hnew
      obtain ⟨found, connection, ⟨hentry, hruntime⟩, rfl⟩ := hnew
      apply hrewired.superseded hfresh (Dict.get?_eq_some_iff.mpr hentry) hruntime
    · exact hsuperseded id hold

theorem Orderly.step (ho : h.Orderly) (hfresh : h.Fresh call) : (h.step call).Orderly := by
  cases call with
  | request env call =>
    have hsame := toLifecycleTables_step_request env h.store call
    apply ho.other hfresh _ rfl
    rw [hsame]
  | lifecycle env lifecycle =>
    cases lifecycle with
    | beginHandshake hello handshakeId challenge => exact ho.begun hfresh
    | completeHandshake complete connectionId =>
      cases hok : h.store.completeHandshake env complete connectionId with
      | error e =>
        apply ho.other hfresh
        · simp only [RuntimeProtocolStore.step, lifecycleTables, hok]
          rfl
        · simp only [ConnectionHistory.step, hok]
      | ok pair => exact ho.completed hok hfresh
    | _ =>
      exact ho.other hfresh
        (pending_of_other (fun _ _ _ h => nomatch h) fun _ _ h => nomatch h) rfl

theorem Orderly.inert (ho : h.Orderly) (hfresh : h.Fresh call) : h.Inert call where
  oneLive := oneLive_step ho.oneLive
  closed hget hclosed := dead_step hfresh hget fun hlive => hlive.1 hclosed
  once := (ho.step hfresh).once
  stale hid hstale := by
    rw [store_step]
    exact ho.stale_left hid hstale

/-- In every run, a stale connection is inert: one connection of a runtime at most is live, a closed
connection stays closed, no handshake is completed twice, and a call over a stale connection leaves
the store. The service draws new ids. -/
theorem stale_connections_inert {calls : List ServiceCall}
    (hfresh : Careful step Fresh {} calls) : Careful step Inert {} calls :=
  careful_of_keeps (I := Orderly) (fun _ _ ho hc => ⟨ho.step hc, ho.inert hc⟩)
    ⟨(fun _ _ _ _ h => nomatch h), (fun h => nomatch h), List.forall_mem_nil _, List.nodup_nil,
      List.forall_mem_nil _⟩ hfresh

end Runs

/-! ## Two handshakes of one runtime -/

open RuntimeProtocolStore (sampleEnvironment sampleRequest deadlineTimes textConversions)

def sampleBegin (handshakeId : String) : ServiceCall :=
  .lifecycle sampleEnvironment (.beginHandshake {
    runtimeId := "r1"
    runtimeGeneration := 1
    instanceId := "instance"
    runtimeConfigurationHash := "configuration of r1"
    capabilityId := "chat"
    supportedCapabilityVersions := ["1"]
    supportedDefinitionHashes := ["definition"]
    supportedRuntimeProtocolVersions := ["1.0"]
    runtimeChallenge := "challenge" } handshakeId "challenge")

def sampleComplete (handshakeId connectionId : String) : ServiceCall :=
  .lifecycle sampleEnvironment (.completeHandshake {
    handshakeId := handshakeId
    runtimeId := "r1"
    runtimeGeneration := 1
    routeGeneration := 1
    hypervisorChallengeResponse := challengeResponse "challenge" } connectionId)

/-- Two handshakes overlap, and requests come over both connections. -/
theorem stale_connections_inert_overlapping : letI := deadlineTimes; letI := textConversions
    Careful step Inert {} [sampleBegin "h1", sampleBegin "h2", sampleComplete "h2" "c2",
      .request sampleEnvironment (.register "c2" (sampleRequest "r1" "p")),
      sampleComplete "h1" "c1",
      .request sampleEnvironment (.register "c2" (sampleRequest "r1" "q")),
      .request sampleEnvironment (.register "c1" (sampleRequest "r1" "q"))] := by
  apply @stale_connections_inert deadlineTimes textConversions
  decide +kernel

end ConnectionHistory

end AidnSpec.RuntimeProtocol
