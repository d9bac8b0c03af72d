import AidnSpec.RuntimeProtocol.TerminalRequests

/-!
# Connections of runtimes

Which calls rewrite the connections, and what a call over a connection needs of it. A completed
handshake closes the other connections of its runtime, and nothing is written over a connection that
is closed, has expired or has a stale route.
-/

namespace AidnSpec.RuntimeProtocol

open Base

/-- The connection is neither closed nor rejected. -/
def RuntimeConnection.Live (connection : RuntimeConnection) : Prop :=
  connection.connectionState ≠ .closed ∧ connection.connectionState ≠ .rejected

def LifecycleCall.connectionId : LifecycleCall → Option String
  | .beginHandshake _ _ _ | .completeHandshake _ _ => none
  | .message sent => some sent.runtimeConnectionId
  | .ready id _ | .health id _ | .capacity id _ | .checkpoint id _ | .drain id _
  | .drainStatus id _ | .drainComplete id _ | .shutdown id _ | .recoveryState id _ _
  | .recoveryPlan id _ _ _ | .recoveryResult id _ => some id

/-- The call is a recovery with `allow_route_rebind`. -/
def LifecycleCall.rebinds : LifecycleCall → Bool
  | .recoveryState _ _ rebind | .recoveryPlan _ _ rebind _ => rebind
  | _ => false

namespace RuntimeProtocolStore

variable {env : ServiceEnvironment} {s : RuntimeProtocolStore} {connectionId : String}

/-! ## What a call needs of its connection -/

/-- The connection is live and has not expired, and its route is active unless it is rebound. -/
def Current (env : ServiceEnvironment) (connections : Dict String RuntimeConnection)
    (connectionId : String) (rebinds : Bool) : Prop :=
  ∃ connection, connections.get? connectionId = some connection ∧ connection.Live ∧
    env.now.micros < connection.expiresAt ∧
    (rebinds = false → ∃ route, env.route connection.runtimeId = some route ∧
      route.routeState = .active ∧ route.routeGeneration = connection.routeGeneration)

variable {claim : ConnectionClaim} {connection : RuntimeConnection} {call : LifecycleCall}
  {runtimeId : String} {rebinds : Bool}

theorem of_routeOf {route : Dispatcher.DispatcherRoute} (h : env.routeOf runtimeId = .ok route) :
    env.route runtimeId = some route ∧ route.routeState = .active := by
  unfold ServiceEnvironment.routeOf at h
  cases hroute : env.route runtimeId with
  | none => simp [hroute] at h
  | some found =>
    rw [hroute] at h
    dsimp only at h
    split_ifs at h with hactive
    · cases h
      exact ⟨rfl, hactive⟩
    · simp at h

theorem live_of_permits (h : claim.permits connection.connectionState = true) :
    connection.Live := by
  constructor <;> intro hstate <;> simp [ConnectionClaim.permits, hstate] at h

theorem permits_of_validate {connections : Dict String RuntimeConnection}
    (h : validateConnection env connections connectionId claim = .ok connection) :
    claim.permits connection.connectionState = true := by
  unfold validateConnection at h
  cases hconnection : connections.get? connectionId with
  | none => simp [hconnection] at h
  | some found =>
    simp only [hconnection, bind_eq_ok, demand_eq_ok, pure_eq_ok] at h
    obtain ⟨_, hpermits, _, _, _, _, _, _, _, _, _, _, _, _, rfl⟩ := h
    exact hpermits

theorem current_of_validate {connections : Dict String RuntimeConnection}
    (h : validateConnection env connections connectionId claim = .ok connection)
    (hskip : rebinds = false → claim.skipRouteCheck = false) :
    Current env connections connectionId rebinds := by
  have hlive := live_of_permits (permits_of_validate h)
  unfold validateConnection at h
  cases hconnection : connections.get? connectionId with
  | none => simp [hconnection] at h
  | some found =>
    simp only [hconnection, bind_eq_ok, demand_eq_ok, pure_eq_ok, decide_eq_true_eq] at h
    obtain ⟨_, _, _, hexpires, _, hid, _, _, _, _, route, hroute, _, hgeneration, rfl⟩ := h
    refine ⟨found, hconnection, hlive, hexpires, ?_⟩
    intro hrebinds
    obtain ⟨hfound, hactive⟩ := of_routeOf hroute
    simp only [hskip hrebinds, Bool.false_or, Bool.and_eq_true, decide_eq_true_eq] at hgeneration
    refine ⟨route, ?_, hactive, ?_⟩
    · rw [hid, hfound]
    · rw [hgeneration.1, hgeneration.2]

/-- A recovery state is recorded over a connection, and the connections stay. -/
theorem recordRuntimeRecoveryState_connection {state : RuntimeRecoveryState} {rebind : Bool} :
    Ensures (s.recordRuntimeRecoveryState env connectionId state rebind) fun r =>
      ∃ connection, validateConnection env s.connections connectionId (recoveryClaim state rebind) =
        .ok connection ∧ r.2.pendingHandshakes = s.pendingHandshakes ∧
          r.2.connections = s.connections := by
  unfold recordRuntimeRecoveryState
  refine ensures_then fun _ => ensures_bind fun connection hconnection => ensures_then fun _ => ?_
  split
  · split_ifs
    · exact ensures_pure ⟨connection, hconnection, rfl, rfl⟩
    · exact ensures_pure ⟨connection, hconnection, rfl, rfl⟩
  · exact ensures_pure ⟨connection, hconnection, rfl, rfl⟩

/-- A call that checks its connection first. -/
theorem current_of_first {α : Type} {rest : RuntimeConnection → Except ProtocolFailure α}
    (hskip : rebinds = false → claim.skipRouteCheck = false) :
    Ensures (validateConnection env s.connections connectionId claim >>= rest) fun _ =>
      Current env s.connections connectionId rebinds :=
  ensures_bind fun _ hconnection _ _ => current_of_validate hconnection hskip

/-- A call that checks its sender and then its connection. -/
theorem current_of_second {α : Type} {check : Except ProtocolFailure Unit}
    {rest : RuntimeConnection → Except ProtocolFailure α}
    (hskip : rebinds = false → claim.skipRouteCheck = false) :
    Ensures (check >>= fun _ => validateConnection env s.connections connectionId claim >>= rest)
      fun _ => Current env s.connections connectionId rebinds :=
  ensures_then fun _ => current_of_first hskip

/-- The other tables of a call that answers. -/
theorem ok_of_map {α T : Type} {x : Except ProtocolFailure (α × T)} {tables : T}
    (h : (·.2) <$> x = .ok tables) : ∃ answer, x = .ok (answer, tables) := by
  cases x with
  | error e => cases h
  | ok pair => exact ⟨pair.1, congrArg Except.ok (Prod.ext rfl (Except.ok.inj h))⟩

theorem current_cancelResult {result : RuntimeCancelResult} :
    Ensures (s.recordRuntimeCancelResult env connectionId result) fun _ =>
      Current env s.connections connectionId false := by
  unfold recordRuntimeCancelResult
  refine ensures_then fun _ => ?_
  split
  · exact ensures_refuse
  · exact current_of_first fun _ => rfl

theorem current_streamEvent {event : RuntimeStreamEvent} :
    Ensures (s.validateStreamEvent env connectionId event) fun _ =>
      Current env s.connections connectionId false :=
  current_of_second fun _ => rfl

theorem current_openStream {event : RuntimeStreamEvent} :
    Ensures (s.openStream env connectionId event) fun _ =>
      Current env s.connections connectionId false :=
  ensures_bind fun _ hevent _ _ => current_streamEvent _ hevent

theorem current_terminal {requestId terminalState resultHash reportId : String} :
    Ensures (s.recordRequestTerminal env connectionId requestId terminalState resultHash reportId)
      fun _ => Current env s.connections connectionId false := by
  unfold recordRequestTerminal
  split
  · exact ensures_refuse
  · exact current_of_first fun _ => rfl

/-- The only call that answers before its connection is checked is a result that is stored. -/
theorem current_result {result : RuntimeResult} :
    Ensures (s.recordRuntimeResult env connectionId result) fun r =>
      r.2 = s.toRequestTables ∨ Current env s.connections connectionId false := by
  unfold recordRuntimeResult
  refine ensures_then fun _ => ?_
  split
  · exact ensures_refuse
  · refine ensures_then fun _ => ?_
    split
    · exact ensures_then fun _ => ensures_pure (.inl rfl)
    · refine ensures_then fun _ => ensures_then fun _ => ensures_bind fun _ hfinalized _ _ => ?_
      exact .inr (current_terminal _ hfinalized)

/-- A call about a request that changes the tables comes over a current connection. -/
theorem request_current [Runtime] {call : RequestCall} :
    Ensures (s.requestTables env call) fun tables =>
      tables = s.toRequestTables ∨ Current env s.connections call.connectionId false := by
  cases call with
  | register | accept | usage | cancel => exact (current_of_first fun _ => rfl).map fun _ => .inr
  | cancelResult id result => exact current_cancelResult.map fun _ => .inr
  | streamOpen id stream =>
    refine Ensures.map (ensures_bind fun _ hevent _ _ => ?_) fun _ => .inr
    exact current_streamEvent _ hevent
  | streamChunk id chunk =>
    refine Ensures.map (ensures_bind fun _ hopen _ _ => ?_) fun _ => .inr
    exact current_openStream _ hopen
  | streamClose id close =>
    refine Ensures.map (ensures_bind fun _ hopen _ _ => ?_) fun _ => .inr
    exact current_openStream _ hopen
  | artifact id artifact => exact (current_of_second fun _ => rfl).map fun _ => .inr
  | terminal id requestId state resultHash reportId => exact current_terminal.map fun _ => .inr
  | result connectionId result => exact current_result.map fun _ => id

/-- The tables of a call about a runtime come with a current connection, where it names one. -/
theorem lifecycle_current [Runtime] [Conversions] (hid : call.connectionId = some connectionId) :
    Ensures (s.lifecycleTables env call) fun _ =>
      Current env s.connections connectionId call.rebinds := by
  cases call <;> cases hid
  case message => exact (current_of_first fun _ => rfl).map fun _ => id
  case ready => exact (current_of_second fun _ => rfl).map fun _ => id
  case health => exact (current_of_second fun _ => rfl).map fun _ => id
  case capacity => exact (current_of_second fun _ => rfl).map fun _ => id
  case checkpoint => exact (current_of_second fun _ => rfl).map fun _ => id
  case drain => exact (current_of_first fun _ => rfl).map fun _ => id
  case drainStatus => exact (current_of_second fun _ => rfl).map fun _ => id
  case drainComplete => exact (current_of_second fun _ => rfl).map fun _ => id
  case shutdown => exact (current_of_first fun _ => rfl).map fun _ => id
  case recoveryState state rebind =>
    refine recordRuntimeRecoveryState_connection.map ?_
    rintro _ ⟨connection, hconnection, -⟩
    exact current_of_validate hconnection fun hrebind => hrebind
  case recoveryPlan state rebind planId =>
    refine Ensures.map (ensures_bind fun _ hrecorded _ _ => ?_) fun _ => id
    obtain ⟨connection, hconnection, -⟩ := recordRuntimeRecoveryState_connection _ hrecorded
    exact current_of_validate hconnection fun hrebind => hrebind
  case recoveryResult => exact (current_of_first fun _ => rfl).map fun _ => id

/-! ## What a call does to the connections -/

/-- The checks of `complete_handshake` on the handshake that is pending. -/
def handshakeChecked (env : ServiceEnvironment) (complete : RuntimeHelloComplete)
    (hello : RuntimeHello) (response : HypervisorRuntimeHello) : Bool :=
  env.authentic && complete.runtimeId == hello.runtimeId &&
    complete.runtimeGeneration == response.acceptedRuntimeGeneration &&
    complete.routeGeneration == response.routeGeneration &&
    complete.hypervisorChallengeResponse == challengeResponse response.hypervisorChallenge &&
    (env.route complete.runtimeId).any fun route =>
      route.routeState == .active && route.routeGeneration == complete.routeGeneration &&
        (env.binding complete.runtimeId).any fun binding =>
          (validateHelloBinding hello binding route).isOk

/-- The checks of `record_runtime_ready` on a state that is not the stored one. -/
def readyChecked (env : ServiceEnvironment) (s : RuntimeProtocolStore) (connectionId : String)
    (ready : RuntimeReady) : Bool :=
  env.authentic && connected env s connectionId (ready.claim true) &&
    ((env.binding ready.runtimeId).any fun binding =>
      ready.capabilityDefinitionHash == binding.capabilityDefinitionHash &&
        (ready.usageProfileHash.isNone ||
          ready.usageProfileHash == binding.usageReportingProfileHash)) &&
    ready.operationalState == "READY" && ready.readinessDimensions.all id &&
    s.readyStates.get? ready.runtimeId != some ready

def recoveryResultClaim (result : RuntimeRecoveryResult) : ConnectionClaim where
  runtimeId := result.runtimeId
  runtimeGeneration := result.runtimeGeneration
  routeGeneration := some result.routeGeneration
  allowRecovering := true

/-- The checks of `record_recovery_result`. -/
def recoveryResultChecked (env : ServiceEnvironment) (s : RuntimeProtocolStore)
    (connectionId : String) (result : RuntimeRecoveryResult) : Bool :=
  connected env s connectionId (recoveryResultClaim result) &&
    ((s.recoveryPlans.get? result.planId).any fun plan =>
      plan.runtimeId == result.runtimeId && plan.runtimeGeneration == result.runtimeGeneration &&
        plan.routeGeneration == result.routeGeneration) &&
    (s.recoveryResults.get? result.planId).all (·.resultHash == result.resultHash)

/-- The connections after a call that does not leave them. -/
inductive Rewired (env : ServiceEnvironment) (s : RuntimeProtocolStore) :
    LifecycleCall → Dict String RuntimeConnection → Prop where
  | established {complete : RuntimeHelloComplete} {id : String} {hello : RuntimeHello}
      {response : HypervisorRuntimeHello} {connection : RuntimeConnection}
      (hpending : s.pendingHandshakes.get? complete.handshakeId = some (hello, response))
      (hchecked : handshakeChecked env complete hello response = true)
      (hruntime : connection.runtimeId = complete.runtimeId)
      (hgeneration : connection.runtimeGeneration = complete.runtimeGeneration)
      (hstate : connection.connectionState = if response.reconcile then .recovering else .ready) :
      Rewired env s (.completeHandshake complete id)
        ((s.connections.mapValues (closed complete.runtimeId)).set id connection)
  | ready {id : String} {ready : RuntimeReady} {connection : RuntimeConnection}
      (hconnection : validateConnection env s.connections id (ready.claim true) = .ok connection)
      (hchecked : readyChecked env s id ready = true) :
      Rewired env s (.ready id ready) (s.connectionMoved id connection .ready)
  | drained {id : String} {drain : RuntimeDrainRequest} {connection : RuntimeConnection}
      (hconnection : validateConnection env s.connections id (drain.claim true) = .ok connection)
      (hnew : s.drainRequests.get? drain.drainId = none) :
      Rewired env s (.drain id drain) (s.connectionMoved id connection .draining)
  | stopped {id : String} {shutdown : RuntimeShutdown} {connection : RuntimeConnection}
      (hconnection :
        validateConnection env s.connections id (shutdown.claim true) = .ok connection) :
      Rewired env s (.shutdown id shutdown) (s.connectionMoved id connection .closed)
  | rebound {id planId : String} {state : RuntimeRecoveryState} {rebind : Bool}
      {connection : RuntimeConnection} {routeGeneration : ℕ}
      (hconnection :
        validateConnection env s.connections id (recoveryClaim state rebind) = .ok connection) :
      Rewired env s (.recoveryPlan id state rebind planId) (s.connections.set id {
        connection with routeGeneration := routeGeneration, connectionState := .recovering })
  | recovered {id : String} {result : RuntimeRecoveryResult} {connection : RuntimeConnection}
      (hconnection : validateConnection env s.connections id (recoveryResultClaim result) =
        .ok connection)
      (hchecked : recoveryResultChecked env s id result = true) :
      Rewired env s (.recoveryResult id result) (s.connectionMoved id connection
        (if result.remainingConflicts.isEmpty then .ready else .recovering))

section Rewired

theorem rewired_completeHandshake {complete : RuntimeHelloComplete} {id : String} :
    Ensures (s.completeHandshake env complete id) fun r =>
      Rewired env s (.completeHandshake complete id) r.2.connections ∧
        (s.pendingHandshakes.get? complete.handshakeId).isSome = true ∧
        r.2.pendingHandshakes = s.pendingHandshakes.erase complete.handshakeId := by
  unfold completeHandshake
  split
  · exact ensures_refuse
  · next hello response hpending =>
    refine ensures_demand fun hauthentic => ensures_demand fun hruntime =>
      ensures_demand fun hgeneration => ensures_demand fun hroute =>
      ensures_demand fun hchallenge => ensures_bind fun route hactive =>
      ensures_bind fun binding hbinding => ensures_bind fun _ hhello =>
      ensures_demand fun hsame => ensures_pure ⟨.established hpending ?_ rfl rfl rfl, ?_, rfl⟩
    · obtain ⟨hfound, hactive⟩ := of_routeOf hactive
      simp only [decide_eq_true_eq] at hruntime hgeneration hroute hchallenge hsame
      simp [handshakeChecked, hauthentic, ← hruntime, hgeneration, ← hroute, hchallenge, hfound,
        hactive, hsame, of_bindingOf hbinding, hhello, Except.isOk, Except.toBool]
    · rw [hpending]
      rfl

/-- The handshakes that are pending and the connections are left. -/
def Undisturbed (s : RuntimeProtocolStore) (tables : LifecycleTables) : Prop :=
  tables.pendingHandshakes = s.pendingHandshakes ∧ tables.connections = s.connections

theorem undisturbed_message [Runtime] {message : RuntimeMessage} :
    Ensures (s.recordRuntimeMessage env message) (Undisturbed s ·.2) := by
  unfold recordRuntimeMessage
  refine ensures_then fun _ => ensures_then fun _ => ensures_then fun _ => ?_
  split
  · exact ensures_then fun _ => ensures_pure ⟨rfl, rfl⟩
  · exact ensures_then fun _ => ensures_pure ⟨rfl, rfl⟩

/-- After a record that is known a stale one is refused, the same one is left, and the newest is
stored. -/
theorem undisturbed_newest {α : Type} {existing : α} {stored : α × LifecycleTables}
    {fresh agrees : Bool} {same : Prop} {_ : Decidable same}
    {code stage stale code' stage' conflict : String} (hstored : Undisturbed s stored.2) :
    Ensures (do
      demand fresh code stage stale
      if same then
        demand agrees code' stage' conflict
        return (existing, s.toLifecycleTables)
      else return stored) (Undisturbed s ·.2) := by
  refine ensures_then fun _ => ?_
  split_ifs
  · exact ensures_then fun _ => ensures_pure ⟨rfl, rfl⟩
  · exact ensures_pure hstored

theorem undisturbed_health {health : RuntimeHealth} :
    Ensures (s.recordRuntimeHealth env connectionId health) (Undisturbed s ·.2) := by
  refine ensures_then fun _ => ensures_then fun _ => ?_
  dsimp only
  split
  · exact ensures_pure ⟨rfl, rfl⟩
  · exact undisturbed_newest ⟨rfl, rfl⟩

theorem undisturbed_capacity {capacity : RuntimeCapacity} :
    Ensures (s.recordRuntimeCapacity env connectionId capacity) (Undisturbed s ·.2) := by
  refine ensures_then fun _ => ensures_then fun _ => ?_
  dsimp only
  split
  · exact ensures_pure ⟨rfl, rfl⟩
  · exact undisturbed_newest ⟨rfl, rfl⟩

theorem undisturbed_checkpoint {checkpoint : RuntimeStateCheckpoint} :
    Ensures (s.recordRuntimeStateCheckpoint env connectionId checkpoint) (Undisturbed s ·.2) := by
  unfold recordRuntimeStateCheckpoint
  refine ensures_then fun _ => ensures_then fun _ => ensures_then fun _ => ?_
  split
  · exact ensures_then fun _ => ensures_pure ⟨rfl, rfl⟩
  · exact ensures_then fun _ => ensures_pure ⟨rfl, rfl⟩

theorem undisturbed_drainStatus {status : RuntimeDrainStatus} :
    Ensures (s.recordRuntimeDrainStatus env connectionId status) (Undisturbed s ·.2) := by
  refine ensures_then fun _ => ensures_then fun _ => ensures_then fun _ => ?_
  dsimp only
  split
  · exact ensures_pure ⟨rfl, rfl⟩
  · exact undisturbed_newest ⟨rfl, rfl⟩

theorem undisturbed_drainComplete {complete : RuntimeDrainComplete} :
    Ensures (s.recordRuntimeDrainComplete env connectionId complete) (Undisturbed s ·.2) := by
  unfold recordRuntimeDrainComplete
  refine ensures_then fun _ => ensures_then fun _ => ensures_then fun _ => ?_
  split
  · exact ensures_then fun _ => ensures_pure ⟨rfl, rfl⟩
  · exact ensures_pure ⟨rfl, rfl⟩

/-- What a call about a runtime does to the connections and to the pending handshakes. -/
structure Handled (env : ServiceEnvironment) (s : RuntimeProtocolStore) (call : LifecycleCall)
    (tables : LifecycleTables) : Prop where
  connections : tables.connections = s.connections ∨ Rewired env s call tables.connections
  pending : match call with
    | .beginHandshake hello id _ =>
      ∃ response, tables.pendingHandshakes = s.pendingHandshakes.set id (hello, response)
    | .completeHandshake complete _ =>
      (s.pendingHandshakes.get? complete.handshakeId).isSome = true ∧
        tables.pendingHandshakes = s.pendingHandshakes.erase complete.handshakeId
    | _ => tables.pendingHandshakes = s.pendingHandshakes

theorem handled_ready {ready : RuntimeReady} :
    Ensures (s.recordRuntimeReady env connectionId ready)
      (Handled env s (.ready connectionId ready) ·.2) := by
  unfold recordRuntimeReady
  refine ensures_demand fun hauthentic => ensures_bind fun connection hconnection =>
    ensures_bind fun binding hbinding => ensures_demand fun hdefinition =>
    ensures_demand fun hprofile => ensures_demand fun hready => ?_
  split_ifs with hstored hstate
  · exact ensures_pure ⟨.inl rfl, rfl⟩
  · exact ensures_pure ⟨.inl rfl, rfl⟩
  · refine ensures_pure ⟨.inr (.ready hconnection ?_), rfl⟩
    simp only [Bool.and_eq_true, decide_eq_true_eq] at hready hdefinition
    simp [readyChecked, hauthentic, connected_of_ok hconnection, of_bindingOf hbinding,
      hdefinition, hprofile, hready.1, hready.2, hstored]

theorem handled_drain {drain : RuntimeDrainRequest} :
    Ensures (s.requestRuntimeDrain env connectionId drain)
      (Handled env s (.drain connectionId drain) ·.2) := by
  unfold requestRuntimeDrain
  refine ensures_bind fun connection hconnection => ?_
  split
  · exact ensures_then fun _ => ensures_pure ⟨.inl rfl, rfl⟩
  · next hnew => exact ensures_then fun _ => ensures_pure ⟨.inr (.drained hconnection hnew), rfl⟩

theorem handled_shutdown {shutdown : RuntimeShutdown} :
    Ensures (s.requestRuntimeShutdown env connectionId shutdown)
      (Handled env s (.shutdown connectionId shutdown) ·.2) := by
  unfold requestRuntimeShutdown
  refine ensures_bind fun connection hconnection => ?_
  split
  · exact ensures_then fun _ => ensures_pure ⟨.inl rfl, rfl⟩
  · refine ensures_then fun _ => ?_
    split_ifs
    · exact ensures_pure ⟨.inl rfl, rfl⟩
    · exact ensures_pure ⟨.inr (.stopped hconnection), rfl⟩

theorem handled_recoveryPlan [Conversions] {state : RuntimeRecoveryState} {rebind : Bool}
    {planId : String} : Ensures (s.buildRecoveryPlan env connectionId state rebind planId)
      (Handled env s (.recoveryPlan connectionId state rebind planId) ·.2) := by
  unfold buildRecoveryPlan
  refine ensures_bind fun recorded hrecorded => ?_
  obtain ⟨connection, hconnection, hpending, hsame⟩ :=
    recordRuntimeRecoveryState_connection _ hrecorded
  simp only [hsame, (of_validateConnection hconnection).1]
  exact ensures_then fun _ => ensures_pure ⟨.inr (.rebound hconnection), hpending⟩

theorem handled_recoveryResult {result : RuntimeRecoveryResult} :
    Ensures (s.recordRecoveryResult env connectionId result)
      (Handled env s (.recoveryResult connectionId result) ·.2) := by
  unfold recordRecoveryResult
  refine ensures_bind fun connection hconnection => ?_
  split
  · exact ensures_refuse
  · next plan hplan =>
    refine ensures_demand fun hnames => ensures_demand fun hresult =>
      ensures_pure ⟨.inr (.recovered hconnection ?_), rfl⟩
    have hconnected : connected env s connectionId (recoveryResultClaim result) = true :=
      connected_of_ok hconnection
    simp only [Bool.and_eq_true, decide_eq_true_eq] at hnames
    simp [recoveryResultChecked, hconnected, hplan, hnames.1.1, hnames.1.2, hnames.2, hresult]

theorem handled [Runtime] [Conversions] :
    Ensures (s.lifecycleTables env call) (Handled env s call) := by
  cases call with
  | beginHandshake hello handshakeId challenge =>
    refine Ensures.map (Q := (Handled env s (.beginHandshake hello handshakeId challenge) ·.2)) ?_
      fun _ => id
    unfold beginHandshake
    exact ensures_then fun _ => ensures_then fun _ => ensures_then fun _ => ensures_then fun _ =>
      ensures_then fun _ => ensures_pure ⟨.inl rfl, _, rfl⟩
  | completeHandshake complete id =>
    exact rewired_completeHandshake.map fun _ h => ⟨.inr h.1, h.2⟩
  | message message => exact undisturbed_message.map fun _ h => ⟨.inl h.2, h.1⟩
  | ready id ready => exact handled_ready.map fun _ h => h
  | health id health => exact undisturbed_health.map fun _ h => ⟨.inl h.2, h.1⟩
  | capacity id capacity => exact undisturbed_capacity.map fun _ h => ⟨.inl h.2, h.1⟩
  | checkpoint id checkpoint => exact undisturbed_checkpoint.map fun _ h => ⟨.inl h.2, h.1⟩
  | drain id drain => exact handled_drain.map fun _ h => h
  | drainStatus id status => exact undisturbed_drainStatus.map fun _ h => ⟨.inl h.2, h.1⟩
  | drainComplete id complete => exact undisturbed_drainComplete.map fun _ h => ⟨.inl h.2, h.1⟩
  | shutdown id shutdown => exact handled_shutdown.map fun _ h => h
  | recoveryState id state rebind =>
    refine recordRuntimeRecoveryState_connection.map ?_
    rintro _ ⟨connection, -, hpending, hsame⟩
    exact ⟨.inl hsame, hpending⟩
  | recoveryPlan id state rebind planId => exact handled_recoveryPlan.map fun _ h => h
  | recoveryResult id result => exact handled_recoveryResult.map fun _ h => h

end Rewired

/-! ## One live connection of a runtime -/

/-- At most one connection of a runtime is live. -/
def OneLive (connections : Dict String RuntimeConnection) : Prop :=
  ∀ ⦃i j c d⦄, connections.get? i = some c → connections.get? j = some d →
    c.runtimeId = d.runtimeId → c.Live → d.Live → i = j

/-- What is live after the connections of a runtime are closed, is of another runtime. -/
theorem of_live_closed (h : (closed runtimeId connection).Live) :
    closed runtimeId connection = connection ∧ connection.runtimeId ≠ runtimeId := by
  unfold closed at h ⊢
  by_cases hcloses : connection.runtimeId = runtimeId ∧ connection.connectionState ≠ .closed ∧
      connection.connectionState ≠ .rejected
  · rw [if_pos hcloses] at h
    exact absurd rfl h.1
  · rw [if_neg hcloses] at h ⊢
    refine ⟨rfl, ?_⟩
    intro hruntime
    exact hcloses ⟨hruntime, h⟩

theorem closed_of_dead (h : ¬ connection.Live) : closed runtimeId connection = connection :=
  if_neg fun hcloses => h hcloses.2

variable {connections : Dict String RuntimeConnection}

theorem OneLive.established (h : OneLive connections) (id : String)
    (connection : RuntimeConnection) : OneLive
      ((connections.mapValues (closed connection.runtimeId)).set id connection) := by
  intro i j c d hi hj hsame hc hd
  rw [Dict.get?_set, Dict.get?_mapValues] at hi hj
  have hother : ∀ {k e}, (connections.get? k).map (closed connection.runtimeId) = some e →
      e.Live → connections.get? k = some e ∧ e.runtimeId ≠ connection.runtimeId := by
    intro k e hk he
    rw [Option.map_eq_some_iff] at hk
    obtain ⟨old, hold, rfl⟩ := hk
    obtain ⟨hkept, hruntime⟩ := of_live_closed he
    rw [hkept]
    exact ⟨hold, hruntime⟩
  by_cases hii : i = id
  · by_cases hji : j = id
    · rw [hii, hji]
    · rw [if_pos hii] at hi
      rw [if_neg hji] at hj
      cases hi
      exact absurd hsame.symm (hother hj hd).2
  · by_cases hji : j = id
    · rw [if_neg hii] at hi
      rw [if_pos hji] at hj
      cases hj
      exact absurd hsame (hother hi hc).2
    · rw [if_neg hii] at hi
      rw [if_neg hji] at hj
      apply h (hother hi hc).1 (hother hj hd).1 hsame hc hd

theorem OneLive.moved (h : OneLive connections) {id : String} {updated : RuntimeConnection}
    (hget : connections.get? id = some connection) (hlive : connection.Live)
    (hruntime : updated.runtimeId = connection.runtimeId) :
    OneLive (connections.set id updated) := by
  have hold : ∀ {k e}, (connections.set id updated).get? k = some e → e.Live →
      ∃ old, connections.get? k = some old ∧ old.runtimeId = e.runtimeId ∧ old.Live := by
    intro k e hk he
    rw [Dict.get?_set] at hk
    split_ifs at hk with hid
    · cases hk
      exact ⟨connection, hid ▸ hget, hruntime.symm, hlive⟩
    · exact ⟨e, hk, rfl, he⟩
  intro i j c d hi hj hsame hc hd
  obtain ⟨c', hi', hcr, hc'⟩ := hold hi hc
  obtain ⟨d', hj', hdr, hd'⟩ := hold hj hd
  apply h hi' hj' _ hc' hd'
  rw [hcr, hdr, hsame]

/-- The connection that a call moves is live, and it stays one of its runtime. -/
theorem live_of_validate
    (h : validateConnection env connections connectionId claim = .ok connection) :
    connections.get? connectionId = some connection ∧ connection.Live :=
  ⟨(of_validateConnection h).1, live_of_permits (permits_of_validate h)⟩

/-- A new connection after a handshake, or a live one that is moved. -/
theorem Rewired.moves (h : Rewired env s call connections) :
    (∃ complete id connection, call = .completeHandshake complete id ∧
      connection.runtimeId = complete.runtimeId ∧
      connections = (s.connections.mapValues (closed complete.runtimeId)).set id connection) ∨
    ∃ id connection updated, connections = s.connections.set id updated ∧
      s.connections.get? id = some connection ∧ connection.Live ∧
      updated.runtimeId = connection.runtimeId := by
  cases h with
  | established hpending hchecked hruntime hgeneration hstate =>
    exact .inl ⟨_, _, _, rfl, hruntime, rfl⟩
  | ready hconnection hchecked | drained hconnection hnew | stopped hconnection
  | rebound hconnection | recovered hconnection hchecked =>
    have hvalid := live_of_validate hconnection
    exact .inr ⟨_, _, _, rfl, hvalid.1, hvalid.2, rfl⟩

theorem Rewired.oneLive (h : Rewired env s call connections) (hlive : OneLive s.connections) :
    OneLive connections := by
  rcases h.moves with ⟨complete, id, connection, -, hruntime, rfl⟩ |
    ⟨id, connection, updated, rfl, hget, hmoved, hruntime⟩
  · rw [← hruntime]
    apply hlive.established
  · apply hlive.moved hget hmoved hruntime

/-- A connection that is not live stays as it is. -/
theorem Rewired.dead (h : Rewired env s call connections)
    (hfresh : ∀ {complete id}, call = .completeHandshake complete id →
      s.connections.get? id = none) {id : String} (hget : s.connections.get? id = some connection)
    (hdead : ¬ connection.Live) :
    connections.get? id = some connection := by
  rcases h.moves with ⟨complete, new, found, hcall, -, rfl⟩ |
    ⟨moved, found, updated, rfl, hfound, hlive, -⟩
  · have hnew := hfresh hcall
    rw [Dict.get?_set_of_ne, Dict.get?_mapValues, hget, Option.map_some, closed_of_dead hdead]
    rintro rfl
    rw [hget] at hnew
    cases hnew
  · rw [Dict.get?_set_of_ne]
    · exact hget
    · rintro rfl
      rw [hget] at hfound
      cases hfound
      exact hdead hlive

/-- A completed handshake closes the connections of its runtime. -/
theorem Rewired.superseded {complete : RuntimeHelloComplete} {new : String}
    (h : Rewired env s (.completeHandshake complete new) connections)
    (hfresh : s.connections.get? new = none) {id : String}
    (hget : s.connections.get? id = some connection)
    (hruntime : connection.runtimeId = complete.runtimeId) :
    ∃ after, connections.get? id = some after ∧ ¬ after.Live := by
  cases h with
  | established hpending hchecked hnew hgeneration hstate =>
    refine ⟨closed complete.runtimeId connection, ?_, ?_⟩
    · rw [Dict.get?_set_of_ne, Dict.get?_mapValues, hget, Option.map_some]
      rintro rfl
      rw [hget] at hfresh
      cases hfresh
    · intro hlive
      obtain ⟨-, hother⟩ := of_live_closed hlive
      exact hother hruntime

end RuntimeProtocolStore

end AidnSpec.RuntimeProtocol
