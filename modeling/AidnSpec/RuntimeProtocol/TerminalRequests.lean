import AidnSpec.RuntimeProtocol.RequestOwnership
import AidnSpec.RuntimeProtocol.UsageChain

/-!
# Terminal requests

Acceptances, usage reports and terminal states are taken for a request that has ended already, and
recovery plans know only some of the terminal states. A run in which none of them reopens a request
keeps every terminal state with its result and its final report.
-/

namespace AidnSpec.RuntimeProtocol

open Base List Bool

structure RequestEnding where
  requestState : RuntimeRequestState
  terminalResultHash : Option String
  terminalFinalUsageReportId : Option String
  deriving DecidableEq

def RuntimeRequestRecord.ending (record : RuntimeRequestRecord) : RequestEnding where
  requestState := record.requestState
  terminalResultHash := record.terminalResultHash
  terminalFinalUsageReportId := record.terminalFinalUsageReportId

def RuntimeResult.Agrees (result : RuntimeResult) (record : RuntimeRequestRecord) : Prop :=
  record.requestState.toText = result.terminalState ∧
    record.terminalResultHash = some result.resultHash

namespace RuntimeProtocolStore

/-! ## Recovery plans -/

/-- The state that `record_runtime_recovery_state` answers with: the stored one, if it has the
hash of the new one. -/
def recoveryStateUsed (s : RuntimeProtocolStore) (state : RuntimeRecoveryState) :
    RuntimeRecoveryState :=
  match s.recoveryStates.get? state.runtimeId with
  | some existing =>
    if existing.recoveryStateHash = state.recoveryStateHash then existing else state
  | none => state

def recoveryClaim (state : RuntimeRecoveryState) (allowRouteRebind : Bool) : ConnectionClaim where
  runtimeId := state.runtimeId
  runtimeGeneration := state.runtimeGeneration
  runtimeConfigurationHash := some state.runtimeConfigurationHash
  allowRecovering := true
  skipRouteCheck := allowRouteRebind

/-- The checks of `build_recovery_plan`. -/
def recoveryChecked (env : ServiceEnvironment) (s : RuntimeProtocolStore) (connectionId : String)
    (state : RuntimeRecoveryState) (allowRouteRebind : Bool) : Bool :=
  env.authentic && connected env s connectionId (recoveryClaim state allowRouteRebind) &&
    (allowRouteRebind || (s.connections.get? connectionId).any
      (state.routeGeneration == ·.routeGeneration)) &&
    (env.route (s.recoveryStateUsed state).runtimeId).isSome

variable {env : ServiceEnvironment} {s : RuntimeProtocolStore} {connectionId : String}
  {tables : RequestTables}

variable {state : RuntimeRecoveryState} {rebind : Bool} {lifecycle : LifecycleTables}
  {planId requestId : String} {plan : RuntimeRecoveryPlan} {record : RuntimeRequestRecord}
  {old : RequestTables} {call : RequestCall}

theorem of_recordRuntimeRecoveryState {used : RuntimeRecoveryState}
    (h : s.recordRuntimeRecoveryState env connectionId state rebind = .ok (used, lifecycle)) :
    used = s.recoveryStateUsed state ∧ env.authentic = true ∧
      connected env s connectionId (recoveryClaim state rebind) = true ∧
      (rebind || (s.connections.get? connectionId).any
        (state.routeGeneration == ·.routeGeneration)) = true := by
  unfold recordRuntimeRecoveryState at h
  obtain ⟨_, hauthentic, h⟩ := bind_eq_ok.mp h
  obtain ⟨connection, hconnection, h⟩ := bind_eq_ok.mp h
  obtain ⟨_, hroute, h⟩ := bind_eq_ok.mp h
  rw [ServiceEnvironment.authenticate, demand_eq_ok] at hauthentic
  rw [demand_eq_ok] at hroute
  refine ⟨?_, hauthentic, connected_of_ok hconnection, ?_⟩
  · unfold recoveryStateUsed
    cases hexisting : s.recoveryStates.get? state.runtimeId with
    | none =>
      simp only [hexisting, pure_eq_ok, Prod.mk.injEq] at h
      exact h.1.symm
    | some existing =>
      rw [hexisting] at h
      dsimp only at h ⊢
      split_ifs at h ⊢
      · exact (congrArg Prod.fst (pure_eq_ok.mp h)).symm
      · exact (congrArg Prod.fst (pure_eq_ok.mp h)).symm
  · rw [(of_validateConnection hconnection).1]
    exact hroute

theorem of_buildRecoveryPlan [Conversions]
    (h : s.buildRecoveryPlan env connectionId state rebind planId = .ok (plan, lifecycle)) :
    recoveryChecked env s connectionId state rebind = true ∧
      plan.requestDirectives = s.recoveryDirectives (s.recoveryStateUsed state) := by
  unfold buildRecoveryPlan at h
  obtain ⟨⟨used, recorded⟩, hrecorded, h⟩ := bind_eq_ok.mp h
  obtain ⟨rfl, hauthentic, hconnected, hrebind⟩ := of_recordRuntimeRecoveryState hrecorded
  dsimp only at h
  cases hconnection : recorded.connections.get? connectionId with
  | none => simp [hconnection] at h
  | some connection =>
    rw [hconnection] at h
    obtain ⟨route, hroute, h⟩ := bind_eq_ok.mp h
    simp only [pure_eq_ok, Prod.mk.injEq] at h
    have hfound : (env.route (s.recoveryStateUsed state).runtimeId).isSome = true := by
      unfold ServiceEnvironment.routeOf at hroute
      cases hr : env.route (s.recoveryStateUsed state).runtimeId with
      | none => simp [hr] at hroute
      | some found => rfl
    refine ⟨?_, ?_⟩
    · simp only [recoveryChecked, hauthentic, hconnected, hrebind, hfound, Bool.and_self]
    · rw [← h.1]

theorem get?_withDirectives (requestIds : List String) (directive : String → RequestDirective)
    (directives : Dict String RequestDirective) (requestId : String) :
    (withDirectives requestIds directive directives).get? requestId =
      if requestId ∈ requestIds then some (directive requestId)
      else directives.get? requestId := by
  unfold withDirectives
  induction requestIds generalizing directives with
  | nil => simp
  | cons first rest ih =>
    rw [foldl_cons, ih, Dict.get?_set]
    by_cases hfirst : requestId = first
    · subst hfirst
      simp
    · simp [hfirst]

theorem mem_localRequests {runtimeId : String} {e : String × RuntimeRequestRecord} :
    e ∈ s.localRequests runtimeId ↔ s.requests.get? e.1 = some e.2 ∧ e.2.runtimeId = runtimeId := by
  unfold localRequests
  rw [mem_filter, Dict.get?_eq_some_iff, beq_iff_eq]

/-- The runtime and the store agree that the request of the record has ended, or the plan asks for
its usage. -/
def settledIn [Conversions] (s : RuntimeProtocolStore) (state : RuntimeRecoveryState)
    (requestId : String) (record : RuntimeRequestRecord) : Bool :=
  s.headDiffers state requestId ||
    if requestId ∈ runtimeRequestIds state then state.terminalRequests.contains requestId
    else doneForRecovery record.requestState

/-- No directive goes on with a request that is settled, or fails it. -/
theorem recoveryDirectives_of_settled [Conversions]
    (hrecord : s.requests.get? requestId = some record)
    (hsettled : record.runtimeId = state.runtimeId → s.settledIn state requestId record = true) :
    (s.recoveryDirectives state).get? requestId ≠ some .continueExistingExecution ∧
      (s.recoveryDirectives state).get? requestId ≠ some .failUnrecoverable := by
  have hlocal : ∀ {e : String × RuntimeRequestRecord}, e ∈ s.localRequests state.runtimeId →
      e.1 = requestId → e.2 = record ∧ record.runtimeId = state.runtimeId := by
    rintro ⟨id, found⟩ he rfl
    rw [mem_localRequests, hrecord] at he
    obtain ⟨hfound, hruntime⟩ := he
    cases hfound
    exact ⟨rfl, hruntime⟩
  unfold recoveryDirectives
  dsimp only
  simp only [get?_withDirectives, Dict.get?_empty, mem_mergeSort]
  split_ifs with hdiffering hforgotten hlisted
  · simp
  · exfalso
    -- a request that the runtime forgot is not settled, unless its usage differs
    simp only [mem_map, mem_filter, and_eq_true, not_eq_true'] at hforgotten
    obtain ⟨e, ⟨he, hunlisted, hdone⟩, hid⟩ := hforgotten
    obtain ⟨hfound, hruntime⟩ := hlocal he hid
    have hsettled := hsettled hruntime
    rw [hid, contains_eq_mem, decide_eq_false_iff_not] at hunlisted
    rw [hfound] at hdone
    simp only [settledIn, if_neg hunlisted, hdone, Bool.or_false] at hsettled
    refine hdiffering (mem_filter.mpr ⟨?_, hsettled⟩)
    exact mem_map.mpr ⟨e, he, hid⟩
  · unfold listedDirective
    by_cases hruntime : record.runtimeId = state.runtimeId
    · have hmem : (requestId, record) ∈ s.localRequests state.runtimeId :=
        mem_localRequests.mpr ⟨hrecord, hruntime⟩
      have hnotAll : (s.localRequests state.runtimeId).all (·.1 != requestId) = false := by
        rw [all_eq_false]
        exact ⟨_, hmem, by simp⟩
      have hagrees : s.headDiffers state requestId = false := by
        rw [← not_eq_true]
        intro hdiffers
        exact hdiffering (mem_filter.mpr ⟨mem_map.mpr ⟨_, hmem, rfl⟩, hdiffers⟩)
      have hsettled := hsettled hruntime
      simp only [settledIn, hagrees, if_pos hlisted, Bool.false_or] at hsettled
      simp only [hnotAll, hsettled, if_true]
      decide
    · have hall : (s.localRequests state.runtimeId).all (·.1 != requestId) = true := by
        rw [all_eq_true]
        intro e he
        rw [bne_iff_ne]
        exact fun hid => hruntime (hlocal he hid).2
      simp only [hall, if_true]
      decide
  · simp

/-! ## What keeps an ending -/

def endedWith (terminalState resultHash reportId : String) (record : RuntimeRequestRecord) :
    Bool :=
  record.requestState.toText == terminalState && record.terminalResultHash == some resultHash &&
    record.terminalFinalUsageReportId == some reportId

/-- The call is taken for a request that has ended, and would end it otherwise. -/
def reopens [Conversions] (s : RuntimeProtocolStore) : ServiceCall → Bool
  | .request env (.accept connectionId acceptance) =>
    (s.requests.get? acceptance.requestId).any fun record =>
      acceptChecked env s connectionId acceptance record && record.requestState.terminal &&
        acceptedState acceptance.admissionState != record.requestState
  | .request env (.usage connectionId report) =>
    (s.requests.get? report.requestId).any fun record =>
      usageChecked env s connectionId report record && s.nextReport report &&
        record.terminalFinalUsageReportId.isSome
  | .request env (.terminal connectionId requestId terminalState resultHash reportId) =>
    (s.requests.get? requestId).any fun record =>
      terminalChecked env s connectionId requestId terminalState reportId record &&
        record.requestState.terminal && !endedWith terminalState resultHash reportId record
  | .request env (.result connectionId result) =>
    (s.requests.get? result.requestId).any fun record =>
      resultChecked env s connectionId result record && record.requestState.terminal &&
        !endedWith result.terminalState result.resultHash result.finalUsageReportId record
  | .lifecycle env (.recoveryPlan connectionId state rebind _) =>
    recoveryChecked env s connectionId state rebind &&
      (s.localRequests (s.recoveryStateUsed state).runtimeId).any fun e =>
        e.2.requestState.terminal && !s.settledIn (s.recoveryStateUsed state) e.1 e.2
  | _ => false

/-- The call reopens no request. -/
def KeepsClosed [Conversions] (s : RuntimeProtocolStore) (call : ServiceCall) : Prop :=
  s.reopens call = false

instance decidableKeepsClosed [Conversions] (s : RuntimeProtocolStore) (call : ServiceCall) :
    Decidable (s.KeepsClosed call) := inferInstanceAs (Decidable (_ = false))

/-- A call keeps the ending of every request that has ended, and its usage reports once it has its
final one; results agree with their records, and plans neither continue nor fail the request. -/
structure KeepsEndings [Runtime] [Conversions] (s : RuntimeProtocolStore) (call : ServiceCall) :
    Prop where
  endings : ∀ {requestId record}, s.requests.get? requestId = some record →
    record.requestState.terminal = true →
    ((step s call).requests.get? requestId).map (·.ending) = some record.ending
  reports : ∀ {requestId record}, s.requests.get? requestId = some record →
    record.terminalFinalUsageReportId.isSome = true →
    requestReports (step s call).toRequestTables requestId =
      requestReports s.toRequestTables requestId
  results : ∀ {requestId result}, (step s call).results.get? requestId = some result →
    ∃ record, (step s call).requests.get? requestId = some record ∧ result.Agrees record
  plans : ∀ {env connectionId state rebind planId plan tables},
    call = .lifecycle env (.recoveryPlan connectionId state rebind planId) →
    s.buildRecoveryPlan env connectionId state rebind planId = .ok (plan, tables) →
    ∀ requestId record, s.requests.get? requestId = some record →
      record.requestState.terminal = true →
      plan.requestDirectives.get? requestId ≠ some .continueExistingExecution ∧
        plan.requestDirectives.get? requestId ≠ some .failUnrecoverable

/-- Records stand under their ids; final reports and results are those of ended requests. -/
structure EndedWell (tables : RequestTables) : Prop where
  keyed : ∀ {requestId record}, tables.requests.get? requestId = some record →
    record.requestId = requestId
  final : ∀ {requestId record}, tables.requests.get? requestId = some record →
    record.terminalFinalUsageReportId.isSome = true → record.requestState.terminal = true
  results : ∀ {requestId result}, tables.results.get? requestId = some result →
    ∃ record, tables.requests.get? requestId = some record ∧
      record.requestState.terminal = true ∧ result.Agrees record

/-- A new version of a record that keeps its ending. -/
structure Keeps (record updated : RuntimeRequestRecord) : Prop where
  requestId : updated.requestId = record.requestId
  final : updated.terminalFinalUsageReportId.isSome = true → updated.requestState.terminal = true
  ending : record.requestState.terminal = true → updated.ending = record.ending

theorem agrees_of_ending {result : RuntimeResult} {updated : RuntimeRequestRecord}
    (h : updated.ending = record.ending) (hagrees : result.Agrees record) :
    updated.requestState = record.requestState ∧ result.Agrees updated := by
  have hstate : updated.requestState = record.requestState := congrArg (·.requestState) h
  have hhash : updated.terminalResultHash = record.terminalResultHash :=
    congrArg (·.terminalResultHash) h
  refine ⟨hstate, ?_, ?_⟩
  · rw [hstate]
    exact hagrees.1
  · rw [hhash]
    exact hagrees.2

/-- The record of a request in a version that keeps its ending, and its result. -/
theorem EndedWell.updated (h : EndedWell old) {updated : RuntimeRequestRecord}
    (hrecord : old.requests.get? requestId = some record) (hkeeps : Keeps record updated)
    (hrequests : tables.requests = old.requests.set requestId updated)
    (hresults : ∀ {id result}, tables.results.get? id = some result → old.results.get? id =
      some result ∨ id = requestId ∧ updated.requestState.terminal = true ∧ result.Agrees updated) :
    EndedWell tables := by
  constructor
  · intro id found hfound
    rw [hrequests, Dict.get?_set] at hfound
    split_ifs at hfound with hid
    · cases hfound
      rw [hkeeps.requestId, h.keyed hrecord, hid]
    · exact h.keyed hfound
  · intro id found hfound
    rw [hrequests, Dict.get?_set] at hfound
    split_ifs at hfound
    · cases hfound
      exact hkeeps.final
    · exact h.final hfound
  · intro id result hresult
    rw [hrequests, Dict.get?_set]
    rcases hresults hresult with hold | ⟨rfl, hterminal, hagrees⟩
    · obtain ⟨found, hfound, hterminal, hagrees⟩ := h.results hold
      by_cases hid : id = requestId
      · subst hid
        rw [hrecord] at hfound
        cases hfound
        obtain ⟨hstate, hagrees⟩ := agrees_of_ending (hkeeps.ending hterminal) hagrees
        refine ⟨updated, if_pos rfl, ?_, hagrees⟩
        rw [hstate]
        exact hterminal
      · rw [if_neg hid]
        exact ⟨found, hfound, hterminal, hagrees⟩
    · exact ⟨updated, if_pos rfl, hterminal, hagrees⟩

theorem EndedWell.of_same (h : EndedWell old) (hrequests : tables.requests = old.requests)
    (hresults : tables.results = old.results) :
    EndedWell tables where
  keyed hrecord := h.keyed (hrequests ▸ hrecord)
  final hrecord := h.final (hrequests ▸ hrecord)
  results hresult := by
    rw [hrequests]
    exact h.results (hresults ▸ hresult)

/-- A request that is new. -/
theorem EndedWell.submitted {old : RequestTables} (h : EndedWell old)
    {request : RuntimeExecuteRequest} (hnew : old.requests.get? request.requestId = none)
    (hrequests : tables.requests = old.requests.set request.requestId (submittedRecord env request))
    (hresults : tables.results = old.results) : EndedWell tables := by
  constructor
  · intro id found hfound
    rw [hrequests, Dict.get?_set] at hfound
    split_ifs at hfound with hid
    · cases hfound
      exact hid.symm
    · exact h.keyed hfound
  · intro id found hfound hreport
    rw [hrequests, Dict.get?_set] at hfound
    split_ifs at hfound
    · cases hfound
      cases hreport
    · exact h.final hfound hreport
  · intro id result hresult
    obtain ⟨found, hfound, hended⟩ := h.results (hresults ▸ hresult)
    have hid : id ≠ request.requestId := by
      rintro rfl
      rw [hnew] at hfound
      cases hfound
    rw [hrequests, Dict.get?_set_of_ne _ _ hid]
    exact ⟨found, hfound, hended⟩

/-- What a written call does to the records: a new one, or a version that keeps the ending. -/
inductive Recorded (env : ServiceEnvironment) (s : RuntimeProtocolStore) (tables : RequestTables) :
    Prop where
  | same (hrequests : tables.requests = s.requests) (hresults : tables.results = s.results)
  | submitted (request : RuntimeExecuteRequest)
      (hnew : s.requests.get? request.requestId = none)
      (hrequests : tables.requests =
        s.requests.set request.requestId (submittedRecord env request))
      (hresults : tables.results = s.results)
  | updated (requestId : String) (record updated : RuntimeRequestRecord)
      (hrecord : s.requests.get? requestId = some record) (hkeeps : Keeps record updated)
      (hrequests : tables.requests = s.requests.set requestId updated)
      (hresults : ∀ {id result}, tables.results.get? id = some result →
        s.results.get? id = some result ∨
          id = requestId ∧ updated.requestState.terminal = true ∧ result.Agrees updated)

theorem Recorded.endedWell (h : Recorded env s tables) (hended : EndedWell s.toRequestTables) :
    EndedWell tables := by
  cases h with
  | same hrequests hresults => exact hended.of_same hrequests hresults
  | submitted request hnew hrequests hresults => exact hended.submitted hnew hrequests hresults
  | updated requestId record updated hrecord hkeeps hrequests hresults =>
    exact hended.updated hrecord hkeeps hrequests hresults

theorem Recorded.ending (h : Recorded env s tables)
    (hrecord : s.requests.get? requestId = some record)
    (hterminal : record.requestState.terminal = true) :
    (tables.requests.get? requestId).map (·.ending) = some record.ending := by
  cases h with
  | same hrequests hresults =>
    rw [hrequests, hrecord]
    rfl
  | submitted request hnew hrequests hresults =>
    have hid : requestId ≠ request.requestId := by
      rintro rfl
      rw [hnew] at hrecord
      cases hrecord
    rw [hrequests, Dict.get?_set_of_ne _ _ hid, hrecord]
    rfl
  | updated id found updated hfound hkeeps hrequests hresults =>
    rw [hrequests, Dict.get?_set]
    by_cases hid : requestId = id
    · subst hid
      rw [hrecord] at hfound
      cases hfound
      rw [if_pos rfl, Option.map_some, hkeeps.ending hterminal]
    · rw [if_neg hid, hrecord]
      rfl

theorem keeps_continued (item : RuntimeCancellationRecord)
    (hfinal : record.terminalFinalUsageReportId.isSome = true → record.requestState.terminal =
      true) :
    Keeps record (continued env item record) := by
  unfold continued
  split_ifs with hstate
  · -- a request whose cancellation is pending has not ended
    have hopen : ¬ record.requestState.terminal = true := by
      rw [hstate]
      decide
    exact ⟨rfl, fun h => absurd (hfinal h) hopen, fun h => absurd h hopen⟩
  · exact ⟨rfl, hfinal, fun _ => rfl⟩

theorem keeps_finalized {terminalState resultHash reportId : String} {state : RuntimeRequestState}
    (hstate : RuntimeRequestState.terminalOfText terminalState = some state)
    (hsame : record.requestState.terminal = true →
      endedWith terminalState resultHash reportId record = true) :
    Keeps record (finalizedRecord env state resultHash reportId record) := by
  obtain ⟨hterminal, htext⟩ := RuntimeRequestState.terminal_of_terminalOfText hstate
  refine ⟨rfl, fun _ => hterminal, fun h => ?_⟩
  have hended := hsame h
  simp only [endedWith, and_eq_true, beq_iff_eq] at hended
  obtain ⟨⟨hrecorded, hhash⟩, hreport⟩ := hended
  rw [← htext] at hrecorded
  simp only [RuntimeRequestRecord.ending, finalizedRecord, hhash, hreport,
    RuntimeRequestState.toText_injective hrecorded]

/-- A call that reopens nothing writes records that keep their endings. -/
theorem recorded_of_written [Conversions] (hended : EndedWell s.toRequestTables)
    (hwritten : Written env s call tables) (hclosed : s.reopens (.request env call) = false) :
    Recorded env s tables := by
  cases hwritten with
  | @submitted _ request hconnected hnew => exact .submitted request hnew rfl rfl
  | @accepted _ acceptance record hrecord hchecked =>
    refine .updated acceptance.requestId record _ hrecord ?_ (by rw [hended.keyed hrecord]) .inl
    have hstate : record.requestState.terminal = true →
        acceptedState acceptance.admissionState = record.requestState := by
      intro hterminal
      simpa [reopens, hrecord, hchecked, hterminal] using hclosed
    refine ⟨rfl, fun hfinal => ?_, fun hterminal => ?_⟩
    · have hterminal := hended.final hrecord hfinal
      simp only [acceptedRecord, hstate hterminal, hterminal]
    · simp only [RuntimeRequestRecord.ending, acceptedRecord, hstate hterminal]
  | @cancelled _ cancellation record hrecord hconnected hcancels hterminal =>
    refine .updated cancellation.requestId record _ hrecord ?_ rfl .inl
    have hopen : ¬ record.requestState.terminal = true := by simp [hterminal]
    exact ⟨rfl, fun h => absurd (hended.final hrecord h) hopen, fun h => absurd h hopen⟩
  | @continued _ result item record hconnected hitem hanswers hrecord =>
    exact .updated result.requestId record _ hrecord (keeps_continued item (hended.final hrecord))
      rfl .inl
  | @finalized _ requestId _ _ _ record _ hrecord hchecked hstate =>
    refine .updated requestId record _ hrecord (keeps_finalized hstate fun hterminal => ?_) rfl .inl
    simpa [reopens, hrecord, hchecked, hterminal] using hclosed
  | @concluded _ result record state hrecord hchecked hstate =>
    obtain ⟨hterminal, htext⟩ := RuntimeRequestState.terminal_of_terminalOfText hstate
    refine .updated result.requestId record _ hrecord (keeps_finalized hstate fun hterminal => ?_)
      rfl fun {id found} hfound => ?_
    · simpa [reopens, hrecord, hchecked, hterminal] using hclosed
    · rw [Dict.get?_set] at hfound
      split_ifs at hfound with hid
      · cases hfound
        exact .inr ⟨hid, hterminal, htext, rfl⟩
      · exact .inl hfound
  | acknowledged | reported | answered | opened | emitted | closed | declared =>
    exact .same rfl rfl

/-- A request that has its final report gets no other one from a call that reopens nothing. -/
theorem reports_of_written [Conversions] (hwritten : Written env s call tables)
    (hclosed : s.reopens (.request env call) = false)
    (hrecord : s.requests.get? requestId = some record)
    (hfinal : record.terminalFinalUsageReportId.isSome = true) :
    requestReports tables requestId = requestReports s.toRequestTables requestId := by
  rcases usageReports_of_written hwritten with
    hsame | ⟨_, report, found, rfl, hfound, hchecked, hnext, -, -, hset⟩
  · unfold requestReports
    rw [hsame]
  · have hid : report.requestId ≠ requestId := by
      rintro rfl
      rw [hrecord] at hfound
      cases hfound
      simp [reopens, hrecord, hchecked, hnext, hfinal] at hclosed
    have hfresh : s.usageReports.get? report.usageReportId = none := by
      simp only [nextReport, and_eq_true, Dict.not_contains] at hnext
      exact hnext.1.1.1
    rw [requestReports_set hfresh hset, if_neg hid, append_nil]

/-- A plan that reopens nothing. -/
theorem plans_of_closed [Conversions]
    (hclosed : s.reopens (.lifecycle env (.recoveryPlan connectionId state rebind planId)) = false)
    (h : s.buildRecoveryPlan env connectionId state rebind planId = .ok (plan, lifecycle))
    (hrecord : s.requests.get? requestId = some record)
    (hterminal : record.requestState.terminal = true) :
    plan.requestDirectives.get? requestId ≠ some .continueExistingExecution ∧
      plan.requestDirectives.get? requestId ≠ some .failUnrecoverable := by
  obtain ⟨hchecked, hdirectives⟩ := of_buildRecoveryPlan h
  rw [hdirectives]
  apply recoveryDirectives_of_settled hrecord
  intro hruntime
  have hmem : (requestId, record) ∈ s.localRequests (s.recoveryStateUsed state).runtimeId :=
    mem_localRequests.mpr ⟨hrecord, hruntime⟩
  simp only [reopens, hchecked, Bool.true_and, any_eq_false] at hclosed
  simpa [hterminal] using hclosed _ hmem

section Runs

variable [Runtime] [Conversions]

theorem EndedWell.step (h : EndedWell s.toRequestTables) {call : ServiceCall}
    (hclosed : s.KeepsClosed call) :
    EndedWell (step s call).toRequestTables ∧ s.KeepsEndings call := by
  have hended : EndedWell (RuntimeProtocolStore.step s call).toRequestTables := by
    rcases step_cases (s := s) call with hsame | ⟨env, request, rfl, hwritten⟩
    · rw [hsame]
      exact h
    · exact (recorded_of_written h hwritten hclosed).endedWell h
  refine ⟨hended, ?_, ?_, ?_, ?_⟩
  · intro requestId record hrecord hterminal
    rcases step_cases (s := s) call with hsame | ⟨env, request, rfl, hwritten⟩
    · rw [hsame, hrecord]
      rfl
    · exact (recorded_of_written h hwritten hclosed).ending hrecord hterminal
  · intro requestId record hrecord hfinal
    rcases step_cases (s := s) call with hsame | ⟨env, request, rfl, hwritten⟩
    · rw [hsame]
    · exact reports_of_written hwritten hclosed hrecord hfinal
  · intro requestId result hresult
    obtain ⟨record, hrecord, -, hagrees⟩ := hended.results hresult
    exact ⟨record, hrecord, hagrees⟩
  · rintro env connectionId state rebind planId plan tables rfl hplan requestId record hrecord
      hterminal
    exact plans_of_closed hclosed hplan hrecord hterminal

/-- In a run that reopens no request, every call keeps what has ended. -/
theorem terminal_requests_kept {calls : List ServiceCall}
    (hclosed : Careful step KeepsClosed {} calls) : Careful step KeepsEndings {} calls :=
  careful_of_keeps (I := fun s : RuntimeProtocolStore => EndedWell s.toRequestTables)
    (fun _ _ h hc => h.step hc) ⟨nofun, nofun, nofun⟩ hclosed

end Runs

/-! ## A request that has ended -/

/-- The run in which the first runtime ends the request with its final report. -/
def oneEnded (terminalState : String) : List ServiceCall :=
  oneAccepted ++
    [.request sampleEnvironment (.usage "r1" (sampleReport "r1" "q" "u1" 1 none terminalState)),
      .request sampleEnvironment (.result "r1" {
        toRuntimeIdentity := sampleIdentity "r1"
        endpointId := "endpoint"
        endpointConfigurationHash := "endpoint configuration"
        sessionId := "session"
        requestId := "q"
        terminalState := terminalState
        finalUsageReportId := "u1"
        resultHash := "result" })]

def sampleRecovery (active ended : List String) : ServiceCall :=
  .lifecycle sampleEnvironment (.recoveryPlan "r1" {
    toRuntimeIdentity := sampleIdentity "r1"
    activeRequests := active
    terminalRequests := ended
    usageChainHeads := Dict.empty.set "q" "hash of u1"
    recoveryStateHash := "recovery" } false "plan")

/-- The request ends once and again in the same way, and the runtime recovers. -/
theorem terminal_requests_kept_ended_twice : letI := deadlineTimes; letI := textConversions
    Careful step KeepsEndings {} (oneEnded "COMPLETED" ++
      [.request sampleEnvironment (.terminal "r1" "q" "COMPLETED" "result" "u1"),
        sampleRecovery [] ["q"]]) := by
  apply @terminal_requests_kept deadlineTimes textConversions
  decide +kernel

section Broken

variable [Runtime] [Conversions]

/-- The plan that a call builds goes on with the request, or fails it. -/
def planReopens (requestId : String) (s : RuntimeProtocolStore) : ServiceCall → Bool
  | .lifecycle env (.recoveryPlan connectionId state rebind planId) =>
    match s.buildRecoveryPlan env connectionId state rebind planId with
    | .ok (plan, _) =>
      plan.requestDirectives.get? requestId == some .continueExistingExecution ||
        plan.requestDirectives.get? requestId == some .failUnrecoverable
    | .error _ => false
  | _ => false

/-- The call changes the ending of the request, its reports or its directive. -/
def changesEnded (requestId : String) (s : RuntimeProtocolStore) (call : ServiceCall) : Bool :=
  (s.requests.get? requestId).any fun record =>
    record.requestState.terminal && record.terminalFinalUsageReportId.isSome &&
      (((step s call).requests.get? requestId).map (·.ending) != some record.ending ||
        requestReports (step s call).toRequestTables requestId !=
          requestReports s.toRequestTables requestId || planReopens requestId s call)

theorem not_keepsEndings {requestId : String} {call : ServiceCall}
    (h : changesEnded requestId s call = true) : ¬ s.KeepsEndings call := by
  intro hkeeps
  simp only [changesEnded, Option.any_eq_true, and_eq_true, or_eq_true, bne_iff_ne] at h
  obtain ⟨record, hrecord, ⟨hterminal, hfinal⟩, (hending | hreports) | hplan⟩ := h
  · exact hending (hkeeps.endings hrecord hterminal)
  · exact hreports (hkeeps.reports hrecord hfinal)
  · unfold planReopens at hplan
    split at hplan
    · split at hplan
      · next hbuilt =>
        have hdirective := hkeeps.plans rfl hbuilt requestId record hrecord hterminal
        simp [hdirective] at hplan
      · cases hplan
    · cases hplan

end Broken

/-- Calls that reopen a request, with the state in which it ended: an acceptance, a report, another
result hash, a recovery of the completed request, and one of a request that cannot be recovered. -/
def reopenings : List (String × ServiceCall) :=
  [("COMPLETED", .request sampleEnvironment (.accept "r1" (sampleAccept "r1" "q" .accepted))),
    ("COMPLETED", .request sampleEnvironment
      (.usage "r1" (sampleReport "r1" "q" "u2" 2 (some "hash of u1") none))),
    ("COMPLETED", .request sampleEnvironment (.terminal "r1" "q" "COMPLETED" "other" "u1")),
    ("COMPLETED", sampleRecovery ["q"] []), ("UNRECOVERABLE", sampleRecovery [] [])]

theorem ended_request_reopens : letI := deadlineTimes; letI := textConversions
    reopenings.Forall fun e => ¬ Careful step KeepsEndings {} (oneEnded e.1 ++ [e.2]) := by
  rw [List.forall_iff_forall_mem]
  intro e he h
  have hlast := (careful_append.mp h).2.1
  revert hlast
  clear h
  apply @not_keepsEndings _ deadlineTimes textConversions "q" e.2
  revert e
  decide +kernel

end RuntimeProtocolStore

end AidnSpec.RuntimeProtocol
