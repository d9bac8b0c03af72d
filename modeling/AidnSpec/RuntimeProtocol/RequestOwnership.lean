import AidnSpec.Base.Runs
import AidnSpec.RuntimeProtocol.Calls

/-!
# Requests of other runtimes

Acceptances, usage reports, streams and artifacts are tied to a request by its session only. A run
in which none of them names the request of another runtime, or of another generation, leaves all
data of such requests.
-/

namespace AidnSpec.RuntimeProtocol

open Base Bool

/-- What is stored about a request. -/
structure RequestData where
  record : Option RuntimeRequestRecord
  reports : List RuntimeUsageReport
  streams : List RuntimeStreamOpen
  chunks : List RuntimeStreamChunk
  closes : List RuntimeStreamClose
  artifacts : List RuntimeArtifactDeclare
  result : Option RuntimeResult
  deriving DecidableEq

namespace RuntimeProtocolStore

def requestData (tables : RequestTables) (requestId : String) : RequestData where
  record := tables.requests.get? requestId
  reports := requestReports tables requestId
  streams := tables.streams.values.filter (·.requestId == requestId)
  chunks := tables.streamChunks.values.filter (·.requestId == requestId)
  closes := tables.streamCloses.values.filter (·.requestId == requestId)
  artifacts := tables.artifacts.values.filter (·.requestId == requestId)
  result := tables.results.get? requestId

/-- A request was registered for a runtime and a generation. -/
def RegisteredFor (record : RuntimeRequestRecord) (runtimeId : String) (generation : ℕ) : Prop :=
  record.runtimeId = runtimeId ∧ record.runtimeGeneration = generation

instance decidableRegisteredFor (record : RuntimeRequestRecord) (runtimeId : String)
    (generation : ℕ) : Decidable (RegisteredFor record runtimeId generation) :=
  inferInstanceAs (Decidable (_ ∧ _))

/-- The message names the request of another runtime, and is taken. -/
def intrudes (env : ServiceEnvironment) (s : RuntimeProtocolStore) : RequestCall → Bool
  | .accept connectionId acceptance =>
    (s.requests.get? acceptance.requestId).any fun record =>
      acceptChecked env s connectionId acceptance record &&
        acceptedRecord env acceptance record != record &&
        !RegisteredFor record acceptance.runtimeId acceptance.runtimeGeneration
  | .usage connectionId report =>
    (s.requests.get? report.requestId).any fun record =>
      usageChecked env s connectionId report record && s.nextReport report &&
        !RegisteredFor record report.runtimeId report.runtimeGeneration
  | .streamOpen connectionId stream =>
    (s.requests.get? stream.requestId).any fun record =>
      openChecked env s connectionId stream record &&
        !RegisteredFor record stream.runtimeId stream.runtimeGeneration
  | .artifact connectionId artifact =>
    (s.requests.get? artifact.requestId).any fun record =>
      artifactChecked env s connectionId artifact record &&
        !RegisteredFor record artifact.runtimeId artifact.runtimeGeneration
  | _ => false

def Respects (s : RuntimeProtocolStore) : ServiceCall → Prop
  | .lifecycle _ _ => True
  | .request env call => s.intrudes env call = false

instance decidableRespects (s : RuntimeProtocolStore) : ∀ call, Decidable (s.Respects call)
  | .lifecycle _ _ => inferInstanceAs (Decidable True)
  | .request _ _ => inferInstanceAs (Decidable (_ = false))

/-- A call leaves the data of the requests that were not registered for the runtime and the
generation of its connection. -/
def LeavesOthers [Runtime] [Conversions] (s : RuntimeProtocolStore) : ServiceCall → Prop
  | .lifecycle env call => (step s (.lifecycle env call)).toRequestTables = s.toRequestTables
  | .request env call => ∀ runtimeId generation, s.Carries call.connectionId runtimeId generation →
      ∀ requestId record, s.requests.get? requestId = some record →
        ¬ RegisteredFor record runtimeId generation →
        requestData (step s (.request env call)).toRequestTables requestId =
          requestData s.toRequestTables requestId

variable {env : ServiceEnvironment} {s : RuntimeProtocolStore} {connectionId : String}
  {tables : RequestTables}

/-! ## Streams and cancellations belong to their requests -/

/-- Records stand under their ids; streams and cancellations name the runtime of their request. -/
structure Ownership (tables : RequestTables) : Prop where
  keyed : ∀ {requestId record}, tables.requests.get? requestId = some record →
    record.requestId = requestId
  streams : ∀ {streamId stream}, tables.streams.get? streamId = some stream →
    ∃ record, tables.requests.get? stream.requestId = some record ∧
      RegisteredFor record stream.runtimeId stream.runtimeGeneration
  cancellations : ∀ {cancellationId item},
    tables.cancellations.get? cancellationId = some item →
    ∃ record, tables.requests.get? item.cancellation.requestId = some record ∧
      RegisteredFor record item.cancellation.runtimeId item.cancellation.runtimeGeneration

/-- A new version of the record of a request, with the same identity. -/
structure SameRequest (record updated : RuntimeRequestRecord) : Prop where
  requestId : updated.requestId = record.requestId
  runtimeId : updated.runtimeId = record.runtimeId
  runtimeGeneration : updated.runtimeGeneration = record.runtimeGeneration

theorem sameRequest_accepted (acceptance : RuntimeRequestAccept) (record : RuntimeRequestRecord) :
    SameRequest record (acceptedRecord env acceptance record) := ⟨rfl, rfl, rfl⟩

theorem sameRequest_cancelRequested (record : RuntimeRequestRecord) :
    SameRequest record (cancelRequested env record) := ⟨rfl, rfl, rfl⟩

theorem sameRequest_continued (item : RuntimeCancellationRecord) (record : RuntimeRequestRecord) :
    SameRequest record (continued env item record) := by
  unfold continued
  split_ifs <;> exact ⟨rfl, rfl, rfl⟩

theorem sameRequest_finalized (state : RuntimeRequestState) (resultHash reportId : String)
    (record : RuntimeRequestRecord) :
    SameRequest record (finalizedRecord env state resultHash reportId record) := ⟨rfl, rfl, rfl⟩

variable {requestId other runtimeId : String} {record : RuntimeRequestRecord} {generation : ℕ}
  {old : RequestTables} {call : RequestCall}

/-- The records of `requests` with one of them in a new version. -/
theorem registered_set {requests : Dict String RuntimeRequestRecord}
    {updated : RuntimeRequestRecord} (hrecord : requests.get? requestId = some record)
    (hsame : SameRequest record updated)
    (h : ∃ found, requests.get? other = some found ∧ RegisteredFor found runtimeId generation) :
    ∃ found, (requests.set requestId updated).get? other = some found ∧
      RegisteredFor found runtimeId generation := by
  obtain ⟨found, hfound, hregistered⟩ := h
  rw [Dict.get?_set]
  by_cases hid : other = requestId
  · subst hid
    rw [hrecord] at hfound
    cases hfound
    refine ⟨updated, if_pos rfl, ?_⟩
    exact ⟨hsame.runtimeId.trans hregistered.1, hsame.runtimeGeneration.trans hregistered.2⟩
  · rw [if_neg hid]
    exact ⟨found, hfound, hregistered⟩

/-- The record of a request in a new version. -/
theorem Ownership.updated (h : Ownership old) {updated : RuntimeRequestRecord}
    (hrecord : old.requests.get? requestId = some record) (hsame : SameRequest record updated)
    (hrequests : tables.requests = old.requests.set requestId updated)
    (hstreams : tables.streams = old.streams)
    (hcancellations : ∀ {cancellationId item}, tables.cancellations.get? cancellationId =
      some item → ∃ record, old.requests.get? item.cancellation.requestId = some record ∧
      RegisteredFor record item.cancellation.runtimeId item.cancellation.runtimeGeneration) :
    Ownership tables where
  keyed {other found} hfound := by
    rw [hrequests, Dict.get?_set] at hfound
    split_ifs at hfound with hid
    · cases hfound
      rw [hsame.requestId, h.keyed hrecord, hid]
    · exact h.keyed hfound
  streams {streamId stream} hstream := by
    rw [hstreams] at hstream
    rw [hrequests]
    exact registered_set hrecord hsame (h.streams hstream)
  cancellations hitem := by
    rw [hrequests]
    exact registered_set hrecord hsame (hcancellations hitem)

/-- A request that is new. -/
theorem Ownership.submitted {old : RequestTables} (h : Ownership old)
    {request : RuntimeExecuteRequest} (hnew : old.requests.get? request.requestId = none)
    (hrequests : tables.requests = old.requests.set request.requestId (submittedRecord env request))
    (hstreams : tables.streams = old.streams)
    (hcancellations : tables.cancellations = old.cancellations) : Ownership tables := by
  have hold : ∀ {other runtimeId generation},
      (∃ found, old.requests.get? other = some found ∧ RegisteredFor found runtimeId generation) →
        ∃ found, tables.requests.get? other = some found ∧
          RegisteredFor found runtimeId generation := by
    rintro other runtimeId generation ⟨found, hfound, hregistered⟩
    refine ⟨found, ?_, hregistered⟩
    rw [hrequests, Dict.get?_set_of_ne]
    · exact hfound
    · rintro rfl
      rw [hnew] at hfound
      cases hfound
  constructor
  · intro requestId found hfound
    rw [hrequests, Dict.get?_set] at hfound
    split_ifs at hfound with hid
    · cases hfound
      exact hid.symm
    · exact h.keyed hfound
  · intro streamId stream hstream
    exact hold (h.streams (hstreams ▸ hstream))
  · intro cancellationId item hitem
    exact hold (h.cancellations (hcancellations ▸ hitem))

theorem Ownership.of_same (h : Ownership old) (hrequests : tables.requests = old.requests)
    (hstreams : tables.streams = old.streams)
    (hcancellations : tables.cancellations = old.cancellations) : Ownership tables where
  keyed hrecord := h.keyed (hrequests ▸ hrecord)
  streams hstream := by
    rw [hrequests]
    exact h.streams (hstreams ▸ hstream)
  cancellations hitem := by
    rw [hrequests]
    exact h.cancellations (hcancellations ▸ hitem)

/-- Streams that are opened with respect belong to their requests. -/
theorem Ownership.written (h : Ownership s.toRequestTables) (hwritten : Written env s call tables)
    (hrespects : s.intrudes env call = false) : Ownership tables := by
  cases hwritten with
  | submitted hconnected hnew => exact h.submitted hnew rfl rfl rfl
  | accepted hrecord hchecked =>
    have hid := h.keyed hrecord
    exact h.updated (hid.symm ▸ hrecord) (sameRequest_accepted _ _) rfl rfl h.cancellations
  | cancelled hrecord hconnected hcancels hterminal =>
    refine h.updated hrecord (sameRequest_cancelRequested _) rfl rfl ?_
    intro cancellationId item hitem
    rw [Dict.get?_set] at hitem
    split_ifs at hitem
    · cases hitem
      refine ⟨_, hrecord, ?_⟩
      simp only [cancels, and_eq_true, beq_iff_eq] at hcancels
      exact ⟨hcancels.1.1.1.2, hcancels.1.1.2⟩
    · exact h.cancellations hitem
  | continued hconnected hcancellation hanswers hrecord =>
    exact h.updated hrecord (sameRequest_continued _ _) rfl rfl h.cancellations
  | finalized hrecord hchecked hstate | concluded hrecord hchecked hstate =>
    exact h.updated hrecord (sameRequest_finalized _ _ _ _) rfl rfl h.cancellations
  | @opened _ stream record hrecord hchecked =>
    refine ⟨h.keyed, ?_, h.cancellations⟩
    intro streamId found hfound
    rw [Dict.get?_set] at hfound
    split_ifs at hfound
    · cases hfound
      refine ⟨record, hrecord, ?_⟩
      simpa [intrudes, hrecord, hchecked] using hrespects
    · exact h.streams hfound
  | acknowledged | reported | answered | emitted | closed | declared => exact h.of_same rfl rfl rfl

/-! ## The data of other requests -/

/-- The runtime of a message whose checks were passed is that of the connection. -/
theorem carries_unique {number : ℕ} (h : s.Carries connectionId runtimeId generation)
    (h' : s.Carries connectionId other number) : runtimeId = other ∧ generation = number := by
  obtain ⟨connection, hconnection, rfl, rfl⟩ := h
  obtain ⟨connection', hconnection', rfl, rfl⟩ := h'
  rw [hconnection] at hconnection'
  cases hconnection'
  exact ⟨rfl, rfl⟩

/-- What is new about another request is not seen. -/
theorem filter_values_set {K V : Type} [DecidableEq K] (requestOf : V → String) {d : Dict K V}
    {k : K} {v : V} (hnew : d.get? k = none) (hne : requestId ≠ requestOf v) :
    (d.set k v).values.filter (requestOf · == requestId) =
      d.values.filter (requestOf · == requestId) := by
  rw [Dict.values_set hnew, List.filter_append,
    List.filter_cons_of_neg (by simpa using hne.symm), List.filter_nil, List.append_nil]

/-- What is written leaves the data of the requests that belong to others. -/
theorem requestData_of_written (hown : Ownership s.toRequestTables)
    (hwritten : Written env s call tables) (hrespects : s.intrudes env call = false)
    (hcarries : s.Carries call.connectionId runtimeId generation)
    (hrecord : s.requests.get? requestId = some record)
    (hother : ¬ RegisteredFor record runtimeId generation) :
    requestData tables requestId = requestData s.toRequestTables requestId := by
  -- a message over the connection names its runtime, so its own request is another one
  have hne : ∀ {named : String} {found : RuntimeRequestRecord} {claim : ConnectionClaim},
      connected env s call.connectionId claim = true → s.requests.get? named = some found →
        RegisteredFor found claim.runtimeId claim.runtimeGeneration → requestId ≠ named := by
    rintro named found claim hconnected hfound hregistered rfl
    rw [hrecord] at hfound
    cases hfound
    obtain ⟨rfl, rfl⟩ := carries_unique hcarries (carries_of_connected hconnected)
    exact hother hregistered
  cases hwritten with
  | @submitted _ request hconnected hnew =>
    have hid : requestId ≠ request.requestId := by
      rintro rfl
      rw [hnew] at hrecord
      cases hrecord
    simp only [requestData, Dict.get?_set_of_ne _ _ hid]
    rfl
  | @accepted sender acceptance found hfound hchecked =>
    by_cases hid : requestId = acceptance.requestId
    · subst hid
      rw [hrecord] at hfound
      cases hfound
      have hconnected : connected env s sender (acceptClaim acceptance) = true := by
        simp only [acceptChecked, and_eq_true] at hchecked
        exact hchecked.1.1
      have hsame : acceptedRecord env acceptance record = record := by
        by_contra hchanged
        have hregistered : ¬ RegisteredFor record acceptance.runtimeId
            acceptance.runtimeGeneration :=
          fun hregistered => hne hconnected hrecord hregistered rfl
        simp [intrudes, hrecord, hchecked, hchanged, hregistered] at hrespects
      simp only [requestData, hsame, hown.keyed hrecord, Dict.get?_set_self, hrecord]
      rfl
    · rw [← hown.keyed hfound] at hid
      simp only [requestData, Dict.get?_set_of_ne _ _ hid]
      rfl
  | acknowledged => rfl
  | @reported _ report found _ hfound hchecked hnext =>
    have hregistered : RegisteredFor found report.runtimeId report.runtimeGeneration := by
      simpa [intrudes, hfound, hchecked, hnext] using hrespects
    have hid : requestId ≠ report.requestId := by
      simp only [usageChecked, and_eq_true] at hchecked
      exact hne hchecked.1.1.1.1.1 hfound hregistered
    have hfresh : s.usageReports.get? report.usageReportId = none := by
      simp only [nextReport, and_eq_true, Dict.not_contains] at hnext
      exact hnext.1.1.1
    simp only [requestData, requestReports,
      filter_values_set RuntimeUsageReport.requestId hfresh hid]
  | @cancelled _ cancellation found hfound hconnected hcancels hterminal =>
    have hid : requestId ≠ cancellation.requestId := by
      apply hne hconnected hfound
      simp only [cancels, and_eq_true, beq_iff_eq] at hcancels
      exact ⟨hcancels.1.1.1.2, hcancels.1.1.2⟩
    simp only [requestData, Dict.get?_set_of_ne _ _ hid]
    rfl
  | answered => rfl
  | @continued _ result item found hconnected hitem hanswers hfound =>
    have hid : requestId ≠ result.requestId := by
      simp only [answers, and_eq_true, beq_iff_eq] at hanswers
      obtain ⟨⟨⟨⟨⟨hruntime, hgeneration⟩, -⟩, -⟩, -⟩, hrequest⟩ := hanswers
      obtain ⟨owner, howner, hregistered⟩ := hown.cancellations hitem
      rw [← hrequest] at howner
      rw [← hruntime, ← hgeneration] at hregistered
      exact hne hconnected howner hregistered
    simp only [requestData, Dict.get?_set_of_ne _ _ hid]
    rfl
  | @opened _ stream found hfound hchecked =>
    have hregistered : RegisteredFor found stream.runtimeId stream.runtimeGeneration := by
      simpa [intrudes, hfound, hchecked] using hrespects
    simp only [openChecked, streamChecked, and_eq_true, Dict.not_contains] at hchecked
    have hid : requestId ≠ stream.requestId := hne hchecked.1.1.1.1.2 hfound hregistered
    simp only [requestData,
      filter_values_set (fun stream : RuntimeStreamOpen => stream.requestId) hchecked.2 hid]
    rfl
  | @emitted _ chunk stream hconnected hstream hidentity hrequest hnew =>
    have hid : requestId ≠ chunk.requestId := by
      obtain ⟨owner, howner, hregistered⟩ := hown.streams hstream
      rw [hrequest] at howner
      rw [show stream.runtimeId = chunk.runtimeId from congrArg (·.runtimeId) hidentity,
        show stream.runtimeGeneration = chunk.runtimeGeneration from
          congrArg (·.runtimeGeneration) hidentity] at hregistered
      exact hne hconnected howner hregistered
    simp only [requestData,
      filter_values_set (fun chunk : RuntimeStreamChunk => chunk.requestId) hnew hid]
    rfl
  | @closed _ close stream hconnected hstream hidentity hrequest hnew =>
    have hid : requestId ≠ close.requestId := by
      obtain ⟨owner, howner, hregistered⟩ := hown.streams hstream
      rw [hrequest] at howner
      rw [show stream.runtimeId = close.runtimeId from congrArg (·.runtimeId) hidentity,
        show stream.runtimeGeneration = close.runtimeGeneration from
          congrArg (·.runtimeGeneration) hidentity] at hregistered
      exact hne hconnected howner hregistered
    simp only [requestData,
      filter_values_set (fun close : RuntimeStreamClose => close.requestId) hnew hid]
    rfl
  | @declared _ artifact found hfound hchecked =>
    have hregistered : RegisteredFor found artifact.runtimeId artifact.runtimeGeneration := by
      simpa [intrudes, hfound, hchecked] using hrespects
    simp only [artifactChecked, and_eq_true, Dict.not_contains] at hchecked
    have hid : requestId ≠ artifact.requestId := hne hchecked.1.1.1.2 hfound hregistered
    simp only [requestData,
      filter_values_set (fun artifact : RuntimeArtifactDeclare => artifact.requestId)
        hchecked.2 hid]
    rfl
  | @finalized _ named _ _ _ found _ hfound hchecked hstate =>
    have hid : requestId ≠ named := by
      simp only [terminalChecked, and_eq_true] at hchecked
      exact hne hchecked.1.1 hfound ⟨rfl, rfl⟩
    simp only [requestData, Dict.get?_set_of_ne _ _ hid]
    rfl
  | @concluded _ result found _ hfound hchecked hstate =>
    have hid : requestId ≠ result.requestId := by
      simp only [resultChecked, terminalChecked, and_eq_true] at hchecked
      exact hne hchecked.2.1.1 hfound ⟨rfl, rfl⟩
    simp only [requestData, Dict.get?_set_of_ne _ _ hid]
    rfl

section Runs

variable [Runtime] [Conversions]

theorem Ownership.step (h : Ownership s.toRequestTables) {call : ServiceCall}
    (hrespects : s.Respects call) :
    Ownership (step s call).toRequestTables ∧ s.LeavesOthers call := by
  cases call with
  | lifecycle env call =>
    have hsame := toRequestTables_step_lifecycle env s call
    rw [hsame]
    exact ⟨h, hsame⟩
  | request env call =>
    rcases step_cases (s := s) (.request env call) with hsame | ⟨env', call', heq, hwritten⟩
    · refine ⟨by rw [hsame]; exact h, ?_⟩
      intro runtimeId generation hcarries requestId record hrecord hother
      rw [hsame]
    · cases heq
      exact ⟨h.written hwritten hrespects, fun runtimeId generation hcarries requestId record
        hrecord hother => requestData_of_written h hwritten hrespects hcarries hrecord hother⟩

/-- In a run without messages that intrude, every call leaves the requests of others. -/
theorem leaves_others {calls : List ServiceCall}
    (hrespects : Careful step Respects {} calls) : Careful step LeavesOthers {} calls :=
  careful_of_keeps (I := fun s : RuntimeProtocolStore => Ownership s.toRequestTables)
    (fun _ _ h hc => h.step hc) ⟨nofun, nofun, nofun⟩ hrespects

end Runs

/-- A call over the connection of one runtime that changes the data of another one's request. -/
theorem not_leavesOthers [Runtime] [Conversions] {call : RequestCall} (runtimeId requestId : String)
    (hconnection : (s.connections.get? call.connectionId).any (·.runtimeId == runtimeId) = true)
    (hrecord : (s.requests.get? requestId).any (·.runtimeId != runtimeId) = true)
    (hchanged : requestData (step s (.request env call)).toRequestTables requestId ≠
      requestData s.toRequestTables requestId) : ¬ s.LeavesOthers (.request env call) := by
  intro h
  rw [Option.any_eq_true] at hconnection hrecord
  obtain ⟨connection, hconnection, hruntime⟩ := hconnection
  obtain ⟨record, hrecord, hother⟩ := hrecord
  rw [beq_iff_eq] at hruntime
  rw [bne_iff_ne] at hother
  exact hchanged (h runtimeId connection.runtimeGeneration ⟨connection, hconnection, hruntime, rfl⟩
    requestId record hrecord fun hregistered => hother hregistered.1)

/-! ## Two runtimes -/

@[reducible] def deadlineTimes : Runtime where
  coerceInt _ := none
  fromisoformat text :=
    if text = "1970-01-01T00:01:00+00:00" then some { aware := true, micros := 60000000 } else none
  ed25519Verify _ _ _ := false

@[reducible] def textConversions : Conversions where
  str value := match value with
    | .str s => s
    | _ => ""
  toFloat _ := .error ⟨.type, "no number"⟩
  toDict _ := .error ⟨.type, "no dictionary"⟩

def sampleBinding (runtimeId : String) : RuntimeBinding where
  runtimeId := runtimeId
  runtimeGeneration := 1
  capabilityId := "chat"
  capabilityVersion := "1"
  capabilityDefinitionHash := "definition"
  supportedFeatures := ["streaming", "cancellation"]
  usageReportingProfileHash := some ("profile of " ++ runtimeId)
  runtimeConfigurationHash := some ("configuration of " ++ runtimeId)
  operationalState := "READY"
  bindingHash := "binding of " ++ runtimeId

def sampleRoute (runtimeId : String) : Dispatcher.DispatcherRoute where
  destinationType := "RUNTIME"
  destinationId := runtimeId
  routeType := "LOCAL_RUNTIME"
  routeGeneration := 1
  allowedChannelClasses := [.runtime]
  allowedMessageTypes := ["RUNTIME_EXECUTE"]
  runtimeGeneration := some 1
  runtimeBindingHash := some ("binding of " ++ runtimeId)
  createdAt := "1970-01-01T00:00:00+00:00"

def sampleEnvironment : ServiceEnvironment where
  supportedProtocolVersions := ["1.0"]
  connectionLifetimeSeconds := 3600
  now := ⟨0, "1970-01-01T00:00:00+00:00"⟩
  binding runtimeId := some (sampleBinding runtimeId)
  route runtimeId := some (sampleRoute runtimeId)
  authentic := true
  authorized := true
  signature := "signature"
  contract _ := some { payloadHash := "contract" }
  profile runtimeId := some {
    runtimeId := runtimeId
    runtimeGeneration := 1
    runtimeConfigurationHash := "configuration of " ++ runtimeId
    profileHash := "profile of " ++ runtimeId }

def sampleIdentity (runtimeId : String) : RuntimeIdentity where
  runtimeId := runtimeId
  runtimeGeneration := 1
  runtimeConfigurationHash := "configuration of " ++ runtimeId
  routeGeneration := 1

def handshake (runtimeId : String) : List ServiceCall :=
  [.lifecycle sampleEnvironment (.beginHandshake {
      runtimeId := runtimeId
      runtimeGeneration := 1
      instanceId := "instance"
      runtimeConfigurationHash := "configuration of " ++ runtimeId
      capabilityId := "chat"
      supportedCapabilityVersions := ["1"]
      supportedDefinitionHashes := ["definition"]
      supportedRuntimeProtocolVersions := ["1.0"]
      runtimeChallenge := "challenge" } runtimeId "challenge"),
    .lifecycle sampleEnvironment (.completeHandshake {
      handshakeId := runtimeId
      runtimeId := runtimeId
      runtimeGeneration := 1
      routeGeneration := 1
      hypervisorChallengeResponse := challengeResponse "challenge" } runtimeId)]

def sampleRequest (runtimeId requestId : String) : RuntimeExecuteRequest where
  toRuntimeIdentity := sampleIdentity runtimeId
  endpointId := "endpoint"
  endpointConfigurationHash := "endpoint configuration"
  sessionId := "session"
  requestId := requestId
  capabilityId := "chat"
  capabilityVersion := "1"
  capabilityDefinitionHash := "definition"
  accountingContractHash := "contract"
  requestDeadline := "1970-01-01T00:01:00+00:00"
  semanticHash := "request"

def sampleAccept (runtimeId requestId : String) (admissionState : RuntimeAdmissionState) :
    RuntimeRequestAccept where
  runtimeId := runtimeId
  runtimeGeneration := 1
  routeGeneration := 1
  sessionId := "session"
  requestId := requestId
  admissionState := admissionState
  acceptedCapabilityDefinitionHash := "definition"
  acceptedAt := "1970-01-01T00:00:00+00:00"

def sampleReport (runtimeId requestId reportId : String) (usageSequence : ℕ)
    (previous : Option String) (terminalState : Option String) : RuntimeUsageReport where
  usageReportId := reportId
  runtimeId := runtimeId
  runtimeGeneration := 1
  runtimeConfigurationHash := "configuration of " ++ runtimeId
  endpointId := "endpoint"
  endpointConfigurationHash := some "endpoint configuration"
  sessionId := "session"
  requestId := requestId
  accountingContractHash := some "contract"
  finalReport := terminalState.isSome
  usageSequence := usageSequence
  previousUsageReportHash := previous
  requestState := terminalState
  terminal := terminalState.isSome
  reportHash := "hash of " ++ reportId

/-- Two runtimes, and a request that the first one has accepted. -/
def oneAccepted : List ServiceCall :=
  handshake "r1" ++ handshake "r2" ++
    [.request sampleEnvironment (.register "r1" (sampleRequest "r1" "q")),
      .request sampleEnvironment (.accept "r1" (sampleAccept "r1" "q" .accepted))]

/-- The first runtime reports; the second one has a request of its own. -/
theorem leaves_others_two_runtimes : letI := deadlineTimes; letI := textConversions
    Careful step LeavesOthers {} (oneAccepted ++
      [.request sampleEnvironment (.usage "r1" (sampleReport "r1" "q" "u1" 1 none none)),
        .request sampleEnvironment (.register "r2" (sampleRequest "r2" "p")),
        .request sampleEnvironment (.accept "r2" (sampleAccept "r2" "p" .queued))]) := by
  apply @leaves_others deadlineTimes textConversions
  decide +kernel

/-- What the second runtime sends about the request of the first one. -/
def sampleEvent : RuntimeStreamEvent where
  toRuntimeIdentity := sampleIdentity "r2"
  sessionId := "session"
  requestId := "q"
  streamId := "stream"

/-- The messages that intrude: an answer, a report, a stream and an artifact. -/
def intrusions : List RequestCall :=
  [.accept "r2" (sampleAccept "r2" "q" .rejected),
    .usage "r2" (sampleReport "r2" "q" "u" 1 none (some "FAILED")),
    .streamOpen "r2" { toRuntimeStreamEvent := sampleEvent, streamOpenHash := "open" },
    .artifact "r2" {
      toRuntimeIdentity := sampleIdentity "r2"
      sessionId := "session"
      requestId := "q"
      artifactId := "artifact"
      contentHash := "content"
      declarationHash := "declaration" }]

/-- The second runtime fails the request of the first one, reports its usage, opens a stream for it
and declares an artifact of it. -/
theorem intrusions_change_requests : letI := deadlineTimes; letI := textConversions
    intrusions.Forall fun call =>
      ¬ Careful step LeavesOthers {} (oneAccepted ++ [.request sampleEnvironment call]) := by
  rw [List.forall_iff_forall_mem]
  intro call hcall h
  have hlast := (careful_append.mp h).2.1
  revert hlast
  clear h
  apply @not_leavesOthers _ _ deadlineTimes textConversions call "r2" "q"
  · revert call
    decide +kernel
  · revert call
    decide +kernel
  · revert call
    decide +kernel

end RuntimeProtocolStore

end AidnSpec.RuntimeProtocol
