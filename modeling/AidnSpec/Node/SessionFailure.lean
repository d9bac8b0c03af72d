import AidnSpec.Base.Datetime
import AidnSpec.Base.Dict
import AidnSpec.Base.StatefulCall

/-!
# Session failures

`session_failure/service.py`, `models.py` and `store.py`: failures of sessions are classified, and a
session that lost a participant recovers inside a window. The declared models refuse empty texts,
after the status has been assigned. Listeners are only notified.
-/

namespace AidnSpec.Node

open Base

/-! ## Classes -/

inductive FailureClass where
  | consumerDisconnected | providerDisconnected | runtimeFailure | endpointFailure
  | upstreamProxyFailure | accountingMismatch | usageReportTimeout | acknowledgementTimeout
  | depositExhausted | sessionTimeout | idleTimeout | consumerForceClose | providerForceClose
  | protocolIncompatibility | consensusInterruption | stateRecoveryFailure | unknownFailure
  deriving DecidableEq

def FailureClass.value : FailureClass → String
  | consumerDisconnected => "CONSUMER_DISCONNECTED"
  | providerDisconnected => "PROVIDER_DISCONNECTED"
  | runtimeFailure => "RUNTIME_FAILURE"
  | endpointFailure => "ENDPOINT_FAILURE"
  | upstreamProxyFailure => "UPSTREAM_PROXY_FAILURE"
  | accountingMismatch => "ACCOUNTING_MISMATCH"
  | usageReportTimeout => "USAGE_REPORT_TIMEOUT"
  | acknowledgementTimeout => "ACKNOWLEDGEMENT_TIMEOUT"
  | depositExhausted => "DEPOSIT_EXHAUSTED"
  | sessionTimeout => "SESSION_TIMEOUT"
  | idleTimeout => "IDLE_TIMEOUT"
  | consumerForceClose => "CONSUMER_FORCE_CLOSE"
  | providerForceClose => "PROVIDER_FORCE_CLOSE"
  | protocolIncompatibility => "PROTOCOL_INCOMPATIBILITY"
  | consensusInterruption => "CONSENSUS_INTERRUPTION"
  | stateRecoveryFailure => "STATE_RECOVERY_FAILURE"
  | unknownFailure => "UNKNOWN_FAILURE"

inductive FailureAttribution where
  | consumerAtFault | providerAtFault | bothAtFault | externalFailure | protocolFailure
  | inconclusive
  deriving DecidableEq

def FailureAttribution.value : FailureAttribution → String
  | consumerAtFault => "CONSUMER_AT_FAULT"
  | providerAtFault => "PROVIDER_AT_FAULT"
  | bothAtFault => "BOTH_AT_FAULT"
  | externalFailure => "EXTERNAL_FAILURE"
  | protocolFailure => "PROTOCOL_FAILURE"
  | inconclusive => "INCONCLUSIVE"

inductive EvidenceLevel where
  | cryptographic | reproducible | observational

/-- `_FAILURE_STATE_MAP`. -/
def failureState : FailureClass → String
  | .consumerDisconnected | .providerDisconnected | .runtimeFailure | .endpointFailure
  | .upstreamProxyFailure => "recovering"
  | .depositExhausted => "deposit_exhausted"
  | .accountingMismatch => "accounting_mismatch"
  | .idleTimeout | .sessionTimeout | .usageReportTimeout | .acknowledgementTimeout
  | .consumerForceClose | .providerForceClose => "force_closing"
  | .protocolIncompatibility => "unrecoverable"
  | .consensusInterruption => "paused"
  | .stateRecoveryFailure => "unrecoverable"
  | .unknownFailure => "force_closing"

def defaultAttribution : FailureClass → FailureAttribution
  | .consumerDisconnected | .acknowledgementTimeout => .consumerAtFault
  | .providerDisconnected | .runtimeFailure | .endpointFailure | .usageReportTimeout =>
    .providerAtFault
  | .upstreamProxyFailure | .depositExhausted | .sessionTimeout | .idleTimeout
  | .consumerForceClose | .providerForceClose | .consensusInterruption => .externalFailure
  | .protocolIncompatibility | .stateRecoveryFailure => .protocolFailure
  | .accountingMismatch | .unknownFailure => .inconclusive

/-- `_NON_PUNISHABLE_ATTRIBUTIONS`. -/
def FailureAttribution.nonPunishable (a : FailureAttribution) : Bool :=
  [externalFailure, protocolFailure, inconclusive].contains a

def isTerminalStatus (status : String) : Bool :=
  ["closed", "rejected", "cancelled", "expired", "force_settled", "unrecoverable"].contains status

/-! ## Records -/

/-- The check of `min_length=1` on the declared texts of a record. -/
def requireTexts (texts : List String) : Except PyError Unit :=
  require (texts.all (!·.isEmpty)) "String should have at least 1 character"

structure FailureEvidenceRecord where
  sessionId : String
  evidenceLevel : EvidenceLevel
  category : String
  detail : String
  recordedAt : String
  source : String

structure FailureReport where
  sessionId : String
  failureClass : FailureClass
  attribution : FailureAttribution
  evidenceIds : List String
  failureTimestamp : String
  previousStatus : String
  resultingStatus : String

structure SessionFailureEvent where
  sessionId : String
  eventType : String
  failureClass : Option FailureClass
  previousStatus : String
  newStatus : String
  timestamp : String
  details : Fields

structure ReputationEvent where
  sessionId : String
  targetWallet : String
  failureClass : FailureClass
  attribution : FailureAttribution
  evidenceLevel : EvidenceLevel
  penaltyHint : Rat
  timestamp : String

/-- The timeouts of `RecoveryWindowConfig` that the handler reads. -/
structure RecoveryWindowConfig where
  consumerReconnectTimeoutSeconds : Nat := 300
  providerReconnectTimeoutSeconds : Nat := 300

/-! ## The handler -/

/-- `SessionFailureHandler` with its evidence store. `reputationEvents` are the events that
were handed to the callback, if there is one. -/
structure SessionFailureHandler where
  recoveryConfig : RecoveryWindowConfig := {}
  hasReputationCallback : Bool := false
  sessionStates : Dict String String := .empty
  recoveryDeadlines : Dict String String := .empty
  events : Dict String (List SessionFailureEvent) := .empty
  evidence : Dict String (List FailureEvidenceRecord) := .empty
  reports : Dict String FailureReport := .empty
  reputationEvents : List ReputationEvent := []

/-- A method of the handler. -/
abbrev HandlerCall := StatefulCall SessionFailureHandler

variable [Runtime] [IsoFormat]

/-- `datetime.now(UTC).isoformat()`. -/
def nowText (now : Int) : String := IsoFormat.isoformat ⟨true, now⟩

def registerSession (now : Int) (sessionId initialStatus : String)
    (recoveryDeadline : Option String) : HandlerCall Unit :=
  modify fun h =>
    let deadline := match recoveryDeadline with
      | some text => if text.isEmpty then nowText now else text
      | none => nowText now
    { h with
      sessionStates := h.sessionStates.set sessionId initialStatus
      recoveryDeadlines :=
        if initialStatus = "recovering" then h.recoveryDeadlines.set sessionId deadline
        else h.recoveryDeadlines.erase sessionId }

def transition (now : Int) (sessionId newStatus eventType : String)
    (failureClass : Option FailureClass) (details : Fields) : HandlerCall SessionFailureEvent := do
  let oldStatus := (← get).sessionStates.get? sessionId
  if oldStatus.any isTerminalStatus then
    throw ⟨.value, "Cannot transition session " ++ sessionId ++ " from terminal state " ++
      oldStatus.getD ""⟩
  else
    modify fun h => { h with sessionStates := h.sessionStates.set sessionId newStatus }
    let old := oldStatus.getD ""
    let event : SessionFailureEvent := {
      sessionId, eventType, failureClass, newStatus, details
      previousStatus := if old.isEmpty then "unknown" else old
      timestamp := nowText now }
    StatefulCall.lift
      (requireTexts [sessionId, eventType, event.previousStatus, newStatus, event.timestamp])
    modify fun h =>
      { h with events := h.events.set sessionId ((h.events.get? sessionId).getD [] ++ [event]) }
    return event

/-- The construction of a `FailureEvidenceRecord` of the handler, and `add_evidence`. -/
def addEvidence (now : Int) (sessionId category detail : String) : HandlerCall String := do
  let record : FailureEvidenceRecord :=
    ⟨sessionId, .observational, category, detail, nowText now, "failure_handler"⟩
  StatefulCall.lift (requireTexts [sessionId, category, detail, record.recordedAt])
  modify fun h =>
    { h with
      evidence := h.evidence.set sessionId ((h.evidence.get? sessionId).getD [] ++ [record]) }
  return record.recordedAt

/-- The construction of a `FailureReport`, and `save_report`. -/
def saveReport (report : FailureReport) : HandlerCall Unit := do
  StatefulCall.lift (requireTexts
    [report.sessionId, report.failureTimestamp, report.previousStatus, report.resultingStatus])
  modify fun h => { h with reports := h.reports.set report.sessionId report }

def RecoveryWindowConfig.windowSeconds (config : RecoveryWindowConfig)
    (failureClass : FailureClass) : Nat :=
  if [.providerDisconnected, .runtimeFailure, .endpointFailure].contains failureClass then
    config.providerReconnectTimeoutSeconds
  else if failureClass = .upstreamProxyFailure then config.providerReconnectTimeoutSeconds
  else config.consumerReconnectTimeoutSeconds

def setRecoveryDeadline (now : Int) (sessionId : String) (failureClass : FailureClass) :
    HandlerCall Unit := do
  let seconds := (← get).recoveryConfig.windowSeconds failureClass
  let deadline ← StatefulCall.lift (plusSeconds now seconds)
  modify fun h =>
    { h with recoveryDeadlines :=
        h.recoveryDeadlines.set sessionId (IsoFormat.isoformat ⟨true, deadline⟩) }

/-- `_emit_reputation_event`; the penalties are the decimals of the source. -/
def emitReputationEvent (now : Int) (sessionId : String) (failureClass : FailureClass)
    (attribution : FailureAttribution) (evidenceLevel : EvidenceLevel) : HandlerCall Unit := do
  if !(← get).hasReputationCallback then return
  else
    let targetWallet := match attribution with
      | .consumerAtFault => "consumer_wallet"
      | .providerAtFault => "provider_wallet"
      | _ => ""
    let penaltyHint : Rat := match evidenceLevel with
      | .cryptographic => 3 / 10
      | .reproducible => 15 / 100
      | .observational => 5 / 100
    StatefulCall.lift (requireTexts [sessionId, targetWallet, nowText now])
    modify fun h =>
      { h with reputationEvents := h.reputationEvents ++
          [⟨sessionId, targetWallet, failureClass, attribution, evidenceLevel, penaltyHint,
            nowText now⟩] }

/-- A deadline is set when a session enters the recovering status. -/
def openWindow (now : Int) (sessionId : String) (failureClass : FailureClass)
    (newStatus : String) : HandlerCall Unit :=
  if newStatus = "recovering" then setRecoveryDeadline now sessionId failureClass else pure ()

/-- A reputation event is emitted when the attribution is conclusive. -/
def emitConclusive (now : Int) (sessionId : String) (failureClass : FailureClass)
    (attribution : FailureAttribution) : HandlerCall Unit :=
  if attribution.nonPunishable then pure ()
  else emitReputationEvent now sessionId failureClass attribution .observational

/-- What `classify_failure` does behind the transition: evidence, report, deadline and
reputation. -/
def recordFailure (now : Int) (sessionId : String) (failureClass : FailureClass)
    (resolved : FailureAttribution) (details currentStatus newStatus : String) :
    HandlerCall Unit := do
  let recordedAt ← addEvidence now sessionId failureClass.value
    (if details.isEmpty then "Failure classified as " ++ failureClass.value else details)
  saveReport ⟨sessionId, failureClass, resolved, [recordedAt], nowText now, currentStatus,
    newStatus⟩
  openWindow now sessionId failureClass newStatus
  emitConclusive now sessionId failureClass resolved

def classifyFailure (now : Int) (sessionId : String) (failureClass : FailureClass)
    (attribution : Option FailureAttribution) (details : String) :
    HandlerCall SessionFailureEvent := do
  match (← get).sessionStates.get? sessionId with
  | none => throw ⟨.value, "Session " ++ sessionId ++ " is not tracked"⟩
  | some currentStatus =>
    if isTerminalStatus currentStatus then
      throw ⟨.value, "Session " ++ sessionId ++ " is already in terminal state: " ++ currentStatus⟩
    else
      let resolved := attribution.getD (defaultAttribution failureClass)
      let newStatus := failureState failureClass
      let event ← transition now sessionId newStatus "failure_detected" (some failureClass)
        [("attribution", .str resolved.value), ("details", .str details)]
      recordFailure now sessionId failureClass resolved details currentStatus newStatus
      return event

def isRecoveryExpired (now : Int) (sessionId : String) : HandlerCall Bool := do
  let h ← get
  match h.recoveryDeadlines.get? sessionId with
  | none => return false
  | some deadline =>
    if h.sessionStates.get? sessionId ≠ some "recovering" then return false
    else
      match Runtime.fromisoformat deadline with
      | none => return true
      | some limit => StatefulCall.lift (limit.notAfter ⟨true, now⟩)

def expireRecovery (now : Int) (sessionId : String) : HandlerCall (Option SessionFailureEvent) := do
  if (← get).sessionStates.get? sessionId ≠ some "recovering" then return none
  else if !(← isRecoveryExpired now sessionId) then return none
  else
    let deadline := (← get).recoveryDeadlines.get? sessionId
    let event ← transition now sessionId "force_closing" "recovery_expired" none
      [("recovery_deadline", (deadline.map PyValue.str).getD .none)]
    match (← get).reports.get? sessionId with
    | none => return some event
    | some report =>
      modify fun h =>
        { h with reports :=
            h.reports.set report.sessionId { report with resultingStatus := "force_closing" } }
      return some event

def recoverSession (now : Int) (sessionId : String) : HandlerCall SessionFailureEvent := do
  match (← get).sessionStates.get? sessionId with
  | none => throw ⟨.value, "Session " ++ sessionId ++ " is not tracked"⟩
  | some currentStatus =>
    if currentStatus ≠ "recovering" then
      throw ⟨.value, "Session " ++ sessionId ++ " is not in recovering state: " ++ currentStatus⟩
    else
      let event ← transition now sessionId "active" "recovery_succeeded" none []
      modify fun h => { h with recoveryDeadlines := h.recoveryDeadlines.erase sessionId }
      let _ ← addEvidence now sessionId "recovery_success"
        "Session recovered within recovery window"
      return event

def handleProxyFailure (now : Int) (sessionId remoteEndpointId error : String) :
    HandlerCall SessionFailureEvent := do
  let _ ← addEvidence now sessionId "proxy_failure"
    ("Proxy failure for " ++ remoteEndpointId ++ ": " ++ error)
  classifyFailure now sessionId .upstreamProxyFailure none
    ("Proxy " ++ remoteEndpointId ++ ": " ++ error)

/-! ## What a call changes -/

def SessionFailureHandler.status (h : SessionFailureHandler) (sessionId : String) :
    Option String := h.sessionStates.get? sessionId

/-- `get_recovery_deadline`. -/
def SessionFailureHandler.deadline (h : SessionFailureHandler) (sessionId : String) :
    Option String := h.recoveryDeadlines.get? sessionId

/-- Statuses, deadlines and the configuration stay. -/
def SameSessions (h h' : SessionFailureHandler) : Prop :=
  h'.sessionStates = h.sessionStates ∧ h'.recoveryDeadlines = h.recoveryDeadlines ∧
    h'.recoveryConfig = h.recoveryConfig

variable {h : SessionFailureHandler} {sessionId newStatus : String} {now : Int}
  {failureClass : FailureClass}

omit [Runtime] [IsoFormat] in
theorem SameSessions.rfl : SameSessions h h := ⟨Eq.refl _, Eq.refl _, Eq.refl _⟩

instance : Std.Refl SameSessions := ⟨fun _ => .rfl⟩

instance : IsTrans SessionFailureHandler SameSessions :=
  ⟨fun _ _ _ h h' => ⟨h'.1.trans h.1, h'.2.1.trans h.2.1, h'.2.2.trans h.2.2⟩⟩

/-- Statuses stay, and the deadlines of the other sessions. -/
def SameBut (sessionId : String) (h h' : SessionFailureHandler) : Prop :=
  h'.sessionStates = h.sessionStates ∧
    ∀ j, j ≠ sessionId → h'.recoveryDeadlines.get? j = h.recoveryDeadlines.get? j

instance (sessionId : String) : Std.Refl (SameBut sessionId) := ⟨fun _ => ⟨rfl, fun _ _ => rfl⟩⟩

instance (sessionId : String) : IsTrans SessionFailureHandler (SameBut sessionId) :=
  ⟨fun _ _ _ h h' => ⟨h'.1.trans h.1, fun j hj => (h'.2 j hj).trans (h.2 j hj)⟩⟩

omit [Runtime] [IsoFormat] in
theorem SameSessions.but {h' : SessionFailureHandler} (same : SameSessions h h')
    (sessionId : String) : SameBut sessionId h h' :=
  ⟨same.1, fun j _ => by rw [same.2.1]⟩

open StatefulCall

omit [Runtime] in
theorem keeps_addEvidence (now : Int) (sessionId category detail : String) :
    Keeps SameSessions (addEvidence now sessionId category detail) :=
  keeps_bind (keeps_lift _) fun _ =>
    keeps_bind (keeps_modify fun _ => ⟨rfl, rfl, rfl⟩) fun _ => keeps_pure _

omit [Runtime] [IsoFormat] in
theorem keeps_saveReport (report : FailureReport) : Keeps SameSessions (saveReport report) :=
  keeps_bind (keeps_lift _) fun _ => keeps_modify fun _ => ⟨rfl, rfl, rfl⟩

section

omit [Runtime]

theorem keeps_emitReputationEvent (now : Int) (sessionId : String) (failureClass : FailureClass)
    (attribution : FailureAttribution) (level : EvidenceLevel) :
    Keeps SameSessions (emitReputationEvent now sessionId failureClass attribution level) := by
  refine keeps_bind keeps_get fun h => ?_
  split_ifs
  · exact keeps_pure _
  · exact keeps_bind (keeps_lift _) fun _ => keeps_modify fun _ => ⟨rfl, rfl, rfl⟩

theorem keeps_setRecoveryDeadline (now : Int) (sessionId : String) (failureClass : FailureClass) :
    Keeps (SameBut sessionId) (setRecoveryDeadline now sessionId failureClass) :=
  keeps_bind keeps_get fun _ => keeps_bind (keeps_lift _) fun _ =>
    keeps_modify fun _ => ⟨rfl, fun _ hj => Dict.get?_set_of_ne _ _ hj⟩

/-- A transition from a status that is not terminal assigns the new one, also when it raises;
it raises for a session without a name only. -/
theorem outcome_transition (now : Int) {eventType : String} (failureClass : Option FailureClass)
    (details : Fields) (going : (h.status sessionId).any isTerminalStatus = false)
    (named : newStatus ≠ "") (typed : eventType ≠ "") :
    ∃ answer h',
      (transition now sessionId newStatus eventType failureClass details).outcome h =
        (answer, h') ∧
      h'.sessionStates = h.sessionStates.set sessionId newStatus ∧
      h'.recoveryDeadlines = h.recoveryDeadlines ∧ h'.recoveryConfig = h.recoveryConfig ∧
      (sessionId ≠ "" → answer.isOk = true) := by
  rw [SessionFailureHandler.status] at going
  rw [transition, outcome_bind_ok (outcome_get h), if_neg (by rw [going]; decide)]
  rw [outcome_bind_ok (outcome_modify _ h), outcome_bind, outcome_lift]
  have hprevious : ∀ old : String, (if old.isEmpty = true then "unknown" else old) ≠ "" := by
    intro old
    split_ifs with hempty
    · decide
    · simpa using hempty
  have hnow : nowText now ≠ "" := IsoFormat.isoformat_ne_empty _
  have hold := hprevious ((h.sessionStates.get? sessionId).getD "")
  generalize (if ((h.sessionStates.get? sessionId).getD "").isEmpty = true then "unknown"
    else (h.sessionStates.get? sessionId).getD "") = previous at hold ⊢
  cases hchecked : requireTexts [sessionId, eventType, previous, newStatus, nowText now] with
  | ok u => exact ⟨_, _, rfl, rfl, rfl, rfl, fun _ => rfl⟩
  | error e =>
    refine ⟨_, _, rfl, rfl, rfl, rfl, fun hid => ?_⟩
    simp [requireTexts, hid, typed, named, hnow, hold] at hchecked

theorem keeps_emitConclusive (now : Int) (sessionId : String) (failureClass : FailureClass)
    (attribution : FailureAttribution) :
    Keeps SameSessions (emitConclusive now sessionId failureClass attribution) := by
  unfold emitConclusive
  split_ifs
  · exact keeps_pure _
  · exact keeps_emitReputationEvent _ _ _ _ _

/-- The records of a failure touch the deadline of its session at most. -/
theorem keeps_recordFailure (now : Int) (sessionId : String) (failureClass : FailureClass)
    (resolved : FailureAttribution) (details currentStatus newStatus : String) :
    Keeps (SameBut sessionId)
      (recordFailure now sessionId failureClass resolved details currentStatus newStatus) := by
  have hbut : ∀ s t, SameSessions s t → SameBut sessionId s t := fun _ _ same => same.but sessionId
  refine keeps_bind ((keeps_addEvidence _ _ _ _).mono hbut) fun recordedAt =>
    keeps_bind ((keeps_saveReport _).mono hbut) fun _ => keeps_bind ?_ fun _ =>
      (keeps_emitConclusive _ _ _ _).mono hbut
  unfold openWindow
  split_ifs
  · exact keeps_setRecoveryDeadline _ _ _
  · exact keeps_pure _

/-- A failure that opens no window leaves all deadlines. -/
theorem keeps_recordFailure_of_ne (now : Int) (sessionId : String) (failureClass : FailureClass)
    (resolved : FailureAttribution) (details currentStatus : String)
    (hne : newStatus ≠ "recovering") :
    Keeps SameSessions
      (recordFailure now sessionId failureClass resolved details currentStatus newStatus) := by
  refine keeps_bind (keeps_addEvidence _ _ _ _) fun recordedAt =>
    keeps_bind (keeps_saveReport _) fun _ => keeps_bind ?_ fun _ => keeps_emitConclusive _ _ _ _
  rw [openWindow, if_neg hne]
  exact keeps_pure _

/-- A named session gets its evidence. -/
theorem outcome_addEvidence (now : Int) {category detail : String} (hid : sessionId ≠ "")
    (hcategory : category ≠ "") (hdetail : detail ≠ "") (h : SessionFailureHandler) :
    ∃ h', (addEvidence now sessionId category detail).outcome h = (.ok (nowText now), h') ∧
      SameSessions h h' := by
  have hnow : nowText now ≠ "" := IsoFormat.isoformat_ne_empty _
  have hchecked : requireTexts [sessionId, category, detail, nowText now] = .ok () := by
    simp [requireTexts, hid, hcategory, hdetail, hnow]
  rw [addEvidence, outcome_bind_ok (by rw [outcome_lift, hchecked]),
    outcome_bind_ok (outcome_modify _ h), outcome_pure]
  exact ⟨_, rfl, rfl, rfl, rfl⟩

end

omit [Runtime] [IsoFormat] in
/-- A report without empty texts is saved. -/
theorem outcome_saveReport (report : FailureReport) (hchecked : requireTexts [report.sessionId,
      report.failureTimestamp, report.previousStatus, report.resultingStatus] = .ok ())
    (h : SessionFailureHandler) :
    ∃ h', (saveReport report).outcome h = (.ok (), h') ∧ SameSessions h h' := by
  rw [saveReport, outcome_bind_ok (by rw [outcome_lift, hchecked]), outcome_modify]
  exact ⟨_, rfl, rfl, rfl, rfl⟩

omit [Runtime] in
/-- A window that ends in time is opened. -/
theorem outcome_openWindow (sessionId : String)
    (hends :
      now + 1000000 * (h.recoveryConfig.windowSeconds failureClass : Int) ≤ lastMicrosecond) :
    ∃ h' text, (openWindow now sessionId failureClass "recovering").outcome h = (.ok (), h') ∧
      h'.recoveryDeadlines = h.recoveryDeadlines.set sessionId text := by
  have hdeadline := plusSeconds_eq_ok.mpr ⟨hends, rfl⟩
  rw [openWindow, if_pos rfl, setRecoveryDeadline, outcome_bind_ok (outcome_get h),
    outcome_bind_ok (by rw [outcome_lift, hdeadline]), outcome_modify]
  exact ⟨_, _, rfl, rfl⟩

omit [Runtime] in
/-- A failure that opens a window sets the deadline, when the window ends in time. -/
theorem deadline_recordFailure {resolved : FailureAttribution} {details currentStatus : String}
    (hid : sessionId ≠ "") (hcurrent : currentStatus ≠ "")
    (hends :
      now + 1000000 * (h.recoveryConfig.windowSeconds failureClass : Int) ≤ lastMicrosecond) :
    (((recordFailure now sessionId failureClass resolved details currentStatus "recovering").after
      h).deadline sessionId).isSome = true := by
  have hvalue : failureClass.value ≠ "" := by cases failureClass <;> decide
  have hdetail : (if details.isEmpty = true then "Failure classified as " ++ failureClass.value
      else details) ≠ "" := by
    split_ifs with hempty
    · simp [hvalue]
    · simpa using hempty
  have hnow : nowText now ≠ "" := IsoFormat.isoformat_ne_empty _
  obtain ⟨h₁, hevidence, hsame₁⟩ := outcome_addEvidence now hid hvalue hdetail h
  obtain ⟨h₂, hsaved, hsame₂⟩ := outcome_saveReport ⟨sessionId, failureClass, resolved,
    [nowText now], nowText now, currentStatus, "recovering"⟩ (by simp [requireTexts, hid, hcurrent,
      hnow]) h₁
  rw [← hsame₁.2.2, ← hsame₂.2.2] at hends
  obtain ⟨h₃, text, hopened, hdeadlines⟩ := outcome_openWindow sessionId hends
  rw [recordFailure, after, outcome_bind_ok hevidence, outcome_bind_ok hsaved,
    outcome_bind_ok hopened]
  have hkept := keeps_emitConclusive now sessionId failureClass resolved h₃
  rw [SessionFailureHandler.deadline, show ((emitConclusive now sessionId failureClass
    resolved).outcome h₃).2.recoveryDeadlines = h₃.recoveryDeadlines from hkept.2.1, hdeadlines,
    Dict.get?_set_self]
  rfl

end AidnSpec.Node
