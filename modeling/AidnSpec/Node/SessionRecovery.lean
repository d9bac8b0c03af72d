import AidnSpec.Node.SessionFailure

/-!
# Recovery of failed sessions

Runs of the failure handler under any clock. A session that has ended stays ended, and recovers
before its deadline only, as long as the calls are careful: the handler itself neither compares the
clock with the deadline nor keeps reports from reopening a window.
-/

namespace AidnSpec.Node

open Base StatefulCall

/-! ## Moves of a session -/

/-- The statuses that a session must not come back from. -/
def isEnded (status : String) : Bool :=
  isTerminalStatus status ||
    ["force_closing", "deposit_exhausted", "accounting_mismatch"].contains status

/-- The statuses that failures lead to. -/
theorem failureState_cases (failureClass : FailureClass) :
    isEnded (failureState failureClass) = true ∨ failureState failureClass = "paused" ∨
      failureState failureClass = "recovering" := by
  cases failureClass <;> decide

section Handler

variable [Runtime] [IsoFormat]

/-- A deadline that the clock has not reached. -/
def Ahead (now : Int) (deadline : String) : Prop :=
  ∃ limit, Runtime.fromisoformat deadline = some limit ∧ limit.aware = true ∧ now < limit.micros

/-- What a careful call does to the status and the deadline of one session. -/
inductive Move (now : Int) :
    Option String → Option String → Option String → Option String → Prop
  | same {s d : Option String} : Move now s d s d
  | ends {s d d' : Option String} {s' : String} (ended : isEnded s' = true) :
      Move now s d (some s') d'
  | starts {s d' : Option String} {s' : String} (going : s.any isEnded = false)
      (window : s' = "recovering" → d'.isSome = true) : Move now s none (some s') d'
  | pauses {s d : Option String} (going : s.any isEnded = false) : Move now s d (some "paused") d
  | recovers {text : String} {d' : Option String} (ahead : Ahead now text) :
      Move now (some "recovering") (some text) (some "active") d'

variable {now : Int} {s d s' d' window : Option String} {sessionId details status : String}
  {h h' : SessionFailureHandler} {failureClass : FailureClass}
  {attribution : Option FailureAttribution} {ended : Bool}

omit [IsoFormat] in
/-- The only move from recovering to active. -/
theorem Move.ahead {text : String} (move : Move now s d s' d') (hs : s = some "recovering")
    (hs' : s' = some "active") (hd : d = some text) : Ahead now text := by
  cases move with
  | same =>
    rw [hs] at hs'
    exact absurd hs' (by decide)
  | ends hended =>
    cases hs'
    exact absurd hended (by decide)
  | starts => cases hd
  | pauses => exact absurd hs' (by decide)
  | recovers ahead =>
    cases hd
    exact ahead

/-- A report of a failure that does not revive: it ends the session, or the session has not
ended, and a window is only opened where none is open and where it gets its deadline. -/
def CarefulReport (h : SessionFailureHandler) (now : Int) (sessionId : String)
    (failureClass : FailureClass) : Prop :=
  ∀ current, h.status sessionId = some current → isTerminalStatus current = false →
    isEnded (failureState failureClass) = true ∨
      isEnded current = false ∧ (failureState failureClass = "recovering" →
        h.deadline sessionId = none ∧ sessionId ≠ "" ∧ current ≠ "" ∧
        now + 1000000 * (h.recoveryConfig.windowSeconds failureClass : Int) ≤ lastMicrosecond)

omit [Runtime] in
/-- What a report does to all sessions. -/
theorem classifyFailure_after (now : Int) (failureClass : FailureClass)
    (attribution : Option FailureAttribution) (details : String) {current : String}
    (tracked : h.status sessionId = some current) (going : isTerminalStatus current = false) :
    ∃ h', (classifyFailure now sessionId failureClass attribution details).after h = h' ∧
      h'.sessionStates = h.sessionStates.set sessionId (failureState failureClass) ∧
      (∀ j, j ≠ sessionId → h'.deadline j = h.deadline j) ∧
      (failureState failureClass ≠ "recovering" → h'.recoveryDeadlines = h.recoveryDeadlines) ∧
      (failureState failureClass = "recovering" → sessionId ≠ "" → current ≠ "" →
        now + 1000000 * (h.recoveryConfig.windowSeconds failureClass : Int) ≤ lastMicrosecond →
        (h'.deadline sessionId).isSome = true) := by
  have hnamed : failureState failureClass ≠ "" := by cases failureClass <;> decide
  have hdetected : "failure_detected" ≠ "" := by decide
  have hgoing : (h.status sessionId).any isTerminalStatus = false := by
    rw [tracked]
    exact going
  rw [SessionFailureHandler.status] at tracked
  refine ⟨_, rfl, ?_⟩
  rw [classifyFailure, after_bind_ok (outcome_get h)]
  simp only [tracked, going, Bool.false_eq_true, if_false]
  obtain ⟨answer, h₁, htransition, hstates, hdeadlines, hconfig, hok⟩ :=
    outcome_transition now (some failureClass) [("attribution",
        .str (attribution.getD (defaultAttribution failureClass)).value), ("details", .str details)]
      hgoing hnamed hdetected
  cases answer with
  | error e =>
    rw [after_bind_error htransition]
    refine ⟨hstates, fun j _ => ?_, fun _ => hdeadlines, fun _ hid => ?_⟩
    · rw [SessionFailureHandler.deadline, hdeadlines]
      rfl
    · cases hok hid
  | ok event =>
    rw [after_bind_ok htransition, after_bind_pure]
    obtain ⟨hkept, hothers⟩ := keeps_recordFailure now sessionId failureClass
      (attribution.getD (defaultAttribution failureClass)) details current
      (failureState failureClass) h₁
    refine ⟨hkept.trans hstates, fun j hj => ?_, fun hne => ?_, fun heq hid hcurrent hends => ?_⟩
    · rw [SessionFailureHandler.deadline, hothers j hj, hdeadlines]
      rfl
    · have hsame := keeps_recordFailure_of_ne now sessionId failureClass
        (attribution.getD (defaultAttribution failureClass)) details current hne h₁
      exact hsame.2.1.trans hdeadlines
    · rw [heq]
      exact deadline_recordFailure hid hcurrent (hconfig ▸ hends)

omit [Runtime] in
/-- A report of an untracked or terminal session raises and changes nothing. -/
theorem classifyFailure_refused
    (refused : ∀ current, h.status sessionId = some current → isTerminalStatus current = true) :
    (classifyFailure now sessionId failureClass attribution details).after h = h := by
  rw [SessionFailureHandler.status] at refused
  rw [classifyFailure, after_bind_ok (outcome_get h)]
  cases hstatus : h.sessionStates.get? sessionId with
  | none => rfl
  | some current =>
    simp only [refused current hstatus, if_true]
    rfl

omit [Runtime] [IsoFormat] in
/-- The status of a session, when one session was assigned. -/
theorem status_of_set (hset : h'.sessionStates = h.sessionStates.set sessionId status)
    (j : String) : h'.status j = if j = sessionId then some status else h.status j := by
  rw [SessionFailureHandler.status, hset, Dict.get?_set]
  rfl

omit [IsoFormat] in
/-- A call that assigns the status of one session and leaves the deadlines of the others moves
every session, when it moves this one. -/
theorem Move.of_set (hset : h'.sessionStates = h.sessionStates.set sessionId status)
    (hothers : ∀ j, j ≠ sessionId → h'.deadline j = h.deadline j)
    (hself : Move now (h.status sessionId) (h.deadline sessionId) (some status)
      (h'.deadline sessionId))
    (j : String) : Move now (h.status j) (h.deadline j) (h'.status j) (h'.deadline j) := by
  rw [status_of_set hset]
  by_cases hj : j = sessionId
  · subst hj
    rw [if_pos rfl]
    exact hself
  · rw [if_neg hj, hothers j hj]
    exact .same

/-- A careful report moves its session. -/
theorem classifyFailure_moves (careful : CarefulReport h now sessionId failureClass) (j : String) :
    let h' := (classifyFailure now sessionId failureClass attribution details).after h
    Move now (h.status j) (h.deadline j) (h'.status j) (h'.deadline j) := by
  by_cases going : ∃ current, h.status sessionId = some current ∧ isTerminalStatus current = false
  · obtain ⟨current, tracked, going⟩ := going
    obtain ⟨h', hafter, hstates, hothers, hsame, hwindow⟩ :=
      classifyFailure_after now failureClass attribution details tracked going
    simp only [hafter]
    refine Move.of_set hstates hothers ?_ j
    rw [tracked]
    rcases careful current tracked going with hended | ⟨hgoing, hopens⟩
    · exact .ends hended
    · rcases failureState_cases failureClass with hended | hpaused | hrecovering
      · exact .ends hended
      · have hdeadline : h'.deadline sessionId = h.deadline sessionId := by
          rw [SessionFailureHandler.deadline, hsame (by rw [hpaused]; decide)]
          rfl
        rw [hpaused, hdeadline]
        exact .pauses hgoing
      · obtain ⟨hnone, hid, hcurrent, hends⟩ := hopens hrecovering
        rw [hnone, hrecovering]
        exact .starts hgoing fun _ => hwindow hrecovering hid hcurrent hends
  · have hrefused : ∀ current, h.status sessionId = some current →
        isTerminalStatus current = true := by
      intro current tracked
      by_contra hgoing
      exact going ⟨current, tracked, by simpa using hgoing⟩
    simp only [classifyFailure_refused hrefused]
    exact .same

/-- A registration moves its session, when it ends the session or begins a new one. -/
theorem registerSession_moves {recoveryDeadline : Option String}
    (careful : isEnded status = true ∨ (h.status sessionId).any isEnded = false ∧
      h.deadline sessionId = none)
    (j : String) :
    let h' := (registerSession now sessionId status recoveryDeadline).after h
    Move now (h.status j) (h.deadline j) (h'.status j) (h'.deadline j) := by
  intro h'
  have hset : h'.sessionStates = h.sessionStates.set sessionId status := rfl
  refine Move.of_set hset (fun i hi => ?_) ?_ j
  · simp only [h', registerSession, after, outcome_modify, SessionFailureHandler.deadline]
    split_ifs
    · exact Dict.get?_set_of_ne _ _ hi
    · rw [Dict.get?_erase, if_neg hi]
  · rcases careful with hended | ⟨hgoing, hnone⟩
    · exact .ends hended
    · rw [hnone]
      refine .starts hgoing fun hrecovering => ?_
      simp [h', registerSession, after, SessionFailureHandler.deadline, hrecovering]

omit [IsoFormat] in
/-- The question whether a window has expired changes nothing. -/
theorem outcome_isRecoveryExpired (now : Int) (sessionId : String) (h : SessionFailureHandler) :
    ∃ answer, (isRecoveryExpired now sessionId).outcome h = (answer, h) := by
  rw [isRecoveryExpired, outcome_bind_ok (outcome_get h)]
  cases h.recoveryDeadlines.get? sessionId with
  | none => exact ⟨_, rfl⟩
  | some deadline =>
    simp only
    split_ifs
    · exact ⟨_, rfl⟩
    · cases Runtime.fromisoformat deadline with
      | none | some => exact ⟨_, rfl⟩

omit [IsoFormat] in
/-- A call that assigns an ended status and leaves all deadlines moves its session. -/
theorem Move.of_ends (ended : isEnded status = true)
    (hset : h'.sessionStates = h.sessionStates.set sessionId status)
    (hdeadlines : h'.recoveryDeadlines = h.recoveryDeadlines) (j : String) :
    Move now (h.status j) (h.deadline j) (h'.status j) (h'.deadline j) := by
  refine Move.of_set hset (fun i _ => ?_) (.ends ended) j
  rw [SessionFailureHandler.deadline, hdeadlines]
  rfl

/-- The expiry of a window ends its session. -/
theorem expireRecovery_moves (now : Int) (sessionId : String) (h : SessionFailureHandler)
    (j : String) :
    let h' := (expireRecovery now sessionId).after h
    Move now (h.status j) (h.deadline j) (h'.status j) (h'.deadline j) := by
  dsimp only
  rw [expireRecovery, after_bind_ok (outcome_get h)]
  split_ifs with hstatus
  · exact .same
  · rw [not_not] at hstatus
    obtain ⟨answer, hexpired⟩ := outcome_isRecoveryExpired now sessionId h
    cases answer with
    | error e =>
      rw [after_bind_error hexpired]
      exact .same
    | ok expired =>
      rw [after_bind_ok hexpired]
      split_ifs
      · exact .same
      · rw [after_bind_ok (outcome_get h)]
        have hgoing : (h.status sessionId).any isTerminalStatus = false := by
          rw [SessionFailureHandler.status, hstatus]
          decide
        have hnamed : "force_closing" ≠ "" := by decide
        have hexpired : "recovery_expired" ≠ "" := by decide
        obtain ⟨answer, h₁, htransition, hstates, hdeadlines, -, -⟩ :=
          outcome_transition now none [("recovery_deadline",
              ((h.recoveryDeadlines.get? sessionId).map PyValue.str).getD .none)]
            hgoing hnamed hexpired
        cases answer with
        | error e =>
          rw [after_bind_error htransition]
          exact Move.of_ends (by decide) hstates hdeadlines j
        | ok event =>
          rw [after_bind_ok htransition, after_bind_ok (outcome_get h₁)]
          cases h₁.reports.get? sessionId with
          | none | some => exact Move.of_ends (by decide) hstates hdeadlines j

/-- A recovery before the deadline moves its session. -/
theorem recoverSession_moves (careful : h.status sessionId = some "recovering" →
      ∃ text, h.deadline sessionId = some text ∧ Ahead now text)
    (j : String) :
    let h' := (recoverSession now sessionId).after h
    Move now (h.status j) (h.deadline j) (h'.status j) (h'.deadline j) := by
  dsimp only
  rw [recoverSession, after_bind_ok (outcome_get h)]
  cases hstatus : h.sessionStates.get? sessionId with
  | none => exact .same
  | some current =>
    simp only
    split_ifs with hcurrent
    · exact .same
    · rw [not_not] at hcurrent
      subst hcurrent
      obtain ⟨text, hdeadline, hahead⟩ := careful hstatus
      have hself :
          ∀ d', Move now (h.status sessionId) (h.deadline sessionId) (some "active") d' := by
        intro d'
        rw [SessionFailureHandler.status, hstatus, hdeadline]
        exact .recovers hahead
      have hgoing : (h.status sessionId).any isTerminalStatus = false := by
        rw [SessionFailureHandler.status, hstatus]
        decide
      have hnamed : "active" ≠ "" := by decide
      have hsucceeded : "recovery_succeeded" ≠ "" := by decide
      obtain ⟨answer, h₁, htransition, hstates, hdeadlines, -, -⟩ :=
        outcome_transition now none [] hgoing hnamed hsucceeded
      have hothers : ∀ i, h₁.deadline i = h.deadline i := by
        intro i
        rw [SessionFailureHandler.deadline, hdeadlines]
        rfl
      cases answer with
      | error e =>
        rw [after_bind_error htransition]
        exact Move.of_set hstates (fun i _ => hothers i) (hself _) j
      | ok event =>
        rw [after_bind_ok htransition, after_bind_ok (outcome_modify _ h₁), after_bind_pure]
        have hsame := keeps_addEvidence now sessionId "recovery_success"
          "Session recovered within recovery window"
          { h₁ with recoveryDeadlines := h₁.recoveryDeadlines.erase sessionId }
        refine Move.of_set (hsame.1.trans hstates) (fun i hi => ?_) (hself _) j
        rw [SessionFailureHandler.deadline, hsame.2.1, Dict.get?_erase, if_neg hi]
        exact hothers i

/-- A careful report of a proxy moves its session. -/
theorem handleProxyFailure_moves {remoteEndpointId error : String}
    (careful : sessionId ≠ "" → CarefulReport h now sessionId .upstreamProxyFailure) (j : String) :
    let h' := (handleProxyFailure now sessionId remoteEndpointId error).after h
    Move now (h.status j) (h.deadline j) (h'.status j) (h'.deadline j) := by
  dsimp only
  have hkept := keeps_addEvidence now sessionId "proxy_failure"
    ("Proxy failure for " ++ remoteEndpointId ++ ": " ++ error) h
  rw [handleProxyFailure]
  by_cases hid : sessionId = ""
  · subst hid
    have hraised : ∃ e, (addEvidence now "" "proxy_failure"
        ("Proxy failure for " ++ remoteEndpointId ++ ": " ++ error)).outcome h = (.error e, h) := by
      rw [addEvidence]
      exact ⟨_, outcome_bind_error rfl⟩
    obtain ⟨e, hraised⟩ := hraised
    rw [after_bind_error hraised]
    exact .same
  · have hcategory : "proxy_failure" ≠ "" := by decide
    have hdetail : "Proxy failure for " ++ remoteEndpointId ++ ": " ++ error ≠ "" := by simp
    obtain ⟨h₁, hevidence, hstates, hdeadlines, hconfig⟩ :=
      outcome_addEvidence now hid hcategory hdetail h
    rw [after_bind_ok hevidence]
    have hstatus : ∀ i, h₁.status i = h.status i := fun i => by
      rw [SessionFailureHandler.status, hstates]
      rfl
    have hdeadline : ∀ i, h₁.deadline i = h.deadline i := fun i => by
      rw [SessionFailureHandler.deadline, hdeadlines]
      rfl
    rw [← hstatus, ← hdeadline]
    refine classifyFailure_moves ?_ j
    intro current
    rw [hstatus, hdeadline, hconfig]
    exact careful hid current

/-! ## Runs -/

/-- The calls of a run. -/
inductive HandlerOp where
  | register (sessionId initialStatus : String) (recoveryDeadline : Option String)
  | classify (sessionId : String) (failureClass : FailureClass)
      (attribution : Option FailureAttribution) (details : String)
  | proxyFailure (sessionId remoteEndpointId error : String)
  | recover (sessionId : String)
  | expire (sessionId : String)

/-- The handler after a call, whether it returns or raises. -/
def perform (now : Int) (h : SessionFailureHandler) : HandlerOp → SessionFailureHandler
  | .register sessionId status deadline => (registerSession now sessionId status deadline).after h
  | .classify sessionId failureClass attribution details =>
    (classifyFailure now sessionId failureClass attribution details).after h
  | .proxyFailure sessionId remote error => (handleProxyFailure now sessionId remote error).after h
  | .recover sessionId => (recoverSession now sessionId).after h
  | .expire sessionId => (expireRecovery now sessionId).after h

/-- The calls that cannot revive a session: a name is registered again only when its session
is to end, or has neither ended nor a window; reports are careful; and a recovering session is
only recovered before its deadline. -/
def Careful (h : SessionFailureHandler) (now : Int) : HandlerOp → Prop
  | .register sessionId status _ => isEnded status = true ∨
      (h.status sessionId).any isEnded = false ∧ h.deadline sessionId = none
  | .classify sessionId failureClass _ _ => CarefulReport h now sessionId failureClass
  | .proxyFailure sessionId _ _ =>
    sessionId ≠ "" → CarefulReport h now sessionId .upstreamProxyFailure
  | .recover sessionId => h.status sessionId = some "recovering" →
      ∃ text, h.deadline sessionId = some text ∧ Ahead now text
  | .expire _ => True

/-- A careful call moves every session. -/
theorem perform_moves {op : HandlerOp} (careful : Careful h now op) (j : String) :
    Move now (h.status j) (h.deadline j) ((perform now h op).status j)
      ((perform now h op).deadline j) := by
  cases op with
  | register sessionId status deadline => exact registerSession_moves careful j
  | classify sessionId failureClass attribution details => exact classifyFailure_moves careful j
  | proxyFailure sessionId remote error => exact handleProxyFailure_moves careful j
  | recover sessionId => exact recoverSession_moves careful j
  | expire sessionId => exact expireRecovery_moves now sessionId h j

/-- A handler with what has happened to its sessions: which of them have ended, and the deadline
that was set when a session left the active status. -/
structure History where
  handler : SessionFailureHandler
  ended : String → Bool
  window : String → Option String

def History.start (h : SessionFailureHandler) : History where
  handler := { h with sessionStates := .empty, recoveryDeadlines := .empty }
  ended _ := false
  window _ := none

def History.step (H : History) (now : Int) (op : HandlerOp) : History where
  handler := perform now H.handler op
  ended j := H.ended j || ((perform now H.handler op).status j).any isEnded
  window j :=
    if (perform now H.handler op).status j = some "active" then none
    else (H.window j).or ((perform now H.handler op).deadline j)

/-- A call does not revive a session silently. -/
structure Unrevived (H : History) (now : Int) (op : HandlerOp) : Prop where
  ended : ∀ j, H.ended j = true → (H.step now op).handler.status j ≠ some "active"
  inTime : ∀ j, H.handler.status j = some "recovering" →
    (H.step now op).handler.status j = some "active" →
    ∃ deadline, H.window j = some deadline ∧ Ahead now deadline
  deadline : ∀ j, (H.step now op).handler.status j = some "recovering" →
    ((H.step now op).handler.deadline j).isSome = true

/-- No call of a run revives a session silently. -/
def NeverRevived (H : History) : List (Int × HandlerOp) → Prop
  | [] => True
  | (now, op) :: run => Unrevived H now op ∧ NeverRevived (H.step now op) run

def CarefulRun (h : SessionFailureHandler) : List (Int × HandlerOp) → Prop
  | [] => True
  | (now, op) :: run => Careful h now op ∧ CarefulRun (perform now h op) run

/-- What holds of one session along a careful run: an ended session has an ended status, the
deadline of a recovering session is the one of its window, and a window that was opened is
known by its deadline until the session has ended. -/
structure Tracked (ended : Bool) (window status deadline : Option String) : Prop where
  ended : ended = true → status.any isEnded = true
  recovering : status = some "recovering" → ∃ text, deadline = some text ∧ window = some text
  opened : ∀ text, window = some text → deadline.isSome = true ∨ status.any isEnded = true

omit [Runtime] [IsoFormat] in
/-- A session that has not ended and has no deadline has no window. -/
theorem Tracked.fresh (h : Tracked ended window s none) (going : s.any isEnded = false) :
    ended = false ∧ window = none := by
  constructor
  · by_contra hended
    rw [h.ended (by simpa using hended)] at going
    cases going
  · by_contra hwindow
    obtain ⟨text, htext⟩ := Option.ne_none_iff_exists'.mp hwindow
    rcases h.opened text htext with hsome | hended
    · cases hsome
    · rw [hended] at going
      cases going

omit [IsoFormat] in
/-- Every move keeps a session tracked. -/
theorem Tracked.move (h : Tracked ended window s d) (move : Move now s d s' d') :
    Tracked (ended || s'.any isEnded) (if s' = some "active" then none else window.or d')
      s' d' := by
  have hactive : isEnded "active" = false := by decide
  have hpaused : isEnded "paused" = false := by decide
  have hrecovering : isEnded "recovering" = false := by decide
  cases move with
  | same =>
    refine ⟨fun hended => ?_, fun hstatus => ?_, fun text htext => ?_⟩
    · rcases Bool.or_eq_true_iff.mp hended with hended | hended
      · exact h.ended hended
      · exact hended
    · obtain ⟨text, hdeadline, hwindow⟩ := h.recovering hstatus
      exact ⟨text, hdeadline, by rw [hstatus, hwindow]; rfl⟩
    · split_ifs at htext
      cases hwindow : window with
      | none => exact .inl (by simpa [hwindow] using congrArg Option.isSome htext)
      | some known => exact h.opened known hwindow
  | @ends _ _ _ s' hended =>
    refine ⟨fun _ => hended, fun hstatus => ?_, fun _ _ => .inr hended⟩
    cases hstatus
    rw [hrecovering] at hended
    cases hended
  | @starts _ _ s' going opens =>
    obtain ⟨rfl, rfl⟩ := h.fresh going
    refine ⟨fun hended => by simpa using hended, fun hstatus => ?_, fun text htext => ?_⟩
    · cases hstatus
      obtain ⟨text, rfl⟩ := Option.isSome_iff_exists.mp (opens rfl)
      exact ⟨text, rfl, rfl⟩
    · split_ifs at htext
      exact .inl (by simpa using congrArg Option.isSome htext)
  | pauses going =>
    refine ⟨fun hended => ?_, fun hstatus => absurd hstatus (by decide), fun text htext => ?_⟩
    · rcases Bool.or_eq_true_iff.mp hended with hended | hended
      · rw [h.ended hended] at going
        cases going
      · exact hended
    · cases hwindow : window with
      | none =>
        rw [hwindow] at htext
        exact .inl (by simpa using congrArg Option.isSome htext)
      | some known =>
        rcases h.opened known hwindow with hsome | hended
        · exact .inl hsome
        · rw [hended] at going
          cases going
  | recovers ahead =>
    refine ⟨fun hended => ?_, fun hstatus => absurd hstatus (by decide), fun text htext =>
      (by cases htext)⟩
    rcases Bool.or_eq_true_iff.mp hended with hended | hended
    · have hstatus : isEnded "recovering" = true := h.ended hended
      rw [hrecovering] at hstatus
      cases hstatus
    · exact hended

/-- What is tracked along a run. -/
def History.Tracks (H : History) : Prop :=
  ∀ j, Tracked (H.ended j) (H.window j) (H.handler.status j) (H.handler.deadline j)

omit [Runtime] [IsoFormat] in
theorem tracks_start (h : SessionFailureHandler) : (History.start h).Tracks :=
  fun _ => ⟨fun hended => (by cases hended), fun hstatus => (by cases hstatus),
    fun _ hwindow => (by cases hwindow)⟩

/-- A careful call keeps the sessions tracked and revives none. -/
theorem History.Tracks.step {H : History} (h : H.Tracks) {now : Int} {op : HandlerOp}
    (careful : Careful H.handler now op) : (H.step now op).Tracks ∧ Unrevived H now op := by
  have hmove := perform_moves careful
  have htracks : (H.step now op).Tracks := fun j => (h j).move (hmove j)
  refine ⟨htracks, fun j hended hactive => ?_, fun j hrecovering hactive => ?_,
    fun j hrecovering => ?_⟩
  · have hstill := (htracks j).ended (by simp [History.step, hended])
    rw [hactive] at hstill
    cases hstill
  · obtain ⟨text, hdeadline, hwindow⟩ := (h j).recovering hrecovering
    exact ⟨text, hwindow, (hmove j).ahead hrecovering hactive hdeadline⟩
  · obtain ⟨text, hdeadline, -⟩ := (htracks j).recovering hrecovering
    rw [hdeadline]
    rfl

/-- Careful runs never revive a session silently. -/
theorem careful_run_never_revives (h : SessionFailureHandler) (run : List (Int × HandlerOp))
    (careful : CarefulRun (History.start h).handler run) : NeverRevived (History.start h) run := by
  have hrun : ∀ (run : List (Int × HandlerOp)) (H : History), H.Tracks →
      CarefulRun H.handler run → NeverRevived H run := by
    intro run
    induction run with
    | nil => exact fun _ _ _ => trivial
    | cons call run ih =>
      obtain ⟨now, op⟩ := call
      intro H htracks hcareful
      obtain ⟨htracks, hunrevived⟩ := htracks.step hcareful.1
      exact ⟨hunrevived, ih _ htracks hcareful.2⟩
  exact hrun run _ (tracks_start h) careful

end Handler

/-! ## A closed session comes back -/

@[reducible] def noonTexts : IsoFormat where
  isoformat time :=
    if time = ⟨true, 1767269100000000⟩ then "2026-01-01T12:05:00+00:00"
    else "2026-01-01T12:00:00+00:00"
  isoformat_ne_empty time := by split_ifs <;> decide

@[reducible] def noonTimes : Runtime where
  coerceInt _ := none
  fromisoformat text :=
    if text = "2026-01-01T12:05:00+00:00" then some ⟨true, 1767269100000000⟩
    else if text = "2026-01-01T12:00:00+00:00" then some ⟨true, 1767268800000000⟩
    else none
  ed25519Verify _ _ _ := false

def quietHandler : SessionFailureHandler := {}

/-- At noon the consumer closes a session by force, and the provider is reported lost. -/
def reopenedRun : List (Int × HandlerOp) :=
  [(1767268800000000, .register "s" "active" none), (1767268800000000,
    .classify "s" .consumerForceClose none ""), (1767268800000000,
    .classify "s" .providerDisconnected none ""), (1767268800000000, .recover "s")]

/-- A session that was closed by force is active again. -/
theorem closed_session_revived :
    letI := noonTimes
    letI := noonTexts
    ¬ NeverRevived (History.start quietHandler) reopenedRun := by
  let _ := noonTimes
  let _ := noonTexts
  rintro ⟨-, -, -, hrecover, -⟩
  exact absurd (hrecover.ended "s" (by decide)) (by decide)

/-- A session that recovers at noon and exhausts its deposit. -/
def carefulRun : List (Int × HandlerOp) :=
  [(1767268800000000, .register "s" "active" none), (1767268800000000,
    .proxyFailure "s" "remote" "timeout"), (1767268800000000, .recover "s"), (1767268800000000,
    .classify "s" .depositExhausted none "")]

theorem careful_noon_never_revives :
    letI := noonTimes
    letI := noonTexts
    NeverRevived (History.start quietHandler) carefulRun := by
  let _ := noonTimes
  let _ := noonTexts
  refine careful_run_never_revives quietHandler carefulRun ⟨?_, ?_, ?_, ?_, trivial⟩
  · exact .inr ⟨by decide, by decide⟩
  · intro _ current hcurrent _
    have hactive : some "active" = some current := hcurrent
    obtain rfl := Option.some.inj hactive
    exact .inr ⟨by decide, fun _ => ⟨by decide, by decide, by decide, by decide⟩⟩
  · intro _
    exact ⟨"2026-01-01T12:05:00+00:00", by decide, ⟨true, 1767269100000000⟩, by decide, rfl,
      by decide⟩
  · intro current _ _
    exact .inl (by decide)

end AidnSpec.Node
