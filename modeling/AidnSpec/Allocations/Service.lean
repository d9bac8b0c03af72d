import AidnSpec.Base.Conversions
import AidnSpec.Base.PyFloat

/-!
# Settlement of wallet allocations

`wallet_allocation_service.py` over the allocation events of its host. The streams of disputes,
corrections, ledger and journal entries, which no call reads back, are left out; whether a write of
them or of the snapshot raises is an answer of the host. Readings of the clock lie in the years a
`datetime` can hold; the end of a grace period may lie behind them.
-/

namespace AidnSpec.Allocations

open Base

/-! ## Records -/

inductive SettlementStatus where
  | grace
  | hold
  | closed
  deriving DecidableEq

inductive DisputeStatus where
  | none
  | open
  | resolved
  deriving DecidableEq

inductive HoldSource where
  | manual
  | dispute
  | strictAccounting
  | system
  deriving DecidableEq

inductive AllocationStatus where
  | released
  | expired
  deriving DecidableEq

/-- `WalletAllocationEvent`. -/
structure AllocationEvent where
  sequenceId : ℕ
  eventId : String
  allocationId : String
  ownerId : String
  nodeId : String
  operatorId : String
  bundleId : String
  workloadType : String
  status : AllocationStatus
  settlementStatus : SettlementStatus
  occurredAt : String
  holdReason : Option String := none
  holdSource : Option HoldSource := none
  holdStartedAt : Option String := none
  holdReleasedAt : Option String := none
  graceExpiresAt : Option String := none
  closedAt : Option String := none
  reopenedAt : Option String := none
  reopenReason : Option String := none
  reopenCount : ℕ := 0
  disputeId : Option String := none
  disputeOpenedAt : Option String := none
  disputeReason : Option String := none
  disputeStatus : DisputeStatus := .none
  disputeOpenedBy : Option String := none
  disputeResolvedAt : Option String := none
  disputeResolution : Option String := none
  disputeResolutionReason : Option String := none
  usageEventCount : ℕ
  baseUsageTotalQ : PyFloat
  effectiveUsageTotalQ : PyFloat
  correctionCount : ℕ := 0
  deriving DecidableEq

/-- A usage event: the allocation it names and `quote.charges.total_q`. -/
structure UsageEvent where
  allocationId : Option String
  totalQ : PyFloat

structure Allocation where
  allocationId : String
  ownerId : String
  bundleId : String
  workloadType : String

/-- The configuration of the host. -/
structure Settings where
  nodeId : String
  operatorId : String
  gracePeriodSeconds : ℕ

structure Host where
  usageEvents : List UsageEvent := []
  strictHeldAllocations : List String := []
  allocationEvents : List AllocationEvent := []
  nextAllocationSequence : ℕ := 1

/-- A reading of `_wallet_allocation_now` and its text in ISO format. -/
structure Reading where
  seconds : Rat
  text : String

/-- What a call meets: the readings of the clock in their order, the identifier it draws, and
whether the writes of the reconciliation and of the call itself raise. -/
structure Env where
  now : ℕ → Reading
  utcNow : String
  uuid : String
  reconciliationSaved : Bool := true
  saved : Bool := true

/-- What a call raises. -/
inductive AllocationFailure where
  | value (text : String)
  | key (eventId : String)
  | validation (field : String)
  | host

/-- Library behaviour. -/
class Runtime where
  /-- `sum` of floats. -/
  sum : List PyFloat → PyFloat
  /-- `datetime.fromtimestamp(now + seconds, UTC).isoformat()`; `none` when it raises. -/
  graceEnd : Rat → ℕ → Option String
  /-- `datetime.fromisoformat(text).timestamp()`; `none` on a `ValueError`. -/
  timestampOf : String → Option Rat

variable [Runtime] (settings : Settings)

def closedImmediately : Bool := settings.gracePeriodSeconds == 0

/-- `grace_expires_at` of an event whose grace period starts now; the outer `none` when it
raises. -/
def graceExpiry (now : Reading) : Option (Option String) :=
  if closedImmediately settings then some none
  else (Runtime.graceEnd now.seconds settings.gracePeriodSeconds).map some

/-- `closed` without a grace period, else `grace`. -/
def settled : SettlementStatus := if closedImmediately settings then .closed else .grace

/-- `closed_at` of an event whose grace period starts now. -/
def closedAtOnce (now : Reading) : Option String :=
  if closedImmediately settings then some now.text else none

/-! ## Reconciliation -/

def matchingUsage (usage : List UsageEvent) (allocationId : String) : List UsageEvent :=
  usage.filter (·.allocationId == some allocationId)

/-- The usage counters of an event, and whether they change. -/
def withUsage (usage : List UsageEvent) (e : AllocationEvent) : AllocationEvent × Bool :=
  let found := matchingUsage usage e.allocationId
  let count := found.length
  let total := Runtime.sum (found.map (·.totalQ))
  let recount := e.usageEventCount != count
  let rebase := !e.baseUsageTotalQ.eq total
  let retotal := e.correctionCount == 0 && !e.effectiveUsageTotalQ.eq total
  ({ e with
      usageEventCount := count
      baseUsageTotalQ := if rebase then total else e.baseUsageTotalQ
      effectiveUsageTotalQ := if retotal then total else e.effectiveUsageTotalQ },
    recount || rebase || retotal)

def graceOver (now : Reading) (e : AllocationEvent) : Bool :=
  match e.graceExpiresAt with
  | none => false
  | some text => decide ((Runtime.timestampOf text).getD now.seconds ≤ now.seconds)

/-- One event of `reconcile_wallet_allocation_events`, and whether it changes. -/
def reconcileEvent (now : Reading) (usage : List UsageEvent) (e : AllocationEvent) :
    AllocationEvent × Bool :=
  let disputeOpen := e.disputeStatus == .open
  if e.settlementStatus = .hold then (e, false)
  else if e.settlementStatus = .closed ∧ disputeOpen = false then (e, false)
  else
    let counted := withUsage usage e
    if disputeOpen then counted
    else if graceOver now e then
      ({ counted.1 with settlementStatus := .closed, closedAt := some now.text }, true)
    else counted

namespace Host

variable (h : Host)

/-- The host after the loop of `reconcile_wallet_allocation_events`. -/
def reconciled (now : Reading) : Host :=
  { h with allocationEvents := h.allocationEvents.map fun e =>
      (reconcileEvent now h.usageEvents e).1 }

/-- The loop changes an event, which is then persisted. -/
def reconciliationChanges (now : Reading) : Bool :=
  h.allocationEvents.any fun e => (reconcileEvent now h.usageEvents e).2

/-- `reconcile_wallet_allocation_events`. -/
def reconcile (env : Env) : Except AllocationFailure Unit × Host :=
  (if h.reconciliationChanges (env.now 0) && !env.reconciliationSaved then .error .host else .ok (),
    h.reconciled (env.now 0))

end Host

/-! ## Calls on one event -/

/-- What a call does with the event it found. -/
inductive Attempt where
  /-- It raises before a change. -/
  | refused (failure : AllocationFailure)
  /-- It raises behind a change. -/
  | broken (failure : AllocationFailure) (event : AllocationEvent)
  | changed (event : AllocationEvent)

/-- The years a `datetime` can hold are over. -/
def outOfRange : AllocationFailure := .value "year is out of range"

/-- `reason.strip() or None`. -/
def normalizedReason (reason : Option String) : Option String :=
  (reason.map stripped).bind fun text => if text.isEmpty then none else some text

variable (env : Env)

/-- `reopen_wallet_allocation_event` on the event it found. -/
def reopenAttempt (reason : Option String) (e : AllocationEvent) : Attempt :=
  if e.settlementStatus ≠ .closed then
    .refused (.value s!"Wallet allocation event is not closed: {e.eventId}")
  else if e.disputeStatus = .open then
    .refused (.value s!"Wallet allocation event is disputed: {e.eventId}")
  else
    let now := env.now 1
    let started := { e with settlementStatus := settled settings }
    match graceExpiry settings now with
    | none => .broken outOfRange started
    | some expiry => .changed { started with
        graceExpiresAt := expiry
        closedAt := closedAtOnce settings now
        reopenedAt := some now.text
        reopenReason := normalizedReason reason
        reopenCount := e.reopenCount + 1 }

/-- `dispute_wallet_allocation_event` on the event it found. -/
def disputeAttempt (reason : String) (e : AllocationEvent) : Attempt :=
  if e.disputeStatus = .open then
    .refused (.value s!"Wallet allocation event is already disputed: {e.eventId}")
  else
    let timestamp := (env.now 1).text
    .changed { e with
      disputeId := some env.uuid
      disputeOpenedAt := some timestamp
      disputeReason := some reason
      disputeStatus := .open
      disputeOpenedBy := some settings.operatorId
      disputeResolvedAt := none
      disputeResolution := none
      disputeResolutionReason := none
      settlementStatus := .hold
      holdReason := some "dispute_opened"
      holdSource := some .dispute
      holdStartedAt := some timestamp
      holdReleasedAt := none
      graceExpiresAt := none
      closedAt := none }

/-- `resolve_wallet_allocation_dispute` on the event it found. -/
def resolveAttempt (resolution : String) (reason : Option String) (e : AllocationEvent) :
    Attempt :=
  if e.disputeStatus ≠ .open then
    .refused (.value s!"Wallet allocation event is not disputed: {e.eventId}")
  else
    let now := env.now 1
    let decided := { e with
      disputeStatus := .resolved
      disputeResolvedAt := some now.text
      disputeResolution := some resolution
      disputeResolutionReason := normalizedReason reason }
    if resolution = "accepted" then
      let started := { decided with settlementStatus := settled settings }
      match graceExpiry settings now with
      | none => .broken outOfRange started
      | some expiry => .changed { started with
          graceExpiresAt := expiry
          closedAt := closedAtOnce settings now
          reopenedAt := some now.text
          reopenReason := (normalizedReason reason).or e.disputeReason
          reopenCount := e.reopenCount + 1 }
    else if resolution = "rejected" ∨ resolution = "withdrawn" then
      .changed { decided with
        settlementStatus := .closed
        graceExpiresAt := none
        closedAt := some now.text }
    else
      -- The dispute is marked resolved before its resolution is looked at.
      .broken (.value s!"Unsupported dispute resolution: {resolution}") decided

/-- `hold_wallet_allocation_event` on the event it found. -/
def holdAttempt (reason : String) (e : AllocationEvent) : Attempt :=
  if e.settlementStatus = .hold then
    .refused (.value s!"Wallet allocation event is already held: {e.eventId}")
  else if e.disputeStatus = .open then
    .refused (.value s!"Wallet allocation event is disputed: {e.eventId}")
  else
    .changed { e with
      settlementStatus := .hold
      holdReason := some reason
      holdSource := some .manual
      holdStartedAt := some (env.now 1).text }

/-- The status a release sets. -/
inductive ReleaseTarget where
  | grace
  | closed

/-- `release_wallet_allocation_event` on the event it found. -/
def releaseAttempt (target : ReleaseTarget) (e : AllocationEvent) : Attempt :=
  if e.settlementStatus ≠ .hold then
    .refused (.value s!"Wallet allocation event is not held: {e.eventId}")
  else
    let now := env.now 1
    let released := { e with
      holdReleasedAt := some now.text
      holdReason := none
      holdSource := none
      holdStartedAt := none }
    match target with
    | .closed => .changed { released with
        settlementStatus := .closed
        closedAt := some now.text
        graceExpiresAt := none }
    | .grace =>
      let waiting := { released with settlementStatus := .grace }
      match Runtime.graceEnd now.seconds settings.gracePeriodSeconds with
      | none => .broken outOfRange waiting
      | some expiry => .changed { waiting with
          graceExpiresAt := some expiry
          closedAt := none }

/-- `Field(ge=0.0)`. -/
def atLeastZero (x : PyFloat) : Bool := PyFloat.le (.finite "0.0" 0) x

/-- `apply_wallet_allocation_correction` on the event it found. The record of the correction
checks its totals after the event has changed. -/
def correctionAttempt (total : PyFloat) (e : AllocationEvent) : Attempt :=
  let corrected := { e with
    effectiveUsageTotalQ := total
    correctionCount := e.correctionCount + 1 }
  if !atLeastZero e.baseUsageTotalQ then .broken (.validation "base_usage_total_q") corrected
  else if !atLeastZero e.effectiveUsageTotalQ then
    .broken (.validation "effective_usage_total_q_before") corrected
  else if !atLeastZero total then
    .broken (.validation "effective_usage_total_q_after") corrected
  else .changed corrected

/-! ## Calls -/

def recordedEvent (h : Host) (allocation : Allocation) (status : AllocationStatus)
    (expiry : Option String) : AllocationEvent :=
  let found := matchingUsage h.usageEvents allocation.allocationId
  let total := Runtime.sum (found.map (·.totalQ))
  { sequenceId := h.nextAllocationSequence
    eventId := env.uuid
    allocationId := allocation.allocationId
    ownerId := allocation.ownerId
    nodeId := settings.nodeId
    operatorId := settings.operatorId
    bundleId := allocation.bundleId
    workloadType := allocation.workloadType
    status
    occurredAt := env.utcNow
    settlementStatus := settled settings
    graceExpiresAt := expiry
    closedAt := closedAtOnce settings (env.now 0)
    usageEventCount := found.length
    baseUsageTotalQ := total
    effectiveUsageTotalQ := total }

/-- The hold of an event whose usage strict accounting has blocked. -/
def strictlyHeld (now : Reading) (e : AllocationEvent) : AllocationEvent :=
  { e with
    settlementStatus := .hold
    holdReason := some "strict_accounting_blocked"
    holdSource := some .strictAccounting
    holdStartedAt := some now.text
    holdReleasedAt := none
    graceExpiresAt := none
    closedAt := none }

namespace Host

variable (h : Host)

/-- `record_wallet_allocation_event`. -/
def record (allocation : Allocation) (status : AllocationStatus) :
    Except AllocationFailure Unit × Host :=
  match graceExpiry settings (env.now 0) with
  | none => (.error outOfRange, h)
  | some expiry =>
    let e := recordedEvent settings env h allocation status expiry
    if !atLeastZero e.baseUsageTotalQ then (.error (.validation "base_usage_total_q"), h)
    else
      let strict := h.strictHeldAllocations.contains allocation.allocationId
      (if env.saved then .ok () else .error .host,
        { h with
          allocationEvents :=
            h.allocationEvents ++ [if strict then strictlyHeld (env.now 1) e else e]
          strictHeldAllocations := h.strictHeldAllocations.filter (· != allocation.allocationId)
          nextAllocationSequence := h.nextAllocationSequence + 1 })

/-- `_find_allocation_event`, as a position. -/
def findAllocationEvent (eventId : String) : Option ℕ :=
  h.allocationEvents.findIdx? (·.eventId == eventId)

def replaced (i : ℕ) (e : AllocationEvent) : Host :=
  { h with allocationEvents := h.allocationEvents.set i e }

/-- A call on one event: reconciliation, the event, its change, and the writes behind it. -/
def onEvent (eventId : String) (attempt : AllocationEvent → Attempt) :
    Except AllocationFailure Unit × Host :=
  match h.reconcile env with
  | (.error failure, reconciled) => (.error failure, reconciled)
  | (.ok _, reconciled) =>
    match reconciled.findAllocationEvent eventId with
    | none => (.error (.key eventId), reconciled)
    | some i =>
      match reconciled.allocationEvents[i]? with
      | none => (.error (.key eventId), reconciled)
      | some e =>
        match attempt e with
        | .refused failure => (.error failure, reconciled)
        | .broken failure e' => (.error failure, reconciled.replaced i e')
        | .changed e' =>
          (if env.saved then .ok () else .error .host, reconciled.replaced i e')

end Host

/-- A call of the service, or a change of the usage and of the blocked allocations of the host. -/
inductive Call where
  | record (allocation : Allocation) (status : AllocationStatus)
  | reopen (eventId : String) (reason : Option String)
  | dispute (eventId reason : String)
  | resolve (eventId resolution : String) (reason : Option String)
  | hold (eventId reason : String)
  | release (eventId reason : String) (target : ReleaseTarget)
  | correction (eventId reason : String) (effectiveUsageTotalQ : PyFloat)
  | reconcile
  | usage (events : List UsageEvent)
  | strict (allocationIds : List String)

def Call.answer (h : Host) : Call → Except AllocationFailure Unit × Host
  | .record allocation status => h.record settings env allocation status
  | .reopen eventId reason => h.onEvent env eventId (reopenAttempt settings env reason)
  | .dispute eventId reason => h.onEvent env eventId (disputeAttempt settings env reason)
  | .resolve eventId resolution reason =>
    h.onEvent env eventId (resolveAttempt settings env resolution reason)
  | .hold eventId reason => h.onEvent env eventId (holdAttempt env reason)
  | .release eventId _ target => h.onEvent env eventId (releaseAttempt settings env target)
  | .correction eventId _ total => h.onEvent env eventId (correctionAttempt total)
  | .reconcile => h.reconcile env
  | .usage events => (.ok (), { h with usageEvents := events })
  | .strict allocationIds => (.ok (), { h with strictHeldAllocations := allocationIds })

def callStep (h : Host) (c : Env × Call) : Host := (c.2.answer settings c.1 h).2

end AidnSpec.Allocations
