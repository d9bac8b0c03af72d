import AidnSpec.Dispatcher.Admission
import Mathlib.Data.Finset.Basic

/-!
# Network dispatcher

`dispatcher/service.py:25–598` over the store of `dispatcher/store.py` and the gauges of
`dispatcher/metrics.py`. What a handler does is given with the call that runs it; a handler is known
by the key of its route. The store is written after every call and not modelled as a file.
-/

namespace AidnSpec.Dispatcher

open Base

structure DeliveryRecord where
  messageId : String
  sourceSubject : NetworkSubject
  destinationSubject : NetworkSubject
  routeGeneration : ℕ
  deliveryState : DeliveryState
  receivedAt : String
  queuedAt : Option String := none
  deliveredAt : Option String := none
  completedAt : Option String := none
  attemptCount : ℕ := 0
  lastErrorCode : Option String := none
  payloadHash : String

/-- `DeadLetterRecord`; the rest of it are its defaults. -/
structure DeadLetterRecord where
  messageId : String
  sourceSubject : NetworkSubject
  destinationSubject : NetworkSubject
  messageType : String
  routeGeneration : ℕ
  failureStage : String
  errorCode : String
  receivedAt : String
  failedAt : String
  payloadHash : String

structure DispatcherReplayRecord where
  messageId : String
  payloadHash : String
  processedAt : String

structure DispatcherStore where
  routes : Dict (String × String) DispatcherRoute := .empty
  queuedMessages : Dict String NetworkMessage := .empty
  deliveryRecords : Dict String DeliveryRecord := .empty
  replays : Dict String DispatcherReplayRecord := .empty
  deadLetters : List DeadLetterRecord := []

structure DispatcherMetrics where
  messagesSubmitted : ℕ := 0
  messagesDelivered : ℕ := 0
  messagesRejected : ℕ := 0
  messagesDeadLettered : ℕ := 0
  queueDepth : ℕ := 0
  deadLetterCount : ℕ := 0

structure NetworkDispatcher where
  settings : DispatcherSettings
  store : DispatcherStore := {}
  handlers : Finset (String × String) := ∅
  queue : List NetworkMessage := []
  metrics : DispatcherMetrics := {}
  rateLimitTimestamps : List ℚ := []
  safeMode : Bool := false

/-- What a handler does: it returns a value, raises a dispatcher error or something else. -/
inductive HandlerAnswer where
  | returned (result : PyValue)
  | refused (e : DispatcherError)
  | raised (text : String)

/-- `str(KeyError(key))` of a pair of texts. -/
class PairText where
  text : String × String → String

namespace NetworkDispatcher

variable (d : NetworkDispatcher)

/-- `NetworkDispatcher(store=...)`. -/
def rebuilt (safeMode : Bool) : NetworkDispatcher where
  settings := d.settings
  store := d.store
  queue := d.store.queuedMessages.values
  safeMode := safeMode

/-! ## Routes -/

def bound (key : String × String) (route : DispatcherRoute) : NetworkDispatcher :=
  { d with
    store := { d.store with routes := d.store.routes.set key route }
    handlers := insert key d.handlers }

/-- `register_local_route` and `register_remote_route`, with the start of the route types that they
take. -/
def registerRoute (kind complaint : String) (route : DispatcherRoute) :
    Except DispatchFailure Unit × NetworkDispatcher :=
  if kind.toList.isPrefixOf route.routeType.toList = false then
    (.error (.python ⟨.value, complaint⟩), d)
  else
    let key := (route.destinationType, route.destinationId)
    match d.store.routes.get? key with
    | none => (.ok (), d.bound key route)
    | some previous =>
      if previous.routeGeneration < route.routeGeneration then (.ok (), d.bound key route)
      else if previous = route then (.ok (), { d with handlers := insert key d.handlers })
      else (.error (.dispatcher ⟨"ROUTE_GENERATION_MISMATCH", "route_update",
        "replacement route must increment route_generation"⟩), d)

def registerLocalRoute (route : DispatcherRoute) :
    Except DispatchFailure Unit × NetworkDispatcher :=
  d.registerRoute "LOCAL_" "register_local_route requires a local route type" route

def registerRemoteRoute (route : DispatcherRoute) :
    Except DispatchFailure Unit × NetworkDispatcher :=
  d.registerRoute "REMOTE_" "register_remote_route requires a remote route type" route

def revokeRoute (now : Reading) (key : String × String) :
    Option DispatcherRoute × NetworkDispatcher :=
  match d.store.routes.get? key with
  | none => (none, d)
  | some previous =>
    if previous.routeState = .revoked then (some previous, d)
    else
      let revoked := { previous with
        routeGeneration := previous.routeGeneration + 1
        routeState := .revoked
        createdAt := now.text }
      (some revoked, { d with
        store := { d.store with routes := d.store.routes.set key revoked }
        handlers := d.handlers.erase key })

/-! ## Records -/

def received (now : Reading) (m : NetworkMessage) : DeliveryRecord where
  messageId := m.messageId
  sourceSubject := m.sourceSubject
  destinationSubject := m.destinationSubject
  routeGeneration := m.routeGeneration
  deliveryState := .received
  receivedAt := now.text
  payloadHash := m.payloadHash

/-- `self._delivery_records[message_id] = record`. -/
def recorded (messageId : String) (record : DeliveryRecord) : NetworkDispatcher :=
  { d with store := { d.store with
      deliveryRecords := d.store.deliveryRecords.set messageId record } }

/-- One rejected message more. -/
def countRejected : NetworkDispatcher :=
  { d with metrics := { d.metrics with messagesRejected := d.metrics.messagesRejected + 1 } }

/-- The state that `_reject` records. -/
def rejectedState (e : DispatcherError) : DeliveryState :=
  if e.code = "MESSAGE_EXPIRED" then .expired
  else if e.stage = "application" then .applicationRejected
  else .routeFailed

def reject (now : Reading) (record : DeliveryRecord) (m : NetworkMessage) (e : DispatcherError) :
    NetworkDispatcher :=
  { d with
    store := { d.store with
      deliveryRecords := d.store.deliveryRecords.set m.messageId { record with
        deliveryState := rejectedState e
        completedAt := some now.text
        lastErrorCode := some e.code }
      deadLetters := d.store.deadLetters ++ [{
        messageId := m.messageId
        sourceSubject := m.sourceSubject
        destinationSubject := m.destinationSubject
        messageType := m.messageType
        routeGeneration := m.routeGeneration
        failureStage := e.stage
        errorCode := e.code
        receivedAt := record.receivedAt
        failedAt := now.text
        payloadHash := m.payloadHash }] }
    metrics := { d.metrics with
      messagesDeadLettered := d.metrics.messagesDeadLettered + 1
      deadLetterCount := d.metrics.deadLetterCount + 1 } }

/-! ## Submission -/

/-- The timestamps of the last second. -/
def recentTimestamps (tick : ℚ) : List ℚ :=
  d.rateLimitTimestamps.dropWhile fun seen => seen < tick - 1

/-- `_check_rate_limit` answers that the dispatcher is throttled. -/
def throttled (tick : ℚ) : Bool :=
  d.settings.maxMessagesPerSecond ≤ (d.recentTimestamps tick).length

/-- The dispatcher after `_check_rate_limit`. -/
def rateChecked (tick : ℚ) : NetworkDispatcher :=
  { d with rateLimitTimestamps :=
      if d.throttled tick then d.recentTimestamps tick else d.recentTimestamps tick ++ [tick] }

/-- Safe mode takes control and high priority only. -/
def safeModeRefuses (m : NetworkMessage) : Bool :=
  d.safeMode && 1 < min m.priorityClass.rank (policyPriority m.messageType).rank

/-- The queue with a message at its end. -/
def enqueued (m : NetworkMessage) : NetworkDispatcher :=
  { d with
    queue := d.queue ++ [m]
    store := { d.store with queuedMessages := d.store.queuedMessages.set m.messageId m }
    metrics := { d.metrics with
      messagesSubmitted := d.metrics.messagesSubmitted + 1
      queueDepth := d.metrics.queueDepth + 1 } }

variable [Runtime]

/-- The checks of `submit` behind the replay guard, and the queue. -/
def admitMessage (now : Reading) (m : NetworkMessage) :
    Except DispatchFailure DeliveryRecord × NetworkDispatcher :=
  let record := received now m
  let refuse (d : NetworkDispatcher) (e : DispatcherError) :
      Except DispatchFailure DeliveryRecord × NetworkDispatcher :=
    (.error (.dispatcher e), (d.reject now record m e).countRejected)
  match validateDomain d.settings m with
  | .error e => refuse d e
  | .ok _ =>
    let validated := d.recorded m.messageId { record with deliveryState := .envelopeValidated }
    match validateExpiration now m with
    | .error (.dispatcher e) => refuse validated e
    | .error (.python e) => (.error (.python e), validated)
    | .ok _ =>
      let authenticated := validated.recorded m.messageId
        { record with deliveryState := .authenticated }
      match resolveAndAuthorize d.store.routes m with
      | .error e => refuse authenticated e
      | .ok _ =>
        let resolved := authenticated.recorded m.messageId
          { record with deliveryState := .routeResolved }
        if d.settings.maximumQueueMessages ≤ d.queue.length then
          refuse resolved ⟨"QUEUE_FULL", "admission", "Dispatcher queue is full"⟩
        else
          let queued := { record with deliveryState := .queued, queuedAt := some now.text }
          (.ok queued, (resolved.enqueued m).recorded m.messageId queued)

def submit (now : Reading) (tick : ℚ) (m : NetworkMessage) :
    Except DispatchFailure DeliveryRecord × NetworkDispatcher :=
  let record := received now m
  let checked := d.rateChecked tick
  if d.throttled tick then
    let limited := { record with deliveryState := .rateLimited }
    (.ok limited, (checked.recorded m.messageId limited).countRejected)
  else if d.safeModeRefuses m then
    (.error (.dispatcher ⟨"SAFE_MODE_REJECTED", "admission",
        "Message rejected: safe mode active, only CRITICAL_CONTROL and HIGH priority allowed"⟩),
      (checked.recorded m.messageId { record with
        deliveryState := .deliveryFailed
        completedAt := some now.text
        lastErrorCode := some "SAFE_MODE_REJECTED" }).countRejected)
  else
    match d.store.replays.get? m.messageId with
    | some replay =>
      if replay.payloadHash ≠ m.payloadHash then
        (.error (.dispatcher ⟨"MESSAGE_REPLAYED", "replay_guard",
          "Message ID conflicts with an already processed payload"⟩), checked)
      else
        let duplicate := { record with deliveryState := .duplicate }
        (.ok duplicate, checked.recorded m.messageId duplicate)
    | none => checked.admitMessage now m

/-! ## Delivery and restart -/

/-- The checks before a delivery, and after a restart. -/
def recheck (now : Reading) (m : NetworkMessage) : Except DispatchFailure DispatcherRoute :=
  match validateDomain d.settings m with
  | .error e => .error (.dispatcher e)
  | .ok _ =>
    match validateExpiration now m with
    | .error e => .error e
    | .ok _ =>
      match resolveAndAuthorize d.store.routes m with
      | .error e => .error (.dispatcher e)
      | .ok route => .ok route

/-- One message of `restart_revalidation`: it is rejected when it does not pass any more. A time
that cannot be read raises. -/
def revalidate (now : Reading) :
    NetworkDispatcher → List NetworkMessage → Except PyError ℕ × NetworkDispatcher
  | d, [] => (.ok 0, d)
  | d, m :: rest =>
    match d.recheck now m with
    | .ok _ => revalidate now d rest
    | .error (.python e) => (.error e, d)
    | .error (.dispatcher e) =>
      let record := (d.store.deliveryRecords.get? m.messageId).getD
        { received now m with deliveryState := .queued }
      match revalidate now (d.reject now record m e) rest with
      | (.ok count, d') => (.ok (count + 1), d')
      | (.error e, d') => (.error e, d')

/-- A queued message is taken out after a restart. -/
def stale (now : Reading) (m : NetworkMessage) : Bool :=
  match d.recheck now m with
  | .error (.dispatcher _) => true
  | _ => false

/-- `restart_revalidation`: the depth of the queue in the metrics stays. -/
def restartRevalidation (now : Reading) : Except PyError ℕ × NetworkDispatcher :=
  match revalidate now d d.queue with
  | (.error e, d') => (.error e, d')
  | (.ok count, d') => (.ok count, { d' with
      queue := d.queue.filter fun m => !d.stale now m
      store := { d'.store with
        queuedMessages := (d.queue.filter (d.stale now)).foldl
          (fun messages m => messages.erase m.messageId) d.store.queuedMessages } })

omit [Runtime] in
def taken (m : NetworkMessage) (rest : List NetworkMessage) : NetworkDispatcher :=
  { d with
    queue := rest
    store := { d.store with queuedMessages := d.store.queuedMessages.erase m.messageId }
    metrics := { d.metrics with queueDepth := d.metrics.queueDepth - 1 } }

omit [Runtime] in
/-- The record of a message that was handled. -/
def completedRecord (now : Reading) (record : DeliveryRecord) : DeliveryRecord :=
  { record with
    deliveryState := .applicationAccepted
    deliveredAt := some now.text
    completedAt := some now.text
    attemptCount := record.attemptCount + 1 }

omit [Runtime] in
def completed (now : Reading) (record : DeliveryRecord) (m : NetworkMessage) : NetworkDispatcher :=
  { d with
    store := { d.store with
      replays := d.store.replays.set m.messageId {
        messageId := m.messageId
        payloadHash := m.payloadHash
        processedAt := now.text }
      deliveryRecords := d.store.deliveryRecords.set m.messageId (completedRecord now record) }
    metrics := { d.metrics with messagesDelivered := d.metrics.messagesDelivered + 1 } }

variable [PairText]

/-- The delivery of a message that was taken, with the record that it has. -/
def deliver (now : Reading) (answer : HandlerAnswer) (record : DeliveryRecord)
    (m : NetworkMessage) :
    Except DispatchFailure (DeliveryRecord × PyValue) × NetworkDispatcher :=
  let refuse (d : NetworkDispatcher) (e : DispatcherError) :
      Except DispatchFailure (DeliveryRecord × PyValue) × NetworkDispatcher :=
    (.error (.dispatcher e), (d.reject now record m e).countRejected)
  match d.recheck now m with
  | .error (.dispatcher e) => refuse d e
  | .error (.python e) => refuse d ⟨"APPLICATION_REJECTED", "application", e.message⟩
  | .ok route =>
    let attempted := d.recorded m.messageId { record with deliveryState := .deliveryAttempted }
    let key := (route.destinationType, route.destinationId)
    if key ∉ d.handlers then
      refuse attempted ⟨"APPLICATION_REJECTED", "application", PairText.text key⟩
    else
      match answer with
      | .returned result =>
        (.ok (completedRecord now record, result), attempted.completed now record m)
      | .refused e => refuse attempted e
      | .raised text => refuse attempted ⟨"APPLICATION_REJECTED", "application", text⟩

def drainOnce (now : Reading) (answer : HandlerAnswer) :
    Except DispatchFailure (Option (DeliveryRecord × PyValue)) × NetworkDispatcher :=
  match d.queue with
  | [] => (.ok none, d)
  | first :: rest =>
    let chosen := earliest first rest
    let taken := d.taken chosen.1 chosen.2
    match d.store.deliveryRecords.get? chosen.1.messageId with
    | none => (.error (.python ⟨.key, chosen.1.messageId⟩), taken)
    | some record =>
      match taken.deliver now answer record chosen.1 with
      | (.ok delivered, d') => (.ok (some delivered), d')
      | (.error e, d') => (.error e, d')

end NetworkDispatcher

end AidnSpec.Dispatcher
