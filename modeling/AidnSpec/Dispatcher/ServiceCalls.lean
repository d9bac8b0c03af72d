import AidnSpec.Dispatcher.Service

/-!
# Calls of the dispatcher

What each call of the dispatcher leaves of the queue, the store and the metrics. Only a submission
that is queued adds to the queue, and only a delivery and the revalidation after a restart take from
it.
-/

namespace AidnSpec.Dispatcher

open Base List

/-- A delivery record says that a message is done with: accepted, or in a dead letter. -/
def DeliveryState.settled : DeliveryState → Bool
  | .applicationAccepted | .applicationRejected | .expired | .routeFailed | .deadLettered => true
  | _ => false

namespace NetworkDispatcher

variable {d d' d₁ d₂ d₃ : NetworkDispatcher}

/-- The queue stays, and no dead letter goes. -/
structure SameQueue (d d' : NetworkDispatcher) : Prop where
  settings : d'.settings = d.settings
  queue : d'.queue = d.queue
  queued : d'.store.queuedMessages = d.store.queuedMessages
  replays : d'.store.replays = d.store.replays
  depth : d'.metrics.queueDepth = d.metrics.queueDepth
  letters : d.store.deadLetters ⊆ d'.store.deadLetters

/-- Only the record of one message is written. -/
def RecordsOnly (messageId : String) (d d' : NetworkDispatcher) : Prop :=
  ∀ id, id ≠ messageId → d'.store.deliveryRecords.get? id = d.store.deliveryRecords.get? id

@[refl] theorem SameQueue.rfl : SameQueue d d :=
  ⟨Eq.refl _, Eq.refl _, Eq.refl _, Eq.refl _, Eq.refl _, List.Subset.refl _⟩

theorem SameQueue.trans (h : SameQueue d₁ d₂) (h' : SameQueue d₂ d₃) : SameQueue d₁ d₃ where
  settings := h'.settings.trans h.settings
  queue := h'.queue.trans h.queue
  queued := h'.queued.trans h.queued
  replays := h'.replays.trans h.replays
  depth := h'.depth.trans h.depth
  letters := List.Subset.trans h.letters h'.letters

theorem RecordsOnly.trans {id : String} (h : RecordsOnly id d₁ d₂) (h' : RecordsOnly id d₂ d₃) :
    RecordsOnly id d₁ d₃ := fun j hj => (h' j hj).trans (h j hj)

theorem sameQueue_recorded (id : String) (record : DeliveryRecord) :
    SameQueue d (d.recorded id record) :=
  ⟨rfl, rfl, rfl, rfl, rfl, List.Subset.refl _⟩

theorem recordsOnly_recorded (id : String) (record : DeliveryRecord) :
    RecordsOnly id d (d.recorded id record) := fun _ hj => Dict.get?_set_of_ne _ _ hj

theorem sameQueue_rejected (now : Reading) (record : DeliveryRecord) (m : NetworkMessage)
    (e : DispatcherError) : SameQueue d (d.reject now record m e) :=
  ⟨rfl, rfl, rfl, rfl, rfl, subset_append_left _ _⟩

theorem sameQueue_reject (now : Reading) (record : DeliveryRecord) (m : NetworkMessage)
    (e : DispatcherError) : SameQueue d (d.reject now record m e).countRejected :=
  (sameQueue_rejected now record m e).trans ⟨rfl, rfl, rfl, rfl, rfl, List.Subset.refl _⟩

theorem recordsOnly_reject (now : Reading) (record : DeliveryRecord) (m : NetworkMessage)
    (e : DispatcherError) : RecordsOnly m.messageId d (d.reject now record m e).countRejected :=
  fun _ hj => Dict.get?_set_of_ne _ _ hj

/-- A rejected message has a dead letter. -/
theorem letter_reject (now : Reading) (record : DeliveryRecord) (m : NetworkMessage)
    (e : DispatcherError) : ∃ letter ∈ (d.reject now record m e).countRejected.store.deadLetters,
      letter.messageId = m.messageId :=
  ⟨_, mem_append_right _ (mem_singleton_self _), rfl⟩

theorem sameQueue_rateChecked (tick : ℚ) : SameQueue d (d.rateChecked tick) :=
  ⟨rfl, rfl, rfl, rfl, rfl, List.Subset.refl _⟩

/-! ## Submission -/

/-- A submission is answered before anything is looked up. -/
def answersEarly (d : NetworkDispatcher) (tick : ℚ) (m : NetworkMessage) : Bool :=
  d.throttled tick || d.safeModeRefuses m

variable [Runtime]

/-- A submission raises when the expiration of the message is read. -/
def stumbles (d : NetworkDispatcher) (now : Reading) (m : NetworkMessage) : Bool :=
  match validateDomain d.settings m, validateExpiration now m with
  | .ok _, .error (.python _) => true
  | _, _ => false

/-- A message that is not queued leaves the queue. -/
structure NotQueued (d : NetworkDispatcher) (now : Reading) (tick : ℚ) (m : NetworkMessage)
    (answer : Except DispatchFailure DeliveryRecord) (d' : NetworkDispatcher) : Prop where
  answer : ∀ record, answer = .ok record → record.deliveryState ≠ .queued
  same : SameQueue d d'
  records : RecordsOnly m.messageId d d'
  early : d.store.replays.get? m.messageId = none →
    (d.answersEarly tick m || d.stumbles now m) = true → ∃ record,
      d'.store.deliveryRecords.get? m.messageId = some record ∧
        record.deliveryState.settled = false

/-- The expiration of a message is a time with a zone. -/
def Timed (m : NetworkMessage) : Prop :=
  ∃ expiration, Runtime.fromisoformat m.expiration = some expiration ∧ expiration.aware = true

/-- A message that is queued is new to the replay guard, and there was room for it. -/
structure Queued (d : NetworkDispatcher) (m : NetworkMessage)
    (answer : Except DispatchFailure DeliveryRecord) (d' : NetworkDispatcher) : Prop where
  answer : ∃ record, answer = .ok record ∧ record.deliveryState = .queued ∧
    d'.store.deliveryRecords.get? m.messageId = some record
  room : d.queue.length < d.settings.maximumQueueMessages
  replayed : d.store.replays.get? m.messageId = none
  timed : Timed m
  settings : d'.settings = d.settings
  queue : d'.queue = d.queue ++ [m]
  queued : d'.store.queuedMessages = d.store.queuedMessages.set m.messageId m
  replays : d'.store.replays = d.store.replays
  depth : d'.metrics.queueDepth = d.metrics.queueDepth + 1
  letters : d.store.deadLetters ⊆ d'.store.deadLetters
  records : RecordsOnly m.messageId d d'

variable {now : Reading} {m : NetworkMessage} {messages : List NetworkMessage}

theorem timed_of_validateExpiration {u : Unit} (h : validateExpiration now m = .ok u) :
    Timed m := by
  unfold validateExpiration at h
  split at h
  · cases h
  · next expiration hexpiration =>
    split_ifs at h with haware
    exact ⟨expiration, hexpiration, by simpa using haware⟩

/-- Behind the replay guard a message is queued, or rejected with a dead letter or an exception. -/
theorem admit_cases (now : Reading) (m : NetworkMessage)
    (hreplayed : d.store.replays.get? m.messageId = none) :
    Queued d m (d.admitMessage now m).1 (d.admitMessage now m).2 ∨
      ((∃ e, (d.admitMessage now m).1 = .error e) ∧ SameQueue d (d.admitMessage now m).2 ∧
        RecordsOnly m.messageId d (d.admitMessage now m).2) := by
  unfold admitMessage
  dsimp only
  cases validateDomain d.settings m with
  | error e =>
    exact .inr ⟨⟨_, rfl⟩, sameQueue_reject now _ m e, recordsOnly_reject now _ m e⟩
  | ok _ =>
    dsimp only
    have hsame := sameQueue_recorded (d := d) m.messageId
      { received now m with deliveryState := .envelopeValidated }
    have honly := recordsOnly_recorded (d := d) m.messageId
      { received now m with deliveryState := .envelopeValidated }
    cases hexpiration : validateExpiration now m with
    | error failure =>
      cases failure with
      | dispatcher e =>
        exact .inr ⟨⟨_, rfl⟩, hsame.trans (sameQueue_reject now _ m e),
          honly.trans (recordsOnly_reject now _ m e)⟩
      | python e => exact .inr ⟨⟨_, rfl⟩, hsame, honly⟩
    | ok _ =>
      dsimp only
      replace hsame := hsame.trans (sameQueue_recorded m.messageId
        { received now m with deliveryState := .authenticated })
      replace honly := honly.trans (recordsOnly_recorded m.messageId
        { received now m with deliveryState := .authenticated })
      cases resolveAndAuthorize d.store.routes m with
      | error e =>
        exact .inr ⟨⟨_, rfl⟩, hsame.trans (sameQueue_reject now _ m e),
          honly.trans (recordsOnly_reject now _ m e)⟩
      | ok route =>
        dsimp only
        replace hsame := hsame.trans (sameQueue_recorded m.messageId
          { received now m with deliveryState := .routeResolved })
        replace honly := honly.trans (recordsOnly_recorded m.messageId
          { received now m with deliveryState := .routeResolved })
        split_ifs with hroom
        · exact .inr ⟨⟨_, rfl⟩, hsame.trans (sameQueue_reject now _ m _),
            honly.trans (recordsOnly_reject now _ m _)⟩
        · left
          exact {
            answer := ⟨_, rfl, rfl, Dict.get?_set_self _ _ _⟩
            room := Nat.lt_of_not_le hroom
            replayed := hreplayed
            timed := timed_of_validateExpiration hexpiration
            settings := rfl
            queue := rfl
            queued := rfl
            replays := rfl
            depth := rfl
            letters := List.Subset.refl _
            records := honly.trans (recordsOnly_recorded m.messageId _) }

/-- A message whose expiration can be read does not stumble. -/
theorem not_stumbles (h : Timed m) : d.stumbles now m = false := by
  obtain ⟨expiration, hexpiration, haware⟩ := h
  unfold stumbles validateExpiration
  rw [hexpiration]
  cases validateDomain d.settings m with
  | error e => rfl
  | ok _ =>
    simp only [haware, Bool.true_eq_false, if_false]
    by_cases htime : expiration.micros ≤ now.micros <;> simp [htime]

theorem admit_of_stumbles (h : d.stumbles now m = true) :
    ∃ record, (d.admitMessage now m).2.store.deliveryRecords.get? m.messageId = some record ∧
      record.deliveryState.settled = false := by
  unfold stumbles at h
  unfold admitMessage
  dsimp only
  cases hdomain : validateDomain d.settings m with
  | error e => simp [hdomain] at h
  | ok _ =>
    cases hexpiration : validateExpiration now m with
    | ok _ => simp [hdomain, hexpiration] at h
    | error failure =>
      cases failure with
      | dispatcher e => simp [hdomain, hexpiration] at h
      | python e => exact ⟨_, Dict.get?_set_self _ _ _, rfl⟩

theorem submit_cases (now : Reading) (tick : ℚ) (m : NetworkMessage) :
    NotQueued d now tick m (d.submit now tick m).1 (d.submit now tick m).2 ∨
      d.answersEarly tick m = false ∧
        Queued d m (d.submit now tick m).1 (d.submit now tick m).2 := by
  have hchecked := sameQueue_rateChecked (d := d) tick
  unfold submit
  dsimp only
  split_ifs with hthrottled hsafe
  · left
    refine ⟨?_, hchecked.trans ⟨rfl, rfl, rfl, rfl, rfl, List.Subset.refl _⟩,
      fun _ hj => Dict.get?_set_of_ne _ _ hj, fun _ _ => ⟨_, Dict.get?_set_self _ _ _, rfl⟩⟩
    rintro record ⟨⟩ h
    cases h
  · left
    exact ⟨(fun _ h => nomatch h), hchecked.trans ⟨rfl, rfl, rfl, rfl, rfl, List.Subset.refl _⟩,
      fun _ hj => Dict.get?_set_of_ne _ _ hj, fun _ _ => ⟨_, Dict.get?_set_self _ _ _, rfl⟩⟩
  · have hearly : d.answersEarly tick m = false := by
      simp [answersEarly, hthrottled, hsafe]
    cases hreplay : d.store.replays.get? m.messageId with
    | some replay =>
      left
      have hknown : d.store.replays.get? m.messageId ≠ none := by simp [hreplay]
      dsimp only
      split_ifs with hhash
      · exact ⟨(fun _ h => nomatch h), hchecked, fun _ _ => rfl, fun h => absurd h hknown⟩
      · refine ⟨?_, hchecked.trans (sameQueue_recorded m.messageId _),
          recordsOnly_recorded m.messageId _, fun h => absurd h hknown⟩
        rintro record ⟨⟩ h
        cases h
    | none =>
      dsimp only
      obtain hqueued | ⟨⟨e, he⟩, hsame, honly⟩ :=
        admit_cases (d := d.rateChecked tick) now m hreplay
      · right
        exact ⟨hearly, hqueued.answer, hqueued.room, hqueued.replayed, hqueued.timed,
          hqueued.settings, hqueued.queue, hqueued.queued, hqueued.replays, hqueued.depth,
          hqueued.letters, hqueued.records⟩
      · left
        refine ⟨?_, hchecked.trans hsame, honly, fun _ h => ?_⟩
        · intro record hrecord
          rw [he] at hrecord
          cases hrecord
        · rw [hearly, Bool.false_or] at h
          exact admit_of_stumbles (d := d.rateChecked tick) h

/-! ## Delivery -/

/-- A message is taken from the queue; whatever comes of it, only its own record is written. -/
structure Taken (d : NetworkDispatcher) (m : NetworkMessage) (rest : List NetworkMessage)
    (d' : NetworkDispatcher) : Prop where
  perm : d.queue.Perm (m :: rest)
  settings : d'.settings = d.settings
  queue : d'.queue = rest
  queued : d'.store.queuedMessages = d.store.queuedMessages.erase m.messageId
  depth : d'.metrics.queueDepth = d.metrics.queueDepth - 1
  letters : d.store.deadLetters ⊆ d'.store.deadLetters
  records : RecordsOnly m.messageId d d'

omit [Runtime] in
theorem Taken.of_same {rest : List NetworkMessage} (hperm : d.queue.Perm (m :: rest))
    (hsame : SameQueue (d.taken m rest) d') (honly : RecordsOnly m.messageId (d.taken m rest) d') :
    Taken d m rest d' where
  perm := hperm
  settings := hsame.settings
  queue := hsame.queue
  queued := hsame.queued
  depth := hsame.depth
  letters := hsame.letters
  records := honly

variable [PairText]

/-- A delivery completes, and the replay guard knows the message, or a dead letter is written. -/
theorem deliver_cases (now : Reading) (answer : HandlerAnswer) (record : DeliveryRecord)
    (m : NetworkMessage) :
    (∃ delivered completed, d.deliver now answer record m = (.ok delivered, completed) ∧
      completed.settings = d.settings ∧ completed.queue = d.queue ∧
      completed.store.queuedMessages = d.store.queuedMessages ∧
      completed.metrics.queueDepth = d.metrics.queueDepth ∧
      completed.store.deadLetters = d.store.deadLetters ∧ RecordsOnly m.messageId d completed ∧
      ∃ replay, completed.store.replays = d.store.replays.set m.messageId replay) ∨
    ∃ e rejected, d.deliver now answer record m = (.error e, rejected) ∧ SameQueue d rejected ∧
      RecordsOnly m.messageId d rejected ∧
      ∃ letter ∈ rejected.store.deadLetters, letter.messageId = m.messageId := by
  unfold deliver
  dsimp only
  cases d.recheck now m with
  | error failure =>
    right
    cases failure with
    | dispatcher e =>
      exact ⟨_, _, rfl, sameQueue_reject now record m e, recordsOnly_reject now record m e,
        letter_reject now record m e⟩
    | python e =>
      exact ⟨_, _, rfl, sameQueue_reject now record m _, recordsOnly_reject now record m _,
        letter_reject now record m _⟩
  | ok route =>
    dsimp only
    have hsame := sameQueue_recorded (d := d) m.messageId
      { record with deliveryState := .deliveryAttempted }
    have honly := recordsOnly_recorded (d := d) m.messageId
      { record with deliveryState := .deliveryAttempted }
    split_ifs with hhandler
    · cases answer with
      | returned result =>
        left
        exact ⟨_, _, rfl, rfl, rfl, rfl, rfl, rfl,
          honly.trans fun _ hj => Dict.get?_set_of_ne _ _ hj, _, rfl⟩
      | refused e =>
        right
        exact ⟨_, _, rfl, hsame.trans (sameQueue_reject now record m e),
          honly.trans (recordsOnly_reject now record m e), letter_reject now record m e⟩
      | raised text =>
        right
        exact ⟨_, _, rfl, hsame.trans (sameQueue_reject now record m _),
          honly.trans (recordsOnly_reject now record m _), letter_reject now record m _⟩
    · right
      exact ⟨_, _, rfl, hsame.trans (sameQueue_reject now record m _),
        honly.trans (recordsOnly_reject now record m _), letter_reject now record m _⟩

/-- The message that a drain takes. -/
def next (d : NetworkDispatcher) : Option NetworkMessage :=
  match d.queue with
  | [] => none
  | first :: rest => some (earliest first rest).1

/-- A drain of a queue whose messages have records. -/
theorem drainOnce_cases (now : Reading) (answer : HandlerAnswer)
    (hrecords : ∀ m ∈ d.queue, ∃ record, d.store.deliveryRecords.get? m.messageId = some record) :
    (d.next = none ∧ d.drainOnce now answer = (.ok none, d)) ∨
    ∃ m rest drained, d.next = some m ∧ Taken d m rest drained ∧
      ((∃ delivered, d.drainOnce now answer = (.ok (some delivered), drained) ∧
        ∃ replay, drained.store.replays = d.store.replays.set m.messageId replay) ∨
      ∃ e, d.drainOnce now answer = (.error e, drained) ∧
        drained.store.replays = d.store.replays ∧
        ∃ letter ∈ drained.store.deadLetters, letter.messageId = m.messageId) := by
  unfold drainOnce next
  cases hqueue : d.queue with
  | nil => exact .inl ⟨rfl, rfl⟩
  | cons first rest =>
    right
    dsimp only
    have hperm : d.queue.Perm ((earliest first rest).1 :: (earliest first rest).2) := by
      rw [hqueue]
      exact (earliest_perm first rest).symm
    obtain ⟨record, hrecord⟩ := hrecords (earliest first rest).1
      (hperm.mem_iff.mpr mem_cons_self)
    rw [hrecord]
    dsimp only
    obtain ⟨delivered, completed, hdeliver, hsettings, hq, hqueued, hdepth, hletters, honly,
        hreplay⟩ | ⟨e, rejected, hdeliver, hsame, honly, hletter⟩ :=
      deliver_cases (d := d.taken (earliest first rest).1 (earliest first rest).2) now answer
        record (earliest first rest).1
    · refine ⟨_, (earliest first rest).2, completed, rfl, ?_, .inl ⟨delivered, ?_, hreplay⟩⟩
      · exact ⟨hperm, hsettings, hq, hqueued, hdepth, fun _ hmem => hletters ▸ hmem, honly⟩
      · rw [hdeliver]
    · refine ⟨_, (earliest first rest).2, rejected, rfl, .of_same hperm hsame honly,
        .inr ⟨e, ?_, hsame.replays, hletter⟩⟩
      rw [hdeliver]

/-! ## Restart -/

omit [PairText]

/-- A message whose expiration can be read passes the checks or is stale. -/
theorem recheck_of_timed (now : Reading) (htimed : Timed m) :
    (∃ e, d.recheck now m = .error (.dispatcher e) ∧ d.stale now m = true) ∨
      ∃ route, d.recheck now m = .ok route ∧ d.stale now m = false := by
  obtain ⟨expiration, hexpiration, haware⟩ := htimed
  unfold stale recheck validateExpiration
  rw [hexpiration]
  simp only [haware, Bool.true_eq_false, if_false]
  cases validateDomain d.settings m with
  | error e => exact .inl ⟨e, rfl, rfl⟩
  | ok _ =>
    dsimp only
    split_ifs with htime
    · exact .inl ⟨_, rfl, rfl⟩
    · dsimp only
      cases resolveAndAuthorize d.store.routes m with
      | error e => exact .inl ⟨e, rfl, rfl⟩
      | ok route => exact .inr ⟨route, rfl, rfl⟩

theorem revalidate_spec (now : Reading) (htimed : ∀ m ∈ messages, Timed m) :
    ∃ count d', revalidate now d messages = (.ok count, d') ∧ SameQueue d d' ∧
      (∀ id, (∀ m ∈ messages, d.stale now m = true → m.messageId ≠ id) →
        d'.store.deliveryRecords.get? id = d.store.deliveryRecords.get? id) ∧
      ∀ m ∈ messages, d.stale now m = true →
        ∃ letter ∈ d'.store.deadLetters, letter.messageId = m.messageId := by
  induction messages generalizing d with
  | nil => exact ⟨0, d, rfl, .rfl, fun _ _ => rfl, forall_mem_nil _⟩
  | cons m rest ih =>
    have hrest : ∀ m ∈ rest, Timed m := fun m hm => htimed m (mem_cons_of_mem _ hm)
    obtain ⟨e, hrecheck, hstale⟩ | ⟨route, hrecheck, hstale⟩ :=
      recheck_of_timed (d := d) now (htimed m mem_cons_self)
    · obtain ⟨count, d', heq, hsame, hrecords, hletters⟩ := ih (d := d.reject now
        ((d.store.deliveryRecords.get? m.messageId).getD
          { received now m with deliveryState := .queued }) m e) hrest
      refine ⟨count + 1, d', ?_, ?_, ?_, ?_⟩
      · simp only [revalidate, hrecheck, heq]
      · exact (sameQueue_rejected now _ m e).trans hsame
      · intro id hid
        rw [hrecords id fun m' hm' => hid m' (mem_cons_of_mem _ hm')]
        exact Dict.get?_set_of_ne _ _ (hid m mem_cons_self hstale).symm
      · intro m' hm' hstale'
        rcases mem_cons.mp hm' with rfl | hm'
        · exact ⟨_, hsame.letters (mem_append_right _ (mem_singleton_self _)), rfl⟩
        · exact hletters m' hm' hstale'
    · obtain ⟨count, d', heq, hsame, hrecords, hletters⟩ := ih hrest
      refine ⟨count, d', ?_, hsame, ?_, ?_⟩
      · simp only [revalidate, hrecheck, heq]
      · exact fun id hid => hrecords id fun m' hm' => hid m' (mem_cons_of_mem _ hm')
      · intro m' hm' hstale'
        rcases mem_cons.mp hm' with rfl | hm'
        · rw [hstale] at hstale'
          cases hstale'
        · exact hletters m' hm' hstale'

omit [Runtime] in
theorem get?_foldl_erase {queued : Dict String NetworkMessage} (id : String) :
    (messages.foldl (fun queued m => queued.erase m.messageId) queued).get? id =
      if id ∈ messages.map (·.messageId) then none else queued.get? id := by
  induction messages generalizing queued with
  | nil => simp
  | cons m rest ih =>
    rw [foldl_cons, ih, Dict.get?_erase]
    by_cases hrest : id ∈ rest.map (·.messageId)
    · rw [if_pos hrest, if_pos (by simp [mem_map.mp hrest])]
    · by_cases hm : id = m.messageId
      · simp [hm]
      · simp only [map_cons, mem_cons, hm, hrest, or_self, if_false]

/-- What the revalidation leaves: the queue without the stale messages, which get dead letters. -/
structure Revalidated (now : Reading) (d d' : NetworkDispatcher) : Prop where
  settings : d'.settings = d.settings
  queue : d'.queue = d.queue.filter fun m => !d.stale now m
  queued : ∀ id, d'.store.queuedMessages.get? id =
    if id ∈ (d.queue.filter (d.stale now)).map (·.messageId) then none
    else d.store.queuedMessages.get? id
  replays : d'.store.replays = d.store.replays
  depth : d'.metrics.queueDepth = d.metrics.queueDepth
  letters : d.store.deadLetters ⊆ d'.store.deadLetters
  records : ∀ id, id ∉ (d.queue.filter (d.stale now)).map (·.messageId) →
    d'.store.deliveryRecords.get? id = d.store.deliveryRecords.get? id
  stale : ∀ m ∈ d.queue, d.stale now m = true →
    ∃ letter ∈ d'.store.deadLetters, letter.messageId = m.messageId

theorem restartRevalidation_spec (now : Reading) (htimed : ∀ m ∈ d.queue, Timed m) :
    ∃ count d', d.restartRevalidation now = (.ok count, d') ∧ Revalidated now d d' := by
  obtain ⟨count, d', heq, hsame, hrecords, hletters⟩ :=
    revalidate_spec (d := d) now htimed
  refine ⟨count, _, by rw [restartRevalidation, heq], ?_⟩
  exact {
    settings := hsame.settings
    queue := rfl
    queued := get?_foldl_erase
    replays := hsame.replays
    depth := hsame.depth
    letters := hsame.letters
    records := fun id hid => hrecords id fun m hm hstale heq => hid <|
      mem_map.mpr ⟨m, mem_filter.mpr ⟨hm, hstale⟩, heq⟩
    stale := hletters }

end NetworkDispatcher

end AidnSpec.Dispatcher
