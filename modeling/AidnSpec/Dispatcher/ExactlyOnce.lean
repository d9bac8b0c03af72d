import AidnSpec.Base.Runs
import AidnSpec.Dispatcher.ServiceCalls

/-!
# Handling a message once

Runs of a dispatcher. A message that is submitted again while it is queued is queued a second time
under one id, and a message that is rejected then writes over the record of the queued one; without
such submissions every message is handled at most once and none is lost. The depth of the queue in
the metrics starts at zero after a restart and stays when stale messages are taken out.
-/

namespace AidnSpec.Dispatcher

open Base List

/-- A dispatcher, the ids whose handlers have returned and the messages that were queued. -/
structure DispatchHistory where
  dispatcher : NetworkDispatcher
  handled : List String := []
  admitted : List NetworkMessage := []

/-- The calls of a dispatcher; a restart rebuilds it from its store. -/
inductive DispatchCall where
  | submit (now : Reading) (tick : ℚ) (m : NetworkMessage)
  | drain (now : Reading) (answer : HandlerAnswer)
  | registerLocal (route : DispatcherRoute)
  | registerRemote (route : DispatcherRoute)
  | revoke (now : Reading) (key : String × String)
  | safeMode (on : Bool)
  | revalidate (now : Reading)
  | restart (safeMode : Bool)

namespace DispatchHistory

open NetworkDispatcher

variable (h : DispatchHistory)

/-- A dispatcher with an empty store. -/
def start (settings : DispatcherSettings) (safeMode : Bool) : DispatchHistory where
  dispatcher := { settings := settings, safeMode := safeMode }

/-- The messages in the store are those in the queue, each under its own id. -/
structure QueueStored (d : NetworkDispatcher) : Prop where
  distinct : (d.queue.map (·.messageId)).Nodup
  stored : ∀ id m, d.store.queuedMessages.get? id = some m ↔ m ∈ d.queue ∧ m.messageId = id

/-- Messages are handled once, and none is lost. -/
structure ExactlyOnce : Prop where
  handled : h.handled.Nodup
  stored : QueueStored h.dispatcher
  bounded : h.dispatcher.queue.length ≤ h.dispatcher.settings.maximumQueueMessages
  unsettled : ∀ m ∈ h.dispatcher.queue,
    ∀ record ∈ h.dispatcher.store.deliveryRecords.get? m.messageId,
      record.deliveryState.settled = false
  kept : ∀ m ∈ h.admitted, m ∈ h.dispatcher.queue ∨
    (h.dispatcher.store.replays.get? m.messageId).isSome = true ∨
    ∃ letter ∈ h.dispatcher.store.deadLetters, letter.messageId = m.messageId

/-- The depth in the metrics is that of the queue. -/
def DepthCounted : Prop := h.dispatcher.metrics.queueDepth = h.dispatcher.queue.length

variable [Runtime]

/-- No message is submitted under an id that is queued, unless it is answered early or raises. -/
def Distinct : DispatchCall → Prop
  | .submit now tick m => m.messageId ∉ h.dispatcher.queue.map (·.messageId) ∨
      (h.dispatcher.answersEarly tick m || h.dispatcher.stumbles now m) = true
  | _ => True

/-- A restart has nothing queued, and a revalidation nothing to take out. -/
def Settled : DispatchCall → Prop
  | .revalidate now => ∀ m ∈ h.dispatcher.queue, h.dispatcher.stale now m = false
  | .restart _ => h.dispatcher.queue = []
  | _ => True

instance decidableDistinct (h : DispatchHistory) : ∀ c, Decidable (h.Distinct c)
  | .submit _ _ _ => inferInstanceAs (Decidable (_ ∨ _))
  | .drain _ _ | .registerLocal _ | .registerRemote _ | .revoke _ _ | .safeMode _
  | .revalidate _ | .restart _ => inferInstanceAs (Decidable True)

instance decidableSettled (h : DispatchHistory) : ∀ c, Decidable (h.Settled c)
  | .revalidate _ => inferInstanceAs (Decidable (∀ m ∈ _, _))
  | .restart _ => inferInstanceAs (Decidable (_ = []))
  | .submit _ _ _ | .drain _ _ | .registerLocal _ | .registerRemote _ | .revoke _ _
  | .safeMode _ => inferInstanceAs (Decidable True)

/-- The invariant of runs without a submission under a queued id. -/
structure Invariant : Prop where
  once : ExactlyOnce h
  recorded : ∀ m ∈ h.dispatcher.queue,
    ∃ record, h.dispatcher.store.deliveryRecords.get? m.messageId = some record
  timed : ∀ m ∈ h.dispatcher.queue, Timed m
  unhandled : ∀ m ∈ h.dispatcher.queue, h.dispatcher.store.replays.get? m.messageId = none
  replayed : ∀ id ∈ h.handled, (h.dispatcher.store.replays.get? id).isSome = true

/-- The message when its submission was answered with `QUEUED`. -/
def queuedBy (m : NetworkMessage) : Except DispatchFailure DeliveryRecord → List NetworkMessage
  | .ok record => if record.deliveryState = .queued then [m] else []
  | .error _ => []

def handledBy (m : Option NetworkMessage) :
    Except DispatchFailure (Option (DeliveryRecord × PyValue)) → List String
  | .ok (some _) => (m.map (·.messageId)).toList
  | _ => []

variable [PairText]

def step (h : DispatchHistory) : DispatchCall → DispatchHistory
  | .submit now tick m =>
    let submitted := h.dispatcher.submit now tick m
    { h with dispatcher := submitted.2, admitted := h.admitted ++ queuedBy m submitted.1 }
  | .drain now answer =>
    let drained := h.dispatcher.drainOnce now answer
    { h with
      dispatcher := drained.2
      handled := h.handled ++ handledBy h.dispatcher.next drained.1 }
  | .registerLocal route => { h with dispatcher := (h.dispatcher.registerLocalRoute route).2 }
  | .registerRemote route => { h with dispatcher := (h.dispatcher.registerRemoteRoute route).2 }
  | .revoke now key => { h with dispatcher := (h.dispatcher.revokeRoute now key).2 }
  | .safeMode on => { h with dispatcher := { h.dispatcher with safeMode := on } }
  | .revalidate now => { h with dispatcher := (h.dispatcher.restartRevalidation now).2 }
  | .restart safeMode => { h with dispatcher := h.dispatcher.rebuilt safeMode }

/-! ## The queue and its store -/

variable {d d' : NetworkDispatcher}

omit [Runtime] [PairText] in
theorem QueueStored.append (hd : QueueStored d) {m : NetworkMessage}
    (hnew : m.messageId ∉ d.queue.map (·.messageId)) (hqueue : d'.queue = d.queue ++ [m])
    (hqueued : d'.store.queuedMessages = d.store.queuedMessages.set m.messageId m) :
    QueueStored d' where
  distinct := by
    rw [hqueue, map_append, nodup_append]
    refine ⟨hd.distinct, nodup_singleton _, ?_⟩
    intro id hid j hj hij
    rw [map_singleton, mem_singleton] at hj
    subst hj hij
    exact hnew hid
  stored id m' := by
    rw [hqueue, hqueued, Dict.get?_set, mem_append, mem_singleton]
    by_cases hid : id = m.messageId
    · rw [if_pos hid, Option.some.injEq]
      constructor
      · rintro rfl
        exact ⟨.inr rfl, hid.symm⟩
      · rintro ⟨hmem | rfl, hname⟩
        · have hid' := mem_map_of_mem (f := fun m : NetworkMessage => m.messageId) hmem
          rw [hname, hid] at hid'
          exact absurd hid' hnew
        · rfl
    · rw [if_neg hid, hd.stored]
      constructor
      · rintro ⟨hmem, hname⟩
        exact ⟨.inl hmem, hname⟩
      · rintro ⟨hmem | rfl, hname⟩
        · exact ⟨hmem, hname⟩
        · exact absurd hname.symm hid

omit [Runtime] [PairText] in
theorem QueueStored.take (hd : QueueStored d) {m : NetworkMessage}
    {rest : List NetworkMessage} (h : Taken d m rest d') :
    QueueStored d' ∧ m.messageId ∉ rest.map (·.messageId) := by
  have hnodup : ((m :: rest).map (·.messageId)).Nodup :=
    (h.perm.map _).nodup_iff.mp hd.distinct
  rw [map_cons, nodup_cons] at hnodup
  refine ⟨⟨by rw [h.queue]; exact hnodup.2, ?_⟩, hnodup.1⟩
  intro id m'
  rw [h.queue, h.queued, Dict.get?_erase]
  by_cases hid : id = m.messageId
  · rw [if_pos hid]
    constructor
    · exact nofun
    · rintro ⟨hmem, hname⟩
      have hid' := mem_map_of_mem (f := fun m : NetworkMessage => m.messageId) hmem
      rw [hname, hid] at hid'
      exact absurd hid' hnodup.1
  · rw [if_neg hid, hd.stored, h.perm.mem_iff, mem_cons]
    constructor
    · rintro ⟨rfl | hmem, hname⟩
      · exact absurd hname.symm hid
      · exact ⟨hmem, hname⟩
    · rintro ⟨hmem, hname⟩
      exact ⟨.inr hmem, hname⟩

omit [PairText] in
theorem QueueStored.revalidated {now : Reading} (hd : QueueStored d)
    (h : Revalidated now d d') : QueueStored d' where
  distinct := by
    rw [h.queue]
    exact hd.distinct.sublist (filter_sublist.map _)
  stored id m := by
    rw [h.queued, h.queue, mem_filter]
    by_cases hid : id ∈ (d.queue.filter (d.stale now)).map (·.messageId)
    · rw [if_pos hid]
      obtain ⟨m', hm', hname⟩ := mem_map.mp hid
      rw [mem_filter] at hm'
      constructor
      · exact nofun
      · rintro ⟨⟨hmem, hfresh⟩, hname'⟩
        have heq := inj_on_of_nodup_map hd.distinct hmem hm'.1 (hname'.trans hname.symm)
        subst heq
        simp [hm'.2] at hfresh
    · rw [if_neg hid, hd.stored]
      constructor
      · rintro ⟨hmem, hname⟩
        refine ⟨⟨hmem, ?_⟩, hname⟩
        cases hstale : d.stale now m with
        | false => rfl
        | true =>
          exact absurd (mem_map.mpr ⟨m, mem_filter.mpr ⟨hmem, hstale⟩, hname⟩) hid
      · exact fun ⟨⟨hmem, _⟩, hname⟩ => ⟨hmem, hname⟩

omit [Runtime] [PairText] in
/-- The queue that is rebuilt from the store is the queue, in some order. -/
theorem QueueStored.rebuilt (hd : QueueStored d) (safeMode : Bool) :
    (d.rebuilt safeMode).queue.Perm d.queue ∧ QueueStored (d.rebuilt safeMode) := by
  have hpairs : (d.queue.map fun m => (m.messageId, m)).Perm d.store.queuedMessages.entries := by
    apply (perm_ext_iff_of_nodup _ d.store.queuedMessages.nodup.of_map).mpr
    · rintro ⟨id, m⟩
      rw [← Dict.get?_eq_some_iff, hd.stored]
      simp only [mem_map, Prod.mk.injEq]
      constructor
      · rintro ⟨m', hm', rfl, rfl⟩
        exact ⟨hm', rfl⟩
      · rintro ⟨hm, rfl⟩
        exact ⟨m, hm, rfl, rfl⟩
    · apply List.Nodup.of_map Prod.fst
      rw [map_map]
      exact hd.distinct
  have hperm : (d.rebuilt safeMode).queue.Perm d.queue := by
    have h := (hpairs.map Prod.snd).symm
    rw [map_map] at h
    simpa [NetworkDispatcher.rebuilt, Dict.values, Function.comp_def] using h
  refine ⟨hperm, (hperm.map _).nodup_iff.mpr hd.distinct, fun id m => ?_⟩
  rw [hperm.mem_iff]
  exact hd.stored id m

/-! ## Steps -/

variable {h}

section

omit [PairText]

theorem Invariant.unsettled (hinv : Invariant h) : ∀ m ∈ h.dispatcher.queue,
    ∃ record, h.dispatcher.store.deliveryRecords.get? m.messageId = some record ∧
      record.deliveryState.settled = false := by
  intro m hm
  obtain ⟨record, hrecord⟩ := hinv.recorded m hm
  exact ⟨record, hrecord, hinv.once.unsettled m hm record hrecord⟩

/-- A call that leaves the queue. -/
theorem Invariant.of_same (hinv : Invariant h) (hsame : SameQueue h.dispatcher d)
    (hrecords : ∀ m ∈ h.dispatcher.queue, ∃ record,
      d.store.deliveryRecords.get? m.messageId = some record ∧
        record.deliveryState.settled = false) :
    Invariant { h with dispatcher := d } := by
  have hstored : QueueStored d := by
    constructor
    · rw [hsame.queue]
      exact hinv.once.stored.distinct
    · rw [hsame.queue, hsame.queued]
      exact hinv.once.stored.stored
  refine ⟨⟨hinv.once.handled, hstored, ?_, ?_, ?_⟩, ?_, ?_, ?_, ?_⟩
  · simp only [hsame.queue, hsame.settings]
    exact hinv.once.bounded
  · intro m hm record hrecord
    simp only [hsame.queue] at hm
    obtain ⟨record', hrecord', hunsettled⟩ := hrecords m hm
    rw [hrecord'] at hrecord
    cases hrecord
    exact hunsettled
  · intro m hm
    simp only [hsame.queue, hsame.replays]
    rcases hinv.once.kept m hm with hqueue | hreplay | ⟨letter, hletter, hname⟩
    · exact .inl hqueue
    · exact .inr (.inl hreplay)
    · exact .inr (.inr ⟨letter, hsame.letters hletter, hname⟩)
  · intro m hm
    simp only [hsame.queue] at hm
    obtain ⟨record, hrecord, -⟩ := hrecords m hm
    exact ⟨record, hrecord⟩
  · simp only [hsame.queue]
    exact hinv.timed
  · simp only [hsame.queue, hsame.replays]
    exact hinv.unhandled
  · simp only [hsame.replays]
    exact hinv.replayed

/-- A message that is queued. -/
theorem Invariant.queued (hinv : Invariant h) {m : NetworkMessage}
    {answer : Except DispatchFailure DeliveryRecord} (hqueued : Queued h.dispatcher m answer d)
    (hnew : m.messageId ∉ h.dispatcher.queue.map (·.messageId)) :
    Invariant { h with dispatcher := d, admitted := h.admitted ++ [m] } := by
  have hother : ∀ m' ∈ h.dispatcher.queue, m'.messageId ≠ m.messageId :=
    fun m' hm' heq => hnew (mem_map.mpr ⟨m', hm', heq⟩)
  obtain ⟨record, -, hstate, hrecord⟩ := hqueued.answer
  have hrecords : ∀ m' ∈ d.queue, ∃ r, d.store.deliveryRecords.get? m'.messageId = some r ∧
      r.deliveryState.settled = false := by
    intro m' hm'
    rw [hqueued.queue, mem_append, mem_singleton] at hm'
    rcases hm' with hm' | rfl
    · rw [hqueued.records _ (hother m' hm')]
      exact hinv.unsettled m' hm'
    · exact ⟨record, hrecord, by rw [hstate]; rfl⟩
  refine ⟨⟨hinv.once.handled, hinv.once.stored.append hnew hqueued.queue hqueued.queued,
    ?_, ?_, ?_⟩, ?_, ?_, ?_, ?_⟩
  · have hroom := hqueued.room
    simp only [hqueued.queue, hqueued.settings, length_append, length_singleton]
    omega
  · intro m' hm' r hr
    obtain ⟨r', hr', hunsettled⟩ := hrecords m' hm'
    rw [hr'] at hr
    cases hr
    exact hunsettled
  · intro m' hm'
    simp only [hqueued.queue, hqueued.replays, mem_append, mem_singleton] at hm' ⊢
    rcases hm' with hm' | rfl
    · rcases hinv.once.kept m' hm' with hqueue | hreplay | ⟨letter, hletter, hname⟩
      · exact .inl (.inl hqueue)
      · exact .inr (.inl hreplay)
      · exact .inr (.inr ⟨letter, hqueued.letters hletter, hname⟩)
    · exact .inl (.inr rfl)
  · intro m' hm'
    obtain ⟨r, hr, -⟩ := hrecords m' hm'
    exact ⟨r, hr⟩
  · intro m' hm'
    simp only [hqueued.queue, mem_append, mem_singleton] at hm'
    rcases hm' with hm' | rfl
    · exact hinv.timed m' hm'
    · exact hqueued.timed
  · intro m' hm'
    simp only [hqueued.queue, hqueued.replays, mem_append, mem_singleton] at hm' ⊢
    rcases hm' with hm' | rfl
    · exact hinv.unhandled m' hm'
    · exact hqueued.replayed
  · simp only [hqueued.replays]
    exact hinv.replayed

/-- A message that is taken is accepted or gets a dead letter; the others stay. -/
theorem Invariant.taken (hinv : Invariant h) {m : NetworkMessage} {rest : List NetworkMessage}
    (htaken : Taken h.dispatcher m rest d) {handled : List String} (hnodup : handled.Nodup)
    (hreplayed : ∀ id ∈ handled, (d.store.replays.get? id).isSome = true)
    (hother : ∀ id, id ≠ m.messageId →
      d.store.replays.get? id = h.dispatcher.store.replays.get? id)
    (hdone : (d.store.replays.get? m.messageId).isSome = true ∨
      ∃ letter ∈ d.store.deadLetters, letter.messageId = m.messageId) :
    Invariant { h with dispatcher := d, handled := handled } := by
  have hstored := hinv.once.stored.take htaken
  have hne : ∀ m' ∈ rest, m'.messageId ≠ m.messageId :=
    fun m' hm' heq => hstored.2 (mem_map.mpr ⟨m', hm', heq⟩)
  have hmem : ∀ {m'}, m' ∈ h.dispatcher.queue ↔ m' = m ∨ m' ∈ rest := by
    intro m'
    rw [htaken.perm.mem_iff, mem_cons]
  refine ⟨⟨hnodup, hstored.1, ?_, ?_, ?_⟩, ?_, ?_, ?_, hreplayed⟩
  · have hlength := htaken.perm.length_eq
    have hbound := hinv.once.bounded
    simp only [htaken.queue, htaken.settings]
    rw [length_cons] at hlength
    omega
  · intro m' hm' record hrecord
    simp only [htaken.queue] at hm'
    simp only [htaken.records _ (hne m' hm')] at hrecord
    exact hinv.once.unsettled m' (hmem.mpr (.inr hm')) record hrecord
  · intro m' hm'
    simp only [htaken.queue]
    rcases hinv.once.kept m' hm' with hqueue | hreplay | ⟨letter, hletter, hname⟩
    · rcases hmem.mp hqueue with rfl | hrest
      · exact .inr hdone
      · exact .inl hrest
    · by_cases hid : m'.messageId = m.messageId
      · rw [hid]
        exact .inr hdone
      · rw [hother _ hid]
        exact .inr (.inl hreplay)
    · exact .inr (.inr ⟨letter, htaken.letters hletter, hname⟩)
  · intro m' hm'
    simp only [htaken.queue] at hm'
    simp only [htaken.records _ (hne m' hm')]
    exact hinv.recorded m' (hmem.mpr (.inr hm'))
  · intro m' hm'
    simp only [htaken.queue] at hm'
    exact hinv.timed m' (hmem.mpr (.inr hm'))
  · intro m' hm'
    simp only [htaken.queue] at hm'
    simp only [hother _ (hne m' hm')]
    exact hinv.unhandled m' (hmem.mpr (.inr hm'))

end

/-- A drain. -/
theorem Invariant.drained (hinv : Invariant h) (now : Reading) (answer : HandlerAnswer) :
    Invariant (step h (.drain now answer)) := by
  rcases drainOnce_cases (d := h.dispatcher) now answer hinv.recorded with
    ⟨-, hdrain⟩ | ⟨m, rest, drained, hnext, htaken, hresult⟩
  · simpa [step, hdrain, handledBy] using hinv
  · have hnew : h.dispatcher.store.replays.get? m.messageId = none := by
      apply hinv.unhandled
      rw [htaken.perm.mem_iff]
      exact mem_cons_self
    rcases hresult with ⟨delivered, hdrain, replay, hreplays⟩ | ⟨e, hdrain, hreplays, hletter⟩
    · have hstep : step h (.drain now answer) =
          { h with dispatcher := drained, handled := h.handled ++ [m.messageId] } := by
        simp [step, hdrain, handledBy, hnext]
      rw [hstep]
      have hset : ∀ id, drained.store.replays.get? id =
          if id = m.messageId then some replay else h.dispatcher.store.replays.get? id := by
        intro id
        rw [hreplays, Dict.get?_set]
      apply hinv.taken htaken
      · apply List.Nodup.append hinv.once.handled (nodup_singleton _)
        intro id hid hself
        rw [mem_singleton] at hself
        have hseen := hinv.replayed id hid
        rw [hself, hnew] at hseen
        simp at hseen
      · intro id hid
        rw [hset]
        by_cases hself : id = m.messageId
        · simp [hself]
        · rw [if_neg hself]
          apply hinv.replayed
          simpa [hself] using hid
      · intro id hid
        rw [hset, if_neg hid]
      · left
        rw [hset, if_pos rfl, Option.isSome_some]
    · have hstep : step h (.drain now answer) = { h with dispatcher := drained } := by
        simp [step, hdrain, handledBy]
      rw [hstep]
      apply hinv.taken htaken hinv.once.handled
      · rw [hreplays]
        exact hinv.replayed
      · intro id hid
        rw [hreplays]
      · exact .inr hletter

omit [PairText] in
/-- The revalidation after a restart. -/
theorem Invariant.revalidated (hinv : Invariant h) (now : Reading) :
    Invariant { h with dispatcher := (h.dispatcher.restartRevalidation now).2 } := by
  obtain ⟨count, d, hcall, hrevalidated⟩ := restartRevalidation_spec now hinv.timed
  rw [hcall]
  have hstored := hinv.once.stored.revalidated hrevalidated
  have hmem : ∀ {m}, m ∈ d.queue → m ∈ h.dispatcher.queue ∧ h.dispatcher.stale now m = false := by
    intro m hm
    rw [hrevalidated.queue, mem_filter] at hm
    simpa using hm
  have hrecords : ∀ m ∈ d.queue, d.store.deliveryRecords.get? m.messageId =
      h.dispatcher.store.deliveryRecords.get? m.messageId := by
    intro m hm
    apply hrevalidated.records
    intro hstale
    obtain ⟨m', hm', hname⟩ := mem_map.mp hstale
    rw [mem_filter] at hm'
    have heq := inj_on_of_nodup_map hinv.once.stored.distinct hm'.1 (hmem hm).1 hname
    rw [heq, (hmem hm).2] at hm'
    simp at hm'
  refine ⟨⟨hinv.once.handled, hstored, ?_, ?_, ?_⟩, ?_, ?_, ?_, ?_⟩
  · have hbound := hinv.once.bounded
    have hlength := length_filter_le (fun m => !h.dispatcher.stale now m) h.dispatcher.queue
    simp only [hrevalidated.queue, hrevalidated.settings]
    omega
  · intro m hm record hrecord
    rw [hrecords m hm] at hrecord
    exact hinv.once.unsettled m (hmem hm).1 record hrecord
  · intro m hm
    simp only [hrevalidated.replays]
    rcases hinv.once.kept m hm with hqueue | hreplay | ⟨letter, hletter, hname⟩
    · cases hstale : h.dispatcher.stale now m with
      | true => exact .inr (.inr (hrevalidated.stale m hqueue hstale))
      | false =>
        left
        rw [hrevalidated.queue, mem_filter]
        simp [hqueue, hstale]
    · exact .inr (.inl hreplay)
    · exact .inr (.inr ⟨letter, hrevalidated.letters hletter, hname⟩)
  · intro m hm
    rw [hrecords m hm]
    exact hinv.recorded m (hmem hm).1
  · exact fun m hm => hinv.timed m (hmem hm).1
  · intro m hm
    rw [hrevalidated.replays]
    exact hinv.unhandled m (hmem hm).1
  · rw [hrevalidated.replays]
    exact hinv.replayed

omit [PairText] in
/-- A restart. -/
theorem Invariant.rebuilt (hinv : Invariant h) (safeMode : Bool) :
    Invariant { h with dispatcher := h.dispatcher.rebuilt safeMode } := by
  obtain ⟨hperm, hstored⟩ := hinv.once.stored.rebuilt safeMode
  refine ⟨⟨hinv.once.handled, hstored, ?_, ?_, ?_⟩, ?_, ?_, ?_, hinv.replayed⟩
  · rw [hperm.length_eq]
    exact hinv.once.bounded
  · exact fun m hm => hinv.once.unsettled m (hperm.mem_iff.mp hm)
  · intro m hm
    rw [hperm.mem_iff]
    exact hinv.once.kept m hm
  · exact fun m hm => hinv.recorded m (hperm.mem_iff.mp hm)
  · exact fun m hm => hinv.timed m (hperm.mem_iff.mp hm)
  · exact fun m hm => hinv.unhandled m (hperm.mem_iff.mp hm)

omit [Runtime] [PairText] in
theorem sameQueue_registerRoute (kind complaint : String) (route : DispatcherRoute) :
    SameQueue d (d.registerRoute kind complaint route).2 ∧
      (d.registerRoute kind complaint route).2.store.deliveryRecords =
        d.store.deliveryRecords := by
  unfold registerRoute
  dsimp only
  split_ifs
  · exact ⟨.rfl, rfl⟩
  · cases d.store.routes.get? (route.destinationType, route.destinationId) with
    | none => exact ⟨⟨rfl, rfl, rfl, rfl, rfl, List.Subset.refl _⟩, rfl⟩
    | some previous =>
      dsimp only
      split_ifs
      · exact ⟨⟨rfl, rfl, rfl, rfl, rfl, List.Subset.refl _⟩, rfl⟩
      · exact ⟨⟨rfl, rfl, rfl, rfl, rfl, List.Subset.refl _⟩, rfl⟩
      · exact ⟨.rfl, rfl⟩

omit [Runtime] [PairText] in
theorem sameQueue_revokeRoute (now : Reading) (key : String × String) :
    SameQueue d (d.revokeRoute now key).2 ∧
      (d.revokeRoute now key).2.store.deliveryRecords = d.store.deliveryRecords := by
  unfold revokeRoute
  cases d.store.routes.get? key with
  | none => exact ⟨.rfl, rfl⟩
  | some previous =>
    dsimp only
    split_ifs
    · exact ⟨.rfl, rfl⟩
    · exact ⟨⟨rfl, rfl, rfl, rfl, rfl, List.Subset.refl _⟩, rfl⟩

omit [PairText] in
/-- A call that leaves the queue and the records. -/
theorem Invariant.of_sameRecords (hinv : Invariant h) (hsame : SameQueue h.dispatcher d ∧
      d.store.deliveryRecords = h.dispatcher.store.deliveryRecords) :
    Invariant { h with dispatcher := d } := by
  apply hinv.of_same hsame.1
  rw [hsame.2]
  exact hinv.unsettled

/-- A submission under an id that is not queued, or that is answered early. -/
theorem Invariant.submitted (hinv : Invariant h) {now : Reading} {tick : ℚ} {m : NetworkMessage}
    (hdistinct : h.Distinct (.submit now tick m)) :
    Invariant (step h (.submit now tick m)) := by
  rcases submit_cases (d := h.dispatcher) now tick m with hrefused | ⟨hearly, hqueued⟩
  · have hnone : queuedBy m (h.dispatcher.submit now tick m).1 = [] := by
      have hanswer := hrefused.answer
      cases hcall : (h.dispatcher.submit now tick m).1 with
      | error e => rfl
      | ok record =>
        rw [queuedBy, if_neg (hanswer record hcall)]
    simp only [step, hnone, append_nil]
    apply hinv.of_same hrefused.same
    intro m' hm'
    by_cases hid : m'.messageId = m.messageId
    · have hearly := hdistinct.resolve_left fun hnew =>
        hnew (mem_map.mpr ⟨m', hm', hid⟩)
      rw [hid]
      apply hrefused.early _ hearly
      rw [← hid]
      exact hinv.unhandled m' hm'
    · rw [hrefused.records _ hid]
      exact hinv.unsettled m' hm'
  · have hnew : m.messageId ∉ h.dispatcher.queue.map (·.messageId) := by
      apply hdistinct.resolve_right
      simp [hearly, not_stumbles hqueued.timed]
    obtain ⟨record, hanswer, hstate, -⟩ := hqueued.answer
    have hone : queuedBy m (h.dispatcher.submit now tick m).1 = [m] := by
      rw [hanswer, queuedBy, if_pos hstate]
    simp only [step, hone]
    exact hinv.queued hqueued hnew

theorem Invariant.step (hinv : Invariant h) {c : DispatchCall} (hdistinct : h.Distinct c) :
    Invariant (step h c) := by
  cases c with
  | submit now tick m => exact hinv.submitted hdistinct
  | drain now answer => exact hinv.drained now answer
  | registerLocal route | registerRemote route =>
    exact hinv.of_sameRecords (sameQueue_registerRoute _ _ route)
  | revoke now key => exact hinv.of_sameRecords (sameQueue_revokeRoute now key)
  | safeMode on =>
    exact hinv.of_sameRecords ⟨⟨rfl, rfl, rfl, rfl, rfl, List.Subset.refl _⟩, rfl⟩
  | revalidate now => exact hinv.revalidated now
  | restart safeMode => exact hinv.rebuilt safeMode

/-! ## The depth of the queue -/

/-- The depth stays counted while a restart has nothing queued and nothing stale is taken out. -/
theorem DepthCounted.step (hinv : Invariant h) (hdepth : DepthCounted h) {c : DispatchCall}
    (hsettled : h.Settled c) : DepthCounted (step h c) := by
  have hsame : ∀ {d}, SameQueue h.dispatcher d → d.metrics.queueDepth = d.queue.length := by
    intro d hd
    rw [hd.depth, hd.queue]
    exact hdepth
  cases c with
  | submit now tick m =>
    rcases submit_cases (d := h.dispatcher) now tick m with hrefused | ⟨-, hqueued⟩
    · exact hsame hrefused.same
    · simp only [DepthCounted, DispatchHistory.step, hqueued.depth, hqueued.queue,
        length_append, length_singleton]
      rw [hdepth]
  | drain now answer =>
    rcases drainOnce_cases (d := h.dispatcher) now answer hinv.recorded with
      ⟨-, hdrain⟩ | ⟨m, rest, drained, -, htaken, hresult⟩
    · simpa [DispatchHistory.step, hdrain, DepthCounted] using hdepth
    · have hdrained : (h.dispatcher.drainOnce now answer).2 = drained := by
        rcases hresult with ⟨delivered, hdrain, -⟩ | ⟨e, hdrain, -⟩ <;> rw [hdrain]
      have hlength := htaken.perm.length_eq
      rw [length_cons] at hlength
      simp only [DepthCounted, DispatchHistory.step, hdrained, htaken.depth, htaken.queue]
      rw [hdepth]
      omega
  | registerLocal route | registerRemote route => exact hsame (sameQueue_registerRoute _ _ route).1
  | revoke now key => exact hsame (sameQueue_revokeRoute now key).1
  | safeMode on => exact hsame ⟨rfl, rfl, rfl, rfl, rfl, List.Subset.refl _⟩
  | revalidate now =>
    obtain ⟨count, d, hcall, hrevalidated⟩ := restartRevalidation_spec now hinv.timed
    have hall : h.dispatcher.queue.filter (fun m => !h.dispatcher.stale now m) =
        h.dispatcher.queue := by
      apply filter_eq_self.mpr
      intro m hm
      rw [hsettled m hm, Bool.not_false]
    simp only [DepthCounted, DispatchHistory.step, hcall, hrevalidated.depth, hrevalidated.queue,
      hall]
    exact hdepth
  | restart safeMode =>
    obtain ⟨hperm, -⟩ := hinv.once.stored.rebuilt safeMode
    rw [show h.dispatcher.queue = [] from hsettled] at hperm
    simp only [DepthCounted, DispatchHistory.step, hperm.eq_nil]
    rfl

/-! ## Runs -/

omit [PairText] in
theorem invariant_start (settings : DispatcherSettings) (safeMode : Bool) :
    Invariant (start settings safeMode) := by
  have hstored : QueueStored (start settings safeMode).dispatcher :=
    ⟨nodup_nil, fun id m => by simp [start]⟩
  refine ⟨⟨nodup_nil, hstored, Nat.zero_le _, ?_, ?_⟩, ?_, ?_, ?_, ?_⟩ <;> simp [start]

/-- In a run that submits nothing under a queued id, messages are handled exactly once. The depth
of the queue is counted when the restarts leave nothing behind. -/
theorem exactly_once {settings : DispatcherSettings} {safeMode : Bool} {calls : List DispatchCall}
    (hdistinct : Careful step (fun h c => h.Distinct c) (start settings safeMode) calls) :
    ExactlyOnce (run step (start settings safeMode) calls) ∧
      (Careful step (fun h c => h.Settled c) (start settings safeMode) calls →
        DepthCounted (run step (start settings safeMode) calls)) := by
  refine ⟨?_, fun hsettled => ?_⟩
  · exact (run_keeps (I := fun h => Invariant h) (fun h c hinv hc => hinv.step hc)
      (invariant_start settings safeMode) hdistinct).once
  · have hboth := careful_and.mpr ⟨hdistinct, hsettled⟩
    exact (run_keeps (I := fun h => Invariant h ∧ DepthCounted h)
      (fun h c hinv hc => ⟨hinv.1.step hc.1, hinv.2.step hinv.1 hc.2⟩)
      ⟨invariant_start settings safeMode, rfl⟩ hboth).2

/-! ## A message that is submitted twice -/

omit [Runtime] [PairText]

@[reducible] def expirationTimes : Runtime where
  coerceInt _ := none
  fromisoformat text :=
    if text = "1970-01-01T00:01:00+00:00" then some { aware := true, micros := 60000000 } else none
  ed25519Verify _ _ _ := false

/-- The text of a missing key. -/
@[reducible] def keyText : PairText where
  text key := "('" ++ key.1 ++ "', '" ++ key.2 ++ "')"

def oneNetwork : DispatcherSettings where
  networkId := "n"
  chainId := "c"
  networkRevision := "1"

def sessionRoute : DispatcherRoute where
  destinationType := "SESSION"
  destinationId := "s"
  routeType := "LOCAL_SERVICE"
  routeGeneration := 1
  allowedSourceTypes := ["RUNTIME"]
  allowedChannelClasses := [.sessionData]
  allowedMessageTypes := ["SESSION_REQUEST"]
  createdAt := "1970-01-01T00:00:00+00:00"

def requestMessage (messageId chainId : String) : NetworkMessage where
  messageId := messageId
  messageType := "SESSION_REQUEST"
  networkId := "n"
  chainId := chainId
  networkRevision := "1"
  channelClass := .sessionData
  sourceSubject := ⟨"RUNTIME", "r"⟩
  destinationSubject := ⟨"SESSION", "s"⟩
  sourceSequence := 1
  routeGeneration := 1
  createdAt := "1970-01-01T00:00:00+00:00"
  expiration := "1970-01-01T00:01:00+00:00"
  payloadHash := "sha256:44136fa355b3678a1146ad16f7e8649e94fb4fc21fe77e8310c060f61caaff8a"
  payload := []

/-- The start of the runs below: a route, and a message that is queued. -/
def oneQueued : List DispatchCall :=
  [.registerLocal sessionRoute, .submit ⟨0, "t"⟩ 0 (requestMessage "m" "c")]

/-- Two messages, a delivery, a duplicate and a restart with nothing queued. -/
theorem exactly_once_two_messages : letI := expirationTimes; letI := keyText
    let calls := oneQueued ++ [.submit ⟨0, "t"⟩ 0 (requestMessage "m2" "c"),
      .drain ⟨1, "t"⟩ (.returned .none), .submit ⟨2, "t"⟩ 0 (requestMessage "m" "c"),
      .drain ⟨3, "t"⟩ (.raised "no"), .restart false, .revalidate ⟨4, "t"⟩]
    ExactlyOnce (run step (start oneNetwork false) calls) ∧
      DepthCounted (run step (start oneNetwork false) calls) := by
  have h := @exactly_once expirationTimes keyText oneNetwork false
    (oneQueued ++ [.submit ⟨0, "t"⟩ 0 (requestMessage "m2" "c"),
      .drain ⟨1, "t"⟩ (.returned .none), .submit ⟨2, "t"⟩ 0 (requestMessage "m" "c"),
      .drain ⟨3, "t"⟩ (.raised "no"), .restart false, .revalidate ⟨4, "t"⟩]) (by decide +kernel)
  exact ⟨h.1, h.2 (by decide +kernel)⟩

/-- A message that is submitted twice is handled twice, one that is refused for another of its id
has a record of a dead letter while it is queued, and the depth is wrong after a restart and after a
revalidation. -/
theorem handled_twice : letI := expirationTimes; letI := keyText
    (run step (start oneNetwork false) (oneQueued ++ [.submit ⟨0, "t"⟩ 0 (requestMessage "m" "c"),
        .drain ⟨1, "t"⟩ (.returned .none), .drain ⟨2, "t"⟩ (.returned .none)])).handled =
          ["m", "m"] ∧
      ¬ ExactlyOnce (run step (start oneNetwork false)
        (oneQueued ++ [.submit ⟨0, "t"⟩ 0 (requestMessage "m" "c")])) ∧
      ¬ ExactlyOnce (run step (start oneNetwork false)
        (oneQueued ++ [.submit ⟨0, "t"⟩ 0 (requestMessage "m" "other")])) ∧
      ¬ DepthCounted (run step (start oneNetwork false) (oneQueued ++ [.restart false])) ∧
      ¬ DepthCounted (run step (start oneNetwork false)
        (oneQueued ++ [.revalidate ⟨60000000, "t"⟩])) := by
  refine ⟨by decide +kernel, fun h => absurd h.stored.distinct ?_,
    fun h => absurd h.unsettled ?_, ?_, ?_⟩
  · decide +kernel
  · decide +kernel
  · unfold DepthCounted
    decide +kernel
  · unfold DepthCounted
    decide +kernel

end DispatchHistory

end AidnSpec.Dispatcher
