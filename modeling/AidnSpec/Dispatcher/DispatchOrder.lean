import AidnSpec.Dispatcher.ExactlyOnce
import Mathlib.Data.Prod.Lex
import Mathlib.Data.String.Basic

/-!
# The order of dispatch

The order in which the runs of `submit` and `drain_once` of `dispatcher/service.py:199–350, 610–636`
take the messages that they accept.
-/

namespace AidnSpec.Dispatcher

open DispatchHistory List

def policyRank (m : NetworkMessage) : ℕ := (policyPriority m.messageType).rank

/-- The key that `min` compares. -/
def dispatchKey (m : NetworkMessage) : ℕ ×ₗ String ×ₗ ℕ :=
  toLex (policyRank m, toLex (m.createdAt, m.sourceSequence))

theorem comesBefore_iff {m m' : NetworkMessage} :
    comesBefore (queuePriority m) (queuePriority m') = true ↔ dispatchKey m < dispatchKey m' := by
  simp only [comesBefore, Bool.or_eq_true, Bool.and_eq_true, decide_eq_true_eq, beq_iff_eq]
  simp only [queuePriority, dispatchKey, policyRank, Prod.Lex.lt_iff, ofLex_toLex]

theorem rank_le_of_key_le {m m' : NetworkMessage} (h : dispatchKey m ≤ dispatchKey m') :
    policyRank m ≤ policyRank m' := by
  rw [dispatchKey, dispatchKey, Prod.Lex.le_iff] at h
  exact h.elim le_of_lt fun h => h.1.le

/-- The message that is taken has a smaller key than those that were accepted before it, and no
later one has a smaller key. -/
theorem earliest_split (m : NetworkMessage) (queue : List NetworkMessage) :
    ∃ earlier later, m :: queue = earlier ++ (earliest m queue).1 :: later ∧
      (earliest m queue).2 = earlier ++ later ∧
      (∀ y ∈ earlier, dispatchKey (earliest m queue).1 < dispatchKey y) ∧
      ∀ y ∈ later, dispatchKey (earliest m queue).1 ≤ dispatchKey y := by
  induction queue generalizing m with
  | nil => exact ⟨[], [], rfl, rfl, forall_mem_nil _, forall_mem_nil _⟩
  | cons next rest ih =>
    obtain ⟨earlier, later, hqueue, hrest, hearlier, hlater⟩ := ih next
    simp only [earliest, comesBefore_iff]
    split_ifs with hbefore
    · refine ⟨m :: earlier, later, ?_, ?_, ?_, hlater⟩
      · rw [hqueue, cons_append]
      · rw [hrest, cons_append]
      · rw [forall_mem_cons]
        exact ⟨hbefore, hearlier⟩
    · refine ⟨[], next :: rest, rfl, rfl, forall_mem_nil _, fun y hy =>
        (not_lt.mp hbefore).trans ?_⟩
      rw [hqueue, mem_append, mem_cons] at hy
      rcases hy with hy | rfl | hy
      · exact (hearlier y hy).le
      · exact le_rfl
      · exact hlater y hy

/-- What was accepted and what was taken so far, in this order. -/
structure OrderHistory where
  dispatcher : NetworkDispatcher
  accepted : List NetworkMessage := []
  taken : List NetworkMessage := []

/-- A call of `submit` or of `drain_once`. -/
inductive OrderCall where
  | submit (now : Reading) (tick : ℚ) (m : NetworkMessage)
  | drain (now : Reading) (answer : HandlerAnswer)

namespace OrderHistory

open Base NetworkDispatcher

variable [Runtime] [PairText] {h : OrderHistory}

def step (h : OrderHistory) : OrderCall → OrderHistory
  | .submit now tick m =>
    let submitted := h.dispatcher.submit now tick m
    { h with
      dispatcher := submitted.2
      accepted := h.accepted ++ queuedBy m submitted.1 }
  | .drain now answer =>
    { h with
      dispatcher := (h.dispatcher.drainOnce now answer).2
      taken := h.taken ++ h.dispatcher.next.toList }

omit [Runtime] [PairText] in
/-- Of each class, the messages were taken in the order in which they were accepted and the others
wait in that order; and nothing is taken while a message of a more urgent class waits. -/
structure InOrder (h : OrderHistory) : Prop where
  fifo : ∀ rank, h.accepted.filter (policyRank · = rank) =
    h.taken.filter (policyRank · = rank) ++ h.dispatcher.queue.filter (policyRank · = rank)
  urgent : ∀ m, h.dispatcher.next = some m → ∀ waiting ∈ h.dispatcher.queue,
    policyRank m ≤ policyRank waiting

/-- A queue is drained when no message of its most urgent class has a time and a sequence before
those of the message that was accepted first of that class. -/
def Stamped (h : OrderHistory) : OrderCall → Prop
  | .submit _ _ _ => True
  | .drain _ _ => ∀ earlier first later, h.dispatcher.queue = earlier ++ first :: later →
    (∀ y ∈ h.dispatcher.queue, policyRank first ≤ policyRank y) →
    (∀ y ∈ earlier, policyRank y ≠ policyRank first) →
    ∀ y ∈ later, policyRank y = policyRank first → dispatchKey first ≤ dispatchKey y

omit [Runtime] [PairText] in
/-- The most urgent class is drained first, whatever the envelopes carry. -/
theorem urgent_next (d : NetworkDispatcher) : ∀ m, d.next = some m → ∀ waiting ∈ d.queue,
    policyRank m ≤ policyRank waiting := by
  intro m hnext waiting hwaiting
  unfold NetworkDispatcher.next at hnext
  cases hqueue : d.queue with
  | nil => simp [hqueue] at hwaiting
  | cons first rest =>
    simp only [hqueue, Option.some.injEq] at hnext
    subst hnext
    obtain ⟨earlier, later, hsplit, -, hearlier, hlater⟩ := earliest_split first rest
    rw [hqueue, hsplit, mem_append, mem_cons] at hwaiting
    rcases hwaiting with hmem | rfl | hmem
    · exact rank_le_of_key_le (hearlier waiting hmem).le
    · exact le_rfl
    · exact rank_le_of_key_le (hlater waiting hmem)

/-- Whatever comes of a delivery, the queue loses the message that is taken. -/
theorem queue_drainOnce (d : NetworkDispatcher) (now : Reading) (answer : HandlerAnswer) :
    (d.queue = [] ∧ (d.drainOnce now answer).2.queue = []) ∨
      ∃ first rest, d.queue = first :: rest ∧
        (d.drainOnce now answer).2.queue = (earliest first rest).2 := by
  unfold drainOnce
  cases hqueue : d.queue with
  | nil => exact .inl ⟨rfl, hqueue⟩
  | cons first rest =>
    refine .inr ⟨first, rest, rfl, ?_⟩
    dsimp only
    cases d.store.deliveryRecords.get? (earliest first rest).1.messageId with
    | none => rfl
    | some record =>
      dsimp only
      obtain ⟨_, _, hdeliver, -, hsame, -⟩ | ⟨_, _, hdeliver, hsame, -⟩ := deliver_cases
        (d := d.taken (earliest first rest).1 (earliest first rest).2) now answer record
          (earliest first rest).1
      · rw [hdeliver]
        exact hsame
      · rw [hdeliver]
        exact hsame.queue

/-- A submission puts an accepted message at the end of the queue. -/
theorem InOrder.submit (hinv : InOrder h) (now : Reading) (tick : ℚ) (m : NetworkMessage) :
    InOrder (h.step (.submit now tick m)) := by
  refine ⟨fun rank => ?_, urgent_next _⟩
  rcases submit_cases (d := h.dispatcher) now tick m with hnot | ⟨-, hqueued⟩
  · have hnone : queuedBy m (h.dispatcher.submit now tick m).1 = [] := by
      cases hanswer : (h.dispatcher.submit now tick m).1 with
      | error _ => rfl
      | ok record => exact if_neg (hnot.answer record hanswer)
    simp only [step, hnone, hnot.same.queue, append_nil]
    exact hinv.fifo rank
  · obtain ⟨record, hanswer, hstate, -⟩ := hqueued.answer
    have hone : queuedBy m (h.dispatcher.submit now tick m).1 = [m] := by
      rw [hanswer]
      exact if_pos hstate
    simp only [step, hone, hqueued.queue, filter_append, hinv.fifo rank, append_assoc]

/-- A drain takes the message that was accepted first of its class. -/
theorem InOrder.drain (hinv : InOrder h) {now : Reading} {answer : HandlerAnswer}
    (hstamped : h.Stamped (.drain now answer)) : InOrder (h.step (.drain now answer)) := by
  refine ⟨fun rank => ?_, urgent_next _⟩
  have hfifo := hinv.fifo rank
  have hurgent := hinv.urgent
  obtain ⟨hempty, hafter⟩ | ⟨m, rest, hqueue, hafter⟩ :=
    queue_drainOnce h.dispatcher now answer
  · have hnext : h.dispatcher.next = none := by simp [NetworkDispatcher.next, hempty]
    simp only [step, hafter, hnext, Option.toList_none, append_nil]
    rwa [hempty] at hfifo
  · obtain ⟨earlier, later, hsplit, hrest, hearlier, -⟩ := earliest_split m rest
    have hnext : h.dispatcher.next = some (earliest m rest).1 := by
      simp [NetworkDispatcher.next, hqueue]
    have hwhole := hqueue.trans hsplit
    -- an earlier message of the same class would be the first one, and the taken one before it
    have hother : ∀ y ∈ earlier, policyRank y ≠ policyRank (earliest m rest).1 := by
      intro y hy hrank
      cases hfind : earlier.find? (policyRank · = policyRank (earliest m rest).1) with
      | none => exact absurd hrank (by simpa using find?_eq_none.mp hfind y hy)
      | some first =>
        obtain ⟨hfirst, before, after, rfl, hbefore⟩ := find?_eq_some_iff_append.mp hfind
        rw [decide_eq_true_eq] at hfirst
        have hnot := hstamped before first (after ++ (earliest m rest).1 :: later)
          (by rw [hwhole, append_assoc, cons_append])
          (fun y hy => hfirst ▸ hurgent _ hnext y hy)
          (fun y hy => by simpa [hfirst] using hbefore y hy) (earliest m rest).1 (by simp)
          hfirst.symm
        exact hnot.not_gt (hearlier first (by simp))
    simp only [step, hafter, hnext, hrest, Option.toList_some, filter_append] at hfifo ⊢
    rw [hwhole, filter_append, filter_cons] at hfifo
    rw [hfifo]
    split_ifs at hfifo ⊢ with hrank
    · rw [decide_eq_true_eq] at hrank
      have hnone : earlier.filter (policyRank · = rank) = [] := by
        simp only [filter_eq_nil_iff, decide_eq_true_eq]
        exact fun y hy => hrank ▸ hother y hy
      simp [hnone, hrank]
    · simp [hrank]

/-- In a run whose queues are stamped in the order of acceptance when they are drained, dispatch is
in order; the most urgent class goes first in every run. -/
theorem dispatch_in_order {d : NetworkDispatcher} (hempty : d.queue = []) {calls : List OrderCall}
    (hstamped : Careful step Stamped ⟨d, [], []⟩ calls) :
    InOrder (run step ⟨d, [], []⟩ calls) := by
  apply run_keeps (I := InOrder) _ _ hstamped
  · intro h c hinv hc
    cases c with
    | submit now tick m => exact hinv.submit now tick m
    | drain now answer => exact hinv.drain hc
  · refine ⟨fun rank => ?_, urgent_next d⟩
    show [] = [] ++ d.queue.filter _
    rw [hempty]
    rfl

omit [Runtime] [PairText]

def routed : NetworkDispatcher :=
  ((start oneNetwork false).dispatcher.registerLocalRoute
    sessionRoute).2

/-- Two messages of one time, one after the other. -/
theorem dispatch_in_order_two : letI := expirationTimes
    letI := keyText
    InOrder (run step ⟨routed, [], []⟩ [
      .submit ⟨0, "t"⟩ 0 (requestMessage "m" "c"), .submit ⟨0, "t"⟩ 0 (requestMessage "m2" "c"),
      .drain ⟨1, "t"⟩ (.returned .none)]) := by
  let _ := expirationTimes
  let _ := keyText
  apply dispatch_in_order (d := routed) rfl
  refine ⟨trivial, trivial, fun earlier first later hqueue _ _ y hy _ => le_of_eq ?_, trivial⟩
  have hkey : ∀ waiting ∈ earlier ++ first :: later,
      dispatchKey waiting = dispatchKey (requestMessage "m" "c") := by
    rw [← hqueue]
    decide +kernel
  rw [hkey first (by simp), hkey y (by simp [hy])]

/-- A later message of the same class with an earlier time overtakes one that waits. -/
theorem backdated_overtakes : letI := expirationTimes
    letI := keyText
    ¬ InOrder (run step ⟨routed, [], []⟩ [
      .submit ⟨0, "t"⟩ 0 { requestMessage "m" "c" with
        createdAt := "1970-01-01T00:00:01+00:00" },
      .submit ⟨0, "t"⟩ 0 (requestMessage "m2" "c"),
      .drain ⟨1, "t"⟩ (.returned .none)]) := by
  intro h
  have hfifo := congrArg (List.map (·.messageId)) (h.fifo 2)
  revert hfifo
  decide +kernel

end OrderHistory

end AidnSpec.Dispatcher
