import AidnSpec.Allocations.Service
import AidnSpec.Base.Runs

/-!
# Disputed allocations stay held

The relation between settlement, hold and dispute of an allocation event, and calls that raise
without a change. A release of a disputed event, a resolution, a hold of a closed event and a check
behind a change break it; nothing else does, over every run.
-/

namespace AidnSpec.Allocations

open Base List

/-! ## What is promised -/

/-- The status fields and the times of an event agree. -/
structure Consistent (e : AllocationEvent) : Prop where
  disputed : e.disputeStatus = .open → e.settlementStatus = .hold
  closed : e.closedAt.isSome = true ↔ e.settlementStatus = .closed
  source : e.holdSource.isSome = true ↔ e.settlementStatus = .hold
  started : e.holdStartedAt.isSome = true ↔ e.settlementStatus = .hold

def AllConsistent (h : Host) : Prop := ∀ e ∈ h.allocationEvents, Consistent e

def Call.Frees (eventId : String) : Call → Prop
  | .release id _ _ => id = eventId
  | .resolve id _ _ => id = eventId
  | _ => False

/-- An event on hold stays so, unless the call releases it or resolves its dispute. -/
def KeepsHolds (c : Call) (h h' : Host) : Prop :=
  ∀ (i : ℕ) (e : AllocationEvent), h.allocationEvents[i]? = some e → e.settlementStatus = .hold →
    ∃ e', h'.allocationEvents[i]? = some e' ∧ e'.eventId = e.eventId ∧
      (e'.settlementStatus = .hold ∨ c.Frees e.eventId)

section

variable [Runtime] (settings : Settings)

/-- The host as the reconciliation at the start of a call leaves it. -/
def reconciledBefore (h : Host) (c : Env × Call) : Host :=
  match c.2 with
  | .record _ _ | .usage _ | .strict _ => h
  | _ => h.reconciled (c.1.now 0)

/-- The events are consistent after the call, it frees an event on hold only as it may, and when
it raises it has changed nothing beyond the reconciliation. -/
structure Respects (h : Host) (c : Env × Call) : Prop where
  consistent : AllConsistent (callStep settings h c)
  holds : KeepsHolds c.2 h (callStep settings h c)
  raises : ∀ failure, (c.2.answer settings c.1 h).1 = .error failure →
    (callStep settings h c).allocationEvents = (reconciledBefore h c).allocationEvents

/-- The reconciliation is written, and the call finds the event behind it. -/
def Finds (h : Host) (env : Env) (eventId : String) (i : ℕ) (e : AllocationEvent) : Prop :=
  (h.reconcile env).1 = .ok () ∧
    (h.reconciled (env.now 0)).findAllocationEvent eventId = some i ∧
    (h.reconciled (env.now 0)).allocationEvents[i]? = some e

/-- The condition on a call. -/
def Proper (h : Host) (c : Env × Call) : Prop :=
  match c.2 with
  | .record allocation _ =>
    (graceExpiry settings (c.1.now 0)).isSome = true →
      atLeastZero (Runtime.sum
        ((matchingUsage h.usageEvents allocation.allocationId).map (·.totalQ))) = true →
      c.1.saved = true
  | .reopen eventId _ => ∀ i e, Finds h c.1 eventId i e →
      e.settlementStatus = .closed → e.disputeStatus ≠ .open →
      (graceExpiry settings (c.1.now 1)).isSome = true ∧ c.1.saved = true
  | .dispute eventId _ => ∀ i e, Finds h c.1 eventId i e →
      e.disputeStatus ≠ .open → c.1.saved = true
  | .resolve eventId _ _ => ∀ i e, Finds h c.1 eventId i e → e.disputeStatus ≠ .open
  | .hold eventId _ => ∀ i e, Finds h c.1 eventId i e →
      e.settlementStatus ≠ .hold → e.settlementStatus ≠ .closed ∧ c.1.saved = true
  | .release eventId _ target => ∀ i e, Finds h c.1 eventId i e →
      e.settlementStatus = .hold → e.disputeStatus ≠ .open ∧
        (target = .grace →
          (Runtime.graceEnd (c.1.now 1).seconds settings.gracePeriodSeconds).isSome = true) ∧
        c.1.saved = true
  | .correction eventId _ total => ∀ i e, Finds h c.1 eventId i e →
      atLeastZero e.baseUsageTotalQ = true ∧ atLeastZero e.effectiveUsageTotalQ = true ∧
        atLeastZero total = true ∧ c.1.saved = true
  | _ => True

/-! ## Reconciliation -/

variable {settings} {h : Host}

variable {now : Reading} {e e' : AllocationEvent} {i : ℕ} {h : Host} {c : Call} {frees : Prop}

theorem reconcileEvent_of_hold {usage : List UsageEvent} (hhold : e.settlementStatus = .hold) :
    (reconcileEvent now usage e).1 = e := by
  unfold reconcileEvent
  rw [if_pos hhold]

/-- Usage counters do not touch what `Consistent` speaks of. -/
theorem Consistent.withUsage (he : Consistent e) (usage : List UsageEvent) :
    Consistent (withUsage usage e).1 :=
  ⟨he.disputed, he.closed, he.source, he.started⟩

theorem Consistent.reconcileEvent (he : Consistent e) (now : Reading) (usage : List UsageEvent) :
    Consistent (reconcileEvent now usage e).1 := by
  unfold Allocations.reconcileEvent
  dsimp only
  split_ifs with hhold hclosed hopen hover
  · exact he
  · exact he
  · exact he.withUsage usage
  · -- Closing an event in its grace period: neither held nor disputed.
    have hsource : ¬ e.holdSource.isSome = true := fun hs => hhold (he.source.mp hs)
    have hstarted : ¬ e.holdStartedAt.isSome = true := fun hs => hhold (he.started.mp hs)
    constructor
    · intro hdispute
      simp only [Allocations.withUsage] at hdispute
      simp [hdispute] at hopen
    · simp
    · simpa [Allocations.withUsage] using hsource
    · simpa [Allocations.withUsage] using hstarted
  · exact he.withUsage usage

theorem AllConsistent.reconciled (hall : AllConsistent h) (now : Reading) :
    AllConsistent (h.reconciled now) := by
  intro e he
  obtain ⟨e₀, he₀, rfl⟩ := mem_map.mp he
  exact (hall e₀ he₀).reconcileEvent now h.usageEvents

theorem getElem?_reconciled (now : Reading) (i : ℕ) :
    (h.reconciled now).allocationEvents[i]? =
      (h.allocationEvents[i]?).map fun e => (reconcileEvent now h.usageEvents e).1 := by
  simp [Host.reconciled]

theorem keepsHolds_reconciled (c : Call) (now : Reading) : KeepsHolds c h (h.reconciled now) := by
  intro i e he hhold
  refine ⟨e, ?_, rfl, .inl hhold⟩
  rw [getElem?_reconciled, he, Option.map_some, reconcileEvent_of_hold hhold]

/-! ## Calls on one event -/

/-- A call on an event that does what it may. -/
def Good (saved : Bool) : Attempt → Prop
  | .refused _ => True
  | .broken _ _ => False
  | .changed e' => Consistent e' ∧ saved = true

/-- What a call makes of an event is another event under the same identifier, and on hold as
before unless the call frees it. -/
def Sane (frees : Prop) (e : AllocationEvent) : Attempt → Prop
  | .refused _ => True
  | .broken _ e' => e' ≠ e
  | .changed e' => e' ≠ e ∧ e'.eventId = e.eventId ∧
      (e.settlementStatus = .hold → e'.settlementStatus = .hold ∨ frees)

variable {env : Env} {eventId : String} {attempt : AllocationEvent → Attempt}

variable (h env eventId attempt) in
/-- What a call on one event ends with. -/
theorem onEvent_cases :
    (∃ failure, (h.onEvent env eventId attempt).1 = .error failure ∧
      (h.onEvent env eventId attempt).2 = h.reconciled (env.now 0) ∧
      ∀ i e, Finds h env eventId i e → ∃ failure, attempt e = .refused failure) ∨
    ∃ i e, Finds h env eventId i e ∧
      ((∃ failure e', attempt e = .broken failure e' ∧
        h.onEvent env eventId attempt =
          (.error failure, (h.reconciled (env.now 0)).replaced i e')) ∨
      ∃ e', attempt e = .changed e' ∧
        h.onEvent env eventId attempt =
          (if env.saved then .ok () else .error .host,
            (h.reconciled (env.now 0)).replaced i e')) := by
  have hsecond : (h.reconcile env).2 = h.reconciled (env.now 0) := rfl
  unfold Host.onEvent
  cases hreconcile : h.reconcile env with
  | mk answer reconciled =>
    rw [hreconcile] at hsecond
    dsimp only at hsecond
    subst hsecond
    cases answer with
    | error failure =>
      left
      refine ⟨failure, rfl, rfl, ?_⟩
      intro i e hfinds
      rw [Finds, hreconcile] at hfinds
      cases hfinds.1
    | ok u =>
      have hok : (h.reconcile env).1 = .ok () := by rw [hreconcile]
      dsimp only
      cases hfind : (h.reconciled (env.now 0)).findAllocationEvent eventId with
      | none =>
        left
        refine ⟨.key eventId, rfl, rfl, ?_⟩
        intro i e hfinds
        rw [Finds, hfind] at hfinds
        cases hfinds.2.1
      | some i =>
        dsimp only
        cases hget : (h.reconciled (env.now 0)).allocationEvents[i]? with
        | none =>
          left
          refine ⟨.key eventId, rfl, rfl, ?_⟩
          intro j e hfinds
          obtain ⟨-, hj, hfinds⟩ := hfinds
          rw [hfind, Option.some.injEq] at hj
          rw [← hj, hget] at hfinds
          cases hfinds
        | some e =>
          have hfinds : Finds h env eventId i e := ⟨hok, hfind, hget⟩
          dsimp only
          cases hattempt : attempt e with
          | refused failure =>
            left
            refine ⟨failure, rfl, rfl, ?_⟩
            rintro j e' ⟨-, hj, hfound⟩
            rw [hfind, Option.some.injEq] at hj
            rw [← hj, hget, Option.some.injEq] at hfound
            exact ⟨failure, by rw [← hfound, hattempt]⟩
          | broken failure e' => exact .inr ⟨i, e, hfinds, .inl ⟨failure, e', hattempt, rfl⟩⟩
          | changed e' => exact .inr ⟨i, e, hfinds, .inr ⟨e', hattempt, rfl⟩⟩

theorem eventId_of_finds (hfinds : Finds h env eventId i e) : e.eventId = eventId := by
  obtain ⟨-, hfind, hget⟩ := hfinds
  obtain ⟨hlt, hmatch, -⟩ := findIdx?_eq_some_iff_getElem.mp hfind
  rw [getElem?_eq_getElem hlt, Option.some.injEq] at hget
  rw [hget] at hmatch
  simpa using hmatch

theorem mem_of_finds (hfinds : Finds h env eventId i e) :
    e ∈ (h.reconciled (env.now 0)).allocationEvents := mem_of_getElem? hfinds.2.2

/-- Another event at the position of one that was found is another list of events. -/
theorem replaced_ne (hfinds : Finds h env eventId i e) (hne : e' ≠ e) :
    ((h.reconciled (env.now 0)).replaced i e').allocationEvents ≠
      (h.reconciled (env.now 0)).allocationEvents := by
  intro heq
  have hget := hfinds.2.2
  obtain ⟨hlt, -⟩ := List.getElem?_eq_some_iff.mp hget
  rw [← heq, Host.replaced, getElem?_set_self hlt, Option.some.injEq] at hget
  exact hne hget

omit [Runtime] in
theorem AllConsistent.replaced (hall : AllConsistent h) (i : ℕ) (he : Consistent e) :
    AllConsistent (h.replaced i e) := by
  intro e' he'
  rcases mem_or_eq_of_mem_set he' with hmem | rfl
  · exact hall e' hmem
  · exact he

/-- The event a call on one event replaces is freed only as it may be. -/
theorem keepsHolds_replaced (hfinds : Finds h env eventId i e) (hid : e'.eventId = e.eventId)
    (hholds : e.settlementStatus = .hold → e'.settlementStatus = .hold ∨ c.Frees e.eventId) :
    KeepsHolds c h ((h.reconciled (env.now 0)).replaced i e') := by
  intro j f hf hhold
  obtain ⟨f', hf', hfid, hfree⟩ := keepsHolds_reconciled c (env.now 0) j f hf hhold
  have hsame : f' = f := by
    rw [getElem?_reconciled, hf, Option.map_some, reconcileEvent_of_hold hhold] at hf'
    exact (Option.some.inj hf').symm
  subst hsame
  by_cases hj : i = j
  · subst hj
    have hget := hfinds.2.2
    rw [hf', Option.some.injEq] at hget
    subst hget
    obtain ⟨hlt, -⟩ := List.getElem?_eq_some_iff.mp hf'
    exact ⟨e', getElem?_set_self hlt, hid, hholds hhold⟩
  · refine ⟨f', ?_, rfl, hfree⟩
    rw [Host.replaced, getElem?_set_ne hj, hf']

/-- A call on one event respects its promises if and only if it does with the event it finds what
it may. -/
theorem onEvent_respects_iff (hall : AllConsistent h)
    (hsane : ∀ e, Sane (c.Frees eventId) e (attempt e)) :
    (AllConsistent (h.onEvent env eventId attempt).2 ∧
        KeepsHolds c h (h.onEvent env eventId attempt).2 ∧
        ∀ failure, (h.onEvent env eventId attempt).1 = .error failure →
          (h.onEvent env eventId attempt).2.allocationEvents =
            (h.reconciled (env.now 0)).allocationEvents) ↔
      ∀ i e, Finds h env eventId i e → Good env.saved (attempt e) := by
  have hreconciled := hall.reconciled (env.now 0)
  rcases onEvent_cases h env eventId attempt with hraises | hfound
  · obtain ⟨failure, -, hhost, hrefused⟩ := hraises
    rw [hhost]
    constructor
    · intro _ i e hfinds
      obtain ⟨failure, hattempt⟩ := hrefused i e hfinds
      rw [hattempt]
      trivial
    · intro _
      exact ⟨hreconciled, keepsHolds_reconciled c _, fun _ _ => rfl⟩
  · obtain ⟨i, e, hfinds, hattempt⟩ := hfound
    have hsaneAt := hsane e
    have honly : ∀ j f, Finds h env eventId j f → f = e := by
      rintro j f ⟨-, hj, hf⟩
      rw [hfinds.2.1, Option.some.injEq] at hj
      rw [← hj, hfinds.2.2, Option.some.injEq] at hf
      exact hf.symm
    rcases hattempt with ⟨failure, e', hattempt, hanswer⟩ | ⟨e', hattempt, hanswer⟩
    · rw [hanswer]
      rw [hattempt] at hsaneAt
      constructor
      · intro hrespects
        exact absurd (hrespects.2.2 failure rfl) (replaced_ne hfinds hsaneAt)
      · intro hgood
        have hbroken := hgood i e hfinds
        rw [hattempt] at hbroken
        exact hbroken.elim
    · rw [hanswer]
      rw [hattempt] at hsaneAt
      obtain ⟨hne, hid, hholds⟩ := hsaneAt
      constructor
      · intro hrespects j f hf
        rw [honly j f hf, hattempt]
        constructor
        · apply hrespects.1
          obtain ⟨hlt, -⟩ := List.getElem?_eq_some_iff.mp hfinds.2.2
          exact mem_set hlt e'
        · by_contra hsaved
          have hraised := hrespects.2.2 .host (by simp [hsaved])
          exact replaced_ne hfinds hne hraised
      · intro hgood
        have hchanged := hgood i e hfinds
        rw [hattempt] at hchanged
        obtain ⟨hconsistent, hsaved⟩ := hchanged
        refine ⟨hreconciled.replaced i hconsistent, ?_, ?_⟩
        · apply keepsHolds_replaced hfinds hid
          rw [eventId_of_finds hfinds]
          exact hholds
        · intro failure hfailure
          rw [hsaved] at hfailure
          cases hfailure

/-! ## The six calls on one event -/

theorem graceExpiry_none (hnone : graceExpiry settings now = none) : settled settings = .grace := by
  unfold graceExpiry at hnone
  unfold settled
  by_cases himmediate : closedImmediately settings = true
  · simp [himmediate] at hnone
  · simp [himmediate]

omit [Runtime] in
theorem closedAtOnce_isSome (now : Reading) :
    (closedAtOnce settings now).isSome = true ↔ settled settings = .closed := by
  unfold closedAtOnce settled
  by_cases himmediate : closedImmediately settings = true <;> simp [himmediate]

omit [Runtime] in
theorem settled_ne_hold : settled settings ≠ .hold := by
  unfold settled
  split_ifs <;> simp

omit [Runtime] in
/-- Events that differ in one field differ. -/
theorem ne_of_field {α : Type} (field : AllocationEvent → α) (h : field e' ≠ field e) :
    e' ≠ e := fun heq => h (congrArg field heq)

theorem sane_reopen (reason : Option String) (frees : Prop) (e : AllocationEvent) :
    Sane frees e (reopenAttempt settings env reason e) := by
  unfold reopenAttempt
  split_ifs with hclosed hopen
  · trivial
  · trivial
  · rw [ne_eq, not_not] at hclosed
    dsimp only
    split
    · next hexpiry =>
      apply ne_of_field (·.settlementStatus)
      simp [graceExpiry_none hexpiry, hclosed]
    · refine ⟨ne_of_field (·.reopenCount) (by simp), rfl, ?_⟩
      intro hhold
      rw [hclosed] at hhold
      cases hhold

/-- A reopened event is consistent. -/
theorem good_reopen (he : Consistent e) (reason : Option String) (saved : Bool) :
    Good saved (reopenAttempt settings env reason e) ↔
      (e.settlementStatus = .closed → e.disputeStatus ≠ .open →
        (graceExpiry settings (env.now 1)).isSome = true ∧ saved = true) := by
  unfold reopenAttempt
  split_ifs with hclosed hopen
  · simp [Good, hclosed]
  · simp [Good, hopen]
  · rw [ne_eq, not_not] at hclosed
    dsimp only
    split
    · next hexpiry => simp [Good, hclosed, hopen, hexpiry]
    · next hexpiry =>
      have hsource : ¬ e.holdSource.isSome = true := by simp [he.source, hclosed]
      have hstarted : ¬ e.holdStartedAt.isSome = true := by simp [he.started, hclosed]
      simp only [Good, hclosed, hopen, hexpiry, Option.isSome_some, true_and, forall_true_left,
        ne_eq, not_false_eq_true, and_iff_right_iff_imp]
      intro _
      exact ⟨fun hdispute => absurd hdispute hopen, closedAtOnce_isSome _,
        by simp [hsource, settled_ne_hold], by simp [hstarted, settled_ne_hold]⟩

omit [Runtime] in
theorem sane_dispute (reason : String) (frees : Prop) (e : AllocationEvent) :
    Sane frees e (disputeAttempt settings env reason e) := by
  unfold disputeAttempt
  split_ifs with hopen
  · trivial
  · exact ⟨ne_of_field (·.disputeStatus) (Ne.symm hopen), rfl, fun _ => .inl rfl⟩

omit [Runtime] in
/-- A disputed event is consistent. -/
theorem good_dispute (e : AllocationEvent) (reason : String) (saved : Bool) :
    Good saved (disputeAttempt settings env reason e) ↔
      (e.disputeStatus ≠ .open → saved = true) := by
  unfold disputeAttempt
  split_ifs with hopen
  · simp [Good, hopen]
  · have hconsistent : ∀ e' : AllocationEvent, e'.settlementStatus = .hold →
        e'.closedAt = none → e'.holdSource.isSome = true → e'.holdStartedAt.isSome = true →
        Consistent e' := by
      intro e' hhold hclosed hsource hstarted
      exact ⟨fun _ => hhold, by simp [hclosed, hhold], by simp [hsource, hhold],
        by simp [hstarted, hhold]⟩
    simp only [Good, hopen, ne_eq, not_false_eq_true, forall_true_left, and_iff_right_iff_imp]
    intro _
    exact hconsistent _ rfl rfl rfl rfl

theorem sane_resolve (resolution : String) (reason : Option String) (hfrees : frees)
    (e : AllocationEvent) : Sane frees e (resolveAttempt settings env resolution reason e) := by
  unfold resolveAttempt
  split
  · trivial
  · next hopen =>
    rw [ne_eq, not_not] at hopen
    have hne : DisputeStatus.resolved ≠ e.disputeStatus := by simp [hopen]
    dsimp only
    split_ifs
    · split
      · exact ne_of_field (·.disputeStatus) hne
      · exact ⟨ne_of_field (·.disputeStatus) hne, rfl, fun _ => .inr hfrees⟩
    · exact ⟨ne_of_field (·.disputeStatus) hne, rfl, fun _ => .inr hfrees⟩
    · exact ne_of_field (·.disputeStatus) hne

/-- A resolved event keeps the source of its hold. -/
theorem good_resolve (he : Consistent e) (resolution : String) (reason : Option String)
    (saved : Bool) :
    Good saved (resolveAttempt settings env resolution reason e) ↔ e.disputeStatus ≠ .open := by
  unfold resolveAttempt
  split
  · next hopen => simpa [Good] using hopen
  · next hopen =>
    rw [ne_eq, not_not] at hopen
    have hsource := he.source.mpr (he.disputed hopen)
    simp only [hopen, ne_eq, not_true_eq_false, iff_false]
    split_ifs
    · split
      · simp [Good]
      · rintro ⟨hconsistent, -⟩
        exact settled_ne_hold (hconsistent.source.mp hsource)
    · rintro ⟨hconsistent, -⟩
      cases hconsistent.source.mp hsource
    · simp [Good]

omit [Runtime] in
theorem sane_hold (reason : String) (frees : Prop) (e : AllocationEvent) :
    Sane frees e (holdAttempt env reason e) := by
  unfold holdAttempt
  split_ifs with hhold hopen
  · trivial
  · trivial
  · exact ⟨ne_of_field (·.settlementStatus) (Ne.symm hhold), rfl, fun _ => .inl rfl⟩

omit [Runtime] in
/-- A hold keeps the time of closing. -/
theorem good_hold (he : Consistent e) (reason : String) (saved : Bool) :
    Good saved (holdAttempt env reason e) ↔
      (e.settlementStatus ≠ .hold → e.settlementStatus ≠ .closed ∧ saved = true) := by
  unfold holdAttempt
  split_ifs with hhold hopen
  · simp [Good, hhold]
  · exact absurd (he.disputed hopen) hhold
  · simp only [Good, hhold, ne_eq, not_false_eq_true, forall_true_left]
    constructor
    · rintro ⟨hconsistent, hsaved⟩
      refine ⟨?_, hsaved⟩
      intro hclosed
      cases hconsistent.closed.mp (he.closed.mpr hclosed)
    · rintro ⟨hclosed, hsaved⟩
      have hnone : ¬ e.closedAt.isSome = true := fun hsome => hclosed (he.closed.mp hsome)
      exact ⟨⟨fun _ => rfl, by simpa using hnone, by simp, by simp⟩, hsaved⟩

theorem sane_release (target : ReleaseTarget) (hfrees : frees) (e : AllocationEvent) :
    Sane frees e (releaseAttempt settings env target e) := by
  unfold releaseAttempt
  split
  · trivial
  · next hhold =>
    rw [ne_eq, not_not] at hhold
    dsimp only
    split
    · exact ⟨ne_of_field (·.settlementStatus) (by simp [hhold]), rfl, fun _ => .inr hfrees⟩
    · split
      · exact ne_of_field (·.settlementStatus) (by simp [hhold])
      · exact ⟨ne_of_field (·.settlementStatus) (by simp [hhold]), rfl, fun _ => .inr hfrees⟩

/-- A release does not look at the dispute. -/
theorem good_release (e : AllocationEvent) (target : ReleaseTarget) (saved : Bool) :
    Good saved (releaseAttempt settings env target e) ↔
      (e.settlementStatus = .hold → e.disputeStatus ≠ .open ∧
        (target = .grace →
          (Runtime.graceEnd (env.now 1).seconds settings.gracePeriodSeconds).isSome = true) ∧
        saved = true) := by
  unfold releaseAttempt
  split
  · next hhold => simp [Good, hhold]
  · next hhold =>
    rw [ne_eq, not_not] at hhold
    simp only [hhold, forall_true_left]
    cases target with
    | closed =>
      simp only [Good, reduceCtorEq, false_implies, true_and]
      constructor
      · rintro ⟨hconsistent, hsaved⟩
        refine ⟨?_, hsaved⟩
        intro hopen
        cases hconsistent.disputed hopen
      · rintro ⟨hopen, hsaved⟩
        exact ⟨⟨fun hdispute => absurd hdispute hopen, by simp, by simp, by simp⟩, hsaved⟩
    | grace =>
      cases hend : Runtime.graceEnd (env.now 1).seconds settings.gracePeriodSeconds with
      | none => simp [Good]
      | some expiry =>
        simp only [Good, Option.isSome_some, forall_true_left, true_and]
        constructor
        · rintro ⟨hconsistent, hsaved⟩
          refine ⟨?_, hsaved⟩
          intro hopen
          cases hconsistent.disputed hopen
        · rintro ⟨hopen, hsaved⟩
          exact ⟨⟨fun hdispute => absurd hdispute hopen, by simp, by simp, by simp⟩, hsaved⟩

omit [Runtime] in
theorem sane_correction (total : PyFloat) (frees : Prop) (e : AllocationEvent) :
    Sane frees e (correctionAttempt total e) := by
  have hne : e.correctionCount + 1 ≠ e.correctionCount := by omega
  unfold correctionAttempt
  dsimp only
  split_ifs
  · exact ne_of_field (·.correctionCount) hne
  · exact ne_of_field (·.correctionCount) hne
  · exact ne_of_field (·.correctionCount) hne
  · exact ⟨ne_of_field (·.correctionCount) hne, rfl, fun hhold => .inl hhold⟩

omit [Runtime] in
/-- A correction raises behind its change when a total is negative. -/
theorem good_correction (he : Consistent e) (total : PyFloat) (saved : Bool) :
    Good saved (correctionAttempt total e) ↔
      atLeastZero e.baseUsageTotalQ = true ∧ atLeastZero e.effectiveUsageTotalQ = true ∧
        atLeastZero total = true ∧ saved = true := by
  unfold correctionAttempt
  dsimp only
  split_ifs with hbase hbefore hafter
  · simp_all [Good]
  · simp_all [Good]
  · simp_all [Good]
  · have hconsistent : Consistent { e with
        effectiveUsageTotalQ := total
        correctionCount := e.correctionCount + 1 } :=
      ⟨he.disputed, he.closed, he.source, he.started⟩
    simp_all [Good]

/-! ## Runs -/

/-- A new event is consistent. -/
theorem consistent_recordedEvent (allocation : Allocation) (status : AllocationStatus)
    (expiry : Option String) :
    Consistent (recordedEvent settings env h allocation status expiry) := by
  constructor
  · intro hopen
    cases hopen
  · exact closedAtOnce_isSome _
  · simp [recordedEvent, settled_ne_hold]
  · simp [recordedEvent, settled_ne_hold]

omit [Runtime] in
theorem Consistent.strictlyHeld (now : Reading) : Consistent (strictlyHeld now e) :=
  ⟨fun _ => rfl, by simp [Allocations.strictlyHeld], by simp [Allocations.strictlyHeld],
    by simp [Allocations.strictlyHeld]⟩

omit [Runtime] in
theorem keepsHolds_of_append {h' : Host} {later : List AllocationEvent}
    (heq : h'.allocationEvents = h.allocationEvents ++ later) : KeepsHolds c h h' := by
  intro i e he hhold
  obtain ⟨hlt, -⟩ := List.getElem?_eq_some_iff.mp he
  refine ⟨e, ?_, rfl, .inl hhold⟩
  rw [heq, getElem?_append_left hlt, he]

/-- A new event is appended, or the call raises before. -/
theorem record_cases (allocation : Allocation) (status : AllocationStatus) :
    (∃ failure, h.record settings env allocation status = (.error failure, h)) ∧
        ¬ ((graceExpiry settings (env.now 0)).isSome = true ∧
          atLeastZero (Runtime.sum
            ((matchingUsage h.usageEvents allocation.allocationId).map (·.totalQ))) = true) ∨
      ((graceExpiry settings (env.now 0)).isSome = true ∧
        atLeastZero (Runtime.sum
          ((matchingUsage h.usageEvents allocation.allocationId).map (·.totalQ))) = true) ∧
        ∃ e, Consistent e ∧
          (h.record settings env allocation status).1 =
            (if env.saved then .ok () else .error .host) ∧
          (h.record settings env allocation status).2.allocationEvents =
            h.allocationEvents ++ [e] := by
  unfold Host.record
  cases hexpiry : graceExpiry settings (env.now 0) with
  | none => exact .inl ⟨⟨_, rfl⟩, by simp⟩
  | some expiry =>
    by_cases htotal : atLeastZero (Runtime.sum
        ((matchingUsage h.usageEvents allocation.allocationId).map (·.totalQ))) = true
    · right
      refine ⟨⟨rfl, htotal⟩,
        if h.strictHeldAllocations.contains allocation.allocationId then
          strictlyHeld (env.now 1) (recordedEvent settings env h allocation status expiry)
        else recordedEvent settings env h allocation status expiry, ?_, ?_, ?_⟩
      · split_ifs
        · exact .strictlyHeld _
        · exact consistent_recordedEvent allocation status expiry
      · simp [recordedEvent, htotal]
      · simp [recordedEvent, htotal]
    · left
      refine ⟨⟨.validation "base_usage_total_q", ?_⟩, by simp [htotal]⟩
      simp [recordedEvent, htotal]

theorem record_respects_iff (hall : AllConsistent h) (allocation : Allocation)
    (status : AllocationStatus) : Respects settings h (env, .record allocation status) ↔
      Proper settings h (env, .record allocation status) := by
  rcases @record_cases _ settings h env allocation status with
    ⟨⟨failure, hanswer⟩, hnot⟩ | ⟨hreached, e, he, hanswer, hevents⟩
  · have hstep : callStep settings h (env, .record allocation status) = h :=
      congrArg Prod.snd hanswer
    constructor
    · intro _ hexpiry htotal
      exact absurd ⟨hexpiry, htotal⟩ hnot
    · intro _
      refine ⟨by rwa [hstep], ?_, ?_⟩
      · rw [hstep]
        apply keepsHolds_of_append (append_nil _).symm
      · intro _ _
        rw [hstep]
        rfl
  · constructor
    · intro hrespects _ _
      by_contra hsaved
      have hraised := hrespects.raises .host (hanswer.trans (if_neg hsaved))
      simp only [callStep, Call.answer, hevents, reconciledBefore] at hraised
      simp at hraised
    · intro hproper
      have hsaved : env.saved = true := hproper hreached.1 hreached.2
      refine ⟨?_, keepsHolds_of_append hevents, ?_⟩
      · intro e' he'
        simp only [callStep, Call.answer, hevents, mem_append, mem_singleton] at he'
        rcases he' with hmem | rfl
        · exact hall e' hmem
        · exact he
      · intro failure hfailure
        have hok : (h.record settings env allocation status).1 = .ok () := by
          rw [hanswer, hsaved, if_pos rfl]
        rw [Call.answer, hok] at hfailure
        cases hfailure

/-- A call on one event in terms of what it does with that event. -/
theorem respects_iff_good {call : Call} (hcall : call.answer settings env h =
      h.onEvent env eventId attempt)
    (hbefore : reconciledBefore h (env, call) = h.reconciled (env.now 0))
    (hall : AllConsistent h) (hsane : ∀ e, Sane (call.Frees eventId) e (attempt e)) :
    Respects settings h (env, call) ↔
      ∀ i e, Finds h env eventId i e → Good env.saved (attempt e) := by
  have hstep : callStep settings h (env, call) = (h.onEvent env eventId attempt).2 :=
    congrArg Prod.snd hcall
  rw [← onEvent_respects_iff hall hsane, ← hstep, ← hbefore, ← hcall]
  constructor
  · intro hrespects
    exact ⟨hrespects.consistent, hrespects.holds, hrespects.raises⟩
  · rintro ⟨hconsistent, hholds, hraises⟩
    exact ⟨hconsistent, hholds, hraises⟩

/-- What is known of consistent events is known of the event a call finds. -/
theorem finds_congr (hall : AllConsistent h) {P Q : AllocationEvent → Prop}
    (hpq : ∀ e, Consistent e → (P e ↔ Q e)) :
    (∀ i e, Finds h env eventId i e → P e) ↔ ∀ i e, Finds h env eventId i e → Q e := by
  apply forall₂_congr
  intro i e
  apply imp_congr_right
  intro hfinds
  exact hpq e (hall.reconciled (env.now 0) e (mem_of_finds hfinds))

/-- A call respects its promises if and only if it meets the condition. -/
theorem respects_iff_proper (hall : AllConsistent h) (c : Env × Call) :
    Respects settings h c ↔ Proper settings h c := by
  obtain ⟨env, call⟩ := c
  cases call with
  | record allocation status => exact record_respects_iff hall allocation status
  | reopen eventId reason =>
    rw [respects_iff_good rfl rfl hall (sane_reopen reason _)]
    exact finds_congr hall fun _ he => good_reopen he reason env.saved
  | dispute eventId reason =>
    rw [respects_iff_good rfl rfl hall (sane_dispute reason _)]
    exact finds_congr hall fun e _ => good_dispute e reason env.saved
  | resolve eventId resolution reason =>
    have hfrees : (Call.resolve eventId resolution reason).Frees eventId := rfl
    rw [respects_iff_good rfl rfl hall (sane_resolve resolution reason hfrees)]
    exact finds_congr hall fun _ he => good_resolve he resolution reason env.saved
  | hold eventId reason =>
    rw [respects_iff_good rfl rfl hall (sane_hold reason _)]
    exact finds_congr hall fun _ he => good_hold he reason env.saved
  | release eventId reason target =>
    have hfrees : (Call.release eventId reason target).Frees eventId := rfl
    rw [respects_iff_good rfl rfl hall (sane_release target hfrees)]
    exact finds_congr hall fun e _ => good_release e target env.saved
  | correction eventId reason total =>
    rw [respects_iff_good rfl rfl hall (sane_correction total _)]
    exact finds_congr hall fun _ he => good_correction he total env.saved
  | reconcile =>
    constructor
    · intro _
      trivial
    · intro _
      exact ⟨hall.reconciled _, keepsHolds_reconciled _ _, fun _ _ => rfl⟩
  | usage | strict =>
    constructor
    · intro _
      trivial
    · intro _
      refine ⟨hall, keepsHolds_of_append (append_nil _).symm, ?_⟩
      intro failure hfailure
      cases hfailure

/-- Over every run from a host without allocation events, every call keeps the promises if and only
if every call meets the condition. -/
theorem disputes_held_iff (usage : List UsageEvent) (strict : List String)
    (calls : List (Env × Call)) :
    Careful (callStep settings) (Respects settings)
        { usageEvents := usage, strictHeldAllocations := strict } calls ↔
      Careful (callStep settings) (Proper settings)
        { usageEvents := usage, strictHeldAllocations := strict } calls := by
  have hempty : AllConsistent { usageEvents := usage, strictHeldAllocations := strict } := by
    intro e he
    cases he
  constructor
  · intro hrespects
    apply careful_of_keeps _ hempty hrespects
    intro h c hall hc
    exact ⟨hc.consistent, (respects_iff_proper hall c).mp hc⟩
  · intro hproper
    apply careful_of_keeps _ hempty hproper
    intro h c hall hc
    have hrespects := (respects_iff_proper hall c).mpr hc
    exact ⟨hrespects.consistent, hrespects⟩

end

/-! ## Samples -/

/-- Events whose fields agree, as a check. -/
def agrees (e : AllocationEvent) : Bool :=
  (e.disputeStatus != .open || e.settlementStatus == .hold) &&
    (e.closedAt.isSome == (e.settlementStatus == .closed)) &&
    (e.holdSource.isSome == (e.settlementStatus == .hold))

theorem AllConsistent.agrees {h : Host} (hall : AllConsistent h) :
    h.allocationEvents.all agrees = true := by
  rw [all_eq_true]
  intro e he
  have hconsistent := hall e he
  have hdisputed := hconsistent.disputed
  simp only [Allocations.agrees, Bool.and_eq_true, Bool.or_eq_true, bne_iff_ne, beq_iff_eq]
  refine ⟨⟨by tauto, ?_⟩, ?_⟩
  · rw [Bool.eq_iff_iff, hconsistent.closed, beq_iff_eq]
  · rw [Bool.eq_iff_iff, hconsistent.source, beq_iff_eq]

/-- The library on the sample inputs: no usage, and a clock that stands still. -/
@[reducible] def sampleRuntime : Runtime where
  sum _ := .finite "0.0" 0
  graceEnd _ _ := some "2026-01-01T00:05:00+00:00"
  timestampOf _ := some 1767225900

/-- The first second of 2026. -/
def sampleEnv : Env where
  now _ := ⟨1767225600, "2026-01-01T00:00:00+00:00"⟩
  utcNow := "2026-01-01T00:00:00+00:00"
  uuid := "event"

/-- A host with the default grace period. -/
def sampleSettings : Settings := ⟨"node-local", "operator-local", 300⟩

/-- An allocation is recorded, and its event is called on. -/
def sampleCalls (calls : List Call) : List (Env × Call) :=
  (.record ⟨"allocation", "owner", "bundle", "chat"⟩ .released :: calls).map (sampleEnv, ·)

/-- A release and a resolution of a dispute, a resolution that is not supported, a correction below
zero, and, without a grace period, a hold break the promises. -/
theorem disputes_not_held :
    letI := sampleRuntime
    ¬ Careful (callStep sampleSettings) (Respects sampleSettings) {}
        (sampleCalls [.dispute "event" "reason", .release "event" "reason" .closed]) ∧
      ¬ Careful (callStep sampleSettings) (Respects sampleSettings) {}
        (sampleCalls [.dispute "event" "reason", .resolve "event" "accepted" none]) ∧
      ¬ Careful (callStep sampleSettings) (Respects sampleSettings) {}
        (sampleCalls [.dispute "event" "reason", .resolve "event" "void" none]) ∧
      ¬ Careful (callStep sampleSettings) (Respects sampleSettings) {}
        (sampleCalls [.correction "event" "reason" (.finite "-1.0" (-1))]) ∧
      ¬ Careful (callStep { sampleSettings with gracePeriodSeconds := 0 })
        (Respects { sampleSettings with gracePeriodSeconds := 0 }) {}
        (sampleCalls [.hold "event" "reason"]) := by
  let _ : Runtime := sampleRuntime
  refine ⟨?_, ?_, ?_, ?_, ?_⟩
  · intro h
    exact absurd h.2.2.1.consistent.agrees (by decide)
  · intro h
    exact absurd h.2.2.1.consistent.agrees (by decide)
  · intro h
    have hraised := h.2.2.1.raises (.value "Unsupported dispute resolution: void") rfl
    exact absurd hraised (by decide)
  · intro h
    have hraised := h.2.1.raises (.validation "effective_usage_total_q_after") rfl
    exact absurd hraised (by decide)
  · intro h
    exact absurd h.2.1.consistent.agrees (by decide)

end AidnSpec.Allocations
