import AidnSpec.Node.ResourceLeases

/-!
# Leases within the capacity

Runs of the resource orchestrator under any clock. Reservations match the active leases, and a
trusted state reserves no more than may be allocated, as long as the calls are careful: new capacity
is not compared with what may be allocated of it, and a call that raises keeps what it had assigned
before.
-/

namespace AidnSpec.Node

open Base StatefulCall

/-! ## The invariant -/

def reservationOf (lease : ResourceLease) : Option Reservation :=
  if isActiveLease lease.status then some ⟨lease.leaseId, lease.amounts⟩ else none

def Amounts.Nonneg (a : Amounts) : Prop := 0 ≤ a.cpu ∧ 0 ≤ a.ramMb ∧ 0 ≤ a.vramMb

/-- Reservations match the active leases. -/
structure Matched (o : ResourceOrchestrator) : Prop where
  named : ∀ id lease, o.leases.get? id = some lease → lease.leaseId = id ∧
    (isActiveLease lease.status = true ∨ isTerminalLease lease.status = true)
  reserved : ∀ id, o.reservations.get? id = (o.leases.get? id).bind reservationOf
  nonneg : ∀ id r, o.reservations.get? id = some r → r.amounts.Nonneg

/-- What is reserved in a trusted state may be allocated. -/
def Bounded (o : ResourceOrchestrator) : Prop :=
  o.reconciliationState = .trusted → (reserved o.reservations).AtMost o.allocatable

variable {status : String} {o o' : ResourceOrchestrator}

/-- An active lease is not a finished one. -/
theorem not_terminal_of_active (h : isActiveLease status = true) :
    isTerminalLease status = false := by
  simp only [isActiveLease, List.contains_eq_mem, List.mem_cons, List.not_mem_nil, or_false,
    decide_eq_true_eq] at h
  rcases h with rfl | rfl | rfl <;> decide

theorem not_active_of_terminal (h : isTerminalLease status = true) :
    isActiveLease status = false := by
  by_contra hactive
  rw [not_terminal_of_active (by simpa using hactive)] at h
  cases h

/-- Fewer reservations reserve less. -/
theorem reserved_atMost {d e : Dict String Reservation}
    (hnonneg : ∀ id r, e.get? id = some r → r.amounts.Nonneg)
    (hsub : ∀ id r, d.get? id = some r → e.get? id = some r) :
    (reserved d).AtMost (reserved e) :=
  ⟨Dict.sum_le_of_sub (fun id r h => (hnonneg id r h).1) hsub,
    Dict.sum_le_of_sub (fun id r h => (hnonneg id r h).2.1) hsub,
    Dict.sum_le_of_sub (fun id r h => (hnonneg id r h).2.2) hsub⟩

theorem Amounts.AtMost.trans {a b c : Amounts} (h : a.AtMost b) (h' : b.AtMost c) : a.AtMost c :=
  ⟨le_trans h.1 h'.1, le_trans h.2.1 h'.2.1, le_trans h.2.2 h'.2.2⟩

/-- The node, the policy and the trust are the same. -/
def SameNode (o o' : ResourceOrchestrator) : Prop :=
  o'.capacity = o.capacity ∧ o'.safety = o.safety ∧ o'.reconciliationState = o.reconciliationState

theorem SameNode.rfl : SameNode o o := ⟨Eq.refl _, Eq.refl _, Eq.refl _⟩

theorem SameNode.trans {o'' : ResourceOrchestrator} (h : SameNode o o') (h' : SameNode o' o'') :
    SameNode o o'' :=
  ⟨h'.1.trans h.1, h'.2.1.trans h.2.1, h'.2.2.trans h.2.2⟩

/-- On the same node fewer reservations stay within the bounds. -/
theorem Bounded.of_sub (h : Bounded o) (hm : Matched o) (same : SameNode o o')
    (hsub : ∀ id r, o'.reservations.get? id = some r → o.reservations.get? id = some r) :
    Bounded o' := by
  intro htrusted
  have hbound := h (same.2.2 ▸ htrusted)
  rw [ResourceOrchestrator.allocatable, same.1, same.2.1]
  exact (reserved_atMost hm.nonneg hsub).trans hbound

variable [Runtime]

/-! ## Expiry -/

/-- Overdue leases have expired, and nothing else has happened to leases and reservations. -/
def ExpiryOf (now : Instant) (o o' : ResourceOrchestrator) : Prop :=
  ∀ id, (o'.leases.get? id = o.leases.get? id ∧ o'.reservations.get? id = o.reservations.get? id) ∨
    ∃ lease, o.leases.get? id = some lease ∧ isOverdue now lease = .ok true ∧
      o'.leases.get? id = some { lease with status := "EXPIRED" } ∧
      o'.reservations.get? id = none

theorem ExpiryOf.refl (now : Instant) (o : ResourceOrchestrator) : ExpiryOf now o o :=
  fun _ => .inl ⟨rfl, rfl⟩

variable {now : Instant} {lease : ResourceLease} {o o' : ResourceOrchestrator} {leaseId : String}
  {x : ResourceCall Unit} {r : LeaseRequest}

/-- Only active leases are overdue. -/
theorem active_of_isOverdue (h : isOverdue now lease = .ok true) :
    isActiveLease lease.status = true := by
  unfold isOverdue at h
  by_contra hactive
  rw [Bool.not_eq_true] at hactive
  simp only [hactive, Bool.not_false, Bool.true_or, if_true] at h
  cases h

theorem ExpiryOf.trans {o'' : ResourceOrchestrator} (h : ExpiryOf now o o')
    (h' : ExpiryOf now o' o'') : ExpiryOf now o o'' := by
  intro id
  rcases h id with ⟨hleases, hreservations⟩ | ⟨lease, hlease, hoverdue, hexpired, hnone⟩
  · rcases h' id with ⟨hleases', hreservations'⟩ | ⟨lease, hlease, hoverdue, hexpired, hnone⟩
    · exact .inl ⟨hleases'.trans hleases, hreservations'.trans hreservations⟩
    · exact .inr ⟨lease, hleases ▸ hlease, hoverdue, hexpired, hnone⟩
  · rcases h' id with ⟨hleases', hreservations'⟩ | ⟨lease', hlease', hoverdue', -, -⟩
    · exact .inr ⟨lease, hlease, hoverdue, hleases'.trans hexpired, hreservations'.trans hnone⟩
    · rw [hexpired] at hlease'
      cases hlease'
      have hactive : isActiveLease "EXPIRED" = true := active_of_isOverdue hoverdue'
      exact absurd hactive (by decide)

/-- Expiry keeps the match. -/
theorem ExpiryOf.matched (h : ExpiryOf now o o') (hm : Matched o) : Matched o' := by
  refine ⟨fun id lease hlease => ?_, fun id => ?_, fun id r hr => ?_⟩
  · rcases h id with ⟨hleases, -⟩ | ⟨old, hold, -, hexpired, -⟩
    · exact hm.named id lease (hleases ▸ hlease)
    · rw [hexpired] at hlease
      cases hlease
      exact ⟨(hm.named id old hold).1, .inr (show isTerminalLease "EXPIRED" = true by decide)⟩
  · rcases h id with ⟨hleases, hreservations⟩ | ⟨old, -, -, hexpired, hnone⟩
    · rw [hleases, hreservations, hm.reserved]
    · rw [hexpired, hnone]
      rfl
  · rcases h id with ⟨-, hreservations⟩ | ⟨old, -, -, -, hnone⟩
    · exact hm.nonneg id r (hreservations ▸ hr)
    · rw [hnone] at hr
      cases hr

/-- Expiry keeps the bounds. -/
theorem ExpiryOf.bounded (h : ExpiryOf now o o') (same : SameNode o o') (hm : Matched o)
    (hb : Bounded o) : Bounded o' := by
  refine hb.of_sub hm same fun id r hr => ?_
  rcases h id with ⟨-, hreservations⟩ | ⟨-, -, -, -, hnone⟩
  · exact hreservations ▸ hr
  · rw [hnone] at hr
    cases hr

omit [Runtime] in
/-- The release of an active lease. -/
theorem outcome_releaseLease (status : String) (hstatus : isTerminalLease status = true)
    (hlease : o.leases.get? leaseId = some lease) (hactive : isTerminalLease lease.status = false) :
    (releaseLease leaseId status).outcome o =
      (.ok (), { o with
        reservations := o.reservations.erase leaseId
        leases := o.leases.set leaseId { lease with status := status } }) := by
  rw [releaseLease, hstatus]
  simp only [Bool.not_true, Bool.false_eq_true, if_false]
  rw [outcome_bind_ok (outcome_get o)]
  simp only [hlease, hactive, Bool.not_false, if_true]
  rfl

/-- The loop over a snapshot of the leases expires what is overdue. -/
theorem expireEach_after {leases : List ResourceLease} (hnodup : (leases.map (·.leaseId)).Nodup)
    (hcurrent : ∀ lease ∈ leases, o.leases.get? lease.leaseId = some lease) :
    ExpiryOf now o ((expireEach now leases).after o) ∧
      SameNode o ((expireEach now leases).after o) := by
  induction leases generalizing o with
  | nil => exact ⟨.refl now o, .rfl⟩
  | cons lease rest ih =>
    rw [List.map_cons, List.nodup_cons] at hnodup
    have hrest : ∀ other ∈ rest, o.leases.get? other.leaseId = some other :=
      fun other h => hcurrent other (List.mem_cons_of_mem _ h)
    rw [expireEach]
    cases hoverdue : isOverdue now lease with
    | error e =>
      rw [after_bind_error (outcome_lift _ o)]
      exact ⟨.refl now o, .rfl⟩
    | ok overdue =>
      rw [after_bind_ok (outcome_lift _ o)]
      cases overdue with
      | false => exact ih hnodup.2 hrest
      | true =>
        have hlease := hcurrent lease List.mem_cons_self
        have hactive := active_of_isOverdue hoverdue
        rw [if_pos rfl, after_bind_ok (outcome_releaseLease "EXPIRED" (by decide) hlease
          (not_terminal_of_active hactive))]
        have hfirst : ExpiryOf now o { o with
            reservations := o.reservations.erase lease.leaseId
            leases := o.leases.set lease.leaseId { lease with status := "EXPIRED" } } := by
          intro id
          by_cases hid : id = lease.leaseId
          · subst hid
            exact .inr ⟨lease, hlease, hoverdue, Dict.get?_set_self _ _ _, by
              rw [Dict.get?_erase, if_pos rfl]⟩
          · exact .inl ⟨Dict.get?_set_of_ne _ _ hid, by rw [Dict.get?_erase, if_neg hid]⟩
        obtain ⟨hexpiry, hsame⟩ := ih (o := { o with
            reservations := o.reservations.erase lease.leaseId
            leases := o.leases.set lease.leaseId { lease with status := "EXPIRED" } })
          hnodup.2 fun other hother => by
            have hne : other.leaseId ≠ lease.leaseId := fun heq =>
              hnodup.1 (heq ▸ List.mem_map_of_mem hother)
            rw [Dict.get?_set_of_ne _ _ hne]
            exact hrest other hother
        exact ⟨hfirst.trans hexpiry, SameNode.trans ⟨rfl, rfl, rfl⟩ hsame⟩

/-- An expiry of all leases. -/
theorem expireLeases_after (hm : Matched o) :
    ExpiryOf now o ((expireLeases now).after o) ∧ SameNode o ((expireLeases now).after o) := by
  rw [expireLeases, after_bind_ok (outcome_get o)]
  have hkeys : o.leases.values.map (·.leaseId) = o.leases.keys := by
    rw [Dict.values, Dict.keys, List.map_map]
    exact List.map_congr_left fun e he =>
      (hm.named e.1 e.2 (Dict.get?_eq_some_iff.mpr he)).1
  refine expireEach_after (hkeys ▸ o.leases.nodup) fun lease hlease => ?_
  obtain ⟨id, hid⟩ := Dict.mem_values.mp hlease
  rw [(hm.named id lease hid).1, hid]

/-! ## Single calls -/

/-- A call keeps the invariant, and when it raises leases have expired at most. -/
structure CallSound (now : Instant) (o : ResourceOrchestrator) (x : ResourceCall Unit) : Prop where
  matched : Matched (x.after o)
  bounded : Bounded (x.after o)
  unchanged : ∀ e, (x.outcome o).1 = .error e → ExpiryOf now o (x.after o)

/-- A call that does no more than expiring leases. -/
theorem CallSound.of_expiry (hm : Matched o) (hb : Bounded o)
    (h : ExpiryOf now o (x.after o) ∧ SameNode o (x.after o)) : CallSound now o x :=
  ⟨h.1.matched hm, h.1.bounded h.2 hm hb, fun _ _ => h.1⟩

/-- A call that leaves the orchestrator as it was. -/
theorem CallSound.of_same (hm : Matched o) (hb : Bounded o) (h : x.after o = o) :
    CallSound now o x :=
  .of_expiry hm hb (h.symm ▸ ⟨.refl now o, .rfl⟩)

/-- A call that returns. -/
theorem CallSound.of_ok (h : x.outcome o = (.ok (), o')) (hm : Matched o') (hb : Bounded o') :
    CallSound now o x := by
  have hafter : x.after o = o' := by rw [after, h]
  exact ⟨hafter ▸ hm, hafter ▸ hb, fun e he => by rw [h] at he; cases he⟩

/-- A call that raises. -/
theorem CallSound.of_error {e : PyError} (h : x.outcome o = (.error e, o')) (hm : Matched o')
    (hb : Bounded o') (hexpiry : ExpiryOf now o o') : CallSound now o x := by
  have hafter : x.after o = o' := by rw [after, h]
  exact ⟨hafter ▸ hm, hafter ▸ hb, fun _ _ => hafter ▸ hexpiry⟩

omit [Runtime] in
/-- A lease that changes its status, and its reservation with it. -/
theorem Matched.set (hm : Matched o) (lease : ResourceLease) (hname : lease.leaseId = leaseId)
    (hstatus : isActiveLease lease.status = true ∨ isTerminalLease lease.status = true)
    {d : Dict String Reservation}
    (hothers : ∀ id, id ≠ leaseId → d.get? id = o.reservations.get? id)
    (hself : d.get? leaseId = reservationOf lease)
    (hnonneg : isActiveLease lease.status = true → lease.amounts.Nonneg) :
    Matched { o with leases := o.leases.set leaseId lease, reservations := d } := by
  refine ⟨fun id other hother => ?_, fun id => ?_, fun id r hr => ?_⟩
  · by_cases hid : id = leaseId
    · subst hid
      rw [Dict.get?_set_self] at hother
      cases hother
      exact ⟨hname, hstatus⟩
    · rw [Dict.get?_set_of_ne _ _ hid] at hother
      exact hm.named id other hother
  · by_cases hid : id = leaseId
    · subst hid
      rw [hself, Dict.get?_set_self]
      rfl
    · rw [hothers id hid, Dict.get?_set_of_ne _ _ hid]
      exact hm.reserved id
  · by_cases hid : id = leaseId
    · subst hid
      rw [hself, reservationOf] at hr
      split_ifs at hr with hactive
      cases hr
      exact hnonneg hactive
    · rw [hothers id hid] at hr
      exact hm.nonneg id r hr

theorem releaseLease_sound (hm : Matched o) (hb : Bounded o) (leaseId status : String) :
    CallSound now o (releaseLease leaseId status) := by
  by_cases hstatus : isTerminalLease status = true
  · cases hlease : o.leases.get? leaseId with
    | none =>
      have hnone : o.reservations.get? leaseId = none := by rw [hm.reserved, hlease]; rfl
      refine .of_same hm hb ?_
      rw [releaseLease, hstatus]
      simp only [Bool.not_true, Bool.false_eq_true, if_false]
      rw [after_bind_ok (outcome_get o)]
      simp only [hlease, after, outcome_modify, Dict.erase_of_none hnone]
    | some lease =>
      cases hterminal : isTerminalLease lease.status with
      | true =>
        refine .of_same hm hb ?_
        rw [releaseLease, hstatus]
        simp only [Bool.not_true, Bool.false_eq_true, if_false]
        rw [after_bind_ok (outcome_get o)]
        simp only [hlease, hterminal, Bool.not_true, Bool.false_eq_true, if_false]
        rfl
      | false =>
        have hnew : reservationOf { lease with status := status } = none := by
          rw [reservationOf, if_neg (by rw [not_active_of_terminal hstatus]; decide)]
        refine .of_ok (outcome_releaseLease status hstatus hlease hterminal) ?_ ?_
        · refine hm.set { lease with status := status } (hm.named leaseId lease hlease).1
            (.inr hstatus) (fun id hid => ?_) ?_ fun hactive => ?_
          · rw [Dict.get?_erase, if_neg hid]
          · rw [Dict.get?_erase, if_pos rfl, hnew]
          · rw [not_active_of_terminal hstatus] at hactive
            cases hactive
        · refine hb.of_sub hm ⟨rfl, rfl, rfl⟩ fun id r hr => ?_
          rw [Dict.get?_erase] at hr
          split_ifs at hr
          exact hr
  · refine .of_same hm hb ?_
    rw [releaseLease, if_pos (by simpa using hstatus)]
    rfl

theorem activateLease_sound (hm : Matched o) (hb : Bounded o) (leaseId : String) :
    CallSound now o (activateLease leaseId) := by
  cases hlease : o.leases.get? leaseId with
  | none =>
    refine .of_same hm hb ?_
    rw [activateLease, after_bind_ok (outcome_get o)]
    simp only [hlease]
    rfl
  | some lease =>
    by_cases hactive : isActiveLease lease.status = true
    · by_cases hstatus : lease.status = "ACTIVE"
      · refine .of_same hm hb ?_
        rw [activateLease, after_bind_ok (outcome_get o)]
        simp only [hlease, hactive, Bool.not_true, Bool.false_eq_true, if_false, if_pos hstatus]
        rfl
      · have hreserved : o.reservations.get? leaseId = some ⟨lease.leaseId, lease.amounts⟩ := by
          rw [hm.reserved, hlease, Option.bind_some, reservationOf, if_pos hactive]
        have houtcome : (activateLease leaseId).outcome o = (.ok (),
            { o with leases := o.leases.set leaseId { lease with status := "ACTIVE" } }) := by
          rw [activateLease, outcome_bind_ok (outcome_get o)]
          simp only [hlease, hactive, Bool.not_true, Bool.false_eq_true, if_false, if_neg hstatus]
          rfl
        have hnew : isActiveLease "ACTIVE" = true := by decide
        refine .of_ok houtcome ?_ fun htrusted => hb htrusted
        exact hm.set { lease with status := "ACTIVE" } (hm.named leaseId lease hlease).1 (.inl hnew)
          (fun _ _ => rfl) hreserved fun _ => hm.nonneg leaseId _ hreserved
    · rw [Bool.not_eq_true] at hactive
      refine .of_same hm hb ?_
      rw [activateLease, after_bind_ok (outcome_get o)]
      simp only [hlease, hactive, Bool.not_false, if_true]
      rfl

theorem expireLeases_sound (hm : Matched o) (hb : Bounded o) : CallSound now o (expireLeases now) :=
  .of_expiry hm hb (expireLeases_after hm)

/-! ## Acquiring a lease -/

def without (o : ResourceOrchestrator) (leaseId : String) : ResourceOrchestrator :=
  { o with leases := o.leases.erase leaseId }

omit [Runtime] in
/-- A finished lease can be dropped. -/
theorem Matched.without (hm : Matched o) (hnone : o.reservations.get? leaseId = none) :
    Matched (without o leaseId) := by
  have hleases : ∀ id, (Node.without o leaseId).leases.get? id =
      if id = leaseId then none else o.leases.get? id := Dict.get?_erase o.leases leaseId
  refine ⟨fun id lease hlease => ?_, fun id => ?_, hm.nonneg⟩
  · rw [hleases] at hlease
    split_ifs at hlease
    exact hm.named id lease hlease
  · rw [hleases]
    split_ifs with hid
    · subst hid
      exact hnone
    · exact hm.reserved id

/-- What the report on a request leaves. -/
theorem admissionReport_after (now : Instant) (a : Amounts) (hm : Matched o) :
    ∃ answer o', (admissionReport now a).outcome o = (answer, o') ∧ ExpiryOf now o o' ∧
      SameNode o o' ∧ ∀ allowed, answer = .ok allowed → allowed = o'.fits a := by
  obtain ⟨hexpiry, hsame⟩ : ExpiryOf now o ((expireLeases now).after o) ∧
      SameNode o ((expireLeases now).after o) := expireLeases_after hm
  rw [after] at hexpiry hsame
  rw [admissionReport, outcome_bind]
  cases h : (expireLeases now).outcome o with
  | mk answer o' =>
    rw [h] at hexpiry hsame
    cases answer with
    | error e => exact ⟨_, _, rfl, hexpiry, hsame, fun _ h => by cases h⟩
    | ok u =>
      refine ⟨_, _, rfl, hexpiry, hsame, fun allowed h => ?_⟩
      cases h
      rfl

omit [Runtime] in
/-- A request that fits a trusted node stays within what may be allocated. -/
theorem fits_eq_true {a : Amounts} (h : o.fits a = true) :
    o.reconciliationState = .trusted ∧
      (reserved o.reservations).cpu + a.cpu ≤ o.allocatable.cpu ∧
      (reserved o.reservations).ramMb + a.ramMb ≤ o.allocatable.ramMb ∧
      (reserved o.reservations).vramMb + a.vramMb ≤ o.allocatable.vramMb := by
  simp only [ResourceOrchestrator.fits, Bool.and_eq_true, beq_iff_eq, decide_eq_true_eq] at h
  obtain ⟨⟨⟨⟨-, htrusted⟩, hcpu⟩, hram⟩, hvram⟩ := h
  refine ⟨htrusted, le_trans ?_ hcpu, le_trans ?_ hram, le_trans ?_ hvram⟩
  · exact add_le_add_left (le_max_left _ _) _
  · exact add_le_add_left (le_max_left _ _) _
  · exact add_le_add_left (le_max_left _ _) _

variable [IsoFormat]

/-- A request that the orchestrator grants, once a finished lease of its name is dropped. -/
def Admits (o : ResourceOrchestrator) (now start : Instant) (r : LeaseRequest) : Prop :=
  ((admissionReport now r.amounts).outcome (without o r.leaseId)).1 = .ok true ∧
    (r.expiry start).isOk = true

/-- A request that does no harm: it names a finished lease only when it is granted, and when it
is granted its status is one of an active lease. -/
def CarefulRequest (o : ResourceOrchestrator) (now start : Instant) (r : LeaseRequest) : Prop :=
  r.complaint = none →
    (∀ lease, o.leases.get? r.leaseId = some lease → isTerminalLease lease.status = true →
      Admits o now start r) ∧
    (Admits o now start r → isActiveLease r.status = true)

omit [Runtime] [IsoFormat] in
/-- A request without a complaint asks for nothing negative. -/
theorem nonneg_of_complaint (h : r.complaint = none) : r.amounts.Nonneg := by
  unfold LeaseRequest.complaint at h
  split_ifs at h with hneg
  rw [not_or, not_or, not_lt, not_lt, not_lt] at hneg
  exact hneg

omit [Runtime] [IsoFormat] in
/-- A new reservation that fits keeps the bounds. -/
theorem bounded_of_fits (hnone : o.reservations.get? r.leaseId = none)
    (hfits : o.fits r.amounts = true) (leases : Dict String ResourceLease) :
    Bounded { o with
      leases := leases
      reservations := o.reservations.set r.leaseId ⟨r.leaseId, r.amounts⟩ } := by
  obtain ⟨-, hcpu, hram, hvram⟩ := fits_eq_true hfits
  refine fun _ => ⟨le_trans (le_of_eq ?_) hcpu, le_trans (le_of_eq ?_) hram,
    le_trans (le_of_eq ?_) hvram⟩
  · exact Dict.sum_set_of_none (fun _ (x : Reservation) => x.amounts.cpu) hnone _
  · exact Dict.sum_set_of_none (fun _ (x : Reservation) => x.amounts.ramMb) hnone _
  · exact Dict.sum_set_of_none (fun _ (x : Reservation) => x.amounts.vramMb) hnone _

omit [IsoFormat] in
/-- What is left of a request that raises after the finished lease was dropped. -/
theorem ExpiryOf.of_without (hnone : o.leases.get? leaseId = none)
    (h : ExpiryOf now (Node.without o leaseId) o') : ExpiryOf now o o' := by
  have hsame : Node.without o leaseId = o := by
    rw [Node.without, Dict.erase_of_none hnone]
  rwa [hsame] at h

/-- A request for a name that is not taken drops the finished lease first. -/
theorem outcome_acquireLease (now start : Instant) (hcomplaint : r.complaint = none)
    (hnone : o.reservations.get? r.leaseId = none)
    (hfinished : ∀ lease, o.leases.get? r.leaseId = some lease → isTerminalLease lease.status =
      true) :
    (acquireLease now start r).outcome o =
      match (admissionReport now r.amounts).outcome (without o r.leaseId) with
      | (.error e, o') => (.error e, o')
      | (.ok allowed, o') =>
        if o'.reconciliationState ≠ .trusted then
          (.error ⟨.value, "resource reconciliation required before new lease admission"⟩, o')
        else if !allowed then (.error ⟨.value, "insufficient resources"⟩, o')
        else
          match r.expiry start with
          | .error e => (.error e, o')
          | .ok expiresAt => (.ok (), { o' with
              leases := o'.leases.set r.leaseId ⟨r.leaseId, r.amounts, r.status, r.ownerId,
                IsoFormat.isoformat start, expiresAt, r.metadata⟩
              reservations := o'.reservations.set r.leaseId ⟨r.leaseId, r.amounts⟩ }) := by
  have hcontains : o.reservations.contains r.leaseId = false := by
    rw [Dict.contains, hnone]
    rfl
  have hinactive : (o.leases.get? r.leaseId).any (isActiveLease ·.status) = false := by
    cases hlease : o.leases.get? r.leaseId with
    | none => rfl
    | some lease => exact not_active_of_terminal (hfinished lease hlease)
  have hdrop : (if (o.leases.get? r.leaseId).any (isTerminalLease ·.status) then
      { o with leases := o.leases.erase r.leaseId } else o) = without o r.leaseId := by
    cases hlease : o.leases.get? r.leaseId with
    | none => rw [without, Dict.erase_of_none hlease]; rfl
    | some lease =>
      rw [Option.any_some, hfinished lease hlease]
      rfl
  rw [acquireLease, hcomplaint]
  simp only
  rw [outcome_bind_ok (outcome_get o), hcontains, hinactive]
  simp only [Bool.or_self, Bool.false_eq_true, if_false]
  rw [outcome_bind_ok (outcome_modify _ o), hdrop, outcome_bind]
  cases (admissionReport now r.amounts).outcome (without o r.leaseId) with
  | mk answer o' =>
    cases answer with
    | error e => rfl
    | ok allowed =>
      simp only
      rw [outcome_bind_ok (outcome_get o')]
      split_ifs with htrusted hallowed
      · rfl
      · rfl
      · rw [outcome_bind, outcome_lift]
        cases r.expiry start <;> rfl

theorem acquireLease_sound {start : Instant} (hm : Matched o) (hb : Bounded o)
    (careful : CarefulRequest o now start r) : CallSound now o (acquireLease now start r) := by
  cases hcomplaint : r.complaint with
  | some complaint =>
    refine .of_same hm hb ?_
    rw [acquireLease, hcomplaint]
    rfl
  | none =>
    obtain ⟨hfinished, hactive⟩ := careful hcomplaint
    by_cases htaken : (o.reservations.contains r.leaseId ||
        (o.leases.get? r.leaseId).any (isActiveLease ·.status)) = true
    · refine .of_same hm hb ?_
      rw [acquireLease, hcomplaint]
      simp only
      rw [after_bind_ok (outcome_get o), if_pos htaken]
      rfl
    · rw [Bool.or_eq_true, not_or, Dict.contains, Option.not_isSome_iff_eq_none] at htaken
      obtain ⟨hnone, hinactive⟩ := htaken
      have hterminal : ∀ lease, o.leases.get? r.leaseId = some lease →
          isTerminalLease lease.status = true := by
        intro lease hlease
        rw [hlease, Option.any_some] at hinactive
        exact (hm.named _ lease hlease).2.resolve_left hinactive
      have hmw : Matched (without o r.leaseId) := hm.without hnone
      obtain ⟨answer, o', hreport, hexpiry, hsame, hfits⟩ :=
        admissionReport_after now r.amounts hmw
      have hm' : Matched o' := hexpiry.matched hmw
      have hb' : Bounded o' := hexpiry.bounded hsame hmw hb
      have hraise : ¬ Admits o now start r → ExpiryOf now o o' := by
        intro hrefused
        refine hexpiry.of_without ?_
        cases hlease : o.leases.get? r.leaseId with
        | none => rfl
        | some lease => exact absurd (hfinished lease hlease (hterminal lease hlease)) hrefused
      have houtcome := outcome_acquireLease now start hcomplaint hnone hterminal
      rw [hreport] at houtcome
      cases answer with
      | error e =>
        refine .of_error houtcome hm' hb' (hraise fun h => ?_)
        rw [Admits, hreport] at h
        cases h.1
      | ok allowed =>
        have hallowed : allowed = o'.fits r.amounts := hfits allowed rfl
        by_cases htrusted : o'.reconciliationState = .trusted
        · simp only [ne_eq] at houtcome
          rw [if_neg (not_not_intro htrusted)] at houtcome
          cases allowed with
          | false =>
            refine .of_error houtcome hm' hb' (hraise fun h => ?_)
            rw [Admits, hreport] at h
            cases h.1
          | true =>
            cases hexpires : r.expiry start with
            | error e =>
              rw [hexpires] at houtcome
              refine .of_error houtcome hm' hb' (hraise fun h => ?_)
              rw [Admits, hexpires] at h
              cases h.2
            | ok expiresAt =>
              rw [hexpires] at houtcome
              have hstatus : isActiveLease r.status = true := by
                apply hactive
                rw [Admits, hreport, hexpires]
                exact ⟨rfl, rfl⟩
              have hfree : o'.reservations.get? r.leaseId = none := by
                rcases hexpiry r.leaseId with ⟨-, h⟩ | ⟨-, -, -, -, h⟩
                · exact h.trans hnone
                · exact h
              refine .of_ok houtcome ?_ (bounded_of_fits hfree hallowed.symm _)
              have hamounts : r.amounts.Nonneg := nonneg_of_complaint hcomplaint
              refine hm'.set ⟨r.leaseId, r.amounts, r.status, r.ownerId,
                IsoFormat.isoformat start, expiresAt, r.metadata⟩ rfl (.inl hstatus)
                (fun id hid => Dict.get?_set_of_ne _ _ hid) ?_ fun _ => hamounts
              rw [Dict.get?_set_self, reservationOf, if_pos hstatus]
        · simp only [ne_eq] at houtcome
          rw [if_pos htrusted] at houtcome
          refine .of_error houtcome hm' hb' (hraise fun h => ?_)
          rw [Admits, hreport] at h
          have hall : allowed = true := Except.ok.inj h.1
          exact htrusted (fits_eq_true (hallowed ▸ hall)).1

end AidnSpec.Node
