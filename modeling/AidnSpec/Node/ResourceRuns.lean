import AidnSpec.Node.ResourceBounds

/-!
# Runs of the resource orchestrator

The calls that change the capacity or load leases, and runs of all calls. New capacity is compared
with the reservations before the headroom is taken off, so a trusted node can have reserved more
than may be allocated.
-/

namespace AidnSpec.Node

open Base StatefulCall

section Calls

variable [Runtime] [IsoFormat] [Conversions]

/-! ## New capacity -/

def Readable (probe : Fields) : Prop :=
  (readMeasuredVram probe).isOk = true ∧
    (readNonNegativeFloat (PyValue.get probe "measured_cpu_cores")).isOk = true ∧
    (readNonNegativeInt (PyValue.get probe "measured_ram_mb")).isOk = true

omit [Runtime] [IsoFormat] [Conversions] in
/-- Nothing that is counted has changed. -/
def SameBooks (o o' : ResourceOrchestrator) : Prop :=
  o'.leases = o.leases ∧ o'.reservations = o.reservations ∧ SameNode o o'

omit [Runtime] [IsoFormat] in
/-- A probe changes measurements only. -/
theorem outcome_readProbe (probe : Fields) (o : ResourceOrchestrator) :
    ∃ answer o', (readProbe probe).outcome o = (answer, o') ∧ SameBooks o o' ∧
      (answer = .ok () ↔ Readable probe) := by
  unfold readProbe Readable
  rw [outcome_bind, outcome_lift]
  cases readMeasuredVram probe with
  | error e => exact ⟨_, _, rfl, ⟨rfl, rfl, .rfl⟩, by simp [Except.isOk, Except.toBool]⟩
  | ok vram =>
    simp only
    rw [outcome_bind_ok (outcome_modify _ o), outcome_bind, outcome_lift]
    cases readNonNegativeFloat (PyValue.get probe "measured_cpu_cores") with
    | error e => exact ⟨_, _, rfl, ⟨rfl, rfl, .rfl⟩, by simp [Except.isOk, Except.toBool]⟩
    | ok cpu =>
      simp only
      rw [outcome_bind_ok (outcome_modify _ _), outcome_bind, outcome_lift]
      cases readNonNegativeInt (PyValue.get probe "measured_ram_mb") with
      | error | ok => exact ⟨_, _, rfl, ⟨rfl, rfl, .rfl⟩, by simp [Except.isOk, Except.toBool]⟩

variable {o o' : ResourceOrchestrator} {now : Instant} {capacity : NodeCapacity}
  {probe raw : Fields} {leaseId : String} {lease : ResourceLease} {excludePrefixes : List String}
  {records : List Fields} {replace : Bool}

omit [Runtime] [IsoFormat] [Conversions] in
/-- The match is about leases and reservations only. -/
theorem Matched.of_eq (hm : Matched o) (hleases : o'.leases = o.leases)
    (hreservations : o'.reservations = o.reservations) : Matched o' :=
  ⟨hleases ▸ hm.named, fun id => by rw [hleases, hreservations, hm.reserved],
    hreservations ▸ hm.nonneg⟩

omit [IsoFormat] [Conversions] in
theorem ExpiryOf.of_eq (hleases : o'.leases = o.leases)
    (hreservations : o'.reservations = o.reservations) :
    ExpiryOf now o o' := fun id => .inl ⟨by rw [hleases], by rw [hreservations]⟩

/-- New capacity does no harm when what fits it may be allocated of it, or the call raises on an
untrusted node. -/
def CarefulReplacement (o : ResourceOrchestrator) (capacity : NodeCapacity) (probe : Fields) :
    Prop :=
  (reserved o.reservations).AtMost capacity.total →
    o.reconciliationState = .trusted ∨ Readable probe →
    (reserved o.reservations).AtMost (o.safety.allocatable capacity)

theorem replaceCapacity_sound (hm : Matched o) (hb : Bounded o)
    (careful : CarefulReplacement o capacity probe) :
    CallSound now o (replaceCapacity now capacity probe) := by
  by_cases hroom : (reserved o.reservations).AtMost capacity.total
  · obtain ⟨answer, o', hprobe, ⟨hleases, hreservations, hcapacity, hsafety, hstate⟩, hanswer⟩ :=
      outcome_readProbe probe { o with capacity := capacity }
    have hallocatable : o'.allocatable = o.safety.allocatable capacity := by
      rw [ResourceOrchestrator.allocatable, hcapacity, hsafety]
    have hm' : Matched o' := hm.of_eq hleases hreservations
    cases answer with
    | error e =>
      have houtcome : (replaceCapacity now capacity probe).outcome o = (.error e, o') := by
        rw [replaceCapacity, outcome_bind_ok (outcome_get o), if_pos hroom,
          outcome_bind_ok (outcome_modify _ o), outcome_bind_error hprobe]
      refine .of_error houtcome hm' (fun htrusted => ?_) (.of_eq hleases hreservations)
      rw [hallocatable, hreservations]
      exact careful hroom (.inl (hstate ▸ htrusted))
    | ok u =>
      have houtcome : (replaceCapacity now capacity probe).outcome o = (.ok (), { o' with
          reconciliationState := .trusted
          reconciliationReason := none
          lastReconciledAt :=
            (PyValue.get probe "observed_at").orElse (.str (IsoFormat.isoformat now)) }) := by
        rw [replaceCapacity, outcome_bind_ok (outcome_get o), if_pos hroom,
          outcome_bind_ok (outcome_modify _ o), outcome_bind_ok hprobe]
        rfl
      refine .of_ok houtcome (hm'.of_eq rfl rfl) fun _ => ?_
      show (reserved o'.reservations).AtMost o'.allocatable
      rw [hallocatable, hreservations]
      exact careful hroom (.inr (hanswer.mp rfl))
  · refine .of_same hm hb ?_
    rw [replaceCapacity, after_bind_ok (outcome_get o), if_neg hroom]
    rfl

/-- A measurement does no harm when it succeeds, or what is reserved of a trusted node may be
allocated of the new capacity. -/
def CarefulMeasurement (o : ResourceOrchestrator) (capacity : NodeCapacity) (probe : Fields) :
    Prop :=
  o.reconciliationState = .trusted → ¬ Readable probe →
    (reserved o.reservations).AtMost (o.safety.allocatable capacity)

theorem reconcileHardware_sound (hm : Matched o) {observedAt : PyValue}
    (careful : CarefulMeasurement o capacity probe) :
    CallSound now o (reconcileHardware now capacity probe observedAt) := by
  obtain ⟨answer, o', hprobe, ⟨hleases, hreservations, hcapacity, hsafety, hstate⟩, hanswer⟩ :=
    outcome_readProbe probe { o with capacity := capacity }
  have hm' : Matched o' := hm.of_eq hleases hreservations
  cases answer with
  | error e =>
    have houtcome : (reconcileHardware now capacity probe observedAt).outcome o =
        (.error e, o') := by
      rw [reconcileHardware, outcome_bind_ok (outcome_modify _ o), outcome_bind_error hprobe]
    refine .of_error houtcome hm' (fun htrusted => ?_) (.of_eq hleases hreservations)
    rw [ResourceOrchestrator.allocatable, hcapacity, hsafety, hreservations]
    refine careful (hstate ▸ htrusted) fun hreadable => ?_
    cases hanswer.mpr hreadable
  | ok u =>
    have hmeasured : (reconcileHardware now capacity probe observedAt).outcome o = (.ok (),
        if (reserved o'.reservations).AtMost o'.allocatable then { o' with
          lastReconciledAt := observedAt.orElse
            ((PyValue.get probe "observed_at").orElse (.str (IsoFormat.isoformat now)))
          reconciliationState := .trusted
          reconciliationReason := none }
        else { o' with
          lastReconciledAt := observedAt.orElse
            ((PyValue.get probe "observed_at").orElse (.str (IsoFormat.isoformat now)))
          reconciliationState := .uncertain
          reconciliationReason := some "active leases exceed trusted allocatable capacity" }) := by
      rw [reconcileHardware, outcome_bind_ok (outcome_modify _ o), outcome_bind_ok hprobe]
      rfl
    refine .of_ok hmeasured ?_ ?_
    · split_ifs <;> exact hm'.of_eq rfl rfl
    · intro htrusted
      split_ifs at htrusted ⊢ with hroom
      exact hroom

/-! ## Restored leases -/

omit [Runtime] [IsoFormat] [Conversions] in
/-- A lease that a record gives has not been rejected. -/
theorem rejectOn_eq_lease {x : Except PyError ResourceLease}
    (h : rejectOn leaseId x = .ok (.lease lease)) : x = .ok lease := by
  unfold rejectOn at h
  split at h
  · cases h
    rfl
  · split_ifs at h with hrejected
    cases h

omit [Runtime] in
/-- The lease of a record has its status, and no negative amounts. -/
theorem leaseOfRecord_ok {status : String} (h : leaseOfRecord now raw leaseId status = .ok lease) :
    lease.status = status ∧ lease.amounts.Nonneg := by
  unfold leaseOfRecord at h
  obtain ⟨cpu, -, h⟩ := bind_eq_ok.mp h
  obtain ⟨ramMb, -, h⟩ := bind_eq_ok.mp h
  obtain ⟨vramMb, -, h⟩ := bind_eq_ok.mp h
  obtain ⟨metadata, -, h⟩ := bind_eq_ok.mp h
  obtain ⟨u, hnonneg, h⟩ := bind_eq_ok.mp h
  cases h
  rw [require_eq_ok] at hnonneg
  simp only [Bool.not_eq_true', Bool.or_eq_false_iff, decide_eq_false_iff_not, not_lt] at hnonneg
  exact ⟨rfl, hnonneg.1.1, hnonneg.1.2, hnonneg.2⟩

/-- Records of active leases are restored only. -/
theorem readRecord_lease (h : readRecord now excludePrefixes raw = .ok (.lease lease)) :
    isActiveLease lease.status = true ∧ lease.amounts.Nonneg := by
  have hread : ∀ {leaseId status : String}, isActiveLease status = true →
      rejectOn leaseId (leaseOfRecord now raw leaseId status) = .ok (.lease lease) →
      isActiveLease lease.status = true ∧ lease.amounts.Nonneg := by
    intro leaseId status hactive h
    obtain ⟨hstatus, hnonneg⟩ := leaseOfRecord_ok (rejectOn_eq_lease h)
    exact ⟨hstatus ▸ hactive, hnonneg⟩
  unfold readRecord at h
  simp only at h
  split_ifs at h with hname hstatus hexpires
  · cases h
  · cases h
  · exact hread (by simpa using hstatus) h
  · split at h
    · cases h
    · obtain ⟨overdue, -, h⟩ := bind_eq_ok.mp h
      split_ifs at h
      · cases h
      · exact hread (by simpa using hstatus) h

omit [Runtime] [IsoFormat] [Conversions] in
/-- A restored lease. -/
theorem Matched.restore (hm : Matched o) (hactive : isActiveLease lease.status = true)
    (hnonneg : lease.amounts.Nonneg) :
    Matched { o with
      leases := o.leases.set lease.leaseId lease
      reservations := o.reservations.set lease.leaseId ⟨lease.leaseId, lease.amounts⟩ } := by
  refine hm.set lease rfl (.inl hactive) (fun id hid => Dict.get?_set_of_ne _ _ hid) ?_
    fun _ => hnonneg
  rw [Dict.get?_set_self, reservationOf, if_pos hactive]

def ReadableRecords (now : Instant) (excludePrefixes : List String) (records : List Fields) :
    Prop :=
  ∀ raw ∈ records, (readRecord now excludePrefixes raw).isOk = true

/-- No record is restored before one raises. -/
def RestoresNothing (now : Instant) (excludePrefixes : List String) (o : ResourceOrchestrator) :
    List Fields → Prop
  | [] => True
  | raw :: rest =>
    match readRecord now excludePrefixes raw with
    | .error _ => True
    | .ok (.lease lease) => o.reservations.contains lease.leaseId = true ∧
        RestoresNothing now excludePrefixes o rest
    | .ok _ => RestoresNothing now excludePrefixes o rest

def restoreStart (o : ResourceOrchestrator) (replace : Bool) : ResourceOrchestrator :=
  if replace then { o with reservations := .empty, leases := .empty } else o

/-- Records do no harm when none of them raises, or nothing has changed when one does. -/
def CarefulRecords (now : Instant) (excludePrefixes : List String) (o : ResourceOrchestrator)
    (replace : Bool) (records : List Fields) : Prop :=
  ReadableRecords now excludePrefixes records ∨
    (replace = true → ∀ id, o.leases.get? id = none) ∧
      RestoresNothing now excludePrefixes (restoreStart o replace) records

/-- Restored leases are active and have their reservations. -/
theorem outcome_restoreEach (hm : Matched o)
    (readable : ReadableRecords now excludePrefixes records) :
    ∃ rejected o', (restoreEach now excludePrefixes records).outcome o = (.ok rejected, o') ∧
      Matched o' ∧ SameNode o o' := by
  induction records generalizing o with
  | nil => exact ⟨false, o, rfl, hm, .rfl⟩
  | cons raw rest ih =>
    have hrest : ReadableRecords now excludePrefixes rest :=
      fun other h => readable other (List.mem_cons_of_mem _ h)
    have hread := readable raw List.mem_cons_self
    rw [restoreEach]
    cases hverdict : readRecord now excludePrefixes raw with
    | error e =>
      rw [hverdict] at hread
      cases hread
    | ok verdict =>
      rw [outcome_bind_ok (outcome_lift _ o)]
      cases verdict with
      | skipped | expired => exact ih hm hrest
      | rejected leaseId =>
        obtain ⟨rejected, o', hloop, hm', hsame⟩ := ih hm hrest
        exact ⟨true, o', by simp only [outcome_bind_ok hloop, outcome_pure], hm', hsame⟩
      | lease lease =>
        simp only
        rw [outcome_bind_ok (outcome_get o)]
        split_ifs with htaken
        · obtain ⟨rejected, o', hloop, hm', hsame⟩ := ih hm hrest
          exact ⟨true, o', by rw [outcome_bind_ok hloop, outcome_pure], hm', hsame⟩
        · obtain ⟨hactive, hnonneg⟩ := readRecord_lease hverdict
          obtain ⟨rejected, o', hloop, hm', hsame⟩ := ih (hm.restore hactive hnonneg) hrest
          exact ⟨rejected, o', by rw [outcome_bind_ok (outcome_modify _ o), hloop], hm',
            SameNode.trans ⟨rfl, rfl, rfl⟩ hsame⟩

/-- The loop that restores nothing. -/
theorem outcome_restoreEach_nothing (h : RestoresNothing now excludePrefixes o records) :
    ∃ answer, (restoreEach now excludePrefixes records).outcome o = (answer, o) := by
  induction records with
  | nil => exact ⟨.ok false, rfl⟩
  | cons raw rest ih =>
    rw [RestoresNothing] at h
    rw [restoreEach]
    cases hverdict : readRecord now excludePrefixes raw with
    | error e => exact ⟨.error e, outcome_bind_error (outcome_lift _ o)⟩
    | ok verdict =>
      rw [hverdict] at h
      rw [outcome_bind_ok (outcome_lift _ o)]
      cases verdict with
      | skipped => exact ih h
      | expired leaseId => exact ih h
      | rejected leaseId =>
        obtain ⟨answer, hloop⟩ := ih h
        simp only [outcome_bind, hloop]
        cases answer <;> exact ⟨_, rfl⟩
      | lease lease =>
        obtain ⟨answer, hloop⟩ := ih h.2
        simp only
        rw [outcome_bind_ok (outcome_get o), if_pos h.1]
        simp only [outcome_bind, hloop]
        cases answer <;> exact ⟨_, rfl⟩

omit [Runtime] [IsoFormat] [Conversions] in
theorem Matched.restoreStart (hm : Matched o) (replace : Bool) :
    Matched (restoreStart o replace) ∧ SameNode o (Node.restoreStart o replace) := by
  cases replace with
  | false => exact ⟨hm, .rfl⟩
  | true =>
    refine ⟨⟨fun id lease h => ?_, fun id => rfl, fun id r h => ?_⟩, rfl, rfl, rfl⟩
    · cases h
    · cases h

/-- The check after the loop makes the node untrusted, or passes. -/
theorem restoreLeases_sound_of_loop {rejected : Bool}
    (hloop : (restoreEach now excludePrefixes records).outcome (restoreStart o replace) =
      (.ok rejected, o'))
    (hm : Matched o') : CallSound now o (restoreLeases now records replace excludePrefixes) := by
  have houtcome : (restoreLeases now records replace excludePrefixes).outcome o = (.ok (),
      if rejected ∨ ¬ (reserved o'.reservations).AtMost o'.allocatable then
        { o' with
          reconciliationState := .uncertain
          reconciliationReason := some "persisted leases require hardware reconciliation" }
      else o') := by
    rw [restoreLeases, outcome_bind_ok (outcome_modify _ o)]
    exact outcome_bind_ok hloop
  refine .of_ok houtcome ?_ ?_
  · split_ifs
    · exact hm.of_eq rfl rfl
    · exact hm
  · intro htrusted
    split_ifs at htrusted ⊢ with hrejected
    rw [not_or, not_not] at hrejected
    exact hrejected.2

theorem restoreLeases_sound (hm : Matched o) (hb : Bounded o)
    (careful : CarefulRecords now excludePrefixes o replace records) :
    CallSound now o (restoreLeases now records replace excludePrefixes) := by
  obtain ⟨hstart, hsame⟩ := hm.restoreStart replace
  rcases careful with hreadable | ⟨hempty, hnothing⟩
  · obtain ⟨rejected, o', hloop, hm', -⟩ := outcome_restoreEach hstart hreadable
    exact restoreLeases_sound_of_loop hloop hm'
  · -- the maps that are cleared are empty
    have hexpiry : ExpiryOf now o (restoreStart o replace) := by
      intro id
      cases replace with
      | false => exact .inl ⟨rfl, rfl⟩
      | true => exact .inl ⟨(hempty rfl id).symm, by rw [hm.reserved, hempty rfl id]; rfl⟩
    obtain ⟨answer, hloop⟩ := outcome_restoreEach_nothing hnothing
    cases answer with
    | ok rejected => exact restoreLeases_sound_of_loop hloop hstart
    | error e =>
      have houtcome : (restoreLeases now records replace excludePrefixes).outcome o =
          (.error e, restoreStart o replace) := by
        rw [restoreLeases, outcome_bind_ok (outcome_modify _ o)]
        exact outcome_bind_error hloop
      exact .of_error houtcome hstart (hexpiry.bounded hsame hm hb) hexpiry

/-! ## Runs -/

/-- The calls of an orchestrator; a request also reads when its lease starts. -/
inductive ResourceOp where
  | acquire (start : Instant) (r : LeaseRequest)
  | request (start : Instant) (r : LeaseRequest)
  | reserve (start : Instant) (reservationId : String) (a : Amounts)
  | activate (leaseId : String)
  | release (leaseId status : String)
  | revoke (leaseId : String)
  | expire
  | restore (records : List Fields) (replace : Bool) (excludePrefixes : List String)
  | replaceCapacity (capacity : NodeCapacity) (probe : Fields)
  | reconcile (capacity : NodeCapacity) (probe : Fields) (observedAt : PyValue)

def ResourceOp.call (now : Instant) : ResourceOp → ResourceCall Unit
  | acquire start r => acquireLease now start r
  | request start r => requestLease now start r
  | reserve start reservationId a => Node.reserve now start reservationId a
  | activate leaseId => activateLease leaseId
  | release leaseId status => releaseLease leaseId status
  | revoke leaseId => revokeLease leaseId
  | expire => expireLeases now
  | restore records replace excludePrefixes => restoreLeases now records replace excludePrefixes
  | replaceCapacity capacity probe => Node.replaceCapacity now capacity probe
  | reconcile capacity probe observedAt => reconcileHardware now capacity probe observedAt

/-- What a call has to see to. -/
def ResourceOp.Careful (o : ResourceOrchestrator) (now : Instant) : ResourceOp → Prop
  | acquire start r => CarefulRequest o now start r
  | request start r => CarefulRequest o now start { r with status := "REQUESTED" }
  | reserve start reservationId a =>
    CarefulRequest o now start { leaseId := reservationId, amounts := a }
  | restore records replace excludePrefixes =>
    CarefulRecords now excludePrefixes o replace records
  | replaceCapacity capacity probe => CarefulReplacement o capacity probe
  | reconcile capacity probe _ => CarefulMeasurement o capacity probe
  | activate _ | release _ _ | revoke _ | expire => True

theorem ResourceOp.call_sound (hm : Matched o) (hb : Bounded o) {op : ResourceOp}
    (careful : op.Careful o now) : CallSound now o (op.call now) := by
  cases op with
  | acquire | request | reserve => exact acquireLease_sound hm hb careful
  | activate leaseId => exact activateLease_sound hm hb leaseId
  | release leaseId status => exact releaseLease_sound hm hb leaseId status
  | revoke leaseId => exact releaseLease_sound hm hb leaseId "REVOKED"
  | expire => exact expireLeases_sound hm hb
  | restore records replace excludePrefixes => exact restoreLeases_sound hm hb careful
  | replaceCapacity capacity probe => exact replaceCapacity_sound hm hb careful
  | reconcile capacity probe observedAt => exact reconcileHardware_sound hm careful

omit [Runtime] [IsoFormat] [Conversions] in
/-- The headroom is taken off what there is. -/
theorem allocatable_nonneg (p : ResourceSafetyPolicy) (c : NodeCapacity) :
    (p.allocatable c).Nonneg :=
  ⟨sub_nonneg.mpr (min_le_left _ _), sub_nonneg.mpr (min_le_left _ _),
    sub_nonneg.mpr (min_le_left _ _)⟩

/-- An orchestrator that was made: nothing is leased. -/
structure Fresh (o : ResourceOrchestrator) : Prop where
  leases : o.leases = .empty
  reservations : o.reservations = .empty
  trusted : o.reconciliationState = .trusted

/-- The reservations are the active leases with their amounts, and a trusted node has reserved
no more than may be allocated. -/
def WithinCapacity (o : ResourceOrchestrator) : Prop :=
  (∀ id, o.reservations.get? id = (o.leases.get? id).bind reservationOf) ∧
    (o.reconciliationState = .trusted → (reserved o.reservations).AtMost o.allocatable)

/-- Every state of a run is within the capacity, and calls that raise expire leases at most. -/
def NeverOvercommits (o : ResourceOrchestrator) : List (Instant × ResourceOp) → Prop
  | [] => WithinCapacity o
  | (now, op) :: rest =>
    WithinCapacity o ∧
      (∀ e, ((op.call now).outcome o).1 = .error e → ExpiryOf now o ((op.call now).after o)) ∧
      NeverOvercommits ((op.call now).after o) rest

def CarefulCalls (o : ResourceOrchestrator) : List (Instant × ResourceOp) → Prop
  | [] => True
  | (now, op) :: rest => op.Careful o now ∧ CarefulCalls ((op.call now).after o) rest

/-- Careful runs never over-commit the node. -/
theorem careful_run_never_overcommits (o : ResourceOrchestrator) (fresh : Fresh o)
    (run : List (Instant × ResourceOp)) (careful : CarefulCalls o run) :
    NeverOvercommits o run := by
  have hrun : ∀ (run : List (Instant × ResourceOp)) (o : ResourceOrchestrator), Matched o →
      Bounded o → CarefulCalls o run → NeverOvercommits o run := by
    intro run
    induction run with
    | nil => exact fun o hm hb _ => ⟨hm.reserved, hb⟩
    | cons call run ih =>
      obtain ⟨now, op⟩ := call
      intro o hm hb hcareful
      have hsound := op.call_sound hm hb hcareful.1
      exact ⟨⟨hm.reserved, hb⟩, hsound.unchanged, ih _ hsound.matched hsound.bounded hcareful.2⟩
  have hm : Matched o := by
    refine ⟨fun id lease h => ?_, fun id => ?_, fun id r h => ?_⟩
    · rw [fresh.leases] at h
      cases h
    · rw [fresh.leases, fresh.reservations]
      rfl
    · rw [fresh.reservations] at h
      cases h
  have hb : Bounded o := by
    intro _
    rw [fresh.reservations]
    exact allocatable_nonneg o.safety o.capacity
  exact hrun run o hm hb careful

end Calls

/-! ## More than may be allocated -/

@[reducible] def noonText : IsoFormat where
  isoformat _ := "2026-01-01T12:00:00+00:00"
  isoformat_ne_empty _ := by decide

@[reducible] def noonTime : Runtime where
  coerceInt _ := none
  fromisoformat text :=
    if text = "2026-01-01T12:00:00+00:00" then some ⟨true, 1767268800000000⟩ else none
  ed25519Verify _ _ _ := false

@[reducible] def noneConversions : Conversions where
  str
    | .str text => text
    | _ => ""
  toFloat
    | .int n => .ok n
    | _ => raiseType "float() argument must be a string or a real number"
  toDict
    | .dict members => .ok members
    | _ => .ok []

def cores (n : Nat) : NodeCapacity where
  cpuCores := n
  ramMb := 0
  vramMb := .empty
  cpuNonneg := Nat.cast_nonneg n
  ramNonneg := le_refl 0
  vramNonneg _ h := by cases h

def fourCores : ResourceOrchestrator where
  capacity := cores 4
  safety := { cpuMinCores := 1 }
  measuredVramMb := .empty
  measuredCpu := 0
  measuredRamMb := 0
  reservations := .empty
  leases := .empty
  reconciliationState := .trusted
  reconciliationReason := none
  lastReconciledAt := .none

def noon : Instant := ⟨true, 1767268800000000⟩

/-- Three cores are reserved, and then there are three. -/
def shrinkingRun : List (Instant × ResourceOp) :=
  [(noon, .reserve noon "a" ⟨3, 0, 0⟩), (noon, .replaceCapacity (cores 3) [])]

/-- A trusted node has reserved three of two cores. -/
theorem shrunk_node_overcommits :
    letI := noonTime
    letI := noonText
    letI := noneConversions
    Fresh fourCores ∧ ¬ NeverOvercommits fourCores shrinkingRun := by
  let _ := noonTime
  let _ := noonText
  let _ := noneConversions
  refine ⟨⟨rfl, rfl, rfl⟩, ?_⟩
  rintro ⟨-, -, -, -, -, hbounded⟩
  exact absurd (hbounded (by decide +kernel)) (by decide +kernel)

/-- The lease is given back first. -/
def releasingRun : List (Instant × ResourceOp) :=
  [(noon, .reserve noon "a" ⟨3, 0, 0⟩), (noon, .release "a" "RELEASED"),
    (noon, .replaceCapacity (cores 3) [])]

theorem releasing_noon_never_overcommits :
    letI := noonTime
    letI := noonText
    letI := noneConversions
    NeverOvercommits fourCores releasingRun := by
  let _ := noonTime
  let _ := noonText
  let _ := noneConversions
  refine careful_run_never_overcommits fourCores ⟨rfl, rfl, rfl⟩ releasingRun
    ⟨fun _ => ⟨fun lease hlease => ?_, fun _ => ?_⟩, trivial, fun _ _ => ?_, trivial⟩
  · cases hlease
  · show isActiveLease "ACTIVE" = true
    decide
  · decide +kernel

end AidnSpec.Node
