import Mathlib.Algebra.Order.Field.Rat
import AidnSpec.Base.Conversions
import AidnSpec.Base.Datetime
import AidnSpec.Base.StatefulCall

/-!
# Resource leases

`resources.py`: leases of CPU, RAM and VRAM, and beside them the reservations that count against the
capacity. CPU amounts and the ratios of the safety policy are exact rationals. A call takes what it
reads from the clock as arguments. `acquire_lease` reads it twice; `restore_leases` reads it again
for each record without `created_at`, a text that the model takes from the first reading. The read
models that calls return are left out.
-/

namespace AidnSpec.Node

open Base

/-! ## Amounts and capacities -/

/-- Amounts of the three resources. -/
@[ext] structure Amounts where
  cpu : Rat
  ramMb : Int
  vramMb : Int
  deriving DecidableEq

/-- No resource is exceeded. -/
def Amounts.AtMost (a b : Amounts) : Prop := a.cpu ≤ b.cpu ∧ a.ramMb ≤ b.ramMb ∧ a.vramMb ≤ b.vramMb

instance (a b : Amounts) : Decidable (a.AtMost b) :=
  inferInstanceAs (Decidable (_ ∧ _ ∧ _))

/-- `NodeCapacity`, without its list of devices. -/
structure NodeCapacity where
  cpuCores : Rat
  ramMb : Int
  vramMb : Dict String Int
  cpuNonneg : 0 ≤ cpuCores
  ramNonneg : 0 ≤ ramMb
  vramNonneg : ∀ v ∈ vramMb.values, 0 ≤ v

def NodeCapacity.total (c : NodeCapacity) : Amounts :=
  ⟨c.cpuCores, c.ramMb, c.vramMb.sum fun _ amount => amount⟩

/-- `ResourceSafetyPolicy`, without the storage. -/
structure ResourceSafetyPolicy where
  vramMinMb : Int := 0
  vramRatio : Rat := 0
  ramMinMb : Int := 0
  ramRatio : Rat := 0
  cpuMinCores : Rat := 0
  cpuRatio : Rat := 0

/-- `int(value)` of a float. -/
def truncate (q : Rat) : Int := q.num.tdiv q.den

def smallHostRamSafetyCapRatio : Rat := 1 / 4

def ResourceSafetyPolicy.headroom (p : ResourceSafetyPolicy) (a : Amounts) : Amounts :=
  let ramSafetyFloor := min p.ramMinMb (max 0 (truncate (a.ramMb * smallHostRamSafetyCapRatio)))
  { cpu := min a.cpu (max p.cpuMinCores (a.cpu * p.cpuRatio))
    ramMb := min a.ramMb (max ramSafetyFloor (truncate (a.ramMb * p.ramRatio)))
    vramMb := min a.vramMb (max p.vramMinMb (truncate (a.vramMb * p.vramRatio))) }

def ResourceSafetyPolicy.allocatable (p : ResourceSafetyPolicy) (c : NodeCapacity) : Amounts :=
  let total := c.total
  let headroom := p.headroom total
  ⟨total.cpu - headroom.cpu, total.ramMb - headroom.ramMb, total.vramMb - headroom.vramMb⟩

/-! ## Leases -/

structure Reservation where
  reservationId : String
  amounts : Amounts

/-- `ResourceLease`. An expiry that was restored need not be a text. -/
structure ResourceLease where
  leaseId : String
  amounts : Amounts
  status : String
  ownerId : PyValue
  createdAt : String
  expiresAt : PyValue
  metadata : Fields

/-- `_ACTIVE_LEASE_STATUSES`. -/
def isActiveLease (status : String) : Bool := ["REQUESTED", "GRANTED", "ACTIVE"].contains status

/-- `_TERMINAL_LEASE_STATUSES`. -/
def isTerminalLease (status : String) : Bool := ["RELEASED", "EXPIRED", "REVOKED"].contains status

inductive ReconciliationState where
  | trusted | uncertain
  deriving DecidableEq

/-- `ResourceOrchestrator`: the capacity, what was measured of it, the leases and the
reservations. -/
structure ResourceOrchestrator where
  capacity : NodeCapacity
  safety : ResourceSafetyPolicy
  measuredVramMb : Dict String Int
  measuredCpu : Rat
  measuredRamMb : Int
  reservations : Dict String Reservation
  leases : Dict String ResourceLease
  reconciliationState : ReconciliationState
  reconciliationReason : Option String
  lastReconciledAt : PyValue

/-- A method of the orchestrator. -/
abbrev ResourceCall := StatefulCall ResourceOrchestrator

def reserved (d : Dict String Reservation) : Amounts :=
  ⟨d.sum fun _ r => r.amounts.cpu, d.sum fun _ r => r.amounts.ramMb,
    d.sum fun _ r => r.amounts.vramMb⟩

namespace ResourceOrchestrator

def allocatable (o : ResourceOrchestrator) : Amounts := o.safety.allocatable o.capacity

/-- `max` of what is reserved and what is measured. -/
def used (o : ResourceOrchestrator) : Amounts :=
  let taken := reserved o.reservations
  let measuredVram := min (o.measuredVramMb.sum fun _ amount => amount) o.capacity.total.vramMb
  ⟨max taken.cpu o.measuredCpu, max taken.ramMb o.measuredRamMb, max taken.vramMb measuredVram⟩

/-- `_fit_report(…)["fits"]`. -/
def fits (o : ResourceOrchestrator) (a : Amounts) : Bool :=
  !(a.cpu < 0 || a.ramMb < 0 || a.vramMb < 0) && o.reconciliationState == .trusted &&
    o.used.cpu + a.cpu ≤ o.allocatable.cpu && o.used.ramMb + a.ramMb ≤ o.allocatable.ramMb &&
    o.used.vramMb + a.vramMb ≤ o.allocatable.vramMb

end ResourceOrchestrator

variable [Runtime] [IsoFormat] [Conversions]

/-! ## Capacity -/

def readNonNegativeFloat (value : PyValue) : Except PyError Rat :=
  match Conversions.toFloat value with
  | .ok parsed => .ok (max 0 parsed)
  | .error e => if [PyErrorKind.type, .value].contains e.kind then .ok 0 else .error e

def readNonNegativeInt (value : PyValue) : Except PyError Int :=
  match value.toInt with
  | .ok parsed => .ok (max 0 parsed)
  | .error e => if [PyErrorKind.type, .value].contains e.kind then .ok 0 else .error e

/-- The loop of `_read_measured_vram`. -/
def readDevices : Fields → Except PyError (Dict String Int)
  | [] => .ok .empty
  | (device, amount) :: rest => do
    let read ← match amount.toInt with
      | .ok value => .ok (if 0 ≤ value then some value else none)
      | .error e => if [PyErrorKind.type, .value].contains e.kind then .ok none else .error e
    let others ← readDevices rest
    return match read with
      | some value => others.set device value
      | none => others

def readMeasuredVram (probe : Fields) : Except PyError (Dict String Int) :=
  match probe.getD "measured_vram_mb" (probe.getD "external_vram_mb" (.dict [])) with
  | .dict devices => readDevices devices
  | _ => .ok .empty

/-- The three readings of a probe, which are assigned one after the other. -/
def readProbe (probe : Fields) : ResourceCall Unit := do
  let vram ← StatefulCall.lift (readMeasuredVram probe)
  modify fun o => { o with measuredVramMb := vram }
  let cpu ← StatefulCall.lift (readNonNegativeFloat (PyValue.get probe "measured_cpu_cores"))
  modify fun o => { o with measuredCpu := cpu }
  let ram ← StatefulCall.lift (readNonNegativeInt (PyValue.get probe "measured_ram_mb"))
  modify fun o => { o with measuredRamMb := ram }

def replaceCapacity (now : Instant) (capacity : NodeCapacity) (probe : Fields) :
    ResourceCall Unit := do
  let o ← get
  if (reserved o.reservations).AtMost capacity.total then
    modify fun o => { o with capacity := capacity }
    readProbe probe
    modify fun o =>
      { o with
        reconciliationState := .trusted
        reconciliationReason := none
        lastReconciledAt :=
          (PyValue.get probe "observed_at").orElse (.str (IsoFormat.isoformat now)) }
  else throw ⟨.value, "probed capacity is below active reservations"⟩

def reconcileHardware (now : Instant) (capacity : NodeCapacity) (probe : Fields)
    (observedAt : PyValue) : ResourceCall Unit := do
  modify fun o => { o with capacity := capacity }
  readProbe probe
  let observed := (PyValue.get probe "observed_at").orElse (.str (IsoFormat.isoformat now))
  modify fun o => { o with lastReconciledAt := observedAt.orElse observed }
  modify fun o =>
    if (reserved o.reservations).AtMost o.allocatable then
      { o with reconciliationState := .trusted, reconciliationReason := none }
    else
      { o with
        reconciliationState := .uncertain
        reconciliationReason := some "active leases exceed trusted allocatable capacity" }

/-! ## The life of a lease -/

def releaseLease (leaseId status : String) : ResourceCall Unit := do
  if !isTerminalLease status then
    throw ⟨.value, "invalid terminal lease status: " ++ status⟩
  else
    match (← get).leases.get? leaseId with
    | none => modify fun o => { o with reservations := o.reservations.erase leaseId }
    | some lease =>
      if !isTerminalLease lease.status then
        modify fun o =>
          { o with
            reservations := o.reservations.erase leaseId
            leases := o.leases.set leaseId { lease with status := status } }
      else pure ()

def isOverdue (now : Instant) (lease : ResourceLease) : Except PyError Bool :=
  if !isActiveLease lease.status || !lease.expiresAt.truthy then .ok false
  else
    match lease.expiresAt with
    | .str text =>
      match Runtime.fromisoformat text with
      | none => .ok false
      | some expiry => expiry.notAfter now
    | _ => raiseType "fromisoformat: argument must be str"

/-- The loop of `_expire_leases_unlocked`. -/
def expireEach (now : Instant) : List ResourceLease → ResourceCall Unit
  | [] => pure ()
  | lease :: rest => do
    let overdue ← StatefulCall.lift (isOverdue now lease)
    if overdue then
      releaseLease lease.leaseId "EXPIRED"
      expireEach now rest
    else expireEach now rest

/-- `_expire_leases_unlocked`. -/
def expireLeases (now : Instant) : ResourceCall Unit := do
  expireEach now (← get).leases.values

def activateLease (leaseId : String) : ResourceCall Unit := do
  match (← get).leases.get? leaseId with
  | none => throw ⟨.key, leaseId⟩
  | some lease =>
    if !isActiveLease lease.status then throw ⟨.value, "lease " ++ leaseId ++ " is not activatable"⟩
    else if lease.status = "ACTIVE" then pure ()
    else
      modify fun o => { o with leases := o.leases.set leaseId { lease with status := "ACTIVE" } }

/-- `admission_report(…)["allowed"]`. -/
def admissionReport (now : Instant) (a : Amounts) : ResourceCall Bool := do
  expireLeases now
  return (← get).fits a

structure LeaseRequest where
  leaseId : String
  amounts : Amounts
  ownerId : PyValue := .none
  leaseSeconds : Option Int := none
  metadata : Fields := []
  status : String := "ACTIVE"

/-- The checks of `acquire_lease` on the request itself. -/
def LeaseRequest.complaint (r : LeaseRequest) : Option String :=
  if r.amounts.cpu < 0 ∨ r.amounts.ramMb < 0 ∨ r.amounts.vramMb < 0 then
    some "resource request values must be non-negative"
  else if isBlank r.leaseId then some "lease_id must be a non-empty string"
  else if r.leaseSeconds.any (· ≤ 0) then some "lease_seconds must be a positive integer"
  else none

def LeaseRequest.expiry (r : LeaseRequest) (start : Instant) : Except PyError PyValue :=
  match r.leaseSeconds with
  | none => .ok .none
  | some seconds => (plusSeconds start.micros seconds).map fun later =>
      .str (IsoFormat.isoformat ⟨start.aware, later⟩)

/-- `acquire_lease`; the lease starts when the report is made. -/
def acquireLease (now start : Instant) (r : LeaseRequest) : ResourceCall Unit := do
  match r.complaint with
  | some complaint => throw ⟨.value, complaint⟩
  | none =>
    let o ← get
    let existing := o.leases.get? r.leaseId
    if o.reservations.contains r.leaseId || existing.any (isActiveLease ·.status) then
      throw ⟨.value, "reservation_id already exists"⟩
    else
      modify fun o =>
        if existing.any (isTerminalLease ·.status) then
          { o with leases := o.leases.erase r.leaseId }
        else o
      let allowed ← admissionReport now r.amounts
      if (← get).reconciliationState ≠ .trusted then
        throw ⟨.value, "resource reconciliation required before new lease admission"⟩
      else if !allowed then throw ⟨.value, "insufficient resources"⟩
      else
        let expiresAt ← StatefulCall.lift (r.expiry start)
        let lease : ResourceLease := ⟨r.leaseId, r.amounts, r.status, r.ownerId,
          IsoFormat.isoformat start, expiresAt, r.metadata⟩
        modify fun o =>
          { o with
            leases := o.leases.set r.leaseId lease
            reservations := o.reservations.set r.leaseId ⟨r.leaseId, r.amounts⟩ }

def reserve (now start : Instant) (reservationId : String) (a : Amounts) : ResourceCall Unit :=
  acquireLease now start { leaseId := reservationId, amounts := a }

def requestLease (now start : Instant) (r : LeaseRequest) : ResourceCall Unit :=
  acquireLease now start { r with status := "REQUESTED" }

def revokeLease (leaseId : String) : ResourceCall Unit := releaseLease leaseId "REVOKED"

/-! ## Restoring -/

/-- What becomes of a record. -/
inductive RecordVerdict where
  | skipped
  | rejected (leaseId : String)
  | expired (leaseId : String)
  | lease (lease : ResourceLease)

/-- `except (TypeError, ValueError)`: the record is rejected. -/
def rejectOn (leaseId : String) (x : Except PyError ResourceLease) : Except PyError RecordVerdict :=
  match x with
  | .ok lease => .ok (.lease lease)
  | .error e =>
    if [PyErrorKind.type, .value].contains e.kind then .ok (.rejected leaseId) else .error e

def leaseOfRecord (now : Instant) (raw : Fields) (leaseId status : String) :
    Except PyError ResourceLease := do
  let cpu ← Conversions.toFloat (raw.getD "cpu" (.int 0))
  let ramMb ← (raw.getD "ram_mb" (.int 0)).toInt
  let vramMb ← (raw.getD "vram_mb" (.int 0)).toInt
  let createdAt := Conversions.str
    ((PyValue.get raw "created_at").orElse (.str (IsoFormat.isoformat now)))
  let metadata ← Conversions.toDict ((PyValue.get raw "metadata").orElse (.dict []))
  require (!(cpu < 0 || ramMb < 0 || vramMb < 0)) "resource request values must be non-negative"
  return ⟨leaseId, ⟨cpu, ramMb, vramMb⟩, status, PyValue.get raw "owner_id", createdAt,
    PyValue.get raw "expires_at", metadata⟩

/-- The body of the loop of `restore_leases`, as far as it reads the record only. -/
def readRecord (now : Instant) (excludePrefixes : List String) (raw : Fields) :
    Except PyError RecordVerdict := do
  let leaseId := stripped (Conversions.str
    ((PyValue.get raw "lease_id").orElse ((PyValue.get raw "reservation_id").orElse (.str ""))))
  let status := Conversions.str ((PyValue.get raw "status").orElse (.str "ACTIVE"))
  let expiresAt := PyValue.get raw "expires_at"
  if leaseId.isEmpty || excludePrefixes.any (·.isPrefixOf leaseId) then return .skipped
  else if !isActiveLease status then return .skipped
  else if !expiresAt.truthy then rejectOn leaseId (leaseOfRecord now raw leaseId status)
  else
    match Runtime.fromisoformat (Conversions.str expiresAt) with
    | none => return .rejected leaseId
    | some expiry =>
      if ← expiry.notAfter now then return .expired leaseId
      else rejectOn leaseId (leaseOfRecord now raw leaseId status)

/-- The loop of `restore_leases`; whether a record was rejected. -/
def restoreEach (now : Instant) (excludePrefixes : List String) : List Fields → ResourceCall Bool
  | [] => return false
  | raw :: rest => do
    match ← StatefulCall.lift (readRecord now excludePrefixes raw) with
    | .skipped => restoreEach now excludePrefixes rest
    | .expired _ => restoreEach now excludePrefixes rest
    | .rejected _ =>
      let _ ← restoreEach now excludePrefixes rest
      return true
    | .lease lease =>
      if (← get).reservations.contains lease.leaseId then
        let _ ← restoreEach now excludePrefixes rest
        return true
      else
        modify fun o =>
          { o with
            leases := o.leases.set lease.leaseId lease
            reservations := o.reservations.set lease.leaseId ⟨lease.leaseId, lease.amounts⟩ }
        restoreEach now excludePrefixes rest

def restoreLeases (now : Instant) (records : List Fields) (replace : Bool)
    (excludePrefixes : List String) : ResourceCall Unit := do
  modify fun o => if replace then { o with reservations := .empty, leases := .empty } else o
  let rejected ← restoreEach now excludePrefixes records
  modify fun o =>
    if rejected ∨ ¬ (reserved o.reservations).AtMost o.allocatable then
      { o with
        reconciliationState := .uncertain
        reconciliationReason := some "persisted leases require hardware reconciliation" }
    else o

end AidnSpec.Node
