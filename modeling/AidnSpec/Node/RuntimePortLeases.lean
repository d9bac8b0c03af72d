import AidnSpec.Node.RuntimePorts

/-!
# Which runtimes share a port

The two maps of the allocator are inverse to each other in every run. That two leases of one
interface have different ports is kept while no port is taken that a lease already has under another
name of the interface: the allocator compares host names.
-/

namespace AidnSpec.Node

open Base List

/-- Local host names that denote one interface. -/
def sameInterface (host host' : String) : Bool :=
  (host ∈ ["localhost", "127.0.0.1", "0.0.0.0"] && host' ∈ ["localhost", "127.0.0.1", "0.0.0.0"]) ||
    (host ∈ ["::1", "::"] && host' ∈ ["::1", "::"])

theorem sameInterface_comm (host host' : String) :
    sameInterface host host' = sameInterface host' host := by
  rw [sameInterface, sameInterface, Bool.and_comm, Bool.and_comm (_ ∈ ["::1", "::"] : Bool)]

/-- A call of the allocator, with what the probe would answer. -/
inductive PortCall where
  | reserve (runtimeId host : String) (requestedPort : Option Int) (checkAvailable : Bool)
      (isAvailable : String → Int → Bool)
  | release (runtimeId : String)
  | restore (runtimeId host : String) (port : Int)
  | prepareLaunchSpec (runtimeId : String) (launchSpec : Fields)
      (isAvailable : String → Int → Bool)

namespace RuntimePortAllocator

/-- Two maps that are inverse to each other, with ports that a listener can have. -/
structure Inverse (a : RuntimePortAllocator) : Prop where
  named : ∀ {runtimeId lease}, a.leasesByRuntime.get? runtimeId = some lease →
    lease.runtimeId = runtimeId
  inverse : ∀ {key runtimeId}, a.leasesByPort.get? key = some runtimeId ↔
    ∃ lease, a.leasesByRuntime.get? runtimeId = some lease ∧ (lease.host, lease.port) = key
  port : ∀ {runtimeId lease}, a.leasesByRuntime.get? runtimeId = some lease →
    1 ≤ lease.port ∧ lease.port ≤ 65535

/-- Leases on one interface have different ports. -/
def Apart (a : RuntimePortAllocator) : Prop :=
  ∀ {id id' lease lease'}, a.leasesByRuntime.get? id = some lease →
    a.leasesByRuntime.get? id' = some lease' → sameInterface lease.host lease'.host = true →
    lease.port = lease'.port → id = id'

/-- No lease on the interface of the host has the port. -/
def Unshared (a : RuntimePortAllocator) (host : String) (port : Int) : Prop :=
  ∀ id lease, a.leasesByRuntime.get? id = some lease → sameInterface lease.host host = true →
    lease.port ≠ port

/-- The first port that could be taken is not shared. -/
def Clear (a : RuntimePortAllocator) (host : String) (requestedPort : Option Int)
    (checkAvailable : Bool) (isAvailable : String → Int → Bool) : Prop :=
  ∀ before port after, a.candidates requestedPort = before ++ port :: after →
    (∀ p ∈ before, a.takeable host checkAvailable isAvailable p = false) →
    a.takeable host checkAvailable isAvailable port = true → a.Unshared host port

def perform [Conversions] [NetlocChecks] (a : RuntimePortAllocator) :
    PortCall → RuntimePortAllocator
  | .reserve runtimeId host requestedPort checkAvailable isAvailable =>
    (a.reserve runtimeId host requestedPort checkAvailable isAvailable).2
  | .release runtimeId => (a.release runtimeId).2
  | .restore runtimeId host port => (a.restore runtimeId host port).2
  | .prepareLaunchSpec runtimeId launchSpec isAvailable =>
    (a.prepareLaunchSpec runtimeId launchSpec isAvailable).2

/-! ## Taking and giving back a port -/

variable {port : Int} {a : RuntimePortAllocator} {requestedPort : Option Int}
  {lease : RuntimePortLease} {runtimeId host : String} {checkAvailable : Bool}
  {isAvailable : String → Int → Bool}

theorem mem_portRange {first last : Int} :
    port ∈ portRange first last ↔ first ≤ port ∧ port ≤ last := by
  rw [portRange, mem_map]
  constructor
  · rintro ⟨i, hi, rfl⟩
    rw [mem_range] at hi
    omega
  · intro h
    exact ⟨(port - first).toNat, mem_range.mpr (by omega), by omega⟩

theorem candidate_bounds
    (hrequested : ∀ requested, requestedPort = some requested → 1 ≤ requested ∧ requested ≤ 65535)
    (h : port ∈ a.candidates requestedPort) : 1 ≤ port ∧ port ≤ 65535 := by
  obtain ⟨hfirst, -, hlast⟩ := a.range
  have hrange : ∀ {first}, a.startPort ≤ first → port ∈ portRange first a.endPort →
      1 ≤ port ∧ port ≤ 65535 := by
    intro first hle hport
    rw [mem_portRange] at hport
    omega
  unfold candidates at h
  rw [mem_append] at h
  rcases h with h | h
  · cases requestedPort with
    | none => cases h
    | some requested =>
      rcases mem_cons.mp h with rfl | h
      · exact hrequested _ rfl
      · exact hrange (le_max_left _ _) (mem_of_mem_filter h)
  · exact hrange le_rfl (mem_of_mem_filter h)

/-- The invariant is kept by a lease of a new runtime on a free port. -/
theorem Inverse.add (h : a.Inverse) (hruntime : a.leasesByRuntime.get? lease.runtimeId = none)
    (hfree : a.leasesByPort.get? (lease.host, lease.port) = none)
    (hport : 1 ≤ lease.port ∧ lease.port ≤ 65535) : (a.add lease).Inverse := by
  have hold : ∀ {runtimeId lease'}, a.leasesByRuntime.get? runtimeId = some lease' →
      runtimeId ≠ lease.runtimeId := by
    rintro runtimeId lease' hlease rfl
    rw [hruntime] at hlease
    cases hlease
  have hcases : ∀ {runtimeId lease'}, (a.add lease).leasesByRuntime.get? runtimeId = some lease' ↔
      runtimeId = lease.runtimeId ∧ lease' = lease ∨
        a.leasesByRuntime.get? runtimeId = some lease' := by
    intro runtimeId lease'
    show (a.leasesByRuntime.set lease.runtimeId lease).get? runtimeId = some lease' ↔ _
    rw [Dict.get?_set]
    by_cases hid : runtimeId = lease.runtimeId
    · rw [if_pos hid, hid, hruntime]
      simp [eq_comm]
    · rw [if_neg hid]
      simp [hid]
  constructor
  · intro runtimeId lease' hlease
    rcases hcases.mp hlease with ⟨rfl, rfl⟩ | hlease
    · rfl
    · exact h.named hlease
  · intro key runtimeId
    show (a.leasesByPort.set (lease.host, lease.port) lease.runtimeId).get? key = _ ↔ _
    rw [Dict.get?_set]
    by_cases hkey : key = (lease.host, lease.port)
    · rw [if_pos hkey]
      constructor
      · intro hid
        exact ⟨lease, hcases.mpr (.inl ⟨(Option.some.inj hid).symm, rfl⟩), hkey.symm⟩
      · rintro ⟨lease', hlease, hkey'⟩
        rcases hcases.mp hlease with ⟨rfl, -⟩ | hlease
        · rfl
        · have htaken := h.inverse.mpr ⟨lease', hlease, hkey'⟩
          rw [hkey, hfree] at htaken
          cases htaken
    · rw [if_neg hkey, h.inverse]
      constructor
      · rintro ⟨lease', hlease, hkey'⟩
        exact ⟨lease', hcases.mpr (.inr hlease), hkey'⟩
      · rintro ⟨lease', hlease, hkey'⟩
        rcases hcases.mp hlease with ⟨-, rfl⟩ | hlease
        · exact absurd hkey'.symm hkey
        · exact ⟨lease', hlease, hkey'⟩
  · intro runtimeId lease' hlease
    rcases hcases.mp hlease with ⟨-, rfl⟩ | hlease
    · exact hport
    · exact h.port hlease

/-- The invariant is kept when a runtime gives its lease back. -/
theorem Inverse.drop {a' : RuntimePortAllocator} (h : a.Inverse)
    (hlease : a.leasesByRuntime.get? runtimeId = some lease)
    (hruntime : a'.leasesByRuntime = a.leasesByRuntime.erase runtimeId)
    (hport : a'.leasesByPort = a.leasesByPort.erase (lease.host, lease.port)) : a'.Inverse := by
  have hcases : ∀ {id lease'}, a'.leasesByRuntime.get? id = some lease' ↔
      id ≠ runtimeId ∧ a.leasesByRuntime.get? id = some lease' := by
    intro id lease'
    rw [hruntime, Dict.get?_erase]
    by_cases hid : id = runtimeId
    · simp [hid]
    · simp [hid]
  have howner : a.leasesByPort.get? (lease.host, lease.port) = some runtimeId :=
    h.inverse.mpr ⟨lease, hlease, rfl⟩
  constructor
  · exact fun hlease' => h.named (hcases.mp hlease').2
  · intro key id
    rw [hport, Dict.get?_erase]
    by_cases hkey : key = (lease.host, lease.port)
    · rw [if_pos hkey]
      constructor
      · intro hid
        cases hid
      · rintro ⟨lease', hlease', hkey'⟩
        obtain ⟨hne, hlease'⟩ := hcases.mp hlease'
        have hid := h.inverse.mpr ⟨lease', hlease', hkey'⟩
        rw [hkey, howner] at hid
        exact absurd (Option.some.inj hid).symm hne
    · rw [if_neg hkey, h.inverse]
      constructor
      · rintro ⟨lease', hlease', hkey'⟩
        refine ⟨lease', hcases.mpr ⟨?_, hlease'⟩, hkey'⟩
        rintro rfl
        rw [hlease] at hlease'
        cases hlease'
        exact hkey hkey'.symm
      · rintro ⟨lease', hlease', hkey'⟩
        exact ⟨lease', (hcases.mp hlease').2, hkey'⟩
  · exact fun hlease' => h.port (hcases.mp hlease').2

/-- What `reserve` can do: it raises, returns the lease of the runtime, or takes the first port that
can be taken. -/
theorem reserve_cases (a : RuntimePortAllocator) (runtimeId host : String)
    (requestedPort : Option Int) (checkAvailable : Bool) (isAvailable : String → Int → Bool) :
    (∃ e, a.reserve runtimeId host requestedPort checkAvailable isAvailable = (.error e, a)) ∨
    (∃ lease, a.leasesByRuntime.get? runtimeId = some lease ∧
      a.reserve runtimeId host requestedPort checkAvailable isAvailable = (.ok lease, a)) ∨
    ∃ before port after, a.leasesByRuntime.get? runtimeId = none ∧
      a.candidates requestedPort = before ++ port :: after ∧
      (∀ p ∈ before, a.takeable host checkAvailable isAvailable p = false) ∧
      a.takeable host checkAvailable isAvailable port = true ∧ (1 ≤ port ∧ port ≤ 65535) ∧
      a.reserve runtimeId host requestedPort checkAvailable isAvailable =
        (.ok ⟨runtimeId, host, port, requestedPort⟩,
          a.add ⟨runtimeId, host, port, requestedPort⟩) := by
  unfold reserve
  cases hcheck : checkArguments runtimeId host requestedPort with
  | error e => exact .inl ⟨_, rfl⟩
  | ok u =>
    cases hexisting : a.leasesByRuntime.get? runtimeId with
    | some lease => exact .inr (.inl ⟨lease, rfl, rfl⟩)
    | none =>
      cases hfind : (a.candidates requestedPort).find?
          (a.takeable host checkAvailable isAvailable) with
      | none => exact .inl ⟨_, rfl⟩
      | some port =>
        obtain ⟨htakeable, before, after, heq, hbefore⟩ :=
          find?_eq_some_iff_append.mp hfind
        have hrequested : ∀ requested, requestedPort = some requested →
            1 ≤ requested ∧ requested ≤ 65535 := by
          rintro requested rfl
          obtain ⟨_, -, hcheck⟩ := bind_eq_ok.mp hcheck
          obtain ⟨_, -, hcheck⟩ := bind_eq_ok.mp hcheck
          simpa using hcheck
        have hbounds := candidate_bounds (a := a) hrequested (mem_of_find?_eq_some hfind)
        exact .inr (.inr ⟨before, port, after, rfl, heq, fun p hp => by simpa using hbefore p hp,
          htakeable, hbounds, rfl⟩)

/-- The invariants are kept by a reservation, the second while the port it takes is not shared. -/
theorem reserve_sound (h : a.Inverse) (hapart : a.Apart)
    (clear : a.leasesByRuntime.get? runtimeId = none →
      a.Clear host requestedPort checkAvailable isAvailable) :
    (a.reserve runtimeId host requestedPort checkAvailable isAvailable).2.Inverse ∧
      (a.reserve runtimeId host requestedPort checkAvailable isAvailable).2.Apart := by
  rcases a.reserve_cases runtimeId host requestedPort checkAvailable isAvailable with
    ⟨e, heq⟩ | ⟨lease, -, heq⟩ |
    ⟨before, port, after, hnew, hsplit, hbefore, htakeable, hbounds, heq⟩
  · rw [heq]
    exact ⟨h, hapart⟩
  · rw [heq]
    exact ⟨h, hapart⟩
  · rw [heq]
    have hunshared : a.Unshared host port := clear hnew before port after hsplit hbefore htakeable
    have hfree : a.leasesByPort.get? (host, port) = none := by
      rw [takeable, Bool.and_eq_true] at htakeable
      exact Dict.not_contains.mp htakeable.1
    refine ⟨h.add hnew hfree hbounds, ?_⟩
    intro id id' lease lease' hlease hlease' hsame hport
    have hcases : ∀ {id lease}, (a.add ⟨runtimeId, host, port, requestedPort⟩).leasesByRuntime.get?
        id = some lease → id = runtimeId ∧ lease = ⟨runtimeId, host, port, requestedPort⟩ ∨
          a.leasesByRuntime.get? id = some lease := by
      intro id lease hlease
      by_cases hid : id = runtimeId
      · subst hid
        exact .inl ⟨rfl, (Option.some.inj ((Dict.get?_set_self _ _ _).symm.trans hlease)).symm⟩
      · exact .inr ((Dict.get?_set_of_ne _ _ hid).symm.trans hlease)
    rcases hcases hlease with ⟨rfl, rfl⟩ | hold <;> rcases hcases hlease' with ⟨rfl, rfl⟩ | hold'
    · rfl
    · exact absurd hport.symm (hunshared _ _ hold' (sameInterface_comm _ _ ▸ hsame))
    · exact absurd hport (hunshared _ _ hold hsame)
    · exact hapart hold hold' hsame hport

/-- The invariants are kept by a release. -/
theorem release_sound (h : a.Inverse) (hapart : a.Apart) (runtimeId : String) :
    (a.release runtimeId).2.Inverse ∧ (a.release runtimeId).2.Apart := by
  unfold release
  cases hlease : a.leasesByRuntime.get? runtimeId with
  | none => exact ⟨h, hapart⟩
  | some lease =>
    refine ⟨h.drop hlease rfl rfl, ?_⟩
    intro id id' first second hfirst hsecond hsame hport
    have hold : ∀ {id lease'}, (a.leasesByRuntime.erase runtimeId).get? id = some lease' →
        a.leasesByRuntime.get? id = some lease' := by
      intro id lease' hlease'
      rw [Dict.get?_erase] at hlease'
      split at hlease'
      · cases hlease'
      · exact hlease'
    exact hapart (hold hfirst) (hold hsecond) hsame hport

/-- What `reserve` returns is the lease of the runtime. -/
theorem get?_of_reserve
    (h : (a.reserve runtimeId host requestedPort checkAvailable isAvailable).1 = .ok lease) :
    (a.reserve runtimeId host requestedPort checkAvailable isAvailable).2.leasesByRuntime.get?
      runtimeId = some lease := by
  rcases a.reserve_cases runtimeId host requestedPort checkAvailable isAvailable with
    ⟨e, heq⟩ | ⟨existing, hexisting, heq⟩ | ⟨_, port, _, -, -, -, -, -, heq⟩
  · rw [heq] at h
    cases h
  · rw [heq] at h ⊢
    cases h
    exact hexisting
  · rw [heq] at h ⊢
    cases h
    exact Dict.get?_set_self _ _ _

/-- A reservation with arguments that are not valid raises. -/
theorem reserve_of_not_checked (h : checkArguments runtimeId host requestedPort ≠ .ok ()) :
    ∃ e, a.reserve runtimeId host requestedPort checkAvailable isAvailable =
      (.error (.python e), a) := by
  unfold reserve
  cases hcheck : checkArguments runtimeId host requestedPort with
  | error e => exact ⟨e, rfl⟩
  | ok u => exact absurd hcheck h

theorem restore_snd (a : RuntimePortAllocator) (runtimeId host : String) (port : Int) :
    (a.restore runtimeId host port).2 =
      (a.reserve runtimeId host (some port) false fun _ _ => true).2 := by
  unfold restore
  split
  · next heq => rw [heq]
  · next heq => rw [heq]
  · next heq => rw [heq]

/-- The first candidate of a restored lease is its port. -/
theorem first_of_free {p : Int} {before after : List Int}
    (hsplit : a.candidates (some port) = before ++ p :: after)
    (hbefore : ∀ q ∈ before, a.takeable host false (fun _ _ => true) q = false)
    (hfree : a.leasesByPort.get? (host, port) = none) : p = port := by
  cases before with
  | nil => exact (List.cons.inj hsplit).1.symm
  | cons q before =>
    obtain rfl := (List.cons.inj hsplit).1
    have htaken := hbefore _ mem_cons_self
    simp [takeable, Dict.contains, hfree] at htaken

/-- A candidate that is leased is not taken. -/
theorem not_takeable_of_leased (h : a.leasesByPort.contains (host, port) = true) :
    a.takeable host checkAvailable isAvailable port = false := by
  rw [takeable, h]
  rfl

theorem checked_of_reserve
    (h : (a.reserve runtimeId host requestedPort checkAvailable isAvailable).1 = .ok lease) :
    checkArguments runtimeId host requestedPort = .ok () := by
  by_contra hcheck
  obtain ⟨e, heq⟩ := @reserve_of_not_checked a _ _ _ checkAvailable isAvailable hcheck
  rw [heq] at h
  cases h

/-- A reservation that raises changes nothing, the others are made under the condition. -/
theorem reserve_kept (h : a.Inverse ∧ a.Apart)
    (clear : checkArguments runtimeId host requestedPort = .ok () →
      a.leasesByRuntime.get? runtimeId = none →
      a.Clear host requestedPort checkAvailable isAvailable) :
    (a.reserve runtimeId host requestedPort checkAvailable isAvailable).2.Inverse ∧
      (a.reserve runtimeId host requestedPort checkAvailable isAvailable).2.Apart := by
  by_cases hcheck : checkArguments runtimeId host requestedPort = .ok ()
  · exact reserve_sound h.1 h.2 (clear hcheck)
  · obtain ⟨e, heq⟩ := @reserve_of_not_checked a _ _ _ checkAvailable isAvailable hcheck
    rw [heq]
    exact h

/-- The condition holds where an interface goes by one name. -/
theorem Inverse.clear (h : a.Inverse)
    (hname : ∀ id lease, a.leasesByRuntime.get? id = some lease → sameInterface lease.host host =
      true → lease.host = host) :
    a.Clear host requestedPort checkAvailable isAvailable := by
  intro before port after _ _ htakeable id lease hlease hsame hport
  rw [takeable, Bool.and_eq_true] at htakeable
  have hfree := Dict.not_contains.mp htakeable.1
  have howner := h.inverse.mpr ⟨lease, hlease, rfl⟩
  rw [hname id lease hlease hsame, hport, hfree] at howner
  cases howner

/-- Nothing is leased. -/
def Fresh (a : RuntimePortAllocator) : Prop :=
  a.leasesByRuntime = .empty ∧ a.leasesByPort = .empty

theorem Fresh.kept (h : a.Fresh) : a.Inverse ∧ a.Apart := by
  have hnone : ∀ {id : String} {lease : RuntimePortLease},
      a.leasesByRuntime.get? id ≠ some lease := by
    intro id lease hlease
    rw [h.1] at hlease
    cases hlease
  refine ⟨⟨fun hlease => absurd hlease hnone, ?_, fun hlease => absurd hlease hnone⟩,
    fun hlease => absurd hlease hnone⟩
  intro key runtimeId
  rw [h.2]
  constructor
  · intro hkey
    cases hkey
  · rintro ⟨lease, hlease, -⟩
    exact absurd hlease hnone

/-! ## What a call returns -/

section Calls

variable [Conversions] [NetlocChecks]

/-- A specification names a port in its endpoint, in its metadata and wherever its command has the
port argument. -/
def NamesPort (prepared : Fields) (portArgument : String) (port : ℕ) : Prop :=
  ∃ metadata endpoint command, PyValue.get prepared "metadata" = .dict metadata ∧
    PyValue.get metadata "endpoint" = .str endpoint ∧
    (splitUrl endpoint.toList).port = .ok (some port) ∧
    PyValue.get metadata "port" = .str (toString port) ∧
    PyValue.get prepared "command" = .list command ∧
    portValues portArgument false command ≠ [] ∧
    ∀ value ∈ portValues portArgument false command, value = .str (toString port)

/-- What a call promises of what it returns: a restored lease has the port that was asked for, and
a specification that gets a port names the one of the lease. -/
def Returns (a : RuntimePortAllocator) : PortCall → Prop
  | .reserve .. => True
  | .release _ => True
  | .restore runtimeId host port =>
    ∀ {lease}, (a.restore runtimeId host port).1 = .ok (some lease) → lease.port = port
  | .prepareLaunchSpec runtimeId launchSpec isAvailable =>
    ∀ {request prepared}, launchRequest launchSpec = .ok (some request) →
      (a.prepareLaunchSpec runtimeId launchSpec isAvailable).1 = .ok prepared →
      ∃ lease, ∃ port : ℕ, (a.prepareLaunchSpec runtimeId launchSpec
          isAvailable).2.leasesByRuntime.get? runtimeId = some lease ∧
        lease.port = port ∧ NamesPort prepared request.portArgument port

/-- The condition under which a call keeps what it promises. -/
def Careful (a : RuntimePortAllocator) : PortCall → Prop
  | .reserve runtimeId host requestedPort checkAvailable isAvailable =>
    checkArguments runtimeId host requestedPort = .ok () →
      a.leasesByRuntime.get? runtimeId = none →
      a.Clear host requestedPort checkAvailable isAvailable
  | .release _ => True
  | .restore runtimeId host port =>
    checkArguments runtimeId host (some port) = .ok () →
      match a.leasesByRuntime.get? runtimeId with
      | some lease => lease.port = port
      | none => (a.leasesByPort.get? (host, port) = none ∧ a.Unshared host port) ∨
          ∀ p ∈ a.candidates (some port), a.leasesByPort.contains (host, p) = true
  | .prepareLaunchSpec runtimeId launchSpec isAvailable =>
    ∀ {request}, launchRequest launchSpec = .ok (some request) →
      checkArguments runtimeId request.host request.requestedPort = .ok () →
      (a.leasesByRuntime.get? runtimeId = none →
        a.Clear request.host request.requestedPort true isAvailable) ∧
      ∀ {command}, commandOf launchSpec = .ok command →
        (portValues request.portArgument false command).length ≤ 1

/-- Every state of a run keeps the invariants, and every call its promise. -/
def SoundRun (a : RuntimePortAllocator) : List PortCall → Prop
  | [] => a.Inverse ∧ a.Apart
  | call :: rest => (a.Inverse ∧ a.Apart) ∧ a.Returns call ∧ (a.perform call).SoundRun rest

def CarefulRun (a : RuntimePortAllocator) : List PortCall → Prop
  | [] => True
  | call :: rest => a.Careful call ∧ (a.perform call).CarefulRun rest

variable {launchSpec : Fields} {request : LaunchRequest} {runtimeId host : String}
  {a : RuntimePortAllocator} {port : Int} {isAvailable : String → Int → Bool}

theorem of_launchRequest (h : launchRequest launchSpec = .ok (some request)) :
    ∃ url host, request.parsed = splitUrl url ∧
      request.parsed.scheme ∈ ["http".toList, "https".toList] ∧
      request.parsed.hostname = some host ∧ String.ofList host ∈ localHosts := by
  unfold launchRequest at h
  split at h
  · cases h
  · obtain ⟨metadata, -, h⟩ := bind_eq_ok.mp h
    split at h
    · next endpoint hendpoint =>
      split at h
      · cases h
      · obtain ⟨parsed, hparsed, h⟩ := bind_eq_ok.mp h
        split at h
        · cases h
        · next hostname hhostname =>
          dsimp only at h
          split at h
          · cases h
          · next hmanaged =>
            rw [not_or, not_not, not_not] at hmanaged
            obtain ⟨port, -, h⟩ := bind_eq_ok.mp h
            obtain ⟨argument, -, h⟩ := bind_eq_ok.mp h
            obtain ⟨text, -, rfl⟩ := Option.map_eq_some_iff.mp (pure_eq_ok.mp h)
            refine ⟨endpoint.toList, hostname, ?_, hmanaged.1, hhostname, hmanaged.2⟩
            unfold urlsplit at hparsed
            dsimp only at hparsed
            split at hparsed
            · cases hparsed
            · exact (Except.ok.inj hparsed).symm
    · cases h

/-- A prepared specification names the port it was prepared with when the command it comes from has
the port argument once at most. -/
theorem namesPort_of_preparedSpec {prepared : Fields} {port : ℕ}
    (hrequest : launchRequest launchSpec = .ok (some request)) (hport : port ≤ 65535)
    (honce : ∀ {command}, commandOf launchSpec = .ok command →
      (portValues request.portArgument false command).length ≤ 1)
    (h : preparedSpec launchSpec request runtimeId port = .ok prepared) :
    NamesPort prepared request.portArgument port := by
  obtain ⟨url, host, hparsed, hscheme, hhost, hlocal⟩ := of_launchRequest hrequest
  obtain ⟨command, hcommand, h⟩ := bind_eq_ok.mp h
  obtain ⟨replaced, hreplaced, h⟩ := bind_eq_ok.mp h
  obtain rfl := pure_eq_ok.mp h
  have hvalues := portValues_replaced hreplaced
  have htail : (portValues request.portArgument false command).tail = [] := by
    have hlength := honce hcommand
    rw [← length_eq_zero_iff, length_tail]
    omega
  rw [htail] at hvalues
  refine ⟨preparedMetadata request runtimeId port, replaceEndpointPort request.parsed port,
    replaced, PyValue.get_put_self _ _ _, ?_, ?_, ?_, ?_, ?_, ?_⟩
  · rw [preparedMetadata, PyValue.get_put_of_ne (by decide), PyValue.get_put_of_ne (by decide),
      PyValue.get_put_of_ne (by decide), PyValue.get_put_self]
  · rw [hparsed] at hscheme hhost ⊢
    exact port_replaceEndpointPort hscheme hhost hlocal hport
  · rw [preparedMetadata, PyValue.get_put_of_ne (by decide),
      PyValue.get_put_of_ne (by decide), PyValue.get_put_self]
    rfl
  · rw [PyValue.get_put_of_ne (by decide), PyValue.get_put_self]
  · rw [hvalues]
    exact cons_ne_nil _ _
  · intro value hvalue
    rw [hvalues] at hvalue
    exact mem_singleton.mp hvalue

/-- The allocator behind `prepareLaunchSpec` is the one it got or the one behind a reservation. -/
theorem prepareLaunchSpec_snd (a : RuntimePortAllocator) (runtimeId : String) (launchSpec : Fields)
    (isAvailable : String → Int → Bool) :
    (a.prepareLaunchSpec runtimeId launchSpec isAvailable).2 =
      match launchRequest launchSpec with
      | .ok (some request) =>
        (a.reserve runtimeId request.host request.requestedPort true isAvailable).2
      | _ => a := by
  unfold prepareLaunchSpec
  cases hrequest : launchRequest launchSpec with
  | error e => rfl
  | ok request =>
    cases request with
    | none => rfl
    | some request =>
      dsimp only
      cases hreserve : a.reserve runtimeId request.host request.requestedPort true isAvailable with
      | mk answer a' =>
        cases answer with
        | error e => rfl
        | ok lease =>
          dsimp only
          split <;> rfl

theorem restore_kept (h : a.Inverse ∧ a.Apart)
    (careful : a.Careful (.restore runtimeId host port)) :
    (a.restore runtimeId host port).2.Inverse ∧ (a.restore runtimeId host port).2.Apart := by
  rw [restore_snd]
  refine reserve_kept h fun hcheck hnew before p after hsplit hbefore htakeable => ?_
  have hcareful := careful hcheck
  rw [hnew] at hcareful
  rcases hcareful with ⟨hfree, hunshared⟩ | htaken
  · rw [first_of_free hsplit hbefore hfree]
    exact hunshared
  · have hp := htaken p (hsplit ▸ mem_append_right _ mem_cons_self)
    rw [not_takeable_of_leased hp] at htakeable
    cases htakeable

theorem restore_returns (careful : a.Careful (.restore runtimeId host port)) :
    a.Returns (.restore runtimeId host port) := by
  intro lease hlease
  have hreserved : (a.reserve runtimeId host (some port) false fun _ _ => true).1 = .ok lease := by
    unfold restore at hlease
    split at hlease
    · next heq => rw [heq, Option.some.inj (Except.ok.inj hlease)]
    · cases hlease
    · cases hlease
  have hcareful := careful (checked_of_reserve hreserved)
  rcases a.reserve_cases runtimeId host (some port) false fun _ _ => true with
    ⟨e, heq⟩ | ⟨existing, hexisting, heq⟩ |
    ⟨before, p, after, hnew, hsplit, hbefore, htakeable, -, heq⟩
  · rw [heq] at hreserved
    cases hreserved
  · rw [heq] at hreserved
    cases hreserved
    rw [hexisting] at hcareful
    exact hcareful
  · rw [heq] at hreserved
    cases hreserved
    rw [hnew] at hcareful
    rcases hcareful with ⟨hfree, -⟩ | htaken
    · exact first_of_free hsplit hbefore hfree
    · have hp := htaken p (hsplit ▸ mem_append_right _ mem_cons_self)
      rw [not_takeable_of_leased hp] at htakeable
      cases htakeable

theorem prepare_kept (h : a.Inverse ∧ a.Apart)
    (careful : a.Careful (.prepareLaunchSpec runtimeId launchSpec isAvailable)) :
    (a.prepareLaunchSpec runtimeId launchSpec isAvailable).2.Inverse ∧
      (a.prepareLaunchSpec runtimeId launchSpec isAvailable).2.Apart := by
  rw [prepareLaunchSpec_snd]
  split
  · next request hrequest => exact reserve_kept h fun hcheck => (careful hrequest hcheck).1
  · exact h

theorem prepare_returns (h : a.Inverse ∧ a.Apart)
    (careful : a.Careful (.prepareLaunchSpec runtimeId launchSpec isAvailable)) :
    a.Returns (.prepareLaunchSpec runtimeId launchSpec isAvailable) := by
  intro request prepared hrequest hprepared
  obtain ⟨hinverse, -⟩ := prepare_kept h careful
  rw [prepareLaunchSpec_snd, hrequest] at hinverse ⊢
  dsimp only at hinverse ⊢
  rw [prepareLaunchSpec, hrequest] at hprepared
  dsimp only at hprepared
  cases hanswer : a.reserve runtimeId request.host request.requestedPort true isAvailable with
  | mk answer a' =>
    rw [hanswer] at hprepared hinverse
    cases answer with
    | error e => cases hprepared
    | ok lease =>
      have hreserved : (a.reserve runtimeId request.host request.requestedPort true
          isAvailable).1 = .ok lease := congrArg Prod.fst hanswer
      have hlease : a'.leasesByRuntime.get? runtimeId = some lease := by
        have hget := get?_of_reserve hreserved
        rwa [hanswer] at hget
      obtain ⟨hlow, hhigh⟩ := hinverse.port hlease
      obtain ⟨port, hport⟩ := Int.eq_ofNat_of_zero_le (by omega : 0 ≤ lease.port)
      dsimp only at hprepared
      cases hspec : preparedSpec launchSpec request runtimeId lease.port with
      | error e =>
        rw [hspec] at hprepared
        cases hprepared
      | ok spec =>
        rw [hspec] at hprepared
        cases hprepared
        rw [hport] at hspec
        exact ⟨lease, port, hlease, hport, namesPort_of_preparedSpec hrequest (by omega)
          (careful hrequest (checked_of_reserve hreserved)).2 hspec⟩

/-- One call keeps the invariants and its promise when it is made under its condition. -/
theorem Careful.sound (h : a.Inverse ∧ a.Apart) {call : PortCall} (careful : a.Careful call) :
    ((a.perform call).Inverse ∧ (a.perform call).Apart) ∧ a.Returns call := by
  cases call with
  | reserve => exact ⟨reserve_kept h careful, trivial⟩
  | release runtimeId => exact ⟨release_sound h.1 h.2 runtimeId, trivial⟩
  | restore => exact ⟨restore_kept h careful, restore_returns careful⟩
  | prepareLaunchSpec => exact ⟨prepare_kept h careful, prepare_returns h careful⟩

theorem SoundRun.of_careful (h : a.Inverse ∧ a.Apart) {calls : List PortCall}
    (careful : a.CarefulRun calls) : a.SoundRun calls := by
  induction calls generalizing a with
  | nil => exact h
  | cons call rest ih =>
    obtain ⟨hkept, hreturns⟩ := careful.1.sound h
    exact ⟨h, hreturns, ih hkept careful.2⟩

/-- In every run from an empty allocator whose calls are made under their conditions the two maps
stay inverse, no two leases share a port, and every call keeps its promise. -/
theorem ports_apart_of_careful {a : RuntimePortAllocator} (hfresh : a.Fresh)
    {calls : List PortCall} (careful : a.CarefulRun calls) : a.SoundRun calls :=
  .of_careful hfresh.kept careful

end Calls

/-! ## One host name and two -/

@[reducible] def dictConversions : Conversions where
  str
    | .str text => text
    | _ => ""
  toFloat _ := raiseType "float() argument must be a string or a real number"
  toDict
    | .dict members => .ok members
    | _ => raiseType "object is not iterable"

@[reducible] def plainNetlocs : NetlocChecks where
  rejects netloc := netloc.any fun c => c = '[' || c = ']'

def threePorts : RuntimePortAllocator where
  startPort := 8000
  endPort := 8002

def serverSpec : Fields := [
  ("launch_mode", .str "managed_process"),
  ("command", .list [.str "server", .str "--port", .str "8000"]),
  ("metadata", .dict [("endpoint", .str "http://127.0.0.1:8000/v1")])]

def oneHost : List PortCall := [
  .reserve "rt-1" "127.0.0.1" (some 8000) true fun _ _ => true,
  .prepareLaunchSpec "rt-2" serverSpec fun _ _ => true,
  .release "rt-1",
  .restore "rt-3" "127.0.0.1" 8000]

def serverRequest : LaunchRequest where
  metadata := [("endpoint", .str "http://127.0.0.1:8000/v1")]
  parsed := ⟨"http".toList, "127.0.0.1:8000".toList, "/v1".toList, [], []⟩
  host := "127.0.0.1"
  requestedPort := some 8000
  portArgument := "--port"

theorem launchRequest_serverSpec :
    letI := dictConversions
    letI := plainNetlocs
    launchRequest serverSpec = .ok (some serverRequest) := by
  let _ := dictConversions
  let _ := plainNetlocs
  rfl

def OneHost (a : RuntimePortAllocator) (host : String) : Prop :=
  ∀ entry ∈ a.leasesByRuntime.entries, entry.2.host = host

theorem OneHost.clear (h : a.OneHost host) (hinverse : a.Inverse) :
    a.Clear host requestedPort checkAvailable isAvailable :=
  hinverse.clear fun _ _ hlease _ => h _ (Dict.mem_entries_of_get? hlease)

theorem careful_oneHost :
    letI := dictConversions
    letI := plainNetlocs
    threePorts.CarefulRun oneHost := by
  let _ := dictConversions
  let _ := plainNetlocs
  have hfirst : threePorts.Careful (.reserve "rt-1" "127.0.0.1" (some 8000) true fun _ _ => true) :=
    fun _ _ => OneHost.clear (by intro e he; cases he) (Fresh.kept ⟨rfl, rfl⟩).1
  obtain ⟨hkept, -⟩ := hfirst.sound (Fresh.kept ⟨rfl, rfl⟩)
  have hsecond : (threePorts.perform (.reserve "rt-1" "127.0.0.1" (some 8000) true
      fun _ _ => true)).Careful (.prepareLaunchSpec "rt-2" serverSpec fun _ _ => true) := by
    intro request hrequest _
    obtain rfl := Option.some.inj (Except.ok.inj (launchRequest_serverSpec.symm.trans hrequest))
    refine ⟨fun _ => OneHost.clear ?_ hkept.1, ?_⟩
    · show ∀ entry ∈ [("rt-1", (⟨"rt-1", "127.0.0.1", 8000, some 8000⟩ : RuntimePortLease))],
        entry.2.host = "127.0.0.1"
      decide
    · intro command hcommand
      cases hcommand
      decide
  refine ⟨hfirst, hsecond, trivial, ?_, trivial⟩
  intro _
  refine .inl ⟨rfl, ?_⟩
  intro id lease hlease _ hport
  have hmem : (id, lease) ∈
      [("rt-2", (⟨"rt-2", "127.0.0.1", 8001, some 8000⟩ : RuntimePortLease))] :=
    Dict.mem_entries_of_get? hlease
  obtain ⟨-, rfl⟩ := Prod.mk.inj (mem_singleton.mp hmem)
  cases hport

theorem oneHost_ports_apart :
    letI := dictConversions
    letI := plainNetlocs
    threePorts.SoundRun oneHost := by
  let _ := dictConversions
  let _ := plainNetlocs
  exact ports_apart_of_careful ⟨rfl, rfl⟩ careful_oneHost

/-- Two names of the loopback interface get the same port. -/
theorem two_names_share_a_port :
    letI := dictConversions
    letI := plainNetlocs
    Fresh threePorts ∧ ¬ threePorts.SoundRun [
      .reserve "rt-1" "localhost" (some 8000) true fun _ _ => true,
      .reserve "rt-2" "127.0.0.1" (some 8000) true fun _ _ => true] := by
  let _ := dictConversions
  let _ := plainNetlocs
  refine ⟨⟨rfl, rfl⟩, ?_⟩
  rintro ⟨-, -, -, -, -, hapart⟩
  have hsame : "rt-1" = "rt-2" := by
    refine @hapart _ _ ⟨"rt-1", "localhost", 8000, some 8000⟩
      ⟨"rt-2", "127.0.0.1", 8000, some 8000⟩ ?_ ?_ ?_ ?_ <;> rfl
  exact absurd hsame (by decide)

end RuntimePortAllocator

end AidnSpec.Node
