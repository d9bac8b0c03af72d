import AidnSpec.Snapshot.Encoding

/-!
# Atomic activation

`snapshot/activation.py`, with the staging store of `snapshot/staging.py` it reads: a state is
staged, prepared, activated and rolled back. A rollback restores what was remembered last, and only
`activate` remembers. A prepare leaves the memory of an older activation in place, so a rollback
behind it may bring back a state that was replaced long ago.
-/

namespace AidnSpec.Snapshot

open Base

inductive ActivationState where
  | idle
  | verifying
  | ready
  | activating
  | activated
  | failed
  deriving DecidableEq

def ActivationState.toText : ActivationState → String
  | .idle => "idle"
  | .verifying => "verifying"
  | .ready => "ready"
  | .activating => "activating"
  | .activated => "activated"
  | .failed => "failed"

structure ActivationResult where
  success : Bool
  previousStateHash : String
  newStateHash : String
  snapshotId : String
  activatedAt : String
  error : Option String := none

structure ActivationRecord where
  previousStateHash : String
  newStateHash : String
  snapshotId : String
  activatedAt : String
  success : Bool

/-- `StagingStateStore`: the namespaces that are loaded. -/
structure StagingStateStore where
  namespaces : Fields := []

namespace StagingStateStore

def isEmpty (s : StagingStateStore) : Bool := s.namespaces.length == 0

def calculateStateHash (s : StagingStateStore) : Except PyError String :=
  computeContentHash s.namespaces

end StagingStateStore

structure AtomicActivator where
  state : ActivationState := .idle
  activeStateHash : String := ""
  previousStateHash : String := ""
  stagingData : Option Fields := none
  activeStateData : Option Fields := none
  previousStateData : Option Fields := none
  history : List ActivationRecord := []

namespace AtomicActivator

/-- `AtomicActivator.prepare`. A state that cannot be encoded raises and leaves the activator
verifying. -/
def prepare (a : AtomicActivator) (staging : StagingStateStore) (expectedStateHash : String) :
    Except PyError Bool × AtomicActivator :=
  if staging.isEmpty then (.ok false, { a with state := .failed })
  else
    match staging.calculateStateHash with
    | .error e => (.error e, { a with state := .verifying })
    | .ok actualHash =>
      if actualHash ≠ expectedStateHash then (.ok false, { a with state := .failed })
      else (.ok true, { a with stagingData := some staging.namespaces, state := .ready })

/-- `_compute_hash_from_data`; there may be no data. -/
def computeHashFromData : Option Fields → Except PyError String
  | some data => computeContentHash data
  | none => .error ⟨.attribute, "'NoneType' object has no attribute 'keys'"⟩

def refusal (a : AtomicActivator) (now error : String) : ActivationResult where
  success := false
  previousStateHash := a.activeStateHash
  newStateHash := ""
  snapshotId := ""
  activatedAt := now
  error := some error

/-- `AtomicActivator.activate` at a time and with a fresh identifier. The data that are active when
it is called are remembered, whatever comes of it. -/
def activate (a : AtomicActivator) (now snapshotId : String) : ActivationResult × AtomicActivator :=
  let remembered :=
    { a with previousStateHash := a.activeStateHash, previousStateData := a.activeStateData }
  if a.state ≠ .ready then
    (a.refusal now s!"Cannot activate from state {a.state.toText}. Expected READY.",
      { remembered with state := .failed })
  else
    match computeHashFromData a.stagingData with
    | .error e => (a.refusal now e.message, { remembered with state := .failed })
    | .ok newHash =>
      ({
        success := true
        previousStateHash := a.activeStateHash
        newStateHash := newHash
        snapshotId
        activatedAt := now },
      { remembered with
        activeStateData := a.stagingData
        activeStateHash := newHash
        history := a.history ++ [⟨a.activeStateHash, newHash, snapshotId, now, true⟩]
        state := .activated
        stagingData := none })

def rollback (a : AtomicActivator) : AtomicActivator :=
  if a.state = .idle then a
  else {
    a with
    activeStateHash := a.previousStateHash
    activeStateData := a.previousStateData
    previousStateHash := ""
    previousStateData := none
    stagingData := none
    state := .idle }

/-! ## Runs -/

/-- A call on the activator. -/
inductive Command where
  | prepare (staging : StagingStateStore) (expectedStateHash : String)
  | activate (now snapshotId : String)
  | rollback

def perform (a : AtomicActivator) : Command → AtomicActivator
  | .prepare staging expected => (a.prepare staging expected).2
  | .activate now snapshotId => (a.activate now snapshotId).2
  | .rollback => a.rollback

/-- The hash is that of the data; without data it is empty. -/
def HashOf (hash : String) : Option Fields → Prop
  | none => hash = ""
  | some data => computeContentHash data = .ok hash

def Hashed (a : AtomicActivator) : Prop := HashOf a.activeStateHash a.activeStateData

/-- The same data are active, under the same hash. -/
def SameActive (a b : AtomicActivator) : Prop :=
  a.activeStateData = b.activeStateData ∧ a.activeStateHash = b.activeStateHash

/-- What a rollback directly after a call does: after a rollback nothing, else it brings back what
was active before the call. -/
def Undone (a : AtomicActivator) : Command → Prop
  | .rollback => a.rollback.rollback = a.rollback
  | c => SameActive (a.perform c).rollback a

/-- A call that does not do what it is for: it returns `False`, reports no success or raises. -/
def fails (a : AtomicActivator) : Command → Bool
  | .prepare staging expected =>
    match (a.prepare staging expected).1 with
    | .ok prepared => !prepared
    | .error _ => true
  | .activate now snapshotId => !(a.activate now snapshotId).1.success
  | .rollback => false

/-- No call but a rollback loses the active data, and a failed call leaves them as they are. -/
structure Holds (a : AtomicActivator) (c : Command) : Prop where
  kept : c ≠ .rollback → a.activeStateData.isSome = true →
    (a.perform c).activeStateData.isSome = true
  unchanged : a.fails c = true → SameActive (a.perform c) a

/-- The activation is atomic along a run: in every state the active hash is that of the active
data, no call but a rollback loses data, a failed call changes none, and a rollback undoes the call
right before it. -/
def Atomic (a : AtomicActivator) : List Command → Prop
  | [] => a.Hashed
  | c :: rest =>
    a.Hashed ∧ a.Holds c ∧ (rest.head? = some .rollback → a.Undone c) ∧ Atomic (a.perform c) rest

/-- Every prepare directly before a rollback is called while the remembered data are the active
ones. -/
def Remembers (a : AtomicActivator) : List Command → Prop
  | [] => True
  | c :: rest =>
    (∀ staging expected, c = .prepare staging expected → rest.head? = some .rollback →
      a.previousStateData = a.activeStateData) ∧ Remembers (a.perform c) rest

/-- Both hashes are those of their data. -/
structure Bound (a : AtomicActivator) : Prop where
  active : HashOf a.activeStateHash a.activeStateData
  previous : HashOf a.previousStateHash a.previousStateData

theorem bound_fresh : Bound {} := ⟨rfl, rfl⟩

/-- Data have one hash. -/
theorem hash_unique {hash other : String} {data : Option Fields} (h : HashOf hash data)
    (hother : HashOf other data) : hash = other := by
  cases data with
  | none => exact Eq.trans h (Eq.symm hother)
  | some data =>
    have hok : computeContentHash data = .ok hash := h
    rw [show computeContentHash data = .ok other from hother] at hok
    exact (Except.ok.inj hok).symm

/-! ## One call -/

/-- A prepare changes the state of the activation and the staged data, nothing else. -/
theorem prepare_cases (a : AtomicActivator) (staging : StagingStateStore) (expected : String) :
    ∃ state stagingData, state ≠ .idle ∧
      (a.prepare staging expected).2 = { a with state, stagingData } := by
  unfold prepare
  split
  · exact ⟨.failed, a.stagingData, by decide, rfl⟩
  · split
    · exact ⟨.verifying, a.stagingData, by decide, rfl⟩
    · split
      · exact ⟨.failed, a.stagingData, by decide, rfl⟩
      · exact ⟨.ready, _, by decide, rfl⟩

/-- An activation remembers what was active. It makes the staged data active, or it fails and
changes nothing that is active. -/
theorem activate_cases (a : AtomicActivator) (now snapshotId : String) :
    let b := (a.activate now snapshotId).2
    b.state ≠ .idle ∧ b.previousStateData = a.activeStateData ∧
      b.previousStateHash = a.activeStateHash ∧
      (SameActive b a ∨ (a.activate now snapshotId).1.success = true ∧
        ∃ data, b.activeStateData = some data ∧
          computeContentHash data = .ok b.activeStateHash) := by
  unfold activate
  split
  · exact ⟨(nofun : ActivationState.failed ≠ .idle), rfl, rfl, .inl ⟨rfl, rfl⟩⟩
  · split
    · exact ⟨(nofun : ActivationState.failed ≠ .idle), rfl, rfl, .inl ⟨rfl, rfl⟩⟩
    · next newHash hhash =>
      refine ⟨(nofun : ActivationState.activated ≠ .idle), rfl, rfl, .inr ⟨rfl, ?_⟩⟩
      cases hstaging : a.stagingData with
      | none =>
        rw [hstaging] at hhash
        cases hhash
      | some data =>
        rw [hstaging] at hhash
        exact ⟨data, rfl, hhash⟩

/-- Every call keeps both hashes bound to their data. -/
theorem Bound.perform {a : AtomicActivator} (h : a.Bound) (c : Command) : (a.perform c).Bound := by
  cases c with
  | prepare staging expected =>
    obtain ⟨state, stagingData, -, heq⟩ := a.prepare_cases staging expected
    rw [AtomicActivator.perform, heq]
    exact ⟨h.active, h.previous⟩
  | activate now snapshotId =>
    obtain ⟨-, hdata, hhash, hactive⟩ := a.activate_cases now snapshotId
    refine ⟨?_, ?_⟩
    · rcases hactive with ⟨hsame, hsameHash⟩ | ⟨-, data, hdata, hnew⟩
      · rw [AtomicActivator.perform, hsame, hsameHash]
        exact h.active
      · rw [AtomicActivator.perform, hdata]
        exact hnew
    · rw [AtomicActivator.perform, hdata, hhash]
      exact h.active
  | rollback =>
    rw [AtomicActivator.perform, AtomicActivator.rollback]
    split
    · exact h
    · exact ⟨h.previous, rfl⟩

theorem holds (a : AtomicActivator) (c : Command) : a.Holds c := by
  cases c with
  | prepare staging expected =>
    obtain ⟨state, stagingData, -, heq⟩ := a.prepare_cases staging expected
    refine ⟨fun _ hsome => ?_, fun _ => ?_⟩
    · rw [perform, heq]
      exact hsome
    · rw [perform, heq]
      exact ⟨rfl, rfl⟩
  | activate now snapshotId =>
    obtain ⟨-, -, -, hsame | ⟨hsuccess, data, hdata, -⟩⟩ := a.activate_cases now snapshotId
    · refine ⟨fun _ hsome => ?_, fun _ => hsame⟩
      rw [perform, hsame.1]
      exact hsome
    · refine ⟨fun _ _ => ?_, fun hfails => ?_⟩
      · rw [perform, hdata]
        rfl
      · rw [fails, hsuccess] at hfails
        cases hfails
  | rollback => exact ⟨fun hne => absurd rfl hne, fun hfails => by cases hfails⟩

theorem rollback_of_ne_idle {a : AtomicActivator} (h : a.state ≠ .idle) :
    a.rollback.activeStateData = a.previousStateData ∧
      a.rollback.activeStateHash = a.previousStateHash := by
  rw [rollback, if_neg h]
  exact ⟨rfl, rfl⟩

/-- A second rollback does nothing. -/
theorem rollback_rollback (a : AtomicActivator) : a.rollback.rollback = a.rollback := by
  have hidle : a.rollback.state = .idle := by
    unfold rollback
    split
    · assumption
    · rfl
  rw [rollback.eq_def a.rollback, if_pos hidle]

/-- A rollback undoes an activation and a rollback. It undoes a prepare exactly when the
remembered data are the active ones. -/
theorem undone_iff {a : AtomicActivator} (bound : a.Bound) (c : Command) :
    a.Undone c ↔ ∀ staging expected, c = .prepare staging expected →
      a.previousStateData = a.activeStateData := by
  cases c with
  | prepare staging expected =>
    obtain ⟨state, stagingData, hidle, heq⟩ := a.prepare_cases staging expected
    have hroll := rollback_of_ne_idle (a := { a with state, stagingData }) hidle
    simp only [Undone, perform, heq, SameActive, hroll]
    constructor
    · exact fun h _ _ _ => h.1
    · intro h
      have hdata := h staging expected rfl
      exact ⟨hdata, hash_unique (hdata ▸ bound.previous) bound.active⟩
  | activate now snapshotId =>
    obtain ⟨hidle, hdata, hhash, -⟩ := a.activate_cases now snapshotId
    obtain ⟨hroll, hrollHash⟩ := rollback_of_ne_idle hidle
    exact iff_of_true ⟨hroll.trans hdata, hrollHash.trans hhash⟩ fun _ _ h => by cases h
  | rollback => exact iff_of_true a.rollback_rollback fun _ _ h => by cases h

/-! ## Every run -/

/-- The activation is atomic along a run exactly when it remembers the active data wherever a
rollback follows a prepare. -/
theorem Bound.atomic_iff {a : AtomicActivator} (bound : a.Bound) (commands : List Command) :
    a.Atomic commands ↔ a.Remembers commands := by
  induction commands generalizing a with
  | nil => exact iff_of_true bound.active trivial
  | cons c rest ih =>
    rw [Atomic, Remembers, ih (bound.perform c), undone_iff bound]
    constructor
    · exact fun ⟨_, _, hundone, hrest⟩ => ⟨fun s e hc hnext => hundone hnext s e hc, hrest⟩
    · exact fun ⟨hremembers, hrest⟩ =>
        ⟨bound.active, a.holds c, fun hnext s e hc => hremembers s e hc hnext, hrest⟩

/-- From the fresh activator the runs along which the activation is atomic are those that call no
prepare directly before a rollback while older data are remembered. -/
theorem atomic_iff_remembers (commands : List Command) :
    Atomic {} commands ↔ Remembers {} commands := bound_fresh.atomic_iff commands

def emptyWallets : StagingStateStore := ⟨[("wallets", .dict [])]⟩

/-- The empty wallets are activated; then an empty store is refused and rolled back. -/
def refusedRun (hash : String) : List Command :=
  [.prepare emptyWallets hash, .activate "2026-01-01T00:00:00+00:00" "s", .prepare {} hash,
    .rollback]

theorem exists_hash_emptyWallets : ∃ hash, emptyWallets.calculateStateHash = .ok hash := by
  have hsorted : (PyValue.dict []).sorted = .dict [] := by
    rw [PyValue.sorted_dict, List.mergeSort_nil, List.map_nil]
  have hordered : orderedState emptyWallets.namespaces =
      stateNamespaces.map fun ns => (ns, .dict []) := by
    simp [orderedState, stateNamespaces, emptyWallets, List.lookup_cons, hsorted]
  refine ⟨_, computeContentHash_eq_ok.mpr ⟨_, encode_eq_ok.mpr ⟨by decide, ?_, rfl⟩, rfl⟩⟩
  rw [hordered]
  decide

/-- An activated state is lost when a prepare is refused and rolled back. -/
theorem refused_prepare_loses_state : ∃ hash, ¬ Atomic {} (refusedRun hash) := by
  obtain ⟨hash, hhash⟩ := exists_hash_emptyWallets
  refine ⟨hash, fun h => ?_⟩
  obtain ⟨-, -, hprepare, -⟩ := (bound_fresh.atomic_iff _).mp h
  have hready : AtomicActivator.perform {} (.prepare emptyWallets hash) =
      { stagingData := some emptyWallets.namespaces, state := .ready } := by
    rw [perform, prepare, if_neg (by decide), hhash]
    exact congrArg Prod.snd (if_neg (not_not.mpr rfl))
  have hlost := hprepare {} hash rfl rfl
  have hcomputed : computeHashFromData (some emptyWallets.namespaces) = .ok hash := hhash
  rw [hready] at hlost
  simp [perform, activate, hcomputed] at hlost

end AtomicActivator

end AidnSpec.Snapshot
