import AidnSpec.Base.JsonReading
import AidnSpec.Snapshot.Orchestrator

/-!
# Snapshots are applied as a whole or not at all

An application that succeeds activates the one state with the trusted hash, restored from chunks
under the root of the manifest; any other leaves the active state alone.
-/

namespace AidnSpec.Snapshot

open Base FileSnapshotChunkStore List

/-! ## One state for one hash -/

section Unique

variable [FloatReader]

variable {state other : Fields} {decoded : PyValue} {ns : String} {staging : StagingStateStore}

/-- A namespace in order can be written when the state can. -/
theorem writable_orderedState (h : (PyValue.dict state).Writable) :
    (PyValue.dict (orderedState state)).Writable := by
  refine ⟨wellFormed_orderedState h.wellFormed, ?_⟩
  rw [PyValue.dumpable]
  refine PyValue.dumpableMembers_of_mem fun member hmember => ?_
  obtain ⟨ns, -, rfl⟩ := mem_map.mp hmember
  dsimp only
  cases hlookup : state.lookup ns with
  | none => rfl
  | some value =>
    have hvalue : value.Writable := h.members.2 _ (mem_of_lookup hlookup)
    exact PyValue.dumpable_sorted hvalue.wellFormed hvalue.dumpable

/-- States with one encoding are equal, missing namespaces read as empty objects. -/
theorem orderedState_of_encode (h : (PyValue.dict state).Writable)
    (hother : (PyValue.dict other).Writable)
    (heq : plainBytes (orderedState state) = plainBytes (orderedState other)) :
    orderedState state = orderedState other := by
  obtain ⟨hwell, hdump⟩ := writable_orderedState h
  obtain ⟨hwell', hdump'⟩ := writable_orderedState hother
  have hread := decode_plainBytes hwell hdump
  rw [heq, decode_plainBytes hwell' hdump'] at hread
  exact (PyValue.dict.inj (Except.ok.inj hread)).symm

/-- The states that have a hash are one state, when SHA-256 tells their encodings apart. -/
theorem orderedState_of_hash {hash : String} (h : (PyValue.dict state).Writable)
    (hother : (PyValue.dict other).Writable) (hhash : computeContentHash state = .ok hash)
    (hhash' : computeContentHash other = .ok hash)
    (free : CollisionFree [plainBytes (orderedState state), plainBytes (orderedState other)]) :
    orderedState state = orderedState other := by
  obtain ⟨encoded, hencoded, htext⟩ := computeContentHash_eq_ok.mp hhash
  obtain ⟨encoded', hencoded', htext'⟩ := computeContentHash_eq_ok.mp hhash'
  obtain ⟨-, -, rfl⟩ := encode_eq_ok.mp hencoded
  obtain ⟨-, -, rfl⟩ := encode_eq_ok.mp hencoded'
  have hdigests := hexEncode_inj (htext.trans htext'.symm)
  exact orderedState_of_encode h hother
    (free _ mem_cons_self _ (mem_cons_of_mem _ mem_cons_self) hdigests)

/-! ## What is restored -/

omit [FloatReader] in
theorem itemAt_eq_ok {value : PyValue} (h : itemAt decoded ns = .ok value) :
    ∃ members, decoded = .dict members ∧ (ns, value) ∈ members := by
  cases decoded with
  | dict members =>
    rw [itemAt] at h
    split at h
    · next found hfound =>
      cases h
      exact ⟨members, rfl, mem_of_lookup hfound⟩
    · cases h
  | _ => cases h

theorem writable_loadFrom (h : decoded.Writable) {staging' : StagingStateStore}
    (hstaging : (PyValue.dict staging.namespaces).Writable)
    (hload : loadFrom decoded staging ns = .ok staging') :
    (PyValue.dict staging'.namespaces).Writable := by
  obtain ⟨contained, -, hload⟩ := bind_eq_ok.mp hload
  cases contained with
  | false =>
    obtain rfl := pure_eq_ok.mp hload
    exact hstaging
  | true =>
    obtain ⟨value, hvalue, hload⟩ := bind_eq_ok.mp hload
    obtain rfl := pure_eq_ok.mp hload
    obtain ⟨members, rfl, hmem⟩ := itemAt_eq_ok hvalue
    obtain ⟨hkeys, hmembers⟩ := hstaging.members
    obtain ⟨hkeys', hvalues⟩ := @put_spec PyValue.Writable staging.namespaces ns value hkeys
      hmembers ((h.members).2 _ hmem)
    exact .dict hkeys' hvalues

/-- What is loaded of decoded content can be written. -/
theorem writable_loadNamespaces (h : decoded.Writable)
    (hload : loadNamespaces decoded = .ok staging) :
    (PyValue.dict staging.namespaces).Writable := by
  have hfold : ∀ (names : List String) (start : StagingStateStore),
      (PyValue.dict start.namespaces).Writable →
      names.foldlM (loadFrom decoded) start = .ok staging →
      (PyValue.dict staging.namespaces).Writable := by
    intro names
    induction names with
    | nil =>
      intro start hstart hfold
      cases hfold
      exact hstart
    | cons ns names ih =>
      intro start hstart hfold
      rw [foldlM_cons] at hfold
      obtain ⟨next, hnext, hrest⟩ := bind_eq_ok.mp hfold
      exact ih next (writable_loadFrom h hstart hnext) hrest
  exact hfold loadOrder {} (.dict nodup_nil fun m hm => by cases hm) hload

variable [Conversions]

theorem writable_restore (floats : ReadsFloats) {data : Bytes} {restoration : RestorationResult}
    (h : restore data = .ok (restoration, staging)) :
    (PyValue.dict staging.namespaces).Writable := by
  unfold restore at h
  split at h
  · cases h
  · split at h
    · cases h
    · next decoded hdecoded =>
      split at h
      · next restored hrestored =>
        cases h
        obtain ⟨loaded, hloaded, hrest⟩ := bind_eq_ok.mp hrestored
        obtain ⟨-, -, hrest⟩ := bind_eq_ok.mp hrest
        obtain ⟨hash, -, hrest⟩ := bind_eq_ok.mp hrest
        obtain ⟨-, rfl⟩ := Prod.mk.inj (pure_eq_ok.mp hrest)
        refine writable_loadNamespaces ?_ hloaded
        unfold decode at hdecoded
        split at hdecoded
        · cases hdecoded
        · split at hdecoded
          · cases hdecoded
          · next value hvalue =>
            cases hdecoded
            exact writable_of_loads floats hvalue
      · cases h

end Unique

/-! ## Activation -/

open AtomicActivator (SameActive)

variable {a a' : AtomicActivator} {hash : String}

theorem prepare_eq_true {staging : StagingStateStore}
    (h : a.prepare staging hash = (.ok true, a')) : staging.calculateStateHash = .ok hash ∧
      a' = { a with stagingData := some staging.namespaces, state := .ready } := by
  unfold AtomicActivator.prepare at h
  split at h
  · cases h
  · split at h
    · cases h
    · next actualHash hactual =>
      split at h
      · cases h
      · next hsame =>
        obtain ⟨-, rfl⟩ := Prod.mk.inj h
        exact ⟨hactual.trans (congrArg Except.ok (not_not.mp hsame)), rfl⟩

/-- A prepared state that has a hash becomes active under it. -/
theorem activate_prepared (a : AtomicActivator) {data : Fields}
    (h : computeContentHash data = .ok hash) (now snapshotId : String) :
    let outcome := AtomicActivator.activate { a with stagingData := some data, state := .ready }
      now snapshotId
    outcome.1.success = true ∧ outcome.2.activeStateHash = hash ∧
      outcome.2.activeStateData = some data := by
  have hcomputed : AtomicActivator.computeHashFromData (some data) = .ok hash := h
  simp [AtomicActivator.activate, hcomputed]

/-- What one application comes to, for the activator. -/
abbrev Outcome := Except SnapshotError SnapshotApplyResult × AtomicActivator

/-- The application fails or raises, and the active state is as before. -/
structure Refused (a : AtomicActivator) (outcome : Outcome) : Prop where
  failed : ∀ result, outcome.1 = .ok result → result.success = false
  unchanged : SameActive outcome.2 a

/-- The application succeeds, and data with the hash are active. -/
structure Activates (data : Fields) (hash : String) (outcome : Outcome) : Prop where
  succeeded : ∃ result, outcome.1 = .ok result ∧ result.success = true
  activeHash : outcome.2.activeStateHash = hash
  activeData : outcome.2.activeStateData = some data
  hashed : computeContentHash data = .ok hash

theorem refused_of_error (e : SnapshotError) (h : SameActive a' a) : Refused a (.error e, a') where
  failed := by
    intro result hresult
    cases hresult
  unchanged := h

theorem refused_error (a : AtomicActivator) (e : SnapshotError) : Refused a (.error e, a) :=
  refused_of_error e ⟨rfl, rfl⟩

theorem refused_result (a : AtomicActivator) {result : SnapshotApplyResult}
    (h : result.success = false) : Refused a (.ok result, a) :=
  ⟨fun _ heq => Except.ok.inj heq ▸ h, rfl, rfl⟩

section Apply

namespace Application

variable [Conversions] [FloatSum] (x : Application) (a : AtomicActivator)

theorem activateStaging_spec {soFar : SnapshotApplyResult} (hfailed : soFar.success = false)
    (staging : StagingStateStore) : Refused a (x.activateStaging soFar staging a) ∨
      Activates staging.namespaces x.canonicalStateHash (x.activateStaging soFar staging a) := by
  unfold activateStaging
  split
  · exact .inl (refused_error a _)
  · dsimp only
    split
    · exact .inl (refused_result a hfailed)
    · obtain ⟨state, stagingData, -, hprepare⟩ := a.prepare_cases staging x.canonicalStateHash
      have hsame : SameActive (a.prepare staging x.canonicalStateHash).2 a := by
        rw [hprepare]
        exact ⟨rfl, rfl⟩
      split
      · next heq =>
        rw [heq] at hsame
        exact .inl (refused_of_error _ hsame)
      · next heq =>
        rw [heq] at hsame
        exact .inl ⟨fun _ h => Except.ok.inj h ▸ hfailed, hsame⟩
      · next heq =>
        obtain ⟨hhash, rfl⟩ := prepare_eq_true heq
        obtain ⟨hsuccess, hactive, hdata⟩ :=
          activate_prepared a hhash x.activatedAt x.activationId
        exact .inr ⟨⟨_, rfl, hsuccess⟩, hactive, hdata, hhash⟩

variable [Runtime] [FloatReader] [Gzip] [FloatDivision]

/-- Chunks that a root proves, and the data they are restored to. -/
structure RestoredFrom (manifest : SnapshotManifest) (chunks : List SnapshotChunk)
    (data : Fields) : Prop where
  nonempty : chunks ≠ []
  verified : ∀ chunk ∈ chunks, verifyChunk chunk = true
  root : rootHash (chunks.map (·.chunkHash)) = .ok manifest.chunkRoot
  restored : ∃ restoration, restored manifest chunks = .ok (restoration, ⟨data⟩)

variable {chunks : List SnapshotChunk} {store : FileSnapshotChunkStore}

omit [Conversions] [FloatSum] [Runtime] [FloatReader] [Gzip] [FloatDivision] in
theorem verifyChunkRoot_eq_true {root : String} (hne : chunks ≠ [])
    (h : verifyChunkRoot chunks root = .ok true) :
    (∀ chunk ∈ chunks, verifyChunk chunk = true) ∧
      rootHash (chunks.map (·.chunkHash)) = .ok root := by
  unfold verifyChunkRoot at h
  rw [if_neg (by rwa [List.isEmpty_iff])] at h
  split at h
  · cases h
  · next hall =>
    obtain ⟨actual, hactual, hsame⟩ := bind_eq_ok.mp h
    refine ⟨fun chunk hmem => ?_, ?_⟩
    · by_contra hchunk
      exact hall (any_eq_true.mpr ⟨chunk, hmem, by simpa using hchunk⟩)
    · rw [hactual, beq_iff_eq.mp (pure_eq_ok.mp hsame)]

omit [Conversions] [FloatSum] [Runtime] [FloatReader] in
theorem chunkRoot_of_verifyComplete {manifest : SnapshotManifest} {hash : String}
    {result : VerificationResult} (h : verifyComplete manifest chunks hash = .ok result)
    (hvalid : result.valid = true) : verifyChunkRoot chunks manifest.chunkRoot = .ok true := by
  unfold verifyComplete at h
  split at h
  · cases h
  · next chunkRootOk hroot =>
    obtain ⟨contentHashOk, -, hresult⟩ := bind_eq_ok.mp h
    obtain rfl := pure_eq_ok.mp hresult
    simp only [Bool.and_eq_true] at hvalid
    rw [hroot, hvalid.1.1.2]

omit [Runtime] in
/-- Loaded chunks are refused, or the data they are restored to become active. -/
theorem applyChunks_spec (download : DownloadResult) (hne : chunks ≠ []) :
    Refused a (x.applyChunks download chunks a) ∨
      ∃ data, RestoredFrom x.manifest chunks data ∧
        Activates data x.canonicalStateHash (x.applyChunks download chunks a) := by
  unfold applyChunks
  split
  · exact .inl (refused_error a _)
  · next verification hverification =>
    dsimp only
    split
    · exact .inl (refused_result a rfl)
    · next hvalid =>
      have hroot := verifyChunkRoot_eq_true hne
        (chunkRoot_of_verifyComplete hverification (by simpa using hvalid))
      split
      · split
        · exact .inl (refused_result a rfl)
        · exact .inl (refused_error a _)
      · next restoration staging hrestored =>
        split
        · exact .inl (refused_result a rfl)
        · exact (x.activateStaging_spec a rfl staging).imp_right fun h =>
            ⟨staging.namespaces, ⟨hne, hroot.1, hroot.2, restoration, hrestored⟩, h⟩

omit [Conversions] [FloatSum] [Gzip] [FloatDivision] in
/-- The chunks of a session are loaded when there are some. -/
theorem ne_nil_of_loadVerifiedChunks {session : DownloadSession}
    (h : loadVerifiedChunks store session = .ok chunks) : chunks ≠ [] := by
  obtain ⟨hpos, -, -, -, h⟩ := loadVerifiedChunks_eq_ok.mp h
  obtain ⟨hlength, -⟩ := getElem?_of_mapM h
  rintro rfl
  rw [length_nil, length_range] at hlength
  exact absurd hpos (by omega)

/-- Every application is refused, or it activates data restored from chunks under the root. -/
theorem apply_spec (store : FileSnapshotChunkStore) :
    let outcome := x.apply a store
    Refused a (outcome.1, outcome.2.1) ∨ ∃ data chunks, RestoredFrom x.manifest chunks data ∧
      Activates data x.canonicalStateHash (outcome.1, outcome.2.1) := by
  unfold apply
  split
  · split
    · exact .inl (refused_result a rfl)
    · exact .inl (refused_error a _)
  · next result store' hfetched =>
    split
    · exact .inl (refused_result a rfl)
    · split
      · split
        · exact .inl (refused_result a rfl)
        · exact .inl (refused_error a _)
      · next chunks hchunks =>
        exact (x.applyChunks_spec a result (ne_nil_of_loadVerifiedChunks hchunks)).imp_right
          fun ⟨data, h⟩ => ⟨data, chunks, h⟩

/-- The activator and the store behind an application: the store is that of the download. -/
theorem store_of_apply (store : FileSnapshotChunkStore) :
    (x.apply a store).2.2 = (x.fetched store).2 := by
  unfold apply
  split
  · next heq =>
    rw [heq]
    split <;> rfl
  · next heq =>
    rw [heq]
    split
    · rfl
    · split
      · split <;> rfl
      · rfl

omit [Conversions] [FloatSum] [Gzip] [FloatDivision] in
/-- Every session an application gets is one of its manifest, proven by the store. -/
theorem fetched_proven (hfiled : store.Filed) :
    ∀ result, (x.fetched store).1 = .ok result →
      result.session.Proven (x.fetched store).2 x.manifest.snapshotId x.manifest.chunkCount := by
  unfold fetched
  cases x.session with
  | none => exact (download_proven x.answers hfiled).2
  | some session =>
    dsimp only
    split
    · intro result h
      cases h
    · next hbound =>
      have hsame := require_eq_ok.mp hbound
      simp only [Bool.and_eq_true, beq_iff_eq] at hsame
      rw [← hsame.1.1.1, ← hsame.2]
      exact (resume_proven x.answers hfiled).2

end Application

/-- The stores that come to be: verified chunks are put into an empty one, whatever the disk
does. -/
inductive Written : FileSnapshotChunkStore → Prop where
  | empty : Written {}
  | put {store : FileSnapshotChunkStore} {chunk : SnapshotChunk} (h : Written store)
    (verified : verifyChunk chunk = true) (faults : DiskFaults) :
    Written (store.put chunk faults).2

theorem Written.filed {store : FileSnapshotChunkStore} (h : Written store) : store.Filed := by
  induction h with
  | empty => exact filed_empty
  | put _ verified faults ih => exact ih.put verified faults

/-- Data are the only state with a hash: any other whose encoding SHA-256 tells apart from theirs
is the same state, missing namespaces read as empty objects. -/
def OnlyState [FloatReader] (data : Fields) (hash : String) : Prop :=
  ∀ other, (PyValue.dict other).Writable → computeContentHash other = .ok hash →
    CollisionFree [plainBytes (orderedState data), plainBytes (orderedState other)] →
    orderedState data = orderedState other

variable [Runtime] [FloatReader] [Conversions] [Gzip] [FloatDivision] [FloatSum]

namespace Application

omit [Runtime] [FloatSum] in
theorem RestoredFrom.onlyState (floats : ReadsFloats) {manifest : SnapshotManifest}
    {chunks : List SnapshotChunk} {data : Fields} (h : RestoredFrom manifest chunks data)
    {hash : String} (hhash : computeContentHash data = .ok hash) : OnlyState data hash := by
  obtain ⟨restoration, hrestored⟩ := h.restored
  obtain ⟨content, -, hrestore⟩ := bind_eq_ok.mp hrestored
  intro other hother hhash' free
  exact orderedState_of_hash (writable_restore floats (lifted_eq_ok.mp hrestore)) hother hhash
    hhash' free

omit [Conversions] [Gzip] [FloatDivision] [FloatSum] in
/-- A session that is bound to the manifest is resumed. -/
theorem fetched_of_bound {x : Application} {session : DownloadSession}
    {store : FileSnapshotChunkStore} (h : x.session = some session)
    (hbound : validateSessionManifest session x.manifest = .ok ()) :
    x.fetched store = resume x.maxRetryCount x.answers x.now session x.providers store := by
  rw [fetched, h]
  dsimp only
  rw [hbound]

/-- Snapshot application is fail-closed. It activates the only state with the trusted hash, restored
from chunks under the root of the manifest, or it is refused and the active state is as before; and
over a written store the bitmap of every session it gets is true only for chunks that are stored and
belong there. -/
theorem apply_failClosed (floats : ReadsFloats) (x : Application) (a : AtomicActivator)
    (store : FileSnapshotChunkStore) :
    (Refused a ((x.apply a store).1, (x.apply a store).2.1) ∨
      ∃ data chunks, RestoredFrom x.manifest chunks data ∧
        Activates data x.canonicalStateHash ((x.apply a store).1, (x.apply a store).2.1) ∧
        OnlyState data x.canonicalStateHash) ∧
    (Written store → ∀ result, (x.fetched store).1 = .ok result →
      result.session.Proven (x.apply a store).2.2 x.manifest.snapshotId x.manifest.chunkCount) := by
  constructor
  · exact (x.apply_spec a store).imp_right fun ⟨data, chunks, hrestored, hactive⟩ =>
      ⟨data, chunks, hrestored, hactive, hrestored.onlyState floats hactive.hashed⟩
  · intro written
    rw [store_of_apply]
    exact x.fetched_proven written.filed

end Application

end Apply

/-! ## A file that the store did not write -/

/-- Integers and no other numbers, texts and dictionaries. -/
@[reducible] def recordConversions : Conversions where
  str
    | .str text => text
    | _ => ""
  toFloat
    | .int n => .ok n
    | _ => raiseType "float() argument must be a string or a real number"
  toDict
    | .dict members => .ok members
    | _ => raiseType "object is not iterable"

@[reducible] def floatlessSum : FloatSum where
  add _ _ := .none
  total _ := .none

def pairChunk (index : Fin 2) : SnapshotChunk where
  snapshotId := "s"
  chunkIndex := index
  totalChunks := 2
  uncompressedSize := 0
  compressedSize := 0
  chunkHash := hexDigest []
  payload := []
  index_lt := index.isLt

def pairManifest : SnapshotManifest where
  snapshotId := "s"
  snapshotType := .fullState
  snapshotFormatVersion := 1
  networkId := "n"
  chainId := "c"
  networkRevision := 1
  protocolVersion := "1"
  applicationVersion := "1"
  stateSchemaVersion := 1
  blockHeight := 1
  blockHash := ""
  blockTime := ""
  epoch := 0
  applicationStateHash := "h"
  snapshotContentHash := ""
  snapshotContentSize := 1
  chunkCount := 2
  chunkSize := 1
  chunkRoot := "r"
  compression := .none
  encoding := .jsonDeterministic
  creationTime := ""
  producerServiceId := ""
  producerSignature := ""

/-- A store that has the first chunk in the file of the second. -/
def alteredStore : FileSnapshotChunkStore where
  files := Dict.empty.set [directoryName "s", fileName 1 []] (recordBytes (pairChunk 0))

/-- A session that names this file for the first chunk. A failure beyond the last chunk keeps the
root from being compared. -/
def alteredSession : DownloadSession where
  snapshotId := "s"
  manifestHash := pairManifest.manifestHash
  verifiedChunkBitmap := [true, false]
  pendingChunks := [1]
  failedChunks := [2]
  providersUsed := []
  temporaryFiles := []
  totalBytesDownloaded := 0
  startedAt := ""
  lastActivity := ""
  chunkHashes := [some (hexDigest []), none]
  chunkStorageKeys := [some (keyFor (pairChunk 1)), none]
  expectedChunkRoot := "r"

def alteredApplication : Application where
  maxRetryCount := 0
  answers := {
    inventory := fun _ => [1]
    available := fun _ _ => true
    chunk := fun _ _ _ => some (pairChunk 1)
    faults := fun _ _ _ => {} }
  now := ""
  activatedAt := ""
  activationId := ""
  manifest := pairManifest
  providers := ["p"]
  canonicalStateHash := "h"
  session := some alteredSession

/-- The second chunk replaces the first, and the session that is returned has it under both
indices. -/
theorem altered_store_unproven :
    letI := recordRuntime
    letI := floatlessReader
    letI := recordConversions
    letI := framedStreams
    letI := exactDivision
    letI := floatlessSum
    ∃ result, (alteredApplication.fetched alteredStore).1 = .ok result ∧
      result.session.verifiedChunkBitmap = [true, true] ∧
      result.session.chunkStorageKeys[0]? = some (some (keyFor (pairChunk 1))) ∧
      (alteredApplication.apply {} alteredStore).2.2.get (keyFor (pairChunk 1)) =
        .ok (some (pairChunk 1)) ∧
      (pairChunk 1).chunkIndex = 1 ∧
      ¬ result.session.Proven (alteredApplication.apply {} alteredStore).2.2 "s" 2 := by
  let _ := recordRuntime
  let _ := floatlessReader
  let _ := recordConversions
  let _ := framedStreams
  let _ := exactDivision
  let _ := floatlessSum
  have hverified : ∀ i, verifyChunk (pairChunk i) = true := fun _ => beq_self_eq_true _
  have hpath := pathFor_keyFor (hverified 1)
  have hfirst : alteredStore.get (keyFor (pairChunk 1)) = .ok (some (pairChunk 0)) :=
    get_eq hpath (Dict.get?_set_self _ _ _) rfl
  obtain ⟨after, hput⟩ : ∃ after,
      alteredStore.put (pairChunk 1) {} = (.ok (keyFor (pairChunk 1)), after) := by
    refine ⟨⟨alteredStore.files.set [directoryName "s", fileName 1 []]
      (recordBytes (pairChunk 1))⟩, ?_⟩
    rw [FileSnapshotChunkStore.put, hpath]
    rfl
  have hsecond : after.get (keyFor (pairChunk 1)) = .ok (some (pairChunk 1)) := get_put hput
  let kept : Slot := ⟨hexDigest [], keyFor (pairChunk 1)⟩
  have hmatches : chunkMatches "s" 2 0 (pairChunk 0) = true :=
    chunkMatches_iff.mpr ⟨rfl, rfl, rfl, rfl, hverified 0⟩
  have hmatches' : chunkMatches "s" 2 1 (pairChunk 1) = true :=
    chunkMatches_iff.mpr ⟨rfl, rfl, rfl, rfl, hverified 1⟩
  have hkept : keptSlots alteredStore alteredSession = .ok [some kept, none] := by
    have hvalid : storedChunkIsValid alteredStore (some (keyFor (pairChunk 1)))
        (some (hexDigest [])) "s" 0 2 = .ok true := by
      rw [storedChunkIsValid, hfirst]
      show Except.ok (chunkMatches "s" 2 0 (pairChunk 0) && hexDigest [] == hexDigest []) = _
      rw [hmatches, beq_self_eq_true, Bool.and_self]
    have hslot : keptSlot alteredStore alteredSession 0 = .ok (some kept) :=
      (if_pos rfl).trans (bind_eq_ok.mpr ⟨true, hvalid, rfl⟩)
    show [0, 1].mapM (keptSlot alteredStore alteredSession) = _
    rw [mapM_cons, hslot]
    rfl
  have htransfer : transfer alteredApplication.answers (chunkMatches "s" 2) 0
      (plan 2 ["p"] alteredApplication.answers.inventory) [1] ⟨[some kept, none], [2], 0⟩
      alteredStore = (.ok ⟨[some kept, some kept], [2], 0⟩, after) := by
    have hfetch : fetch alteredApplication.answers (chunkMatches "s" 2 1) 0 1 ["p"] alteredStore =
        (.ok (some (pairChunk 1, keyFor (pairChunk 1))), after) := by
      have hattempts : attempts alteredApplication.answers (chunkMatches "s" 2 1) "p" 1 1 0
          alteredStore = (.ok (some (pairChunk 1, keyFor (pairChunk 1))), after) := by
        rw [attempts]
        dsimp only [alteredApplication]
        rw [if_pos hmatches', hput]
      rw [fetch, hattempts]
      rfl
    have hplan : (plan 2 ["p"] alteredApplication.answers.inventory)[1]?.getD [] = ["p"] := by
      decide
    rw [transfer, hplan, hfetch]
    rfl
  have hfetched : alteredApplication.fetched alteredStore = (.ok (DownloadResult.of
      (alteredSession.updated ⟨[some kept, some kept], [2], 0⟩ ["p"] "") false), after) := by
    have hbound : Application.validateSessionManifest alteredSession
        alteredApplication.manifest = .ok () := by
      have hhash : (alteredSession.manifestHash == alteredApplication.manifest.manifestHash) =
          true := beq_self_eq_true _
      rw [Application.validateSessionManifest, hhash]
      rfl
    have hpending : Progress.pending ⟨[some kept, none], [2], 0⟩ = [1] := rfl
    have hresume : resume 0 alteredApplication.answers "" alteredSession ["p"] alteredStore =
        (.ok (DownloadResult.of (alteredSession.updated ⟨[some kept, some kept], [2], 0⟩ ["p"] "")
          false), after) := by
      unfold resume
      dsimp only [alteredSession, length_cons, length_nil] at hkept ⊢
      rw [if_neg (by decide), hkept]
      dsimp only
      rw [hpending, if_neg (by decide), htransfer]
      rfl
    have hsession : alteredApplication.session = some alteredSession := rfl
    rw [Application.fetched_of_bound hsession hbound]
    exact hresume
  rw [Application.store_of_apply, hfetched]
  refine ⟨_, rfl, rfl, rfl, hsecond, rfl, ?_⟩
  intro hproven
  obtain ⟨key, chunk, hkey, hget, hmatches⟩ := hproven.stored 0 rfl
  cases hkey
  cases hsecond.symm.trans hget
  cases (chunkMatches_iff.mp hmatches).2.1

end AidnSpec.Snapshot
