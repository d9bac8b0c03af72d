import AidnSpec.Snapshot.DownloadRounds

/-!
# Downloads and the resumptions behind them

A round whose chunks have the root of the manifest ends the download. One whose chunks have another
root is discarded as a whole and leaves nothing behind for the next, so what a provider sends first
is taken again every time.
-/

namespace AidnSpec.Snapshot

open Base FileSnapshotChunkStore List

/-! ## Complete sets of chunks -/

def fullProgress (chunks : List SnapshotChunk) (bytes : Int) : Progress where
  slots := chunks.map fun chunk => some (slotOf chunk)
  failed := []
  totalBytes := bytes

/-- The progress behind a set that was discarded. -/
def blankProgress (total : ℕ) (bytes : Int) : Progress where
  slots := List.replicate total none
  failed := (List.range total).map Int.ofNat
  totalBytes := bytes

theorem bitmap_fullProgress (chunks : List SnapshotChunk) (bytes : Int) :
    (fullProgress chunks bytes).bitmap = chunks.map fun _ => true := by
  rw [Progress.bitmap, fullProgress, map_map]
  rfl

theorem chunkHashes_fullProgress (chunks : List SnapshotChunk) (bytes : Int) :
    (fullProgress chunks bytes).chunkHashes = chunks.map fun chunk => some chunk.chunkHash := by
  rw [Progress.chunkHashes, fullProgress, map_map]
  rfl

theorem chunkStorageKeys_fullProgress (chunks : List SnapshotChunk) (bytes : Int) :
    (fullProgress chunks bytes).chunkStorageKeys = chunks.map fun chunk => some (keyFor chunk) := by
  rw [Progress.chunkStorageKeys, fullProgress, map_map]
  rfl

theorem pending_fullProgress (chunks : List SnapshotChunk) (bytes : Int) :
    (fullProgress chunks bytes).pending = [] := by
  rw [Progress.pending, bitmap_fullProgress, filter_eq_nil_iff]
  intro i _
  rw [getElem?_map]
  cases chunks[i]? <;> simp

theorem pending_blankProgress (total : ℕ) (failed : List Int) (bytes : Int) :
    Progress.pending ⟨List.replicate total none, failed, bytes⟩ = List.range total := by
  rw [Progress.pending, length_replicate, filter_eq_self]
  intro i hi
  simp [Progress.bitmap, mem_range.mp hi]

variable {chunk : SnapshotChunk} {chunks : List SnapshotChunk} {root actual provider : String}
  {providers : List String} {answers : Answers}

theorem chunkHash_of_verifyChunk (h : verifyChunk chunk = true) :
    chunk.chunkHash = hexDigest chunk.payload := beq_iff_eq.mp h

section

variable (verified : ∀ chunk ∈ chunks, verifyChunk chunk = true)

include verified

theorem map_chunkHash : chunks.map (·.chunkHash) = (chunks.map (·.payload)).map hexDigest := by
  rw [map_map]
  exact map_congr_left fun chunk hmem => chunkHash_of_verifyChunk (verified chunk hmem)

/-- A complete set is compared with the root of its hashes. -/
theorem verifiedRoot_full (hroot : root.isEmpty = false)
    (h : rootHash (chunks.map (·.chunkHash)) = .ok actual) :
    verifiedRoot (chunks.map fun _ => true) (chunks.map fun chunk => some chunk.chunkHash) root =
      .ok (actual == root) := by
  have hhashes : ((chunks.map fun chunk => some chunk.chunkHash).filterMap id).filter
      (!·.isEmpty) = chunks.map (·.chunkHash) := by
    rw [filterMap_map, filter_eq_self.mpr]
    · simp
    · intro hash hmem
      obtain ⟨chunk, hchunk, heq⟩ := mem_filterMap.mp hmem
      cases heq
      rw [chunkHash_of_verifyChunk (verified chunk hchunk), Bool.not_eq_true',
        ← Bool.not_eq_true, String.isEmpty_iff]
      intro hempty
      have hlist := congrArg String.toList hempty
      rw [hexDigest, hexEncode, String.toList_ofList] at hlist
      exact hexChars_sha256_ne_nil _ hlist
  have hall : (chunks.map fun _ => true).all id = true := by simp
  have hnone : (chunks.map fun chunk => some chunk.chunkHash).any (·.isNone) = false := by simp
  unfold verifiedRoot
  rw [hroot, hall, hnone, hhashes, h]
  simp

/-- A complete set with the root stays, another is discarded. -/
theorem settle_full (hroot : root.isEmpty = false)
    (h : rootHash (chunks.map (·.chunkHash)) = .ok actual)
    (bytes : Int) : (fullProgress chunks bytes).settle root =
      .ok (if actual = root then fullProgress chunks bytes
        else blankProgress chunks.length bytes) := by
  have hlength : (fullProgress chunks bytes).slots.length = chunks.length := length_map _
  have hfailed : (fullProgress chunks bytes).failed = [] := rfl
  rw [Progress.settle, if_pos hfailed, bitmap_fullProgress, chunkHashes_fullProgress,
    verifiedRoot_full verified hroot h]
  by_cases hsame : actual = root
  · rw [if_pos hsame, beq_iff_eq.mpr hsame]
    rfl
  · rw [if_neg hsame, beq_eq_false_iff_ne.mpr hsame, hlength]
    rfl

end

/-- The chunks that a round takes. -/
def takenChunks (taken : ℕ → SnapshotChunk) (total : ℕ) : List SnapshotChunk :=
  (List.range total).map taken

theorem recordAll_range (taken : ℕ → SnapshotChunk) (total : ℕ) {failed : List Int}
    (hfailed : ∀ i ∈ failed, i ∈ (List.range total).map Int.ofNat) (bytes : Int) :
    ∃ bytes', recordAll taken ⟨List.replicate total none, failed, bytes⟩ (List.range total) =
      fullProgress (takenChunks taken total) bytes' := by
  have hslots : (recordAll taken ⟨List.replicate total none, failed, bytes⟩
      (List.range total)).slots =
        (takenChunks taken total).map fun chunk => some (slotOf chunk) := by
    apply ext_getElem?
    intro i
    rw [slots_recordAll, length_replicate, takenChunks, map_map, getElem?_map]
    by_cases hi : i < total
    · rw [if_pos ⟨mem_range.mpr hi, hi⟩, getElem?_range hi]
      rfl
    · rw [if_neg fun h => hi h.2, getElem?_eq_none (by rw [length_replicate]; omega),
        getElem?_eq_none (by rw [length_range]; omega)]
      rfl
  have hnone : (recordAll taken ⟨List.replicate total none, failed, bytes⟩
      (List.range total)).failed = [] := by
    rw [failed_recordAll, filter_eq_nil_iff]
    intro i hi
    rw [decide_eq_true_eq, not_not]
    exact hfailed i hi
  refine ⟨(recordAll taken ⟨List.replicate total none, failed, bytes⟩
    (List.range total)).totalBytes, ?_⟩
  rw [fullProgress, ← hslots, ← hnone]

/-! ## Sessions between rounds -/

/-- A session of a snapshot that holds no chunk. -/
structure DownloadSession.Blank (m : SnapshotManifest) (s : DownloadSession) : Prop where
  sameSnapshot : s.snapshotId = m.snapshotId
  sameRoot : s.expectedChunkRoot = m.chunkRoot
  bitmap : s.verifiedChunkBitmap = List.replicate m.chunkCount false
  hashes : s.chunkHashes = List.replicate m.chunkCount none
  keys : s.chunkStorageKeys = List.replicate m.chunkCount none
  failed : s.failedChunks = (List.range m.chunkCount).map Int.ofNat

/-- A session of a snapshot that holds a complete set of chunks. -/
structure DownloadSession.Full (m : SnapshotManifest) (chunks : List SnapshotChunk)
    (s : DownloadSession) : Prop where
  sameSnapshot : s.snapshotId = m.snapshotId
  sameRoot : s.expectedChunkRoot = m.chunkRoot
  bitmap : s.verifiedChunkBitmap = chunks.map fun _ => true
  hashes : s.chunkHashes = chunks.map fun chunk => some chunk.chunkHash
  keys : s.chunkStorageKeys = chunks.map fun chunk => some (keyFor chunk)
  failed : s.failedChunks = []

section Stored

variable [Runtime] [FloatReader]

/-- A complete set of chunks of a snapshot, all of them stored. -/
structure Complete (m : SnapshotManifest) (chunks : List SnapshotChunk)
    (store : FileSnapshotChunkStore) : Prop where
  count : chunks.length = m.chunkCount
  matching : ∀ i chunk, chunks[i]? = some chunk →
    chunkMatches m.snapshotId m.chunkCount i chunk = true
  stored : ∀ chunk ∈ chunks, store.get (keyFor chunk) = .ok (some chunk)

omit [Runtime] [FloatReader] in
/-- A pass over the indices of a list that gives every item returns the list. -/
theorem mapM_range_eq_ok {ε α : Type} {f : ℕ → Except ε α} {xs : List α}
    (h : ∀ i x, xs[i]? = some x → f i = .ok x) : (List.range xs.length).mapM f = .ok xs := by
  cases xs with
  | nil => rfl
  | cons first rest =>
    have hpass := @mapM_map_ok ℕ ε ℕ α f id (fun i => (first :: rest)[i]?.getD first)
      (List.range (first :: rest).length) fun i hi => by
        have hlt := mem_range.mp hi
        rw [getElem?_eq_getElem hlt, Option.getD_some]
        exact h i _ (getElem?_eq_getElem hlt)
    rw [map_id] at hpass
    rw [hpass]
    refine congrArg Except.ok (ext_getElem? fun i => ?_)
    rw [getElem?_map]
    by_cases hi : i < (first :: rest).length
    · rw [getElem?_range hi, Option.map_some, getElem?_eq_getElem hi, Option.getD_some]
    · rw [getElem?_eq_none (by rw [length_range]; omega),
        getElem?_eq_none (Nat.le_of_not_lt hi), Option.map_none]

/-- Nothing of a blank session is kept. -/
theorem DownloadSession.Blank.keptSlots {m : SnapshotManifest} {s : DownloadSession}
    (h : s.Blank m) (store : FileSnapshotChunkStore) :
    keptSlots store s = .ok (List.replicate m.chunkCount none) := by
  have hlength : s.verifiedChunkBitmap.length = m.chunkCount := by
    rw [h.bitmap, length_replicate]
  unfold Snapshot.keptSlots
  dsimp only
  rw [hlength, h.hashes, h.keys, length_replicate, if_neg (by simp)]
  have hpass := @mapM_range_eq_ok _ _ (keptSlot store s) (List.replicate m.chunkCount none)
    fun i slot hslot => by
      rw [keptSlot, h.bitmap, if_neg]
      · rw [eq_of_mem_replicate (mem_of_getElem? hslot)]
      · rw [getElem?_replicate]
        split <;> simp
  rwa [length_replicate] at hpass

variable {m : SnapshotManifest} {chunks : List SnapshotChunk} {store : FileSnapshotChunkStore}
  {s : DownloadSession}

omit [Runtime] [FloatReader] in
theorem Complete.verified [Runtime] [FloatReader] (h : Complete m chunks store) :
    ∀ chunk ∈ chunks, verifyChunk chunk = true := by
  intro chunk hmem
  obtain ⟨i, hi⟩ := getElem?_of_mem hmem
  exact (chunkMatches_iff.mp (h.matching i chunk hi)).2.2.2.2

/-- The chunks of a full session are found in the store. -/
theorem Complete.storedChunkIsValid (h : Complete m chunks store) (hs : s.Full m chunks) {i : ℕ}
    {chunk : SnapshotChunk} (hi : chunks[i]? = some chunk) :
    storedChunkIsValid store s.chunkStorageKeys[i]?.join s.chunkHashes[i]?.join s.snapshotId i
      s.verifiedChunkBitmap.length = .ok true := by
  have hmatches := h.matching i chunk hi
  rw [hs.keys, hs.hashes, hs.bitmap, hs.sameSnapshot, getElem?_map, getElem?_map, hi,
    length_map, h.count]
  simp only [Option.map_some, Option.join_some, Snapshot.storedChunkIsValid,
    h.stored chunk (mem_of_getElem? hi)]
  simp only [bind, Except.bind, pure, Except.pure, Option.any_some, hmatches, beq_self_eq_true,
    Bool.and_self]

/-- Everything of a full session is kept. -/
theorem Complete.keptSlots (h : Complete m chunks store) (hs : s.Full m chunks) :
    keptSlots store s = .ok (chunks.map fun chunk => some (slotOf chunk)) := by
  have hlength : s.verifiedChunkBitmap.length = chunks.length := by
    rw [hs.bitmap, length_map]
  unfold Snapshot.keptSlots
  dsimp only
  rw [hlength, if_neg (by rw [hs.hashes, hs.keys, length_map, length_map]; simp)]
  have hpass := @mapM_range_eq_ok _ _ (keptSlot store s)
    (chunks.map fun chunk => some (slotOf chunk)) fun i slot hi => by
      rw [getElem?_map, Option.map_eq_some_iff] at hi
      obtain ⟨chunk, hchunk, rfl⟩ := hi
      have hbit : s.verifiedChunkBitmap[i]? = some true := by
        rw [hs.bitmap, getElem?_map, hchunk]
        rfl
      have hslot : s.slot i = some (slotOf chunk) := by
        rw [DownloadSession.slot, hs.keys, hs.hashes, getElem?_map, getElem?_map, hchunk]
        rfl
      rw [keptSlot, if_pos hbit, h.storedChunkIsValid hs hchunk, ← hslot]
      rfl
  rwa [length_map] at hpass

/-- A full session is returned as it is. -/
theorem Complete.resume (h : Complete m chunks store) (hs : s.Full m chunks)
    (hpos : 0 < m.chunkCount) (maxRetryCount : ℕ) (answers : Answers) (now : String)
    (providers : List String) :
    resume maxRetryCount answers now s providers store =
      (.ok (DownloadResult.of s true), store) := by
  have hlength : s.verifiedChunkBitmap.length = m.chunkCount := by
    rw [hs.bitmap, length_map, h.count]
  unfold Snapshot.resume
  dsimp only
  rw [hlength, if_neg (by omega), h.keptSlots hs]
  dsimp only
  have hpending := pending_fullProgress chunks s.totalBytesDownloaded
  rw [fullProgress] at hpending
  rw [hs.failed, if_pos hpending]
  rfl

/-- The chunks of a full session are loaded. -/
theorem Complete.load (h : Complete m chunks store) (hs : s.Full m chunks)
    (hpos : 0 < m.chunkCount) (hroot : m.chunkRoot.isEmpty = false)
    (hsame : rootHash (chunks.map (·.chunkHash)) = .ok m.chunkRoot) :
    loadVerifiedChunks store s = .ok chunks := by
  have hlength : s.verifiedChunkBitmap.length = chunks.length := by
    rw [hs.bitmap, length_map]
  refine loadVerifiedChunks_eq_ok.mpr ⟨by rw [hlength, h.count]; exact hpos,
    by rw [hlength, hs.hashes, length_map], by rw [hlength, hs.keys, length_map], ?_, ?_⟩
  · rw [hs.bitmap, hs.hashes, hs.sameRoot, verifiedRoot_full h.verified hroot hsame,
      beq_self_eq_true]
  · rw [hlength]
    refine mapM_range_eq_ok fun i chunk hi => ?_
    have hkey : s.chunkStorageKeys[i]?.join = some (keyFor chunk) := by
      rw [hs.keys, getElem?_map, hi]
      rfl
    have hvalid := h.storedChunkIsValid hs hi
    rw [hkey] at hvalid
    have hget := h.stored chunk (mem_of_getElem? hi)
    simp only [loadChunk, bind_eq_ok, require_eq_ok, hkey]
    exact ⟨true, hvalid, (), rfl, some chunk, hget, rfl⟩

/-! ## The end of a round -/

/-- How a round ends whose chunks have a root: with all of them, or with none when the root is not
that of the manifest. -/
def Ends (m : SnapshotManifest) (chunks : List SnapshotChunk) (actual : String)
    (outcome : Except SnapshotError DownloadResult) : Prop :=
  ∃ result, outcome = .ok result ∧ if actual = m.chunkRoot then
    result.success = true ∧ result.session.Full m chunks
  else result.success = false ∧ result.session.Blank m

variable {actual : String}

omit [Runtime] [FloatReader] in
/-- A session with the progress of a settled round. -/
theorem ends_of_settled {p : Progress} {bytes : Int}
    (hp : p = if actual = m.chunkRoot then fullProgress chunks bytes else blankProgress
      m.chunkCount bytes)
    (hpos : 0 < m.chunkCount) {success : Bool} (hsuccess : success = decide (p.failed = []))
    (hid : s.snapshotId = m.snapshotId) (hroot : s.expectedChunkRoot = m.chunkRoot)
    (hbitmap : s.verifiedChunkBitmap = p.bitmap) (hhashes : s.chunkHashes = p.chunkHashes)
    (hkeys : s.chunkStorageKeys = p.chunkStorageKeys) (hfailed : s.failedChunks = p.failed) :
    Ends m chunks actual (.ok (DownloadResult.of s success)) := by
  refine ⟨_, rfl, ?_⟩
  by_cases hsame : actual = m.chunkRoot
  · rw [if_pos hsame] at hp ⊢
    subst hp
    exact ⟨hsuccess, hid, hroot, hbitmap.trans (bitmap_fullProgress _ _),
      hhashes.trans (chunkHashes_fullProgress _ _), hkeys.trans (chunkStorageKeys_fullProgress _ _),
      hfailed⟩
  · rw [if_neg hsame] at hp ⊢
    subst hp
    have hne : (blankProgress m.chunkCount bytes).failed ≠ [] := by
      intro hnil
      have hlength := congrArg List.length hnil
      rw [blankProgress, length_map, length_range] at hlength
      exact absurd hlength (by simp; omega)
    refine ⟨hsuccess.trans (decide_eq_false hne), hid, hroot, hbitmap.trans ?_, hhashes.trans ?_,
      hkeys.trans ?_, hfailed⟩
    · exact map_replicate
    · exact map_replicate
    · exact map_replicate

variable {answers : Answers} {maxRetryCount : ℕ} {providers : List String}
  {taken : ℕ → SnapshotChunk}

variable (h : Takes answers maxRetryCount m.snapshotId m.chunkCount providers taken)

include h

/-- What a round takes is stored. -/
theorem Takes.complete (hstorable : ∀ i < m.chunkCount, storable (taken i) = true) :
    Complete m (takenChunks taken m.chunkCount)
      (placeAll taken store (List.range m.chunkCount)) where
  count := by rw [takenChunks, length_map, length_range]
  matching := by
    intro i chunk hchunk
    rw [takenChunks, getElem?_map, Option.map_eq_some_iff] at hchunk
    obtain ⟨j, hj, rfl⟩ := hchunk
    obtain ⟨hi, rfl⟩ := List.getElem?_eq_some_iff.mp hj
    rw [getElem_range]
    exact h.chunkMatches (by rwa [length_range] at hi)
  stored := by
    intro chunk hchunk
    obtain ⟨i, hi, rfl⟩ := mem_map.mp hchunk
    have hlt := mem_range.mp hi
    have hindex : ∀ j ∈ List.range m.chunkCount, (taken j).chunkIndex = j := fun j hj =>
      (chunkMatches_iff.mp (h.chunkMatches (mem_range.mp hj))).2.1
    have hverified := (chunkMatches_iff.mp (h.chunkMatches hlt)).2.2.2.2
    exact get_eq (pathFor_keyFor hverified)
      (get?_placeAll store hindex (hindex i hi) (.inl hi)) (hstorable i hlt)

section

omit [Runtime] [FloatReader]

theorem Takes.verified : ∀ chunk ∈ takenChunks taken m.chunkCount, verifyChunk chunk = true := by
  intro chunk hchunk
  obtain ⟨i, hi, rfl⟩ := mem_map.mp hchunk
  exact (chunkMatches_iff.mp (h.chunkMatches (mem_range.mp hi))).2.2.2.2

theorem Takes.settle_eq (hroot : m.chunkRoot.isEmpty = false)
    (hactual : rootHash ((takenChunks taken m.chunkCount).map (·.chunkHash)) = .ok actual)
    (failed : List Int) (hfailed : ∀ i ∈ failed, i ∈ (List.range m.chunkCount).map Int.ofNat)
    (bytes : Int) : ∃ bytes', (recordAll taken ⟨List.replicate m.chunkCount none, failed, bytes⟩
      (List.range m.chunkCount)).settle m.chunkRoot =
        .ok (if actual = m.chunkRoot then fullProgress (takenChunks taken m.chunkCount) bytes'
          else blankProgress m.chunkCount bytes') := by
  obtain ⟨bytes', hrecord⟩ := recordAll_range taken m.chunkCount hfailed bytes
  have hlength : (takenChunks taken m.chunkCount).length = m.chunkCount := by
    rw [takenChunks, length_map, length_range]
  refine ⟨bytes', ?_⟩
  rw [hrecord, settle_full h.verified hroot hactual, hlength]

/-- The first round. -/
theorem Takes.ends_download
    (hpos : 0 < m.chunkCount) (hstorable : ∀ i < m.chunkCount, storable (taken i) = true)
    (hroot : m.chunkRoot.isEmpty = false)
    (hactual : rootHash ((takenChunks taken m.chunkCount).map (·.chunkHash)) = .ok actual)
    (now : String) (store : FileSnapshotChunkStore) :
    Ends m (takenChunks taken m.chunkCount) actual
      (download maxRetryCount answers now m.snapshotId m providers store).1 ∧
      (download maxRetryCount answers now m.snapshotId m providers store).2 =
        placeAll taken store (List.range m.chunkCount) := by
  obtain ⟨bytes', hsettle⟩ := h.settle_eq hroot hactual [] (fun i hi => by cases hi) 0
  unfold download
  rw [if_neg (not_not.mpr rfl), if_neg (by omega)]
  dsimp only
  rw [h.transfer_eq fun i hi => ⟨mem_range.mp hi, hstorable i (mem_range.mp hi)⟩]
  dsimp only
  rw [hsettle]
  exact ⟨ends_of_settled rfl hpos rfl rfl rfl rfl rfl rfl rfl, rfl⟩

end

/-- A round behind one that was discarded. -/
theorem Takes.ends_resume (hs : s.Blank m)
    (hpos : 0 < m.chunkCount) (hstorable : ∀ i < m.chunkCount, storable (taken i) = true)
    (hroot : m.chunkRoot.isEmpty = false)
    (hactual : rootHash ((takenChunks taken m.chunkCount).map (·.chunkHash)) = .ok actual)
    (now : String) (store : FileSnapshotChunkStore) :
    Ends m (takenChunks taken m.chunkCount) actual
      (resume maxRetryCount answers now s providers store).1 ∧
      (resume maxRetryCount answers now s providers store).2 =
        placeAll taken store (List.range m.chunkCount) := by
  have hlength : s.verifiedChunkBitmap.length = m.chunkCount := by
    rw [hs.bitmap, length_replicate]
  obtain ⟨bytes', hsettle⟩ := h.settle_eq hroot hactual s.failedChunks
    (fun i hi => hs.failed ▸ hi) s.totalBytesDownloaded
  have hpending := pending_blankProgress m.chunkCount s.failedChunks s.totalBytesDownloaded
  have hrange : List.range m.chunkCount ≠ [] := range_ne_nil.mpr hpos.ne'
  unfold resume
  dsimp only
  rw [hlength, if_neg (by omega), hs.keptSlots]
  dsimp only
  rw [hpending, if_neg hrange, hs.sameSnapshot, hs.sameRoot,
    h.transfer_eq fun i hi => ⟨mem_range.mp hi, hstorable i (mem_range.mp hi)⟩]
  dsimp only
  rw [hsettle]
  refine ⟨ends_of_settled rfl hpos ?_ hs.sameSnapshot hs.sameRoot rfl rfl rfl rfl, rfl⟩
  -- nothing is pending when nothing has failed
  by_cases hsame : actual = m.chunkRoot
  · simp only [if_pos hsame, pending_fullProgress, and_true]
  · simp only [if_neg hsame, blankProgress, map_eq_nil_iff, hrange, false_and]

omit [Runtime] [FloatReader] in
/-- A first round that takes a chunk that cannot be stored raises. -/
theorem Takes.download_error
    (hpos : 0 < m.chunkCount) (hbad : ∃ i < m.chunkCount, storable (taken i) = false)
    (now : String) (store : FileSnapshotChunkStore) :
    ∃ e store', download maxRetryCount answers now m.snapshotId m providers store =
      (.error e, store') := by
  obtain ⟨i, hi, hfalse⟩ := hbad
  obtain ⟨e, store', herror⟩ := h.transfer_error (fun i hi => mem_range.mp hi)
    ⟨i, mem_range.mpr hi, hfalse⟩ ⟨List.replicate m.chunkCount none, [], 0⟩ store
  refine ⟨e, store', ?_⟩
  unfold download
  rw [if_neg (not_not.mpr rfl), if_neg (by omega)]
  dsimp only
  rw [herror]

/-- So does a later round. -/
theorem Takes.resume_error (hs : s.Blank m) (hpos : 0 < m.chunkCount)
    (hbad : ∃ i < m.chunkCount, storable (taken i) = false)
    (now : String) (store : FileSnapshotChunkStore) :
    ∃ e store', resume maxRetryCount answers now s providers store = (.error e, store') := by
  have hlength : s.verifiedChunkBitmap.length = m.chunkCount := by
    rw [hs.bitmap, length_replicate]
  obtain ⟨i, hi, hfalse⟩ := hbad
  obtain ⟨e, store', herror⟩ := h.transfer_error (fun i hi => mem_range.mp hi)
    ⟨i, mem_range.mpr hi, hfalse⟩
    ⟨List.replicate m.chunkCount none, s.failedChunks, s.totalBytesDownloaded⟩ store
  have hpending := pending_blankProgress m.chunkCount s.failedChunks s.totalBytesDownloaded
  have hrange : List.range m.chunkCount ≠ [] := range_ne_nil.mpr hpos.ne'
  refine ⟨e, store', ?_⟩
  unfold resume
  dsimp only
  rw [hlength, if_neg (by omega), hs.keptSlots]
  dsimp only
  rw [hpending, if_neg hrange, hs.sameSnapshot, herror]

end Stored

/-! ## An honest provider -/

/-- The provider lists all chunks, is available for each and serves it whenever it is asked. -/
structure Answers.Honest (answers : Answers) (chunks : List SnapshotChunk) (provider : String) :
    Prop where
  listed : ∀ i < chunks.length, (i : Int) ∈ answers.inventory provider
  available : ∀ i < chunks.length, answers.available provider i = true
  serves : ∀ i chunk attempt, chunks[i]? = some chunk →
    answers.chunk provider i attempt = some chunk

theorem mem_assigned {candidates : List String} (turn : ℕ) (h : provider ∈ candidates) :
    provider ∈ assigned providers candidates turn := by
  have hfold : ∀ (cs known : List String), provider ∈ known ∨ provider ∈ cs →
      provider ∈ cs.foldl (fun known c => if c ∈ known then known else known ++ [c]) known := by
    intro cs
    induction cs with
    | nil => exact fun known h => h.resolve_right not_mem_nil
    | cons c cs ih =>
      intro known h
      refine ih _ ?_
      dsimp only
      rcases h with h | h
      · left
        split
        · exact h
        · exact mem_append_left _ h
      · rcases mem_cons.mp h with rfl | h
        · left
          split
          · assumption
          · exact mem_append_right _ mem_cons_self
        · exact .inr h
  cases candidates with
  | nil => cases h
  | cons first rest => exact hfold (first :: rest) _ (.inr h)

/-- Every provider that lists a chunk stands in the plan for it. -/
theorem mem_plan {total : ℕ} {inventory : String → List Int} (hmem : provider ∈ providers) {i : ℕ}
    (hi : i < total) (hlisted : (i : Int) ∈ inventory provider) :
    provider ∈ (plan total providers inventory)[i]?.getD [] := by
  have hfrom : ∀ (count index turn k : ℕ), k < count →
      ((index + k : ℕ) : Int) ∈ inventory provider →
      provider ∈ (planFrom providers inventory count index turn)[k]?.getD [] := by
    intro count
    induction count with
    | zero => exact fun index turn k hk => absurd hk (Nat.not_lt_zero k)
    | succ count ih =>
      intro index turn k hk hlisted
      rw [planFrom]
      cases k with
      | zero =>
        refine mem_assigned turn (mem_filter.mpr ⟨hmem, ?_⟩)
        exact contains_iff_mem.mpr hlisted
      | succ k =>
        rw [getElem?_cons_succ]
        exact ih (index + 1) _ k (by omega) (by rwa [show index + 1 + k = index + (k + 1) by omega])
  exact hfrom total 0 0 i hi (by rwa [Nat.zero_add])

/-- A chunk of an honest provider is taken, or one before it. -/
theorem exists_firstAnswer {accepts : SnapshotChunk → Bool} {maxRetryCount index : ℕ}
    (hmem : provider ∈ providers) (havailable : answers.available provider index = true)
    (hserves : answers.chunk provider index 0 = some chunk) (haccepts : accepts chunk = true) :
    ∃ found, firstAnswer answers accepts maxRetryCount index providers = some found := by
  induction providers with
  | nil => cases hmem
  | cons first rest ih =>
    rw [firstAnswer]
    split
    · exact ⟨_, rfl⟩
    · next hnone =>
      rcases mem_cons.mp hmem with rfl | hmem
      · rw [if_pos havailable, firstAccepted, hserves, Option.filter_some, if_pos haccepts] at hnone
        cases hnone
      · exact ih hmem

structure Genuine (m : SnapshotManifest) (chunks : List SnapshotChunk) : Prop where
  count : chunks.length = m.chunkCount
  nonempty : chunks ≠ []
  matching : ∀ i chunk, chunks[i]? = some chunk →
    chunkMatches m.snapshotId m.chunkCount i chunk = true
  storable : ∀ chunk ∈ chunks, storable chunk = true
  root : rootHash (chunks.map (·.chunkHash)) = .ok m.chunkRoot

variable {m : SnapshotManifest} {chunks : List SnapshotChunk}

theorem Genuine.pos (h : Genuine m chunks) : 0 < m.chunkCount := by
  rw [← h.count]
  exact length_pos_of_ne_nil h.nonempty

theorem Genuine.verified (h : Genuine m chunks) : ∀ chunk ∈ chunks, verifyChunk chunk = true := by
  intro chunk hmem
  obtain ⟨i, hi⟩ := getElem?_of_mem hmem
  exact (chunkMatches_iff.mp (h.matching i chunk hi)).2.2.2.2

theorem Genuine.rootHash_payloads (h : Genuine m chunks) :
    rootHash ((chunks.map (·.payload)).map hexDigest) = .ok m.chunkRoot :=
  map_chunkHash h.verified ▸ h.root

/-- With an honest provider every round takes a chunk for every index. -/
theorem Genuine.exists_takes (h : Genuine m chunks) (faultless : answers.Faultless)
    (hmem : provider ∈ providers) (honest : answers.Honest chunks provider) (maxRetryCount : ℕ) :
    ∃ taken, Takes answers maxRetryCount m.snapshotId m.chunkCount providers taken := by
  have hanswer : ∀ i, ∃ found, i < m.chunkCount →
      answerFor answers maxRetryCount m.snapshotId m.chunkCount providers i = some found := by
    intro i
    by_cases hi : i < m.chunkCount
    · have hlt : i < chunks.length := h.count ▸ hi
      obtain ⟨found, hfound⟩ := exists_firstAnswer (mem_plan hmem hi (honest.listed i hlt))
        (honest.available i hlt) (honest.serves i _ 0 (getElem?_eq_getElem hlt))
        (h.matching i _ (getElem?_eq_getElem hlt))
      exact ⟨found, fun _ => hfound⟩
    · exact ⟨chunks.head h.nonempty, fun hlt => absurd hlt hi⟩
  choose taken htaken using hanswer
  exact ⟨taken, faultless, htaken⟩

end AidnSpec.Snapshot
