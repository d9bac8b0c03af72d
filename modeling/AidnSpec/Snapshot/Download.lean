import AidnSpec.Snapshot.ChunkStore
import AidnSpec.Snapshot.SnapshotManifest

/-!
# Downloads

`snapshot/download.py`: chunks are asked of the providers in the order of a plan, and the first
answer that proves itself is stored. Only a complete set of chunks is compared with the root of the
manifest; a set with another root is discarded as a whole.
-/

namespace AidnSpec.Snapshot

open Base

structure DownloadSession where
  snapshotId : String
  manifestHash : String
  verifiedChunkBitmap : List Bool
  pendingChunks : List Int
  failedChunks : List Int
  providersUsed : List String
  temporaryFiles : List String
  totalBytesDownloaded : Int
  startedAt : String
  lastActivity : String
  chunkHashes : List (Option String) := []
  chunkStorageKeys : List (Option String) := []
  expectedChunkRoot : String := ""

structure DownloadResult where
  snapshotId : String
  success : Bool
  chunksDownloaded : ℕ
  chunksTotal : ℕ
  chunksVerified : ℕ
  chunksFailed : List Int
  totalBytes : Int
  session : DownloadSession
  error : Option String := none

/-- What providers and disk answer while one download runs. A provider is asked whether it is
available once for a chunk, and for the chunk once an attempt. -/
structure Answers where
  inventory : String → List Int
  available : (provider : String) → (index : ℕ) → Bool
  chunk : (provider : String) → (index attempt : ℕ) → Option SnapshotChunk
  faults : (provider : String) → (index attempt : ℕ) → DiskFaults

/-! ## The plan -/

/-- The providers that list a chunk, the preferred one first, each once. -/
def assigned (providers candidates : List String) (turn : ℕ) : List String :=
  match candidates with
  | [] => []
  | first :: _ =>
    let preferred := providers[turn % providers.length]?.getD first
    let primary := if preferred ∈ candidates then preferred else first
    candidates.foldl (fun known c => if c ∈ known then known else known ++ [c]) [primary]

/-- `DownloadPlanner.plan` from a chunk on, `count` chunks left. -/
def planFrom (providers : List String) (inventory : String → List Int) :
    (count index turn : ℕ) → List (List String)
  | 0, _, _ => []
  | count + 1, index, turn =>
    let candidates := providers.filter fun p => (inventory p).contains (index : Int)
    assigned providers candidates turn ::
      planFrom providers inventory count (index + 1)
        (if candidates = [] then turn else (turn + 1) % providers.length)

/-- `DownloadPlanner.plan`: the providers of every chunk. -/
def plan (totalChunks : ℕ) (providers : List String) (inventory : String → List Int) :
    List (List String) := planFrom providers inventory totalChunks 0 0

/-! ## The transfer of one chunk -/

/-- `_chunk_matches_manifest`, and the same test of `resume`. -/
def chunkMatches (snapshotId : String) (total index : ℕ) (chunk : SnapshotChunk) : Bool :=
  chunk.snapshotId == snapshotId && chunk.chunkIndex == index && chunk.totalChunks == total &&
    chunk.compressedSize == chunk.payload.length && verifyChunk chunk

/-- The attempts at one provider, `left` of them to go. -/
def attempts (answers : Answers) (accepts : SnapshotChunk → Bool) (provider : String)
    (index : ℕ) : (left attempt : ℕ) → FileSnapshotChunkStore →
    Except SnapshotError (Option (SnapshotChunk × String)) × FileSnapshotChunkStore
  | 0, _, store => (.ok none, store)
  | left + 1, attempt, store =>
    match answers.chunk provider index attempt with
    | none => attempts answers accepts provider index left (attempt + 1) store
    | some chunk =>
      if accepts chunk then
        match store.put chunk (answers.faults provider index attempt) with
        | (.ok key, store') => (.ok (some (chunk, key)), store')
        | (.error (.os _), store') =>
          attempts answers accepts provider index left (attempt + 1) store'
        | (.error e, store') => (.error e, store')
      else attempts answers accepts provider index left (attempt + 1) store

/-- The providers of a chunk, one after the other. -/
def fetch (answers : Answers) (accepts : SnapshotChunk → Bool) (maxRetryCount index : ℕ) :
    List String → FileSnapshotChunkStore →
    Except SnapshotError (Option (SnapshotChunk × String)) × FileSnapshotChunkStore
  | [], store => (.ok none, store)
  | provider :: rest, store =>
    if answers.available provider index then
      match attempts answers accepts provider index (maxRetryCount + 1) 0 store with
      | (.ok none, store') => fetch answers accepts maxRetryCount index rest store'
      | other => other
    else fetch answers accepts maxRetryCount index rest store

/-! ## The transfer of all chunks -/

/-- What a session remembers of a stored chunk. -/
structure Slot where
  hash : String
  key : String

/-- What the loop over the chunks changes. -/
structure Progress where
  slots : List (Option Slot)
  failed : List Int
  totalBytes : Int

def Progress.record (p : Progress) (index : ℕ) : Option (SnapshotChunk × String) → Progress
  | some (chunk, key) => {
      slots := p.slots.set index (some ⟨chunk.chunkHash, key⟩)
      failed := p.failed.filter (· ≠ (index : Int))
      totalBytes := p.totalBytes + chunk.compressedSize }
  | none => { p with
      failed := if (index : Int) ∈ p.failed then p.failed else p.failed ++ [(index : Int)] }

/-- The loop over the chunks; batches of the concurrency limit are worked off one by one. -/
def transfer (answers : Answers) (accepts : ℕ → SnapshotChunk → Bool) (maxRetryCount : ℕ)
    (plan : List (List String)) : List ℕ → Progress → FileSnapshotChunkStore →
    Except SnapshotError Progress × FileSnapshotChunkStore
  | [], p, store => (.ok p, store)
  | index :: rest, p, store =>
    match fetch answers (accepts index) maxRetryCount index (plan[index]?.getD []) store with
    | (.error e, store') => (.error e, store')
    | (.ok fetched, store') =>
      transfer answers accepts maxRetryCount plan rest (p.record index fetched) store'

def verifiedRoot (bitmap : List Bool) (chunkHashes : List (Option String))
    (expectedChunkRoot : String) : Except PyError Bool :=
  if expectedChunkRoot.isEmpty || !bitmap.all id then .ok false
  else if chunkHashes.length ≠ bitmap.length || chunkHashes.any (·.isNone) then .ok false
  else do
    let root ← rootHash ((chunkHashes.filterMap id).filter (!·.isEmpty))
    return root == expectedChunkRoot

namespace Progress

def bitmap (p : Progress) : List Bool := p.slots.map (·.isSome)

def chunkHashes (p : Progress) : List (Option String) := p.slots.map (·.map (·.hash))

def chunkStorageKeys (p : Progress) : List (Option String) := p.slots.map (·.map (·.key))

/-- The chunks that are not there. -/
def pending (p : Progress) : List ℕ :=
  (List.range p.slots.length).filter fun i => p.bitmap[i]? = some false

/-- The end of a download: a set that is complete and has another root is discarded. -/
def settle (p : Progress) (expectedChunkRoot : String) : Except PyError Progress :=
  if p.failed = [] then do
    let verified ← verifiedRoot p.bitmap p.chunkHashes expectedChunkRoot
    return if verified then p else {
      slots := List.replicate p.slots.length none
      failed := (List.range p.slots.length).map Int.ofNat
      totalBytes := p.totalBytes }
  else .ok p

end Progress

def DownloadResult.of (session : DownloadSession) (success : Bool) : DownloadResult where
  snapshotId := session.snapshotId
  success := success
  chunksDownloaded := session.verifiedChunkBitmap.count true
  chunksTotal := session.verifiedChunkBitmap.length
  chunksVerified := session.verifiedChunkBitmap.count true
  chunksFailed := session.failedChunks
  totalBytes := session.totalBytesDownloaded
  session := session
  error := if success then none else some s!"{session.failedChunks.length} chunks failed"

/-- A raised Python error. -/
def lifted {α : Type} : Except PyError α → Except SnapshotError α
  | .ok x => .ok x
  | .error e => .error (.python e)

def download (maxRetryCount : ℕ) (answers : Answers) (now snapshotId : String)
    (manifest : SnapshotManifest) (providers : List String) (store : FileSnapshotChunkStore) :
    Except SnapshotError DownloadResult × FileSnapshotChunkStore :=
  if snapshotId ≠ manifest.snapshotId then
    (.error (.python ⟨.value, "snapshot_id must match the manifest"⟩), store)
  else if manifest.chunkCount < 1 then
    (.error (.python ⟨.value, "manifest chunk_count must be positive"⟩), store)
  else
    let total := manifest.chunkCount
    match transfer answers (chunkMatches manifest.snapshotId total) maxRetryCount
        (plan total providers answers.inventory) (List.range total)
        ⟨List.replicate total none, [], 0⟩ store with
    | (.error e, store') => (.error e, store')
    | (.ok p, store') =>
      (lifted ((p.settle manifest.chunkRoot).map fun p =>
        DownloadResult.of {
          snapshotId := snapshotId
          manifestHash := manifest.manifestHash
          verifiedChunkBitmap := p.bitmap
          pendingChunks := p.pending.map Int.ofNat
          failedChunks := p.failed
          providersUsed := providers.dedup
          temporaryFiles := []
          totalBytesDownloaded := p.totalBytes
          startedAt := now
          lastActivity := now
          chunkHashes := p.chunkHashes
          chunkStorageKeys := p.chunkStorageKeys
          expectedChunkRoot := manifest.chunkRoot } (p.failed = [])), store')

variable [Runtime] [FloatReader]

def storedChunkIsValid (store : FileSnapshotChunkStore) (key expectedHash : Option String)
    (snapshotId : String) (index total : ℕ) : Except PyError Bool :=
  match key, expectedHash with
  | some key, some expectedHash => do
    let chunk ← store.get key
    return chunk.any fun chunk =>
      chunkMatches snapshotId total index chunk && chunk.chunkHash == expectedHash
  | _, _ => .ok false

/-- What a session remembers of a chunk. -/
def DownloadSession.slot (s : DownloadSession) (index : ℕ) : Option Slot :=
  match s.chunkHashes[index]?.join, s.chunkStorageKeys[index]?.join with
  | some hash, some key => some ⟨hash, key⟩
  | _, _ => none

def keptSlot (store : FileSnapshotChunkStore) (session : DownloadSession) (index : ℕ) :
    Except PyError (Option Slot) :=
  if session.verifiedChunkBitmap[index]? = some true then do
    let valid ← storedChunkIsValid store session.chunkStorageKeys[index]?.join
      session.chunkHashes[index]?.join session.snapshotId index session.verifiedChunkBitmap.length
    return if valid then session.slot index else none
  else .ok none

/-- The chunks of a session that the store still proves; none of a session without hashes and
keys. -/
def keptSlots (store : FileSnapshotChunkStore) (session : DownloadSession) :
    Except PyError (List (Option Slot)) :=
  let total := session.verifiedChunkBitmap.length
  if session.chunkHashes.length ≠ total ∨ session.chunkStorageKeys.length ≠ total then
    .ok (List.replicate total none)
  else (List.range total).mapM (keptSlot store session)

/-- The session behind a resumed download. -/
def DownloadSession.updated (s : DownloadSession) (p : Progress) (providers : List String)
    (now : String) : DownloadSession := { s with
  verifiedChunkBitmap := p.bitmap
  pendingChunks := p.pending.map Int.ofNat
  failedChunks := p.failed
  providersUsed := (s.providersUsed ++ providers).dedup
  totalBytesDownloaded := p.totalBytes
  lastActivity := now
  chunkHashes := p.chunkHashes
  chunkStorageKeys := p.chunkStorageKeys }

/-- `SnapshotDownloader.resume`. That a kept chunk is stored is checked twice with nothing in
between, so the second check of the source is left out. -/
def resume (maxRetryCount : ℕ) (answers : Answers) (now : String) (session : DownloadSession)
    (providers : List String) (store : FileSnapshotChunkStore) :
    Except SnapshotError DownloadResult × FileSnapshotChunkStore :=
  let total := session.verifiedChunkBitmap.length
  if total < 1 then
    (.error (.python ⟨.value, "download session must contain at least one chunk"⟩), store)
  else
    match keptSlots store session with
    | .error e => (.error (.python e), store)
    | .ok slots =>
      let p : Progress := ⟨slots, session.failedChunks, session.totalBytesDownloaded⟩
      if p.pending = [] then (.ok (DownloadResult.of session (session.failedChunks = [])), store)
      else
        match transfer answers (chunkMatches session.snapshotId total) maxRetryCount
            (plan total providers answers.inventory) p.pending p store with
        | (.error e, store') => (.error e, store')
        | (.ok p, store') =>
          (lifted ((p.settle session.expectedChunkRoot).map fun p =>
            DownloadResult.of (session.updated p providers now)
              (p.failed = [] ∧ p.pending = [])), store')

/-- One chunk of a session as `load_verified_chunks` loads it. -/
def loadChunk (store : FileSnapshotChunkStore) (session : DownloadSession) (index : ℕ) :
    Except PyError SnapshotChunk := do
  let key := session.chunkStorageKeys[index]?.join
  let valid ← storedChunkIsValid store key session.chunkHashes[index]?.join session.snapshotId index
    session.verifiedChunkBitmap.length
  require valid s!"verified chunk {index} is unavailable or invalid"
  let chunk ← store.get (key.getD "")
  match chunk with
  | some chunk => return chunk
  | none => raiseValue s!"verified chunk {index} disappeared during load"

def loadVerifiedChunks (store : FileSnapshotChunkStore) (session : DownloadSession) :
    Except PyError (List SnapshotChunk) := do
  let total := session.verifiedChunkBitmap.length
  let complete ←
    if total < 1 || session.chunkHashes.length ≠ total || session.chunkStorageKeys.length ≠ total
    then .ok false
    else verifiedRoot session.verifiedChunkBitmap session.chunkHashes session.expectedChunkRoot
  require complete "download session does not prove a complete chunk set"
  (List.range total).mapM (loadChunk store session)

end AidnSpec.Snapshot
