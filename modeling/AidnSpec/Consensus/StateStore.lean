import AidnSpec.Base.JsonRoundTrip
import Mathlib.Data.Prod.Lex
import Mathlib.Data.List.Lex

/-!
# The durable state store

`ABCIStateStore`: the snapshot directories, the pointer to the current one, the leases that
chunk requests take, and the State Sync import. File system calls succeed; the wall clock and
the monotonic clock are arguments.
-/

namespace AidnSpec.Consensus

open Base

/-- What a call raises: `ABCIStateStoreError`, or an exception of Python that no handler of the
store turns into one. -/
inductive StoreError where
  | stateStore (message : String)
  | python (error : PyError)

/-- The limits that `ABCIStateStore.__init__` accepts. -/
structure StoreLimits where
  chunkSize : Nat
  maximumSnapshotBytes : Nat
  maximumImportChunkBytes : Nat
  retainedSnapshots : Nat
  snapshotLeaseSeconds : Nat
  chunkSize_pos : 1 ≤ chunkSize
  chunkSize_le : chunkSize ≤ maximumSnapshotBytes
  importChunk_pos : 1 ≤ maximumImportChunkBytes
  importChunk_le : maximumImportChunkBytes ≤ maximumSnapshotBytes
  retained_pos : 1 ≤ retainedSnapshots
  lease_pos : 1 ≤ snapshotLeaseSeconds

/-- Metadata of one retained snapshot; a value that `__post_init__` refuses does not exist. -/
structure ABCIStateSnapshot where
  height : Nat
  format : Nat
  chunks : Nat
  hash : Bytes
  appHash : Bytes
  format_eq : format = 1
  chunks_pos : 1 ≤ chunks
  hash_length : hash.length = 32
  appHash_length : appHash.length = 32

namespace ABCIStateSnapshot

/-- The constructor and `__post_init__`. -/
def make (height format chunks : Int) (hash appHash : Bytes) :
    Except PyError ABCIStateSnapshot :=
  if hshape : 0 ≤ height ∧ format = 1 ∧ 1 ≤ chunks then
    if hhash : hash.length = 32 ∧ appHash.length = 32 then
      .ok { height := height.toNat, format := format.toNat, chunks := chunks.toNat, hash, appHash,
            format_eq := by omega, chunks_pos := by omega, hash_length := hhash.1,
            appHash_length := hhash.2 }
    else raiseValue "ABCI snapshot hashes must be SHA-256 values"
  else raiseValue "ABCI snapshot metadata is invalid"

/-- `f"{height:020d}"`. -/
def paddedHeight (height : Nat) : List Char :=
  List.replicate (20 - (Nat.toDigits 10 height).length) '0' ++ Nat.toDigits 10 height

/-- `identifier`: the name of the snapshot's directory. -/
def identifier (m : ABCIStateSnapshot) : String :=
  String.ofList (paddedHeight m.height ++ '-' :: hexChars false m.hash)

/-- The key that snapshots are sorted by: height, then hash. -/
def rank (m : ABCIStateSnapshot) : ℕ ×ₗ List ℕ := toLex (m.height, m.hash.map UInt8.toNat)

end ABCIStateSnapshot

/-- A digit of a lower-case hexadecimal text. -/
def isLowerHex (c : Char) : Bool := c.isDigit || ('a' ≤ c && c ≤ 'f')

/-- `_IDENTIFIER_RE.fullmatch`: twenty digits, a dash and sixty-four hexadecimal digits. -/
def isIdentifier (name : String) : Bool :=
  (name.toList.take 20).all Char.isDigit && decide ((name.toList.drop 20).head? = some '-') &&
    (name.toList.drop 21).all isLowerHex && name.toList.length == 85

/-- The files of one snapshot directory: `manifest.json` and the numbered chunks. -/
structure SnapshotFiles where
  manifest : Bytes
  chunks : List Bytes

structure IncomingSnapshot where
  metadata : ABCIStateSnapshot
  chunks : Dict Nat Bytes
  totalBytes : Nat

/-- The files under the root, and what the object keeps in memory. -/
structure StateStore where
  snapshots : Dict String SnapshotFiles
  current : Option Bytes
  leases : Dict String ℚ
  incoming : Option IncomingSnapshot

namespace StateStore

/-- A new object on an empty root. -/
def fresh : StateStore := ⟨Dict.empty, none, Dict.empty, none⟩

/-- `bytes.fromhex(str(value))`. The text of a value that is neither a text nor an integer has
a character that `fromhex` refuses. -/
def hexOfValue : PyValue → Except PyError Bytes
  | .str s => (fromHex s).elim (raiseValue "non-hexadecimal number found") .ok
  | .int n =>
    if (Nat.toDigits 10 n.natAbs).length ≤ 4300 then
      (fromHex (toString n)).elim (raiseValue "non-hexadecimal number found") .ok
    else raiseValue "Exceeds the limit for integer string conversion"
  | .none | .bool _ | .float _ _ | .nonFinite _ | .list _ | .dict _ =>
    raiseValue "non-hexadecimal number found"

/-- `mapping[key]`. -/
def member (members : List (String × PyValue)) (key : String) : Except PyError PyValue :=
  (members.lookup key).elim (.error ⟨.key, key⟩) .ok

/-- The height and application hash that a state names. -/
def stateNames (state : List (String × PyValue)) : Except PyError (Int × Bytes) := do
  let height ← (← member state "last_block_height").toInt
  let appHash ← hexOfValue (← member state "app_hash")
  return (height, appHash)

def metadataFromState (limits : StoreLimits) (state : List (String × PyValue)) (payload : Bytes) :
    Except StoreError ABCIStateSnapshot :=
  match stateNames state with
  | .error error =>
    if error.kind = .key ∨ error.kind = .type ∨ error.kind = .value then
      .error (.stateStore "ABCI state has no valid height or app hash")
    else .error (.python error)
  | .ok (height, appHash) =>
    let chunks := max 1 ((payload.length + limits.chunkSize - 1) / limits.chunkSize)
    match ABCIStateSnapshot.make height 1 chunks (sha256 payload) appHash with
    | .error error => .error (.python error)
    | .ok metadata => .ok metadata

/-- `payload[offset : offset + size]` for the offsets in `range(0, len(payload), size)`. -/
def slices (size : Nat) (payload : Bytes) : List Bytes :=
  (List.range ((payload.length + size - 1) / size)).map fun index =>
    (payload.drop (index * size)).take size

def canonicalJsonBytes (value : PyValue) : Except StoreError Bytes :=
  if value.dumpable then .ok (asciiBytes (canonicalText value))
  else .error (.stateStore "ABCI state is not JSON serializable")

/-- The content of `manifest.json`. -/
def manifestOf (m : ABCIStateSnapshot) (createdAt : Int) : PyValue :=
  .dict [("schema_version", .int 1), ("height", .int m.height), ("format", .int m.format),
    ("chunks", .int m.chunks), ("hash", .str (hexEncode false m.hash)),
    ("app_hash", .str (hexEncode false m.appHash)), ("created_at", .int createdAt)]

/-- The content of `current.json`. -/
def pointerTo (m : ABCIStateSnapshot) : PyValue :=
  .dict [("schema_version", .int 1), ("snapshot_id", .str m.identifier)]

def manifestMetadata (manifest : List (String × PyValue)) : Except PyError ABCIStateSnapshot := do
  let height ← (← member manifest "height").toInt
  let format ← (← member manifest "format").toInt
  let chunks ← (← member manifest "chunks").toInt
  let hash ← hexOfValue (← member manifest "hash")
  let appHash ← hexOfValue (← member manifest "app_hash")
  ABCIStateSnapshot.make height format chunks hash appHash

/-- `except (OSError, KeyError, TypeError, ValueError, …): raise ABCIStateStoreError(message)`. -/
def handled (message : String) (error : PyError) : StoreError :=
  if error.kind = .key ∨ error.kind = .type ∨ error.kind = .value then .stateStore message
  else .python error

/-- The exception of `.get` on a value that is no dictionary. -/
def noGet : PyError := ⟨.attribute, "object has no attribute 'get'"⟩

variable [JsonReader]

/-- A state of the application: a dictionary of JSON values. -/
structure State where
  members : List (String × PyValue)
  wellFormed : (PyValue.dict members).WellFormed

/-- The state that a payload holds, checked against the metadata it is stored under. -/
def checkedState (limits : StoreLimits) (m : ABCIStateSnapshot) (payload : Bytes) :
    Except StoreError (List (String × PyValue)) :=
  if limits.maximumSnapshotBytes < payload.length ∨ sha256 payload ≠ m.hash then
    .error (.stateStore "ABCI snapshot is corrupt")
  else
    match loadsBytes payload with
    | some (.dict state) =>
      match metadataFromState limits state payload with
      | .error (.stateStore message) => .error (.stateStore message)
      | .error (.python error) => .error (handled "ABCI snapshot is corrupt" error)
      | .ok found =>
        if found.height ≠ m.height ∨ found.appHash ≠ m.appHash then
          .error (.stateStore "ABCI snapshot is corrupt")
        else .ok state
    | _ => .error (.stateStore "ABCI snapshot is corrupt")

def loadSnapshotByIdentifier (limits : StoreLimits) (store : StateStore) (name : String) :
    Except StoreError (ABCIStateSnapshot × List (String × PyValue)) :=
  match store.snapshots.get? name with
  | none => .error (.stateStore "ABCI snapshot is corrupt")
  | some files =>
    match loadsBytes files.manifest with
    | none => .error (.stateStore "ABCI snapshot is corrupt")
    | some (.dict manifest) =>
      if !(PyValue.get manifest "schema_version").eqv (.int 1) then
        .error (.stateStore "ABCI snapshot is corrupt")
      else
        match manifestMetadata manifest with
        | .error error => .error (handled "ABCI snapshot is corrupt" error)
        | .ok m =>
          -- a chunk file that is not there raises OSError
          if m.identifier ≠ name ∨ files.chunks.length < m.chunks then
            .error (.stateStore "ABCI snapshot is corrupt")
          else
            match checkedState limits m (files.chunks.take m.chunks).flatten with
            | .error error => .error error
            | .ok state => .ok (m, state)
    | some _ => .error (.python noGet)

def loadCurrent (limits : StoreLimits) (store : StateStore) :
    Except StoreError (Option (List (String × PyValue))) :=
  match store.current with
  | none => .ok none
  | some bytes =>
    match loadsBytes bytes with
    | none => .error (.stateStore "durable ABCI state is corrupt")
    | some (.dict pointer) =>
      if !(PyValue.get pointer "schema_version").eqv (.int 1) then
        .error (.stateStore "durable ABCI state is corrupt")
      else
        match PyValue.get pointer "snapshot_id" with
        | .str name =>
          if !isIdentifier name then .error (.stateStore "durable ABCI state is corrupt")
          else
            match loadSnapshotByIdentifier limits store name with
            | .error (.stateStore message) => .error (.stateStore message)
            | .error (.python error) =>
              .error (if error.kind = .type ∨ error.kind = .value then
                .stateStore "durable ABCI state is corrupt" else .python error)
            | .ok (_, state) => .ok (some state)
        | _ => .error (.stateStore "durable ABCI state is corrupt")
    | some _ => .error (.python noGet)

/-- One directory in `list_snapshots`: skipped when its name or its content is invalid. -/
def listedSnapshot (limits : StoreLimits) (store : StateStore) (name : String) :
    Except StoreError (Option ABCIStateSnapshot) :=
  if !isIdentifier name then .ok none
  else
    match loadSnapshotByIdentifier limits store name with
    | .ok (m, _) => .ok (some m)
    | .error (.stateStore _) => .ok none
    | .error error => .error error

/-- `list_snapshots`. No two directories have one rank, so the order of `iterdir` is not seen. -/
def listSnapshots (limits : StoreLimits) (store : StateStore) :
    Except StoreError (List ABCIStateSnapshot) := do
  let found ← store.snapshots.keys.mapM (listedSnapshot limits store)
  return (found.filterMap id).mergeSort fun a b => b.rank ≤ a.rank

/-- `shutil.rmtree` of the snapshots without a lease. -/
def removeUnleased (leases : Dict String ℚ) (dropped : List ABCIStateSnapshot)
    (snapshots : Dict String SnapshotFiles) : Dict String SnapshotFiles :=
  dropped.foldl (fun snapshots m =>
    if leases.contains m.identifier then snapshots else snapshots.erase m.identifier) snapshots

def pruneRetainedSnapshots (limits : StoreLimits) (store : StateStore) (now : ℚ) :
    Except StoreError StateStore := do
  let listed ← listSnapshots limits store
  let leases := store.leases.filterValues fun expiresAt => now < expiresAt
  return { store with
    leases
    snapshots := removeUnleased leases (listed.drop limits.retainedSnapshots) store.snapshots }

/-- The directories once the snapshot is written; an existing directory stays as it is. -/
def writeSnapshot (limits : StoreLimits) (store : StateStore) (m : ABCIStateSnapshot)
    (payload : Bytes) (createdAt : Int) : Except StoreError (Dict String SnapshotFiles) :=
  if store.snapshots.contains m.identifier then .ok store.snapshots
  else do
    let manifest ← canonicalJsonBytes (manifestOf m createdAt)
    return store.snapshots.set m.identifier ⟨manifest, slices limits.chunkSize payload⟩

/-- `persist`; `createdAt` and `now` are what the two clocks show. -/
def persist (limits : StoreLimits) (store : StateStore) (state : State) (createdAt : Int)
    (now : ℚ) : Except StoreError ABCIStateSnapshot × StateStore :=
  match canonicalJsonBytes (.dict state.members) with
  | .error error => (.error error, store)
  | .ok payload =>
    if limits.maximumSnapshotBytes < payload.length then
      (.error (.stateStore "ABCI state exceeds configured snapshot limit"), store)
    else
      match metadataFromState limits state.members payload with
      | .error error => (.error error, store)
      | .ok m =>
        match writeSnapshot limits store m payload createdAt with
        | .error error => (.error error, store)
        | .ok snapshots =>
          let pointed : StateStore :=
            { store with snapshots, current := some (asciiBytes (canonicalText (pointerTo m))) }
          match pruneRetainedSnapshots limits pointed now with
          | .error error => (.error error, pointed)
          | .ok pruned => (.ok m, pruned)

/-- The first listed snapshot of a height and format. -/
def served (listed : List ABCIStateSnapshot) (height format : Int) : Option ABCIStateSnapshot :=
  listed.find? fun m => (m.height : Int) = height ∧ (m.format : Int) = format

def renewSnapshotLease (limits : StoreLimits) (store : StateStore) (name : String) (now : ℚ) :
    StateStore :=
  { store with leases := store.leases.set name (now + limits.snapshotLeaseSeconds) }

def loadSnapshotChunk (limits : StoreLimits) (store : StateStore) (height format chunk : Int)
    (now : ℚ) : Except StoreError Bytes × StateStore :=
  if chunk < 0 then (.error (.stateStore "ABCI snapshot chunk index is invalid"), store)
  else
    match listSnapshots limits store with
    | .error error => (.error error, store)
    | .ok listed =>
      match served listed height format with
      | none => (.error (.stateStore "ABCI snapshot is unavailable"), store)
      | some m =>
        let leased := renewSnapshotLease limits store m.identifier now
        if m.chunks ≤ chunk then
          (.error (.stateStore "ABCI snapshot chunk is unavailable"), leased)
        else
          match (store.snapshots.get? m.identifier).bind fun files =>
            files.chunks[chunk.toNat]? with
          | none => (.error (.stateStore "ABCI snapshot chunk is unavailable"), leased)
          | some payload =>
            if payload.isEmpty ∨ limits.chunkSize < payload.length then
              (.error (.stateStore "ABCI snapshot chunk is invalid"), leased)
            else (.ok payload, leased)

def releaseSnapshotLease (limits : StoreLimits) (store : StateStore) (height format : Int) :
    Except StoreError Unit × StateStore :=
  match listSnapshots limits store with
  | .error error => (.error error, store)
  | .ok listed =>
    match served listed height format with
    | none => (.ok (), store)
    | some m => (.ok (), { store with leases := store.leases.erase m.identifier })

def offerImport (limits : StoreLimits) (store : StateStore) (m : ABCIStateSnapshot) :
    Bool × StateStore :=
  if limits.maximumSnapshotBytes < m.chunks then (false, store)
  else (true, { store with incoming := some ⟨m, Dict.empty, 0⟩ })

/-- The chunks of a finished import in the order of their indices. -/
def assembled (incoming : IncomingSnapshot) : Bytes :=
  (List.range incoming.metadata.chunks).flatMap fun index => (incoming.chunks.get? index).getD []

/-- The end of `add_import_chunk`, once every chunk is there. An integer of more than 4300
digits is reported as invalid JSON here. -/
def finishImport (incoming : IncomingSnapshot) :
    Except StoreError (Option (ABCIStateSnapshot × List (String × PyValue))) :=
  if sha256 (assembled incoming) ≠ incoming.metadata.hash then
    .error (.stateStore "ABCI snapshot import hash mismatch")
  else
    match loadsBytes (assembled incoming) with
    | none => .error (.stateStore "ABCI snapshot import JSON is invalid")
    | some (.dict state) => .ok (some (incoming.metadata, state))
    | some _ => .error (.stateStore "ABCI snapshot import state is invalid")

def addImportChunk (limits : StoreLimits) (store : StateStore) (index : Int) (payload : Bytes) :
    Except StoreError (Option (ABCIStateSnapshot × List (String × PyValue))) × StateStore :=
  match store.incoming with
  | none => (.error (.stateStore "no matching ABCI snapshot import"), store)
  | some incoming =>
    if index < 0 ∨ (incoming.metadata.chunks : Int) ≤ index then
      (.error (.stateStore "no matching ABCI snapshot import"), store)
    else if payload.isEmpty ∨ limits.maximumImportChunkBytes < payload.length then
      (.error (.stateStore "ABCI snapshot import chunk is invalid"), store)
    else
      match incoming.chunks.get? index.toNat with
      | some previous =>
        if previous ≠ payload then
          (.error (.stateStore "ABCI snapshot import chunk conflicts"), store)
        else (.ok none, store)
      | none =>
        let totalBytes := incoming.totalBytes + payload.length
        if limits.maximumSnapshotBytes < totalBytes then
          (.error (.stateStore "ABCI snapshot import exceeds configured limit"),
            { store with incoming := some { incoming with totalBytes } })
        else
          let received : IncomingSnapshot :=
            ⟨incoming.metadata, incoming.chunks.set index.toNat payload, totalBytes⟩
          if received.chunks.keys.length ≠ received.metadata.chunks then
            (.ok none, { store with incoming := some received })
          else (finishImport received, { store with incoming := none })

def abortImport (store : StateStore) : StateStore := { store with incoming := none }

/-- A new object on the same root: leases and the import are lost, the files stay. -/
def restart (store : StateStore) : StateStore :=
  { store with leases := Dict.empty, incoming := none }

end StateStore

end AidnSpec.Consensus
