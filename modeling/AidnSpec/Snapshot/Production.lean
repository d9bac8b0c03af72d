import AidnSpec.Snapshot.Download
import AidnSpec.Snapshot.Verification

/-!
# Producing a snapshot

`snapshot/producer.py`: a state is encoded, compressed and cut into chunks, and a signed manifest
names their root. What goes wrong on the way is raised as one kind of error.
-/

namespace AidnSpec.Snapshot

open Base
open Consensus.StateStore (slices)

structure SnapshotProducerError where
  message : String

structure SnapshotProducerConfig where
  chunkSize : Int := 8388608
  compression : CompressionAlgorithm := .gzip
  formatVersion : Int := 1
  maxSnapshotSize : Int := 10737418240

/-- What `produce` is called with besides the state. -/
structure ProduceInputs where
  blockHeight : Int
  blockHash : String
  blockTime : String
  epoch : Int
  chainId : String
  networkId : String
  networkRevision : Int
  protocolVersion : String
  applicationVersion : String
  stateSchemaVersion : Int
  producerServiceId : String

structure ProduceResult where
  manifest : SnapshotManifest
  chunks : List SnapshotChunk
  contentHash : String
  contentSize : ℕ
  chunkRoot : String

/-- `raise SnapshotProducerError(message)`. -/
def raiseProducer {α : Type} (message : String) : Except SnapshotProducerError α :=
  .error ⟨message⟩

/-- `if not condition: raise SnapshotProducerError(message)`. -/
def requireProducer (condition : Bool) (message : String) : Except SnapshotProducerError Unit :=
  if condition then .ok () else raiseProducer message

/-- A step of the production; its error is raised as `SnapshotProducerError`. -/
def step {α : Type} : Except SnapshotError α → Except SnapshotProducerError α
  | .ok x => .ok x
  | .error e => raiseProducer s!"Snapshot production failed: {e.message}"

def validateInputs (i : ProduceInputs) : Except SnapshotProducerError Unit := do
  requireProducer (1 ≤ i.blockHeight) s!"block_height must be >= 1, got {i.blockHeight}"
  requireProducer (0 ≤ i.epoch) s!"epoch must be >= 0, got {i.epoch}"
  requireProducer (!i.chainId.isEmpty) "chain_id must not be empty"
  requireProducer (!i.networkId.isEmpty) "network_id must not be empty"
  requireProducer (!i.blockHash.isEmpty) "block_hash must not be empty"
  requireProducer (!i.protocolVersion.isEmpty) "protocol_version must not be empty"
  requireProducer (!i.applicationVersion.isEmpty) "application_version must not be empty"
  requireProducer (!i.producerServiceId.isEmpty) "producer_service_id must not be empty"
  requireProducer (0 ≤ i.stateSchemaVersion)
    s!"state_schema_version must be >= 0, got {i.stateSchemaVersion}"

/-- `compute_snapshot_id` of the inputs, a state hash and a content root; an integer that has no
text raises. -/
def snapshotIdFor (config : SnapshotProducerConfig) (i : ProduceInputs)
    (stateHash contentRoot : String) : Except PyError String := do
  require ((PyValue.int i.blockHeight).dumpable && (PyValue.int config.formatVersion).dumpable)
    "Exceeds the limit (4300 digits) for integer string conversion"
  return computeSnapshotId i.chainId i.blockHeight stateHash config.formatVersion contentRoot

/-- The root of the chunks; without chunks the hash of the content. -/
def chunkRootOf (contentHash : String) (chunks : List SnapshotChunk) : Except PyError String :=
  if chunks.isEmpty then .ok contentHash else rootHash (chunks.map (·.chunkHash))

/-- The manifest of a snapshot without its signature; a negative number is refused. -/
def unsignedManifest (config : SnapshotProducerConfig) (i : ProduceInputs) (creationTime : String)
    (snapshotId contentHash : String) (contentSize chunkCount : ℕ) (chunkRoot : String) :
    Except PyError SnapshotManifest := do
  require (decide (0 ≤ config.formatVersion) && decide (0 ≤ i.networkRevision) &&
    decide (0 ≤ i.stateSchemaVersion) && decide (0 ≤ i.blockHeight) && decide (0 ≤ i.epoch) &&
    decide (0 ≤ config.chunkSize)) "validation error for SnapshotManifest"
  return {
    snapshotId := snapshotId
    snapshotType := .fullState
    snapshotFormatVersion := config.formatVersion.toNat
    networkId := i.networkId
    chainId := i.chainId
    networkRevision := i.networkRevision.toNat
    protocolVersion := i.protocolVersion
    applicationVersion := i.applicationVersion
    stateSchemaVersion := i.stateSchemaVersion.toNat
    blockHeight := i.blockHeight.toNat
    blockHash := i.blockHash
    blockTime := i.blockTime
    epoch := i.epoch.toNat
    applicationStateHash := contentHash
    snapshotContentHash := contentHash
    snapshotContentSize := contentSize
    chunkCount := chunkCount
    chunkSize := config.chunkSize.toNat
    chunkRoot := chunkRoot
    compression := config.compression
    encoding := .jsonDeterministic
    creationTime := creationTime
    producerServiceId := i.producerServiceId
    producerSignature := "" }

/-- `hmac.new(key, message, hashlib.sha256).digest()`. -/
def hmacSha256 (key message : Bytes) : Bytes :=
  let short := if 64 < key.length then sha256 key else key
  let padded := short ++ List.replicate (64 - short.length) 0
  sha256 (padded.map (· ^^^ 0x5c) ++ sha256 (padded.map (· ^^^ 0x36) ++ message))

def signManifestWithKey (signingKey : Bytes) (m : SnapshotManifest) : Except PyError String := do
  require (PyValue.dict m.unsignedDump).dumpable
    "Exceeds the limit (4300 digits) for integer string conversion"
  return hexEncode false (hmacSha256 signingKey (asciiBytes (canonicalText (.dict m.unsignedDump))))

variable [FloatReader] [Gzip]

omit [Gzip] in
/-- `_verify_local_restoration`: what is encoded is decoded and encoded again. -/
def verifyLocalRestoration (state : Fields) (contentHash : String) :
    Except SnapshotProducerError Unit :=
  match encode state >>= decode with
  | .ok (.dict decoded) =>
    match computeContentHash decoded with
    | .ok hash =>
      requireProducer (hash == contentHash) ("Local restoration verification failed: " ++
        s!"original hash {contentHash} != restored hash {hash}")
    | .error e => raiseProducer s!"Local restoration verification failed: {e.message}"
  | .ok _ => raiseProducer "Local restoration verification failed: object has no attribute 'keys'"
  | .error e => raiseProducer s!"Local restoration verification failed: {e.message}"

/-- `SnapshotProducer.produce` at a time. -/
def produce (config : SnapshotProducerConfig) (signingKey : Bytes) (i : ProduceInputs)
    (creationTime : String) (state : Fields) : Except SnapshotProducerError ProduceResult := do
  validateInputs i
  let encoded ← step (lifted (encode state))
  let contentHash ← step (lifted (computeContentHash state))
  let contentSize ← step (lifted (computeContentSize state))
  requireProducer (contentSize ≤ config.maxSnapshotSize)
    s!"Snapshot content size {contentSize} exceeds max {config.maxSnapshotSize}"
  let handler : CompressionHandler := {}
  let compressed ← step (handler.compress encoded config.compression)
  let cutId ← step (lifted (snapshotIdFor config i contentHash contentHash))
  let pieces ← step (lifted (split config.chunkSize compressed cutId))
  let chunkRoot ← step (lifted (chunkRootOf contentHash pieces))
  let snapshotId ← step (lifted (snapshotIdFor config i contentHash chunkRoot))
  let chunks := pieces.map fun piece => { piece with snapshotId := snapshotId }
  let manifest ← step (lifted (unsignedManifest config i creationTime snapshotId contentHash
    contentSize (if chunks.isEmpty then 1 else chunks.length) chunkRoot))
  let signature ← step (lifted (signManifestWithKey signingKey manifest))
  verifyLocalRestoration state contentHash
  return {
    manifest := { manifest with producerSignature := signature }
    chunks
    contentHash
    contentSize
    chunkRoot }

end AidnSpec.Snapshot
