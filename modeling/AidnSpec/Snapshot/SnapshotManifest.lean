import AidnSpec.Snapshot.Chunking
import AidnSpec.Snapshot.Encoding

/-!
# Snapshot manifests

`snapshot/models.py`: the manifest of a snapshot, the identifier computed from its identity fields,
and the hash that a download session is bound to.
-/

namespace AidnSpec.Snapshot

open Base

inductive SnapshotType where
  | fullState
  | recoveryState
  | developmentState

inductive CompressionAlgorithm where
  | none
  | gzip
  | zstd

inductive Encoding where
  | jsonDeterministic
  | protobuf

def SnapshotType.toText : SnapshotType → String
  | .fullState => "full_state"
  | .recoveryState => "recovery_state"
  | .developmentState => "development_state"

def CompressionAlgorithm.toText : CompressionAlgorithm → String
  | .none => "none"
  | .gzip => "gzip"
  | .zstd => "zstd"

def Encoding.toText : Encoding → String
  | .jsonDeterministic => "json_deterministic"
  | .protobuf => "protobuf"

def computeSnapshotId (chainId : String) (blockHeight : Int) (applicationStateHash : String)
    (snapshotFormatVersion : Int) (snapshotContentRoot : String) : String :=
  hexDigest (utf8Encode (s!"{chainId}:{blockHeight}:{applicationStateHash}" ++
    s!":{snapshotFormatVersion}:{snapshotContentRoot}"))

structure SnapshotManifest where
  snapshotId : String
  snapshotType : SnapshotType
  snapshotFormatVersion : ℕ
  networkId : String
  chainId : String
  networkRevision : ℕ
  protocolVersion : String
  applicationVersion : String
  stateSchemaVersion : ℕ
  blockHeight : ℕ
  blockHash : String
  blockTime : String
  epoch : ℕ
  applicationStateHash : String
  validatorSetHash : Option String := none
  protocolParametersHash : Option String := none
  snapshotContentHash : String
  snapshotContentSize : ℕ
  chunkCount : ℕ
  chunkSize : ℕ
  chunkRoot : String
  compression : CompressionAlgorithm
  encoding : Encoding
  creationTime : String
  producerServiceId : String
  producerSignature : String

namespace SnapshotManifest

/-- `manifest.model_dump(exclude={"producer_signature"})`. -/
def unsignedDump (m : SnapshotManifest) : Fields := [
  ("snapshot_id", .str m.snapshotId), ("snapshot_type", .str m.snapshotType.toText),
  ("snapshot_format_version", .int m.snapshotFormatVersion), ("network_id", .str m.networkId),
  ("chain_id", .str m.chainId), ("network_revision", .int m.networkRevision),
  ("protocol_version", .str m.protocolVersion), ("application_version", .str m.applicationVersion),
  ("state_schema_version", .int m.stateSchemaVersion), ("block_height", .int m.blockHeight),
  ("block_hash", .str m.blockHash), ("block_time", .str m.blockTime), ("epoch", .int m.epoch),
  ("application_state_hash", .str m.applicationStateHash),
  ("validator_set_hash", optText m.validatorSetHash),
  ("protocol_parameters_hash", optText m.protocolParametersHash),
  ("snapshot_content_hash", .str m.snapshotContentHash),
  ("snapshot_content_size", .int m.snapshotContentSize), ("chunk_count", .int m.chunkCount),
  ("chunk_size", .int m.chunkSize), ("chunk_root", .str m.chunkRoot),
  ("compression", .str m.compression.toText), ("encoding", .str m.encoding.toText),
  ("creation_time", .str m.creationTime), ("producer_service_id", .str m.producerServiceId)]

/-- `sha256(manifest.model_dump_json().encode()).hexdigest()`. -/
def manifestHash (m : SnapshotManifest) : String :=
  hexDigest (plainBytes (m.unsignedDump ++ [("producer_signature", .str m.producerSignature)]))

end SnapshotManifest

end AidnSpec.Snapshot
