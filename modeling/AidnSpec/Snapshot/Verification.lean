import AidnSpec.Snapshot.ChunkStore
import AidnSpec.Snapshot.SnapshotManifest

/-!
# Verification of a snapshot

`snapshot/compression.py` and `SnapshotVerifier` of `snapshot/verification.py`. gzip and the
division of two integers as floats are parameters; a broken gzip stream can raise errors that the
callers do not handle.
-/

namespace AidnSpec.Snapshot

open Base

/-- `gzip.compress` and `gzip.decompress`. -/
class Gzip where
  compress : Bytes → Bytes
  decompress : Bytes → Except SnapshotError Bytes

/-- `m / n` as a float, and how a float is written. -/
class FloatDivision where
  divide : (m n : ℕ) → ℚ
  text : ℚ → String
  twoPlaces : ℚ → String

/-- `raise ValueError(message)`. -/
def raiseSnapshot {α : Type} (message : String) : Except SnapshotError α :=
  .error (.python ⟨.value, message⟩)

structure CompressionHandler where
  maxCompressedSize : ℕ := 1073741824
  maxUncompressedSize : ℕ := 10737418240
  maxExpansionRatio : ℚ := 10

section Compression

variable [Gzip] [FloatDivision]

namespace CompressionHandler

def compress (c : CompressionHandler) (data : Bytes) (algorithm : CompressionAlgorithm) :
    Except SnapshotError Bytes :=
  match algorithm with
  | .none =>
    if data.length > c.maxUncompressedSize then
      raiseSnapshot s!"uncompressed size {data.length} exceeds max {c.maxUncompressedSize}"
    else .ok data
  | .gzip =>
    if data.length > c.maxUncompressedSize then
      raiseSnapshot s!"uncompressed size {data.length} exceeds max {c.maxUncompressedSize}"
    else
      let compressed := Gzip.compress data
      if compressed.length > c.maxCompressedSize then
        raiseSnapshot s!"compressed size {compressed.length} exceeds max {c.maxCompressedSize}"
      else .ok compressed
  | .zstd => .error (.notImplemented "zstd not available")

def decompress (c : CompressionHandler) (data : Bytes) (algorithm : CompressionAlgorithm) :
    Except SnapshotError Bytes :=
  match algorithm with
  | .none => .ok data
  | .gzip => do
    let decompressed ← Gzip.decompress data
    if decompressed.length > c.maxUncompressedSize then
      raiseSnapshot s!"uncompressed size {decompressed.length} exceeds max {c.maxUncompressedSize}"
    else
      let ratio := FloatDivision.divide decompressed.length data.length
      if 0 < data.length ∧ ratio > c.maxExpansionRatio then
        raiseSnapshot (s!"expansion ratio {FloatDivision.twoPlaces ratio} exceeds max " ++
          FloatDivision.text c.maxExpansionRatio)
      else .ok decompressed
  | .zstd => .error (.notImplemented "zstd not available")

/-- A handler for content of a known size that is compressed to a known size. -/
def sized (c : CompressionHandler) (contentSize compressedSize : ℕ) : CompressionHandler := { c with
  maxUncompressedSize := contentSize
  maxExpansionRatio :=
    max c.maxExpansionRatio (FloatDivision.divide contentSize (max 1 compressedSize)) }

end CompressionHandler

/-! ## The verifier -/

structure VerificationResult where
  valid : Bool
  chunkCountOk : Bool
  chunkRootOk : Bool
  contentHashOk : Bool
  stateHashOk : Bool
  errors : List String

omit [Gzip] [FloatDivision] in
def verifyChunkRoot (chunks : List SnapshotChunk) (expectedChunkRoot : String) :
    Except PyError Bool :=
  if chunks.isEmpty then .ok true
  else if chunks.any (!verifyChunk ·) then .ok false
  else do
    let root ← rootHash (chunks.map (·.chunkHash))
    return root == expectedChunkRoot

def contentOf (handler : CompressionHandler) (chunks : List SnapshotChunk)
    (compression : CompressionAlgorithm) (contentSize : ℕ) : Except SnapshotError Bytes :=
  match reassemble chunks with
  | .error e => .error (.python e)
  | .ok reassembled =>
    (handler.sized contentSize reassembled.length).decompress reassembled compression

/-- `verify_content_hash` with the size of the content. A broken stream whose error is no `OSError`
or `ValueError` raises. -/
def verifyContentHash (chunks : List SnapshotChunk) (expectedContentHash : String)
    (compression : CompressionAlgorithm) (expectedContentSize : ℕ) : Except SnapshotError Bool :=
  let compressor : CompressionHandler := {}
  if chunks.isEmpty then .ok (hexDigest [] == expectedContentHash)
  else if expectedContentSize > compressor.maxUncompressedSize then .ok false
  else
    match contentOf compressor chunks compression expectedContentSize with
    | .ok content =>
      .ok (content.length == expectedContentSize && hexDigest content == expectedContentHash)
    | .error (.other message) => .error (.other message)
    | .error (.python e) => if e.kind = .value then .ok false else .error (.python e)
    | .error _ => .ok false

def verifyComplete (manifest : SnapshotManifest) (chunks : List SnapshotChunk)
    (canonicalStateHash : String) : Except SnapshotError VerificationResult :=
  match verifyChunkRoot chunks manifest.chunkRoot with
  | .error e => .error (.python e)
  | .ok chunkRootOk => do
    let contentHashOk ← verifyContentHash chunks manifest.snapshotContentHash manifest.compression
      manifest.snapshotContentSize
    let chunkCountOk := chunks.length == manifest.chunkCount
    let stateHashOk := manifest.applicationStateHash == canonicalStateHash
    return {
      valid := chunkCountOk && chunkRootOk && contentHashOk && stateHashOk
      chunkCountOk
      chunkRootOk
      contentHashOk
      stateHashOk
      errors :=
        (if chunkCountOk then []
          else [s!"chunk count mismatch: {chunks.length} != {manifest.chunkCount}"]) ++
        (if chunkRootOk then [] else ["chunk root mismatch"]) ++
        (if contentHashOk then [] else ["content hash mismatch"]) ++
        (if stateHashOk then [] else ["application state hash mismatch"]) }

end Compression

/-- Streams that are stored behind one byte. -/
@[reducible] def framedStreams : Gzip where
  compress data := 31 :: data
  decompress data := .ok data.tail

@[reducible] def exactDivision : FloatDivision where
  divide m n := m / n
  text _ := "10.0"
  twoPlaces _ := "10.00"

end AidnSpec.Snapshot
