import AidnSpec.Snapshot.DownloadSessions
import AidnSpec.Snapshot.Invariants
import AidnSpec.Snapshot.Verification

/-!
# Applying a snapshot

`snapshot/orchestrator.py`: a snapshot is downloaded, loaded, verified, restored and checked, and
then activated. The activator is touched by the last step only.
-/

namespace AidnSpec.Snapshot

open Base

structure SnapshotApplyResult where
  success : Bool
  phase : String
  download : Option DownloadResult := none
  verification : Option VerificationResult := none
  restoration : Option RestorationResult := none
  invariants : Option InvariantCheckResult := none
  activation : Option ActivationResult := none
  error : Option String := none

/-- An `OSError` or a `ValueError`. -/
def SnapshotError.isHandled : SnapshotError → Bool
  | .python e => e.kind = .value
  | .os _ => true
  | .notImplemented _ => false
  | .other _ => false

/-- A `NotImplementedError`. -/
def SnapshotError.isNotImplemented : SnapshotError → Bool
  | .notImplemented _ => true
  | _ => false

/-- What one application is called with. -/
structure Application where
  maxRetryCount : ℕ
  answers : Answers
  now : String
  activatedAt : String
  activationId : String
  manifest : SnapshotManifest
  providers : List String
  canonicalStateHash : String
  session : Option DownloadSession

namespace Application

section Stages

variable [Runtime] [FloatReader] [Conversions] [Gzip] [FloatDivision] [FloatSum]

omit [Runtime] [FloatReader] [Conversions] [Gzip] [FloatDivision] [FloatSum] in
def validateSessionManifest (session : DownloadSession) (manifest : SnapshotManifest) :
    Except PyError Unit :=
  require (session.snapshotId == manifest.snapshotId &&
    session.manifestHash == manifest.manifestHash &&
    session.expectedChunkRoot == manifest.chunkRoot &&
    session.verifiedChunkBitmap.length == manifest.chunkCount)
    "download session is not bound to the supplied manifest"

/-- The download, or the resumption of a session that is bound to the manifest. -/
def fetched (x : Application) (store : FileSnapshotChunkStore) :
    Except SnapshotError DownloadResult × FileSnapshotChunkStore :=
  match x.session with
  | none =>
    download x.maxRetryCount x.answers x.now x.manifest.snapshotId x.manifest x.providers store
  | some session =>
    match validateSessionManifest session x.manifest with
    | .error e => (.error (.python e), store)
    | .ok () => resume x.maxRetryCount x.answers x.now session x.providers store

def decodeContent (manifest : SnapshotManifest) (chunks : List SnapshotChunk) :
    Except SnapshotError Bytes :=
  match reassemble chunks with
  | .error e => .error (.python e)
  | .ok compressed =>
    if manifest.snapshotContentSize > 10737418240 then
      raiseSnapshot "snapshot exceeds the maximum supported uncompressed size"
    else do
      let handler : CompressionHandler := {}
      let content ← (handler.sized manifest.snapshotContentSize compressed.length).decompress
        compressed manifest.compression
      if content.length ≠ manifest.snapshotContentSize then
        raiseSnapshot "decompressed snapshot size does not match manifest"
      else .ok content

def restored (manifest : SnapshotManifest) (chunks : List SnapshotChunk) :
    Except SnapshotError (RestorationResult × StagingStateStore) := do
  let content ← decodeContent manifest chunks
  lifted (restore content)

/-- `apply` with a state that was restored. -/
def activateStaging (x : Application) (soFar : SnapshotApplyResult) (staging : StagingStateStore)
    (a : AtomicActivator) : Except SnapshotError SnapshotApplyResult × AtomicActivator :=
  match checkAll staging with
  | .error e => (.error (.python e), a)
  | .ok invariants =>
    let checked := { soFar with invariants := some invariants }
    if !invariants.valid then
      (.ok { checked with
        phase := "invariants", error := some ("; ".intercalate invariants.violations) }, a)
    else
      match a.prepare staging x.canonicalStateHash with
      | (.error e, a') => (.error (.python e), a')
      | (.ok false, a') =>
        (.ok { checked with
          phase := "activation"
          error := some "staging state was not accepted for activation" }, a')
      | (.ok true, a') =>
        let (activation, a'') := a'.activate x.activatedAt x.activationId
        (.ok { checked with
          success := activation.success
          phase := if activation.success then "activated" else "activation"
          activation := some activation
          error := activation.error }, a'')

/-- `apply` with chunks that were loaded. -/
def applyChunks (x : Application) (result : DownloadResult) (chunks : List SnapshotChunk)
    (a : AtomicActivator) : Except SnapshotError SnapshotApplyResult × AtomicActivator :=
  match verifyComplete x.manifest chunks x.canonicalStateHash with
  | .error e => (.error e, a)
  | .ok verification =>
    let verified : SnapshotApplyResult :=
      { success := false, phase := "verification", download := some result,
        verification := some verification }
    if !verification.valid then
      (.ok { verified with error := some ("; ".intercalate verification.errors) }, a)
    else
      match restored x.manifest chunks with
      | .error e =>
        if e.isHandled || e.isNotImplemented then
          (.ok { verified with phase := "restoration", error := some e.message }, a)
        else (.error e, a)
      | .ok (restoration, staging) =>
        let soFar := { verified with restoration := some restoration }
        if restoration.applicationStateHash ≠ x.canonicalStateHash then
          (.ok { soFar with
            phase := "restoration"
            error := some "restored state hash does not match the trusted checkpoint" }, a)
        else x.activateStaging soFar staging a

/-- `SnapshotOrchestrator.apply`, on the activator and the chunk store. -/
def apply (x : Application) (a : AtomicActivator) (store : FileSnapshotChunkStore) :
    Except SnapshotError SnapshotApplyResult × AtomicActivator × FileSnapshotChunkStore :=
  match x.fetched store with
  | (.error e, store') =>
    if e.isHandled then
      (.ok { success := false, phase := "download", error := some e.message }, a, store')
    else (.error e, a, store')
  | (.ok result, store') =>
    if !result.success then
      (.ok { success := false, phase := "download", download := some result,
             error := some (result.error.getD "snapshot download is incomplete") }, a, store')
    else
      match loadVerifiedChunks store' result.session with
      | .error e =>
        if e.kind = .value then
          (.ok { success := false, phase := "storage", download := some result,
                 error := some e.message }, a, store')
        else (.error (.python e), a, store')
      | .ok chunks =>
        let (outcome, a') := x.applyChunks result chunks a
        (outcome, a', store')

end Stages

end Application

end AidnSpec.Snapshot
