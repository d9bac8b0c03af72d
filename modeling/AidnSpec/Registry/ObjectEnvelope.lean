import AidnSpec.Base.Conversions
import AidnSpec.Base.JsonRoundTrip

/-!
# Registry objects

`registry/object_envelope.py:11–166` and the retention classes of `registry/retention.py:11–19`: the
envelope around the payload of an object, its integrity check and the values it is dumped to and
read from.
-/

namespace AidnSpec.Registry

open Base

inductive RegistryRetentionClass where
  | ephemeral
  | sessionBound
  | recent
  | activeLifecycle
  | longTerm
  | permanentArchive

def RegistryRetentionClass.toText : RegistryRetentionClass → String
  | .ephemeral => "EPHEMERAL"
  | .sessionBound => "SESSION_BOUND"
  | .recent => "RECENT"
  | .activeLifecycle => "ACTIVE_LIFECYCLE"
  | .longTerm => "LONG_TERM"
  | .permanentArchive => "PERMANENT_ARCHIVE"

def RegistryRetentionClass.ofText : String → Option RegistryRetentionClass
  | "EPHEMERAL" => some .ephemeral
  | "SESSION_BOUND" => some .sessionBound
  | "RECENT" => some .recent
  | "ACTIVE_LIFECYCLE" => some .activeLifecycle
  | "LONG_TERM" => some .longTerm
  | "PERMANENT_ARCHIVE" => some .permanentArchive
  | _ => none

inductive LedgerCommitmentClass where
  | finalizedBlock
  | ledgerOperation
  | operationResult
  | stateSnapshot
  | advertisement
  | validationReport
  | sessionSettlement
  | sessionFailure
  | usageReport
  | reputationProfile
  | epochRecord
  | consensusCommitment
  | registryProfile
  | derived

/-- A `RegistryObjectEnvelope`: its access class has at least one character. Its version is the
only one there is. -/
structure RegistryObjectEnvelope where
  objectId : String
  objectType : String
  nameSpace : String := "default"
  protocolVersion : String := "1.0.0"
  contentHash : String := ""
  contentSize : Int := 0
  createdEpoch : Option Int := none
  createdBlockHeight : Option Int := none
  ledgerCommitment : Option LedgerCommitmentClass := none
  parentReferences : List String := []
  previousVersionReference : Option String := none
  payloadEncoding : String := "json"
  compression : Option String := none
  retentionClass : RegistryRetentionClass := .activeLifecycle
  accessClass : String := "PUBLIC_COMMITMENT"
  expirationEpoch : Option ℕ := none
  createdAt : Option String := none
  payload : Fields := []
  producerSignature : Option String := none
  accessible : accessClass.isEmpty = false := by decide

namespace RegistryObjectEnvelope

def canonicalPayloadBytes (payload : Fields) : Except PyError Bytes :=
  if (PyValue.dict payload).dumpable then .ok (asciiBytes (canonicalText (.dict payload)))
  else raiseValue "Exceeds the limit (4300 digits) for integer string conversion"

/-- `hmac.compare_digest` on texts: it raises on a text that is not ASCII. -/
def compareDigest (a b : String) : Except PyError Bool :=
  if a.toList.all (·.toNat < 128) && b.toList.all (·.toNat < 128) then .ok (a == b)
  else raiseType "comparing strings with non-ASCII characters is not supported"

/-- `RegistryObjectEnvelope.verify_integrity`. A payload that cannot be written fails the check,
a content hash that is not ASCII raises. -/
def verifyIntegrity (x : RegistryObjectEnvelope) : Except PyError Bool :=
  if x.objectId.isEmpty || x.objectType.isEmpty || x.contentSize < 0 then .ok false
  else
    match canonicalPayloadBytes x.payload with
    | .error _ => .ok false
    | .ok canonical => do
      let same ← compareDigest (hexEncode false (sha256 canonical)) x.contentHash
      return same && (canonical.length : Int) == x.contentSize

end RegistryObjectEnvelope

end AidnSpec.Registry
