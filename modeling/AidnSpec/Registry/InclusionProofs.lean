import AidnSpec.Registry.SegmentTree
import AidnSpec.Snapshot.Chunking

/-!
# Inclusion proofs

The two Merkle trees side by side: the tree of a registry segment, whose leaves and inner nodes are
digested under domains of their own, and the tree over the chunks of a snapshot, which marks
neither. Built proofs are accepted, and accepted proofs prove membership.
-/

namespace AidnSpec.Registry

open Base
open Snapshot (hexDigest rootHash getProof verifyProof proofMessages treeMessages)

/-- A `SegmentManifest`. -/
structure SegmentManifest where
  segmentId : String
  objectType : String := "*"
  profileVersion : String := "registry-inventory.v1"
  startEpoch : Int
  endEpoch : Int
  startBlock : Option Int := none
  endBlock : Option Int := none
  objectIds : List String := []
  contentHashes : List String := []
  contentSizes : List Int := []
  objectCount : Int := 0
  totalBytes : Int := 0
  totalContentSize : Int := 0
  objectIdRoot : String := ""
  contentHashRoot : String := ""
  contentMerkleRoot : String := ""
  merkleProfileVersion : String := "segment-merkle.v1"
  firstObjectId : Option String := none
  lastObjectId : Option String := none
  generatedAtHeight : Option Int := none
  generation : Int := 1
  manifestHash : String := ""
  manifestId : String := ""

namespace SegmentManifest

def buildMerkleProof (m : SegmentManifest) (objectId : String) :
    Except PyError SegmentMerkleProof := do
  require (m.merkleProfileVersion == "segment-merkle.v1")
    "segment does not support the Merkle proof profile"
  Registry.buildMerkleProof m.objectIds m.contentHashes m.contentSizes objectId

/-- The parallel lists of a segment are those of the entries. -/
structure Lists (m : SegmentManifest) (entries : List SegmentEntry) : Prop where
  ids : m.objectIds = entries.map (·.objectId)
  hashes : m.contentHashes = entries.map (·.contentHash)
  sizes : m.contentSizes = entries.map (·.contentSize)

/-- When a segment builds a proof, and what the proof proves. -/
theorem buildMerkleProof_spec {m : SegmentManifest} {entries : List SegmentEntry} {i : ℕ}
    {e : SegmentEntry} (lists : m.Lists entries) (hentry : entries[i]? = some e)
    (hindex : (entries.map (·.objectId)).idxOf e.objectId = i) :
    match m.buildMerkleProof e.objectId with
    | .ok proof => ProvesEntry entries i proof
    | .error _ => m.merkleProfileVersion ≠ "segment-merkle.v1" ∨
        (∃ other ∈ entries, other.writable = false) ∨ e.objectId.isEmpty = true ∨
        e.contentHash.isEmpty = true ∨ e.contentSize < 0 := by
  rw [buildMerkleProof, lists.ids, lists.hashes, lists.sizes]
  by_cases hprofile : m.merkleProfileVersion = "segment-merkle.v1"
  · have hspec := Registry.buildMerkleProof_spec hentry hindex
    rw [beq_iff_eq.mpr hprofile]
    show match Registry.buildMerkleProof _ _ _ _ with
      | .ok proof => _
      | .error _ => _
    revert hspec
    cases Registry.buildMerkleProof (entries.map (·.objectId)) (entries.map (·.contentHash))
        (entries.map (·.contentSize)) e.objectId with
    | ok proof => exact id
    | error complaint => exact .inr
  · rw [beq_eq_false_iff_ne.mpr hprofile]
    exact .inl hprofile

end SegmentManifest

/-- The proofs that a segment and a chunk tree build are accepted. An accepted proof of a segment
carries an entry of the list whose root it names, whatever its siblings, its index and its count
are. A leaf accepted against the root over chunk hashes is one of them, when the siblings have 32
bytes and no payload that is hashed has 64. -/
theorem inclusion_proofs_complete_and_sound :
    (∀ (m : SegmentManifest) (entries : List SegmentEntry) (i : ℕ) (e : SegmentEntry),
      m.Lists entries → entries[i]? = some e →
      (entries.map (·.objectId)).idxOf e.objectId = i →
      match m.buildMerkleProof e.objectId with
      | .ok proof => ProvesEntry entries i proof
      | .error _ => m.merkleProfileVersion ≠ "segment-merkle.v1" ∨
          (∃ other ∈ entries, other.writable = false) ∨ e.objectId.isEmpty = true ∨
          e.contentHash.isEmpty = true ∨ e.contentSize < 0) ∧
    (∀ (leaves : List String) (index : ℕ) (leaf : String), leaves[index]? = some leaf →
      match rootHash leaves with
      | .ok root =>
        ∃ proof, getProof leaves index = .ok proof ∧ verifyProof leaf proof root = .ok true
      | .error e => getProof leaves index = .error e) ∧
    (∀ (proof : SegmentMerkleProof) (entries : List SegmentEntry) (leaves : List String),
      DigestsApart (proof.payloads ++ rootPayloads entries) →
      entries.mapM merkleLeafHash = .ok leaves → proof.rootHash = merkleRoot leaves →
      verifySegmentMerkleProof proof = .ok true →
      ∃ e ∈ entries, e.objectId = proof.objectId ∧ e.contentHash = proof.contentHash ∧
        e.contentSize = proof.contentSize) ∧
    ∀ (payload : Bytes) (payloads : List Bytes) (proof : List (String × String)) (root : String),
      CollisionFree (proofMessages payload proof ++ treeMessages payloads) →
      (∀ step ∈ proof, ∃ bytes, fromHex step.1 = some bytes ∧ bytes.length = 32) →
      payload.length ≠ 64 → (∀ listed ∈ payloads, listed.length ≠ 64) →
      rootHash (payloads.map hexDigest) = .ok root →
      verifyProof (hexDigest payload) proof root = .ok true →
      hexDigest payload ∈ payloads.map hexDigest := by
  refine ⟨fun m entries i e => SegmentManifest.buildMerkleProof_spec,
    fun leaves index leaf => Snapshot.getProof_verified, ?_,
    fun payload payloads proof root => Snapshot.mem_of_verifyProof⟩
  intro proof entries leaves apart hleaves hroot accepted
  obtain ⟨hwritable, rfl⟩ := mapM_merkleLeafHash_eq_ok.mp hleaves
  exact ⟨proof.entry, entry_mem_of_accepted apart hwritable hroot accepted, rfl, rfl, rfl⟩

/-! ## Two leaves -/

def firstEntry : SegmentEntry := ⟨"a", "1", 1⟩

def secondEntry : SegmentEntry := ⟨"b", "2", 2⟩

def pairSegment : SegmentManifest where
  segmentId := "s"
  startEpoch := 0
  endEpoch := 0
  objectIds := ["a", "b"]
  contentHashes := ["1", "2"]
  contentSizes := [1, 2]

def secondProof : SegmentMerkleProof where
  objectId := "b"
  contentHash := "2"
  contentSize := 2
  leafHash := secondEntry.leaf
  leafIndex := 1
  leafCount := 2
  siblings := [⟨"left", firstEntry.leaf, isEmpty_jsonDigest _⟩]
  rootHash := merkleParent firstEntry.leaf secondEntry.leaf
  named := by
    simp only [List.forall_mem_cons]
    exact ⟨rfl, rfl, isEmpty_jsonDigest _, isEmpty_jsonDigest _,
      fun text h => (List.not_mem_nil h).elim⟩
  counted := by decide

theorem apart_secondProof :
    DigestsApart (secondProof.payloads ++ rootPayloads [firstEntry, secondEntry]) := by
  show DigestsApart [.dict secondEntry.payload,
    .dict (parentPayload firstEntry.leaf secondEntry.leaf), .dict emptyPayload,
    .dict firstEntry.payload, .dict secondEntry.payload,
    .dict (parentPayload firstEntry.leaf secondEntry.leaf)]
  simp only [SegmentEntry.leaf, jsonDigest_eq_ordered]
  decide +kernel

theorem accepts_secondProof : verifySegmentMerkleProof secondProof = .ok true :=
  accepts_made rfl rfl rfl rfl (by decide) rfl rfl

/-- The root over the chunks `1` and `2`. -/
theorem rootHash_pair : rootHash ([[1], [2]].map hexDigest) =
    .ok (Snapshot.joinHex (hexDigest [1]) (hexDigest [2])) := by
  rw [(Snapshot.decodes_hexDigest [[1], [2]]).rootHash_eq (show _[0]? = _ from rfl)]
  rfl

theorem accepts_secondChunk : verifyProof (hexDigest [2]) [(hexDigest [1], "left")]
    (Snapshot.joinHex (hexDigest [1]) (hexDigest [2])) = .ok true := by
  have hfollow := @Snapshot.followProof_map (hexDigest [2]) [(.left, hexDigest [1])]
    (fun _ => by rw [Snapshot.fromHex_hexDigest]; rfl) (fun s hs => by
      obtain rfl := List.mem_singleton.mp hs
      rw [Snapshot.fromHex_hexDigest]
      rfl)
  rw [verifyProof, show [(hexDigest [1], "left")] =
    [(Side.left, hexDigest [1])].map Snapshot.proofStep from rfl, hfollow]
  exact congrArg Except.ok (beq_self_eq_true _)

/-- Both trees over two leaves: the proofs for the second leaf are built and accepted, and what is
accepted is listed. -/
theorem inclusion_proofs_of_pairs :
    (∃ proof, pairSegment.buildMerkleProof "b" = .ok proof ∧
      verifySegmentMerkleProof proof = .ok true) ∧
    (∃ root proof, rootHash ([[1], [2]].map hexDigest) = .ok root ∧
      getProof ([[1], [2]].map hexDigest) 1 = .ok proof ∧
      verifyProof (hexDigest [2]) proof root = .ok true) ∧
    (∃ e ∈ [firstEntry, secondEntry], e.objectId = secondProof.objectId) ∧
    hexDigest [2] ∈ [[1], [2]].map hexDigest := by
  obtain ⟨segments, chunks, entries, payloads⟩ := inclusion_proofs_complete_and_sound
  have hwritable : ∀ e ∈ [firstEntry, secondEntry], e.writable = true := by decide
  have hbuilt := segments pairSegment [firstEntry, secondEntry] 1 secondEntry ⟨rfl, rfl, rfl⟩ rfl
    (by decide)
  have hchunk := chunks ([[1], [2]].map hexDigest) 1 (hexDigest [2]) rfl
  rw [rootHash_pair] at hchunk
  obtain ⟨proof, hproof, haccepted⟩ := hchunk
  refine ⟨?_, ⟨_, proof, rootHash_pair, hproof, haccepted⟩, ?_, ?_⟩
  · split at hbuilt
    · next proof hproof => exact ⟨proof, hproof, hbuilt.accepted⟩
    · rcases hbuilt with h | ⟨e, he, h⟩ | h | h | h
      · exact absurd rfl h
      · rw [hwritable e he] at h
        cases h
      · cases h
      · cases h
      · exact absurd h (by decide)
  · obtain ⟨e, he, hid, -⟩ := entries secondProof [firstEntry, secondEntry] _ apart_secondProof
      (mapM_merkleLeafHash_eq_ok.mpr ⟨hwritable, rfl⟩) rfl accepts_secondProof
    exact ⟨e, he, hid⟩
  · refine payloads [2] [[1], [2]] [(hexDigest [1], "left")] _ (by decide +kernel) ?_ (by decide)
      (by decide) rootHash_pair accepts_secondChunk
    intro step hstep
    obtain rfl := List.mem_singleton.mp hstep
    exact ⟨sha256 [1], Snapshot.fromHex_hexDigest [1], length_sha256 _⟩

end AidnSpec.Registry
