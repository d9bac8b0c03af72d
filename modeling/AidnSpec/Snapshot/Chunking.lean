import AidnSpec.Base.PairTree
import AidnSpec.Consensus.SnapshotFiles

/-!
# Chunks of a snapshot

`snapshot/chunking.py`: content cut into chunks and put together again, and the Merkle tree over the
hashes of the chunks. The tree joins the bytes of two hexadecimal texts and marks neither leaves nor
inner nodes.
-/

namespace AidnSpec.Snapshot

open Base PairTree List
open Consensus.StateStore (slices)

/-- `hashlib.sha256(payload).hexdigest()`. -/
def hexDigest (payload : Bytes) : String := hexEncode false (sha256 payload)

/-- A `SnapshotChunk`: its index is below its total. -/
structure SnapshotChunk where
  snapshotId : String
  chunkIndex : ℕ
  totalChunks : ℕ
  uncompressedSize : ℕ
  compressedSize : ℕ
  chunkHash : String
  payload : Bytes
  index_lt : chunkIndex < totalChunks

/-- `Chunker.split` over the payloads that are left, `index` of them cut before. -/
def splitFrom (snapshotId : String) (total : ℕ) :
    List Bytes → ℕ → Except PyError (List SnapshotChunk)
  | [], _ => .ok []
  | payload :: rest, index =>
    if h : index < total then do
      let chunks ← splitFrom snapshotId total rest (index + 1)
      return ⟨snapshotId, index, total, payload.length, payload.length, hexDigest payload, payload,
        h⟩ :: chunks
    else raiseValue "validation error for SnapshotChunk"

/-- `Chunker.split`. A chunk size of zero divides by zero, and a negative one cuts nothing. -/
def split (chunkSize : Int) (data : Bytes) (snapshotId : String) :
    Except PyError (List SnapshotChunk) :=
  if data.isEmpty then .ok []
  else if chunkSize = 0 then .error ⟨.overflow, "integer division or modulo by zero"⟩
  else if chunkSize < 0 then .ok []
  else splitFrom snapshotId ((data.length + chunkSize.toNat - 1) / chunkSize.toNat)
    (slices chunkSize.toNat data) 0

/-- The loop of `Chunker.reassemble`; `index` chunks have been seen. -/
def reassembleFrom : List SnapshotChunk → ℕ → Except PyError Bytes
  | [], _ => .ok []
  | chunk :: rest, index =>
    if chunk.chunkIndex < index then raiseValue s!"duplicate chunk index {chunk.chunkIndex}"
    else if chunk.chunkIndex ≠ index then
      raiseValue s!"chunks out of order: expected index {index}, got {chunk.chunkIndex}"
    else do
      let content ← reassembleFrom rest (index + 1)
      return chunk.payload ++ content

/-- `Chunker.reassemble`: the indices seen before are those below the position. -/
def reassemble (chunks : List SnapshotChunk) : Except PyError Bytes := reassembleFrom chunks 0

def verifyChunk (chunk : SnapshotChunk) : Bool := chunk.chunkHash == hexDigest chunk.payload

/-! ## The Merkle tree -/

/-- `bytes.fromhex`, which raises. -/
def fromHexOrRaise (text : String) : Except PyError Bytes :=
  match fromHex text with
  | some bytes => .ok bytes
  | none => raiseValue "non-hexadecimal number found in fromhex() arg"

/-- `sha256(bytes.fromhex(left) + bytes.fromhex(right)).hexdigest()`. -/
def merkleParent (left right : String) : Except PyError String := do
  let first ← fromHexOrRaise left
  let second ← fromHexOrRaise right
  return hexDigest (first ++ second)

def nextLevel (nodes : List String) : Except PyError (List String) :=
  (pairs nodes).mapM fun p => merkleParent p.1 p.2

/-- The loop of `root_hash`: the fuel is the number of leaves. -/
def apex : ℕ → List String → Except PyError (List String)
  | 0, nodes => .ok nodes
  | fuel + 1, nodes =>
    if 1 < nodes.length then do
      let level ← nextLevel nodes
      apex fuel level
    else .ok nodes

/-- `MerkleTree(leaf_hashes).root_hash()`. -/
def rootHash (leaves : List String) : Except PyError String := do
  require (!leaves.isEmpty) "leaf_hashes must contain at least one hash"
  let nodes ← apex leaves.length leaves
  match nodes with
  | root :: _ => return root
  | [] => .error ⟨.key, "list index out of range"⟩

/-- The loop of `get_proof`. -/
def proofFrom : ℕ → List String → ℕ → Except PyError (List (String × String))
  | 0, _, _ => .ok []
  | fuel + 1, nodes, index =>
    match nodes[index]? with
    | some node =>
      if 1 < nodes.length then do
        let level ← nextLevel nodes
        let rest ← proofFrom fuel level (index / 2)
        -- the last node of an odd level stands in the level twice
        return (if index % 2 = 0 then (nodes[index + 1]?.getD node, "right")
          else (nodes[index - 1]?.getD node, "left")) :: rest
      else .ok []
    | none => .error ⟨.key, "list index out of range"⟩

/-- `MerkleTree(leaf_hashes).get_proof(leaf_index)`. -/
def getProof (leaves : List String) (leafIndex : ℕ) : Except PyError (List (String × String)) := do
  require (!leaves.isEmpty) "leaf_hashes must contain at least one hash"
  -- an `IndexError` is a `LookupError`, as a `KeyError` is
  if leafIndex < leaves.length then proofFrom leaves.length leaves leafIndex
  else .error ⟨.key, s!"leaf_index {leafIndex} out of range"⟩

/-- One step of `verify_proof`: a sibling that is not on the left is on the right. -/
def followStep (current : String) (step : String × String) : Except PyError String :=
  if step.2 = "left" then merkleParent step.1 current else merkleParent current step.1

/-- The loop of `verify_proof`. -/
def followProof : List (String × String) → String → Except PyError String
  | [], current => .ok current
  | step :: proof, current => do
    let parent ← followStep current step
    followProof proof parent

def verifyProof (leafHash : String) (proof : List (String × String)) (root : String) :
    Except PyError Bool := do
  let current ← followProof proof leafHash
  return current == root

/-! ## Hexadecimal nodes and the bytes they stand for -/

def bytesOf (text : String) : Bytes := (fromHex text).getD []

/-- The join of two texts that both decode. -/
def joinHex (left right : String) : String := hexDigest (bytesOf left ++ bytesOf right)

/-- The join of the bytes that two texts stand for. -/
def joinBytes (left right : Bytes) : Bytes := sha256 (left ++ right)

/-- Every node is a hexadecimal text. -/
def Decodes (nodes : List String) : Prop := ∀ node ∈ nodes, (fromHex node).isSome = true

@[simp] theorem fromHex_hexDigest (payload : Bytes) :
    fromHex (hexDigest payload) = some (sha256 payload) :=
  fromHex_hexEncode false _

@[simp] theorem bytesOf_hexDigest (payload : Bytes) :
    bytesOf (hexDigest payload) = sha256 payload := by
  rw [bytesOf, fromHex_hexDigest]
  rfl

theorem length_joinBytes (left right : Bytes) : (joinBytes left right).length = 32 :=
  length_sha256 _

theorem bytesOf_joinHex (left right : String) :
    bytesOf (joinHex left right) = joinBytes (bytesOf left) (bytesOf right) :=
  bytesOf_hexDigest _

theorem merkleParent_eq_ok {left right : String} (hleft : (fromHex left).isSome = true)
    (hright : (fromHex right).isSome = true) :
    merkleParent left right = .ok (joinHex left right) := by
  obtain ⟨first, hfirst⟩ := Option.isSome_iff_exists.mp hleft
  obtain ⟨second, hsecond⟩ := Option.isSome_iff_exists.mp hright
  simp only [merkleParent, fromHexOrRaise, joinHex, bytesOf, hfirst, hsecond, Option.getD_some]
  rfl

variable {nodes : List String} {index : ℕ} {leaf root : String} {proof : List (String × String)}
  {payloads : List Bytes}

theorem Decodes.nextLevel (h : Decodes nodes) :
    Snapshot.nextLevel nodes = .ok (PairTree.nextLevel joinHex nodes) := by
  rw [Snapshot.nextLevel, ← map_id (pairs nodes)]
  apply mapM_map_ok
  intro p hp
  obtain ⟨hfirst, hsecond⟩ := mem_of_mem_pairs hp
  exact merkleParent_eq_ok (h _ hfirst) (h _ hsecond)

theorem decodes_joinHex (left right : String) : (fromHex (joinHex left right)).isSome = true := by
  rw [joinHex, fromHex_hexDigest]
  rfl

theorem decodes_nextLevel (nodes : List String) : Decodes (PairTree.nextLevel joinHex nodes) := by
  intro node hnode
  obtain ⟨p, -, rfl⟩ := mem_map.mp hnode
  exact decodes_joinHex p.1 p.2

/-- On texts that decode the tree is the tree of the joins. -/
theorem Decodes.apex (h : Decodes nodes) (fuel : ℕ) :
    Snapshot.apex fuel nodes = .ok (PairTree.apex joinHex fuel nodes) := by
  induction fuel generalizing nodes with
  | zero => rfl
  | succ fuel ih =>
    rw [Snapshot.apex, PairTree.apex]
    split
    · rw [h.nextLevel]
      exact ih (decodes_nextLevel nodes)
    · rfl

/-- The root of texts that decode is where the path of any leaf leads. -/
theorem Decodes.rootHash_eq (h : Decodes nodes) (hleaf : nodes[index]? = some leaf) :
    rootHash nodes =
      .ok (walk joinHex (PairTree.siblings joinHex nodes.length nodes index) leaf) := by
  have hne : (!nodes.isEmpty) = true := by
    cases nodes with
    | nil => cases hleaf
    | cons _ _ => rfl
  rw [rootHash, hne, h.apex, apex_eq_walk joinHex hleaf (Nat.le_refl _)]
  rfl

/-- Hashes of payloads decode. -/
theorem decodes_hexDigest (payloads : List Bytes) : Decodes (payloads.map hexDigest) := by
  intro node hnode
  obtain ⟨payload, -, rfl⟩ := mem_map.mp hnode
  rw [fromHex_hexDigest]
  rfl

/-- A sibling as `get_proof` lists it. -/
def proofStep (sibling : Side × String) : String × String :=
  match sibling.1 with
  | .left => (sibling.2, "left")
  | .right => (sibling.2, "right")

theorem Decodes.proofFrom (h : Decodes nodes) (hindex : index < nodes.length) (fuel : ℕ) :
    Snapshot.proofFrom fuel nodes index =
      .ok ((PairTree.siblings joinHex fuel nodes index).map proofStep) := by
  induction fuel generalizing nodes index with
  | zero => rfl
  | succ fuel ih =>
    rw [Snapshot.proofFrom, PairTree.siblings, getElem?_eq_getElem hindex]
    dsimp only
    split
    · have hlength := length_nextLevel joinHex nodes
      rw [h.nextLevel]
      show (Snapshot.proofFrom fuel (PairTree.nextLevel joinHex nodes) (index / 2) >>= _) = _
      rw [ih (decodes_nextLevel nodes) (by omega), map_cons, PairTree.sibling]
      by_cases hodd : index % 2 = 1
      · rw [if_pos hodd]
        simp only [show ¬ index % 2 = 0 by omega]
        rfl
      · rw [if_neg hodd]
        simp only [show index % 2 = 0 by omega]
        rfl
    · rfl

/-- Following siblings that decode is the walk along them. -/
theorem followProof_map {path : List (Side × String)}
    (hleaf : path ≠ [] → (fromHex leaf).isSome = true)
    (hpath : ∀ s ∈ path, (fromHex s.2).isSome = true) :
    followProof (path.map proofStep) leaf = .ok (walk joinHex path leaf) := by
  induction path generalizing leaf with
  | nil => rfl
  | cons first path ih =>
    obtain ⟨side, sibling⟩ := first
    have hsibling := hpath _ mem_cons_self
    have hrest : ∀ parent : String, (fromHex parent).isSome = true →
        followProof (path.map proofStep) parent = .ok (walk joinHex path parent) :=
      fun parent hparent => ih (fun _ => hparent) fun s hs => hpath s (mem_cons_of_mem _ hs)
    have hdecoded := hleaf (cons_ne_nil _ _)
    cases side with
    | left =>
      simp only [map_cons, proofStep, followProof, followStep, if_true,
        merkleParent_eq_ok hsibling hdecoded]
      exact hrest _ (decodes_joinHex _ _)
    | right =>
      simp only [map_cons, proofStep, followProof, followStep,
        if_neg (show "right" ≠ "left" by decide), merkleParent_eq_ok hdecoded hsibling]
      exact hrest _ (decodes_joinHex _ _)

/-- A node that does not decode stops the first level. -/
theorem nextLevel_eq_error (h : ¬ Decodes nodes) : ∃ e, nextLevel nodes = .error e := by
  cases hnext : nextLevel nodes with
  | error e => exact ⟨e, rfl⟩
  | ok level =>
    refine absurd ?_ h
    intro node hnode
    obtain ⟨p, hp, hside⟩ := exists_pair_of_mem hnode
    have hparent : ∀ (ps : List (String × String)) (parents : List String),
        ps.mapM (fun p => merkleParent p.1 p.2) = .ok parents →
        ∀ p ∈ ps, (fromHex p.1).isSome = true ∧ (fromHex p.2).isSome = true := by
      intro ps
      induction ps with
      | nil => exact fun _ _ p hp => by cases hp
      | cons q qs ih =>
        intro parents hparents p hp
        simp only [mapM_cons, bind_eq_ok, pure_eq_ok] at hparents
        obtain ⟨parent, hq, rest, hqs, -⟩ := hparents
        rcases mem_cons.mp hp with rfl | hp
        · simp only [merkleParent, bind_eq_ok] at hq
          obtain ⟨first, hfirst, second, hsecond, -⟩ := hq
          unfold fromHexOrRaise at hfirst hsecond
          constructor
          · cases hleft : fromHex p.1 with
            | none =>
              rw [hleft] at hfirst
              cases hfirst
            | some bytes => rfl
          · cases hright : fromHex p.2 with
            | none =>
              rw [hright] at hsecond
              cases hsecond
            | some bytes => rfl
        · exact ih rest hqs p hp
    obtain ⟨hfirst, hsecond⟩ := hparent _ _ hnext p hp
    rcases hside with rfl | rfl
    · exact hfirst
    · exact hsecond

/-- The proof that a tree gives for a leaf is accepted against its root. Where a leaf is no
hexadecimal text, the root and the proof raise alike. -/
theorem getProof_verified {leaves : List String} (hleaf : leaves[index]? = some leaf) :
    match rootHash leaves with
    | .ok root =>
      ∃ proof, getProof leaves index = .ok proof ∧ verifyProof leaf proof root = .ok true
    | .error e => getProof leaves index = .error e := by
  have hindex := (List.getElem?_eq_some_iff.mp hleaf).1
  have hne : (!leaves.isEmpty) = true := by
    cases leaves with
    | nil => cases hleaf
    | cons _ _ => rfl
  have hproof : getProof leaves index = proofFrom leaves.length leaves index := by
    rw [getProof, hne, if_pos hindex]
    rfl
  have hroot : rootHash leaves = (apex leaves.length leaves >>= fun nodes =>
      match nodes with
      | root :: _ => .ok root
      | [] => .error ⟨.key, "list index out of range"⟩) := by
    rw [rootHash, hne]
    rfl
  by_cases hdecodes : Decodes leaves
  · rw [hdecodes.rootHash_eq hleaf, hproof, hdecodes.proofFrom hindex]
    refine ⟨_, rfl, ?_⟩
    rw [verifyProof, followProof_map (fun _ => hdecodes leaf (mem_of_getElem? hleaf))
      (forall_mem_siblings decodes_joinHex hdecodes _ _)]
    exact congrArg Except.ok (beq_self_eq_true _)
  · by_cases hsingle : 1 < leaves.length
    · -- both loops build the first level, and both stop there
      obtain ⟨e, he⟩ := nextLevel_eq_error hdecodes
      obtain ⟨fuel, hfuel⟩ : ∃ fuel, leaves.length = fuel + 1 := ⟨leaves.length - 1, by omega⟩
      rw [hroot, hproof, hfuel, apex, proofFrom, hleaf, if_pos hsingle]
      simp only [if_pos hsingle, he]
      rfl
    · obtain ⟨only, rfl⟩ := length_eq_one_iff.mp (show leaves.length = 1 by omega)
      obtain rfl : index = 0 := by
        rw [length_singleton] at hindex
        omega
      obtain rfl : only = leaf := Option.some.inj hleaf
      rw [hroot, hproof]
      exact ⟨[], rfl, congrArg Except.ok (beq_self_eq_true only)⟩

/-! ## What an accepted proof proves -/

/-- A sibling as the bytes it stands for. -/
def byteStep (step : String × String) : Side × Bytes :=
  (if step.2 = "left" then .left else .right, bytesOf step.1)

def treeMessages (payloads : List Bytes) : List Bytes :=
  payloads ++ (joined joinBytes (payloads.map sha256)
    (halvings payloads.length payloads.length)).map fun p => p.1 ++ p.2

/-- The messages hashed while a proof is followed. -/
def proofMessages (payload : Bytes) (proof : List (String × String)) : List Bytes :=
  payload :: (walked joinBytes (proof.map byteStep) (sha256 payload)).map
    fun p => p.1 ++ p.2

/-- Where following a proof returns, it returns the walk over the bytes. -/
theorem bytesOf_followProof {current : String} (h : followProof proof current = .ok root) :
    bytesOf root = walk joinBytes (proof.map byteStep) (bytesOf current) := by
  induction proof generalizing current with
  | nil =>
    cases h
    rfl
  | cons step proof ih =>
    obtain ⟨sibling, position⟩ := step
    rw [followProof, bind_eq_ok] at h
    obtain ⟨parent, hparent, hrest⟩ := h
    have hbytes : ∀ left right : String, merkleParent left right = .ok parent →
        bytesOf parent = joinBytes (bytesOf left) (bytesOf right) := by
      intro left right hjoin
      simp only [merkleParent, fromHexOrRaise, bind_eq_ok, pure_eq_ok] at hjoin
      obtain ⟨first, hfirst, second, hsecond, rfl⟩ := hjoin
      rw [bytesOf_hexDigest, bytesOf, bytesOf, joinBytes]
      split at hfirst
      · next heq =>
        split at hsecond
        · next heq' =>
          rw [heq, heq', Except.ok.inj hfirst, Except.ok.inj hsecond]
          rfl
        · cases hsecond
      · cases hfirst
    rw [ih hrest, map_cons, walk, walk, foldl_cons]
    congr 1
    rw [followStep] at hparent
    by_cases hleft : position = "left"
    · rw [if_pos hleft] at hparent
      simp only [byteStep, if_pos hleft]
      exact hbytes _ _ hparent
    · rw [if_neg hleft] at hparent
      simp only [byteStep, if_neg hleft]
      exact hbytes _ _ hparent

variable (h : rootHash (payloads.map hexDigest) = .ok root)

include h

/-- The root over the hashes of payloads stands for the apex over their digests. -/
theorem bytesOf_rootHash :
    bytesOf root ∈
      (PairTree.nextLevel joinBytes)^[halvings payloads.length payloads.length]
        (payloads.map sha256) := by
  have hdecodes := decodes_hexDigest payloads
  have hbytes : (payloads.map hexDigest).map bytesOf = payloads.map sha256 := by
    rw [map_map]
    exact map_congr_left fun payload _ => bytesOf_hexDigest payload
  rw [← hbytes, iterate_map bytesOf_joinHex]
  apply mem_map_of_mem
  rw [rootHash, bind_eq_ok] at h
  obtain ⟨-, -, h⟩ := h
  rw [hdecodes.apex, length_map, apex_eq_iterate, length_map] at h
  cases hlevel : (PairTree.nextLevel joinHex)^[halvings payloads.length payloads.length]
      (payloads.map hexDigest) with
  | nil =>
    rw [hlevel] at h
    cases h
  | cons first rest =>
    rw [hlevel] at h
    cases h
    exact mem_cons_self

/-- The digests over payloads leave one node, that of the root. -/
theorem iterate_of_rootHash :
    (PairTree.nextLevel joinBytes)^[halvings payloads.length payloads.length]
      (payloads.map sha256) = [bytesOf root] := by
  have hmem := bytesOf_rootHash h
  have hpos : 0 < (payloads.map sha256).length := by
    rw [length_map]
    cases payloads with
    | nil => cases h
    | cons _ _ => exact Nat.succ_pos _
  have hlength := length_apex joinBytes hpos (Nat.le_refl _)
  rw [apex_eq_iterate, length_map] at hlength
  obtain ⟨node, hnode⟩ := length_eq_one_iff.mp hlength
  rw [hnode] at hmem ⊢
  rw [mem_singleton.mp hmem]

/-- The digest that a root stands for has 32 bytes. -/
theorem length_bytesOf_rootHash : (bytesOf root).length = 32 := by
  refine @PairTree.forall_mem_iterate _ joinBytes (·.length = 32) length_joinBytes _ ?_ _ _
    (bytesOf_rootHash h)
  intro digest hdigest
  obtain ⟨payload, -, rfl⟩ := mem_map.mp hdigest
  exact length_sha256 payload

theorem isEmpty_of_rootHash : root.isEmpty = false := by
  rw [← Bool.not_eq_true, String.isEmpty_iff]
  rintro rfl
  cases length_bytesOf_rootHash h

omit h

/-- Hashes of payloads have a root. -/
theorem exists_rootHash (hne : payloads ≠ []) :
    ∃ root, rootHash (payloads.map hexDigest) = .ok root := by
  obtain ⟨payload, rest, rfl⟩ := exists_cons_of_ne_nil hne
  exact ⟨_, (decodes_hexDigest (payload :: rest)).rootHash_eq (getElem?_cons_zero)⟩

/-- The number of payloads and the root over their hashes determine them, when SHA-256 tells the
messages of the two trees apart. -/
theorem payloads_of_rootHash {others : List Bytes}
    (free : CollisionFree (treeMessages payloads ++ treeMessages others))
    (hlength : payloads.length = others.length) (h : rootHash (payloads.map hexDigest) = .ok root)
    (h' : rootHash (others.map hexDigest) = .ok root) : payloads = others := by
  have hiterate := iterate_of_rootHash h
  have hjoined : ∀ (listed : List Bytes) (n : ℕ),
      ∀ p ∈ joined joinBytes (listed.map sha256) n, p.1.length = 32 ∧ p.2.length = 32 := by
    intro listed n
    refine @PairTree.forall_mem_joined _ joinBytes (·.length = 32) length_joinBytes _ ?_ n
    intro digest hdigest
    obtain ⟨payload, -, rfl⟩ := mem_map.mp hdigest
    exact length_sha256 payload
  rw [← iterate_of_rootHash h', ← hlength] at hiterate
  have hpairs : ∀ p ∈ joined joinBytes (payloads.map sha256)
      (halvings payloads.length payloads.length),
      ∀ q ∈ joined joinBytes (others.map sha256)
        (halvings payloads.length payloads.length),
      joinBytes p.1 p.2 = joinBytes q.1 q.2 → p = q := by
    intro p hp q hq heq
    have hmessage := free (p.1 ++ p.2)
      (mem_append_left _ (mem_append_right _ (mem_map_of_mem hp)))
      (q.1 ++ q.2) (mem_append_right _ (mem_append_right _
        (mem_map_of_mem (hlength ▸ hq)))) heq
    obtain ⟨hfirst, hsecond⟩ := append_inj hmessage
      ((hjoined _ _ p hp).1.trans (hjoined _ _ q hq).1.symm)
    exact Prod.ext hfirst hsecond
  have hdigests : payloads.map sha256 = others.map sha256 :=
    iterate_inj (by rw [length_map, length_map, hlength]) hpairs hiterate
  refine ext_getElem hlength fun i hi hi' => ?_
  have hdigest := getElem_of_eq hdigests (by rwa [length_map])
  rw [getElem_map, getElem_map] at hdigest
  exact free _ (mem_append_left _ (mem_append_left _ (getElem_mem hi))) _
    (mem_append_right _ (mem_append_left _ (getElem_mem hi'))) hdigest

/-- What an accepted proof proves: with 32-byte siblings, and when neither the payload of the leaf
nor a listed one has 64 bytes, the leaf is the hash of a listed payload. -/
theorem mem_of_verifyProof {payload : Bytes}
    (free : CollisionFree (proofMessages payload proof ++ treeMessages payloads))
    (siblings : ∀ step ∈ proof, ∃ bytes, fromHex step.1 = some bytes ∧ bytes.length = 32)
    (leaf : payload.length ≠ 64) (leaves : ∀ listed ∈ payloads, listed.length ≠ 64)
    (hroot : rootHash (payloads.map hexDigest) = .ok root)
    (verified : verifyProof (hexDigest payload) proof root = .ok true) :
    hexDigest payload ∈ payloads.map hexDigest := by
  rw [verifyProof, bind_eq_ok] at verified
  obtain ⟨current, hfollow, heq⟩ := verified
  obtain rfl := beq_iff_eq.mp (Except.ok.inj heq)
  have hpath : ∀ s ∈ proof.map byteStep, s.2.length = 32 := by
    intro s hs
    obtain ⟨step, hstep, rfl⟩ := mem_map.mp hs
    obtain ⟨bytes, hbytes, hlength⟩ := siblings step hstep
    rw [byteStep, bytesOf, hbytes]
    exact hlength
  have hwalked := @PairTree.forall_mem_walked _ joinBytes (·.length = 32)
    length_joinBytes _ _ hpath (length_sha256 payload)
  have hdigests : ∀ digest ∈ payloads.map sha256, digest.length = 32 := by
    intro digest hdigest
    obtain ⟨listed, -, rfl⟩ := mem_map.mp hdigest
    exact length_sha256 listed
  have hjoined := @PairTree.forall_mem_joined _ joinBytes (·.length = 32)
    length_joinBytes _ hdigests
    (halvings payloads.length payloads.length)
  have hleft : ∀ p ∈ walked joinBytes (proof.map byteStep) (sha256 payload),
      p.1 ++ p.2 ∈ proofMessages payload proof ++ treeMessages payloads := fun p hp =>
    mem_append_left _ (mem_cons_of_mem _ (mem_map_of_mem hp))
  have hright : ∀ q ∈ joined joinBytes (payloads.map sha256)
      (halvings payloads.length payloads.length),
      q.1 ++ q.2 ∈ proofMessages payload proof ++ treeMessages payloads := fun q hq =>
    mem_append_right _ (mem_append_right _ (mem_map_of_mem hq))
  have hpayload : payload ∈ proofMessages payload proof ++ treeMessages payloads :=
    mem_append_left _ mem_cons_self
  have hlisted : ∀ listed ∈ payloads,
      listed ∈ proofMessages payload proof ++ treeMessages payloads := fun listed h =>
    mem_append_right _ (mem_append_left _ h)
  have hwalk := bytesOf_rootHash hroot
  rw [bytesOf_followProof hfollow, bytesOf_hexDigest] at hwalk
  obtain ⟨hmem, -⟩ := mem_of_walk_mem
    (fun p hp q hq heq => by
      have hmessage := free _ (hleft p hp) _ (hright q hq) heq
      obtain ⟨hfirst, hsecond⟩ := append_inj hmessage
        ((hwalked p hp).1.trans (hjoined q hq).1.symm)
      exact Prod.ext hfirst hsecond)
    (fun node hnode p hp heq => by
      obtain ⟨listed, hmem, rfl⟩ := mem_map.mp hnode
      have hmessage := free _ (hlisted listed hmem) _ (hleft p hp) heq
      obtain ⟨hfirst, hsecond⟩ := hwalked p hp
      exact leaves listed hmem (by rw [hmessage, length_append, hfirst, hsecond]))
    (fun q hq heq => by
      have hmessage := free _ hpayload _ (hright q hq) heq
      obtain ⟨hfirst, hsecond⟩ := hjoined q hq
      exact leaf (by rw [hmessage, length_append, hfirst, hsecond])) hwalk
  obtain ⟨listed, hmem, heq⟩ := mem_map.mp hmem
  rw [hexDigest, ← heq]
  exact mem_map_of_mem hmem

end AidnSpec.Snapshot
