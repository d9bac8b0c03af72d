import AidnSpec.Base.DigestInjection
import AidnSpec.Base.PairTree
import AidnSpec.Base.Schema

/-!
# Merkle trees of registry segments

The Merkle part of `registry/manifest.py:13–236`: leaves over the id, the content hash and the
content size of an object, joined in pairs under a domain of their own, the proof that a segment
builds for one of its objects, and its verification. Every text that is hashed is canonical JSON, so
a digest determines the members it is made of.
-/

namespace AidnSpec.Registry

open Base PairTree List

/-- `_canonical_digest`: `json.dumps` raises on an integer of more than 4300 digits. -/
def canonicalDigest (value : PyValue) : Except PyError String :=
  if value.dumpable then .ok (jsonDigest value)
  else raiseValue "Exceeds the limit (4300 digits) for integer string conversion"

/-- One object of a segment. -/
structure SegmentEntry where
  objectId : String
  contentHash : String
  contentSize : Int

/-- What `_merkle_leaf_hash` digests. -/
def SegmentEntry.payload (e : SegmentEntry) : Fields :=
  [("domain", .str "aidn.registry.segment-leaf.v1"), ("object_id", .str e.objectId),
    ("content_hash", .str e.contentHash), ("content_size", .int e.contentSize)]

def merkleLeafHash (e : SegmentEntry) : Except PyError String :=
  canonicalDigest (.dict e.payload)

/-- What `_merkle_empty_hash` digests. -/
def emptyPayload : Fields := [("domain", .str "aidn.registry.segment-empty.v1")]

def merkleEmptyHash : String := jsonDigest (.dict emptyPayload)

/-- What `_merkle_parent` digests. -/
def parentPayload (left right : String) : Fields :=
  [("domain", .str "aidn.registry.segment-node.v1"), ("left", .str left), ("right", .str right)]

/-- `_merkle_parent`; two texts can always be written. -/
def merkleParent (left right : String) : String := jsonDigest (.dict (parentPayload left right))

def merkleRoot (leaves : List String) : String :=
  match apex merkleParent leaves.length leaves with
  | [] => merkleEmptyHash
  | root :: _ => root

/-! ## Proofs -/

/-- A `MerkleProofStep`: its hash has at least one character. -/
structure MerkleProofStep where
  side : String
  hash : String
  named : hash.isEmpty = false

/-- A `SegmentMerkleProof`: its texts have at least one character, its size and its index are
not negative and its count is positive. -/
structure SegmentMerkleProof where
  profileVersion : String := "segment-merkle.v1"
  objectId : String
  contentHash : String
  contentSize : ℕ
  leafHash : String
  leafIndex : ℕ
  leafCount : ℕ
  siblings : List MerkleProofStep
  rootHash : String
  named : ∀ text ∈ [objectId, contentHash, leafHash, rootHash], text.isEmpty = false
  counted : 1 ≤ leafCount

def sideText : Side → String
  | .left => "left"
  | .right => "right"

def MerkleProofStep.make (sibling : Side × String) : Except PyError MerkleProofStep :=
  if h : sibling.2.isEmpty = false then .ok ⟨sideText sibling.1, sibling.2, h⟩
  else raiseValue "validation error for MerkleProofStep"

/-- A validated proof with the default profile. -/
def SegmentMerkleProof.make (e : SegmentEntry) (leafHash : String) (leafIndex leafCount : ℕ)
    (siblings : List MerkleProofStep) (rootHash : String) : Except PyError SegmentMerkleProof :=
  if h : (∀ text ∈ [e.objectId, e.contentHash, leafHash, rootHash], text.isEmpty = false) ∧
      0 ≤ e.contentSize ∧ 1 ≤ leafCount then
    .ok {
      objectId := e.objectId
      contentHash := e.contentHash
      contentSize := e.contentSize.toNat
      leafHash, leafIndex, leafCount, siblings, rootHash
      named := h.1
      counted := h.2.2 }
  else raiseValue "validation error for SegmentMerkleProof"

/-- The parallel lists of a segment, read together. -/
def segmentEntries (objectIds contentHashes : List String) (contentSizes : List Int) :
    List SegmentEntry :=
  ((objectIds.zip contentHashes).zip contentSizes).map fun e => ⟨e.1.1, e.1.2, e.2⟩

def buildMerkleProof (objectIds contentHashes : List String) (contentSizes : List Int)
    (objectId : String) : Except PyError SegmentMerkleProof := do
  require (!objectIds.isEmpty && objectIds.length == contentHashes.length &&
    objectIds.length == contentSizes.length) "segment Merkle proof input is invalid"
  require (objectIds.contains objectId) "object is not present in segment"
  let leafIndex := objectIds.idxOf objectId
  let entries := segmentEntries objectIds contentHashes contentSizes
  let leaves ← entries.mapM merkleLeafHash
  let siblings ← (PairTree.siblings merkleParent leaves.length leaves leafIndex).mapM
    MerkleProofStep.make
  match entries[leafIndex]?, leaves[leafIndex]? with
  | some entry, some leafHash =>
    SegmentMerkleProof.make entry leafHash leafIndex leaves.length siblings (merkleRoot leaves)
  | _, _ => raiseValue "list index out of range"

/-- The walk of `verify_segment_merkle_proof` along the sides that the proof names; `none` stands
for a side that is neither. -/
def followSteps : List MerkleProofStep → String → Option String
  | [], current => some current
  | step :: steps, current =>
    if step.side = "left" then followSteps steps (merkleParent step.hash current)
    else if step.side = "right" then followSteps steps (merkleParent current step.hash)
    else none

/-- What a proof says about its object. -/
def SegmentMerkleProof.entry (proof : SegmentMerkleProof) : SegmentEntry :=
  ⟨proof.objectId, proof.contentHash, proof.contentSize⟩

def verifySegmentMerkleProof (proof : SegmentMerkleProof) : Except PyError Bool :=
  if proof.profileVersion ≠ "segment-merkle.v1" then .ok false
  else if proof.leafCount ≤ proof.leafIndex then .ok false
  else if proof.siblings.length ≠ halvings proof.leafCount proof.leafCount then .ok false
  else do
    let expectedLeaf ← merkleLeafHash proof.entry
    if expectedLeaf ≠ proof.leafHash then return false
    else return followSteps proof.siblings proof.leafHash == some proof.rootHash

/-! ## The leaves -/

def SegmentEntry.leaf (e : SegmentEntry) : String := jsonDigest (.dict e.payload)

def SegmentEntry.writable (e : SegmentEntry) : Bool := (PyValue.int e.contentSize).dumpable

variable {e : SegmentEntry} {entries : List SegmentEntry} {leaves : List String}
  {siblings : List (Side × String)} {steps : List MerkleProofStep} {i : ℕ}
  {proof : SegmentMerkleProof}

theorem plain_payload (h : e.writable = true) : (PyValue.dict e.payload).Plain := by
  have hkeys : (e.payload.map Prod.fst).Nodup :=
    show ["domain", "object_id", "content_hash", "content_size"].Nodup by decide
  refine PyValue.plain_dict hkeys fun member hmember => ?_
  simp only [SegmentEntry.payload, mem_cons, not_mem_nil, or_false] at hmember
  rcases hmember with rfl | rfl | rfl | rfl
  · exact PyValue.plain_str _
  · exact PyValue.plain_str _
  · exact PyValue.plain_str _
  · exact PyValue.plain_int h

theorem plain_emptyPayload : (PyValue.dict emptyPayload).Plain := by
  apply PyValue.plain_dict (by decide)
  intro member hmember
  obtain rfl := mem_singleton.mp hmember
  exact PyValue.plain_str _

theorem plain_parentPayload (left right : String) :
    (PyValue.dict (parentPayload left right)).Plain := by
  have hkeys : ((parentPayload left right).map Prod.fst).Nodup :=
    show ["domain", "left", "right"].Nodup by decide
  refine PyValue.plain_dict hkeys fun member hmember => ?_
  simp only [parentPayload, mem_cons, not_mem_nil, or_false] at hmember
  rcases hmember with rfl | rfl | rfl
  · exact PyValue.plain_str _
  · exact PyValue.plain_str _
  · exact PyValue.plain_str _

theorem merkleLeafHash_eq (e : SegmentEntry) :
    merkleLeafHash e = if e.writable then .ok e.leaf
      else raiseValue "Exceeds the limit (4300 digits) for integer string conversion" := by
  have hdumpable : (PyValue.dict e.payload).dumpable = e.writable :=
    show ((PyValue.int e.contentSize).dumpable && true) = e.writable from Bool.and_true _
  rw [merkleLeafHash, canonicalDigest, hdumpable]
  rfl

theorem mapM_merkleLeafHash_eq_ok :
    entries.mapM merkleLeafHash = .ok leaves ↔
      (∀ e ∈ entries, e.writable = true) ∧ leaves = entries.map SegmentEntry.leaf := by
  induction entries generalizing leaves with
  | nil =>
    rw [mapM_nil, pure_eq_ok]
    exact ⟨fun h => ⟨fun e he => (not_mem_nil he).elim, h.symm⟩, fun h => h.2.symm⟩
  | cons e entries ih =>
    simp only [mapM_cons, bind_eq_ok, pure_eq_ok, ih, merkleLeafHash_eq]
    constructor
    · rintro ⟨leaf, hleaf, rest, ⟨hrest, rfl⟩, rfl⟩
      split at hleaf
      · next hwritable =>
        cases hleaf
        exact ⟨forall_mem_cons.mpr ⟨hwritable, hrest⟩, rfl⟩
      · cases hleaf
    · rintro ⟨hwritable, rfl⟩
      obtain ⟨hfirst, hrest⟩ := forall_mem_cons.mp hwritable
      exact ⟨e.leaf, by rw [if_pos hfirst], _, ⟨hrest, rfl⟩, rfl⟩

/-- A digest has characters. -/
theorem isEmpty_jsonDigest (value : PyValue) : (jsonDigest value).isEmpty = false := by
  rw [← Bool.not_eq_true, String.isEmpty_iff]
  intro hempty
  have hlength := length_jsonDigest value
  rw [hempty] at hlength
  cases hlength

theorem isEmpty_merkleParent (left right : String) : (merkleParent left right).isEmpty = false :=
  isEmpty_jsonDigest _

theorem isEmpty_of_mem_leaves : ∀ leaf ∈ entries.map SegmentEntry.leaf, leaf.isEmpty = false := by
  intro leaf hleaf
  obtain ⟨e, -, rfl⟩ := mem_map.mp hleaf
  exact isEmpty_jsonDigest _

/-! ## A built proof is accepted -/

theorem followSteps_cons (side : Side) (hash current : String) (named : hash.isEmpty = false)
    (steps : List MerkleProofStep) :
    followSteps (⟨sideText side, hash, named⟩ :: steps) current =
      followSteps steps (PairTree.step merkleParent current (side, hash)) := by
  cases side with
  | left => exact if_pos rfl
  | right => exact (if_neg (show "right" ≠ "left" by decide)).trans (if_pos rfl)

/-- Steps made of siblings lead where the siblings lead. -/
theorem followSteps_made (h : siblings.mapM MerkleProofStep.make = .ok steps) (current : String) :
    steps.length = siblings.length ∧
      followSteps steps current = some (walk merkleParent siblings current) := by
  induction siblings generalizing steps current with
  | nil =>
    obtain rfl := pure_eq_ok.mp h
    exact ⟨rfl, rfl⟩
  | cons sibling siblings ih =>
    simp only [mapM_cons, bind_eq_ok, pure_eq_ok] at h
    obtain ⟨step, hstep, rest, hrest, rfl⟩ := h
    obtain ⟨side, hash⟩ := sibling
    unfold MerkleProofStep.make at hstep
    split at hstep
    · next hnamed =>
      cases hstep
      rw [followSteps_cons]
      exact ⟨congrArg (· + 1) (ih hrest current).1, (ih hrest _).2⟩
    · cases hstep

theorem exists_made (h : ∀ s ∈ siblings, s.2.isEmpty = false) :
    ∃ steps, siblings.mapM MerkleProofStep.make = .ok steps := by
  induction siblings with
  | nil => exact ⟨[], rfl⟩
  | cons sibling siblings ih =>
    obtain ⟨hfirst, hrest⟩ := forall_mem_cons.mp h
    obtain ⟨steps, hsteps⟩ := ih hrest
    refine ⟨⟨sideText sibling.1, sibling.2, hfirst⟩ :: steps, ?_⟩
    rw [mapM_cons, MerkleProofStep.make, dif_pos hfirst, hsteps]
    rfl

/-- The parallel lists of entries are read as the entries. -/
theorem segmentEntries_map (entries : List SegmentEntry) :
    segmentEntries (entries.map (·.objectId)) (entries.map (·.contentHash))
      (entries.map (·.contentSize)) = entries := by
  induction entries with
  | nil => rfl
  | cons e entries ih =>
    simp only [segmentEntries, map_cons, zip_cons_cons] at ih ⊢
    rw [ih]

/-- A proof for the entry at an index of a list, which the verifier accepts. -/
structure ProvesEntry (entries : List SegmentEntry) (i : ℕ) (proof : SegmentMerkleProof) :
    Prop where
  entry : entries[i]? = some proof.entry
  index : proof.leafIndex = i
  count : proof.leafCount = entries.length
  root : proof.rootHash = merkleRoot (entries.map SegmentEntry.leaf)
  accepted : verifySegmentMerkleProof proof = .ok true

/-- What is left to do once the input is checked. -/
theorem buildMerkleProof_eq (hentry : entries[i]? = some e)
    (hindex : (entries.map (·.objectId)).idxOf e.objectId = i) :
    buildMerkleProof (entries.map (·.objectId)) (entries.map (·.contentHash))
        (entries.map (·.contentSize)) e.objectId =
      (entries.mapM merkleLeafHash >>= fun leaves =>
        (PairTree.siblings merkleParent leaves.length leaves i).mapM MerkleProofStep.make >>=
          fun siblings => match leaves[i]? with
            | some leafHash =>
              SegmentMerkleProof.make e leafHash i leaves.length siblings (merkleRoot leaves)
            | none => raiseValue "list index out of range") := by
  have hmem := mem_of_getElem? hentry
  have hshape : (!(entries.map (·.objectId)).isEmpty &&
      (entries.map (·.objectId)).length == (entries.map (·.contentHash)).length &&
      (entries.map (·.objectId)).length == (entries.map (·.contentSize)).length) = true := by
    simp only [length_map, beq_self_eq_true, Bool.and_true, Bool.not_eq_true',
      isEmpty_eq_false_iff, ne_eq, map_eq_nil_iff]
    rintro rfl
    cases hmem
  have hlisted : (entries.map (·.objectId)).contains e.objectId = true :=
    contains_iff_mem.mpr (mem_map_of_mem hmem)
  simp only [buildMerkleProof, hshape, hlisted, segmentEntries_map, hindex, hentry]
  show (entries.mapM merkleLeafHash >>= _) = _
  congr 1
  funext leaves
  congr 1
  funext siblings
  cases leaves[i]? with
  | none => rfl
  | some leafHash => rfl

/-- The steps that lead from a leaf to the root. -/
theorem exists_steps (named : ∀ leaf ∈ leaves, leaf.isEmpty = false) {leaf : String}
    (hleaf : leaves[i]? = some leaf) :
    ∃ steps, (PairTree.siblings merkleParent leaves.length leaves i).mapM MerkleProofStep.make =
        .ok steps ∧
      steps.length = halvings leaves.length leaves.length ∧
      followSteps steps leaf = some (merkleRoot leaves) := by
  obtain ⟨steps, hsteps⟩ := exists_made
    (forall_mem_siblings isEmpty_merkleParent named leaves.length i)
  obtain ⟨hlength, hfollow⟩ := followSteps_made hsteps leaf
  have hlt := (List.getElem?_eq_some_iff.mp hleaf).1
  refine ⟨steps, hsteps, ?_, ?_⟩
  · rw [hlength, length_siblings _ hlt]
  · rw [hfollow, merkleRoot, apex_eq_walk _ hleaf (Nat.le_refl _)]

theorem isEmpty_merkleRoot (named : ∀ leaf ∈ leaves, leaf.isEmpty = false) :
    (merkleRoot leaves).isEmpty = false := by
  rw [merkleRoot, apex_eq_iterate]
  split
  · exact isEmpty_jsonDigest _
  · next root rest hlevel =>
    exact forall_mem_iterate isEmpty_merkleParent named _ root
      (hlevel ▸ mem_cons_self)

/-- A made proof whose steps lead to its root is accepted. -/
theorem accepts_made (hentry : proof.entry = e) (hwritable : e.writable = true)
    (hleaf : proof.leafHash = e.leaf) (hprofile : proof.profileVersion = "segment-merkle.v1")
    (hlt : proof.leafIndex < proof.leafCount)
    (hlength : proof.siblings.length = halvings proof.leafCount proof.leafCount)
    (hfollow : followSteps proof.siblings e.leaf = some proof.rootHash) :
    verifySegmentMerkleProof proof = .ok true := by
  rw [verifySegmentMerkleProof, if_neg (not_not.mpr hprofile), if_neg (Nat.not_le.mpr hlt),
    if_neg (not_not.mpr hlength), hentry, merkleLeafHash_eq, if_pos hwritable, hleaf, hfollow]
  show (if e.leaf ≠ e.leaf then pure false else pure (_ == _)) = _
  rw [if_neg (not_not.mpr rfl), beq_self_eq_true]
  rfl

/-- A proof is built exactly for the objects whose id and hash have characters and whose size is
not negative, when every size of the segment can be written; the verifier accepts it. -/
theorem buildMerkleProof_spec (hentry : entries[i]? = some e)
    (hindex : (entries.map (·.objectId)).idxOf e.objectId = i) :
    match buildMerkleProof (entries.map (·.objectId)) (entries.map (·.contentHash))
        (entries.map (·.contentSize)) e.objectId with
    | .ok proof => ProvesEntry entries i proof
    | .error _ => (∃ other ∈ entries, other.writable = false) ∨ e.objectId.isEmpty = true ∨
        e.contentHash.isEmpty = true ∨ e.contentSize < 0 := by
  have hlt := (List.getElem?_eq_some_iff.mp hentry).1
  have hleaf : (entries.map SegmentEntry.leaf)[i]? = some e.leaf := by
    rw [List.getElem?_map, hentry]
    rfl
  obtain ⟨steps, hsteps, hlength, hfollow⟩ := exists_steps isEmpty_of_mem_leaves hleaf
  rw [buildMerkleProof_eq hentry hindex]
  by_cases hwritable : ∀ other ∈ entries, other.writable = true
  · rw [mapM_merkleLeafHash_eq_ok.mpr ⟨hwritable, rfl⟩]
    simp only [bind, Except.bind, hsteps, hleaf, SegmentMerkleProof.make]
    by_cases hmade : (∀ text ∈ [e.objectId, e.contentHash, e.leaf,
        merkleRoot (entries.map SegmentEntry.leaf)], text.isEmpty = false) ∧
        0 ≤ e.contentSize ∧ 1 ≤ (entries.map SegmentEntry.leaf).length
    · have heq : (⟨e.objectId, e.contentHash, (e.contentSize.toNat : Int)⟩ : SegmentEntry) = e := by
        rw [Int.toNat_of_nonneg hmade.2.1]
      have hwritten := hwritable e (mem_of_getElem? hentry)
      have hcount : (entries.map SegmentEntry.leaf).length = entries.length := length_map _
      simp only [dif_pos hmade]
      exact ⟨hentry.trans (congrArg some heq.symm), rfl, hcount, rfl,
        accepts_made heq hwritten rfl rfl (hlt.trans_eq hcount.symm) hlength hfollow⟩
    · simp only [dif_neg hmade]
      refine .inr ?_
      by_contra hnone
      simp only [not_or, Bool.not_eq_true, Int.not_lt] at hnone
      refine hmade ⟨?_, hnone.2.2, ?_⟩
      · simp only [forall_mem_cons]
        exact ⟨hnone.1, hnone.2.1, isEmpty_jsonDigest _, isEmpty_merkleRoot isEmpty_of_mem_leaves,
          fun text htext => (not_mem_nil htext).elim⟩
      · rw [length_map]
        omega
  · cases hleaves : entries.mapM merkleLeafHash with
    | error complaint =>
      simp only [not_forall, Bool.not_eq_true] at hwritable
      obtain ⟨other, hother, hunwritable⟩ := hwritable
      exact .inl ⟨other, hother, hunwritable⟩
    | ok leaves => exact absurd (mapM_merkleLeafHash_eq_ok.mp hleaves).1 hwritable

/-! ## What an accepted proof proves -/

def rootPayloads (entries : List SegmentEntry) : List PyValue :=
  .dict emptyPayload :: (entries.map (fun e => .dict e.payload) ++
    (joined merkleParent (entries.map SegmentEntry.leaf)
      (halvings entries.length entries.length)).map fun p => .dict (parentPayload p.1 p.2))

/-- The steps of a proof as siblings, up to the first that names no side. -/
def pathOf : List MerkleProofStep → List (Side × String)
  | [] => []
  | step :: steps =>
    if step.side = "left" then (.left, step.hash) :: pathOf steps
    else if step.side = "right" then (.right, step.hash) :: pathOf steps
    else []

/-- The values digested while a proof is verified. -/
def SegmentMerkleProof.payloads (proof : SegmentMerkleProof) : List PyValue :=
  .dict proof.entry.payload ::
    (walked merkleParent (pathOf proof.siblings) proof.entry.leaf).map
      fun p => .dict (parentPayload p.1 p.2)

theorem followSteps_eq_some {current root : String} (h : followSteps steps current = some root) :
    walk merkleParent (pathOf steps) current = root := by
  induction steps generalizing current with
  | nil => exact Option.some.inj h
  | cons step steps ih =>
    rw [followSteps] at h
    rw [pathOf]
    split at h
    · next hleft =>
      rw [if_pos hleft]
      exact ih h
    · next hleft =>
      split at h
      · next hright =>
        rw [if_neg hleft, if_pos hright]
        exact ih h
      · cases h

/-- An accepted proof starts from the leaf of its entry and leads to its root. -/
theorem walk_of_accepted (accepted : verifySegmentMerkleProof proof = .ok true) :
    proof.entry.writable = true ∧
      walk merkleParent (pathOf proof.siblings) proof.entry.leaf = proof.rootHash := by
  rw [verifySegmentMerkleProof] at accepted
  split at accepted
  · cases accepted
  split at accepted
  · cases accepted
  split at accepted
  · cases accepted
  obtain ⟨expected, hexpected, h⟩ := bind_eq_ok.mp accepted
  rw [merkleLeafHash_eq] at hexpected
  split at hexpected
  · next hwritable =>
    cases hexpected
    split at h
    · cases h
    · next hleaf =>
      rw [not_not] at hleaf
      refine ⟨hwritable, followSteps_eq_some ?_⟩
      rw [hleaf]
      exact beq_iff_eq.mp (Except.ok.inj h)
  · cases hexpected

section Separation

variable {values : List PyValue} (apart : DigestsApart values)

include apart

variable {e : SegmentEntry} {p : String × String}

/-- A leaf determines its entry. -/
theorem entry_of_leaf {other : SegmentEntry} (he : .dict e.payload ∈ values)
    (hother : .dict other.payload ∈ values) (hwritable : e.writable = true)
    (hotherWritable : other.writable = true) (h : e.leaf = other.leaf) : e = other := by
  have hmembers := apart.lookup_eq he hother (plain_payload hwritable)
    (plain_payload hotherWritable) h
  have hid : some (PyValue.str e.objectId) = some (.str other.objectId) := hmembers "object_id"
  have hhash : some (PyValue.str e.contentHash) = some (.str other.contentHash) :=
    hmembers "content_hash"
  have hsize : some (PyValue.int e.contentSize) = some (.int other.contentSize) :=
    hmembers "content_size"
  cases e
  cases other
  simp only [Option.some.injEq, PyValue.str.injEq, PyValue.int.injEq] at hid hhash hsize
  rw [hid, hhash, hsize]

/-- A parent determines the pair it joins. -/
theorem pair_of_parent {q : String × String} (hp : .dict (parentPayload p.1 p.2) ∈ values)
    (hq : .dict (parentPayload q.1 q.2) ∈ values)
    (h : merkleParent p.1 p.2 = merkleParent q.1 q.2) : p = q := by
  have hmembers := apart.lookup_eq hp hq (plain_parentPayload _ _) (plain_parentPayload _ _) h
  have hleft : some (PyValue.str p.1) = some (.str q.1) := hmembers "left"
  have hright : some (PyValue.str p.2) = some (.str q.2) := hmembers "right"
  simp only [Option.some.injEq, PyValue.str.injEq] at hleft hright
  exact Prod.ext hleft hright

/-- Leaves and parents are digested under different domains. -/
theorem leaf_ne_parent (he : .dict e.payload ∈ values)
    (hp : .dict (parentPayload p.1 p.2) ∈ values) (hwritable : e.writable = true) :
    e.leaf ≠ merkleParent p.1 p.2 := by
  intro h
  have hdomain : some (PyValue.str "aidn.registry.segment-leaf.v1") =
      some (.str "aidn.registry.segment-node.v1") :=
    apart.lookup_eq he hp (plain_payload hwritable) (plain_parentPayload _ _) h "domain"
  simp at hdomain

/-- No leaf is the root of the empty segment. -/
theorem leaf_ne_empty (he : .dict e.payload ∈ values) (hempty : .dict emptyPayload ∈ values)
    (hwritable : e.writable = true) : e.leaf ≠ merkleEmptyHash := by
  intro h
  have hdomain : some (PyValue.str "aidn.registry.segment-leaf.v1") =
      some (.str "aidn.registry.segment-empty.v1") :=
    apart.lookup_eq he hempty (plain_payload hwritable) plain_emptyPayload h "domain"
  simp at hdomain

/-- No parent is the root of the empty segment. -/
theorem parent_ne_empty (hp : .dict (parentPayload p.1 p.2) ∈ values)
    (hempty : .dict emptyPayload ∈ values) : merkleParent p.1 p.2 ≠ merkleEmptyHash := by
  intro h
  have hdomain : some (PyValue.str "aidn.registry.segment-node.v1") =
      some (.str "aidn.registry.segment-empty.v1") :=
    apart.lookup_eq hp hempty (plain_parentPayload _ _) plain_emptyPayload h "domain"
  simp at hdomain

end Separation

/-- Whatever its siblings, its index and its count are, an accepted proof against the root of a
list of entries carries one of them. -/
theorem entry_mem_of_accepted (apart : DigestsApart (proof.payloads ++ rootPayloads entries))
    (writable : ∀ e ∈ entries, e.writable = true)
    (root : proof.rootHash = merkleRoot (entries.map SegmentEntry.leaf))
    (accepted : verifySegmentMerkleProof proof = .ok true) : proof.entry ∈ entries := by
  obtain ⟨hwritable, hwalk⟩ := walk_of_accepted accepted
  have hproof : .dict proof.entry.payload ∈ proof.payloads ++ rootPayloads entries :=
    mem_append_left _ mem_cons_self
  have hwalked : ∀ p ∈ walked merkleParent (pathOf proof.siblings) proof.entry.leaf,
      .dict (parentPayload p.1 p.2) ∈ proof.payloads ++ rootPayloads entries := fun p hp =>
    mem_append_left _ (mem_cons_of_mem _ (mem_map_of_mem hp))
  have hempty : .dict emptyPayload ∈ proof.payloads ++ rootPayloads entries :=
    mem_append_right _ mem_cons_self
  have hlisted : ∀ e ∈ entries, .dict e.payload ∈ proof.payloads ++ rootPayloads entries :=
    fun e he => mem_append_right _ (mem_cons_of_mem _ (mem_append_left _
      (mem_map_of_mem he)))
  have hjoined : ∀ q ∈ joined merkleParent (entries.map SegmentEntry.leaf)
        (halvings entries.length entries.length),
      .dict (parentPayload q.1 q.2) ∈ proof.payloads ++ rootPayloads entries := fun q hq =>
    mem_append_right _ (mem_cons_of_mem _ (mem_append_right _
      (mem_map_of_mem hq)))
  rw [root, merkleRoot, apex_eq_iterate, length_map] at hwalk
  split at hwalk
  · -- the root of no entries is neither a leaf nor a parent
    rcases walk_cases merkleParent (pathOf proof.siblings) proof.entry.leaf with h | h
    · exact absurd (h.symm.trans hwalk) (leaf_ne_empty apart hproof hempty hwritable)
    · obtain ⟨p, hp, h⟩ := h
      exact absurd (h.symm.trans hwalk) (parent_ne_empty apart (hwalked p hp) hempty)
  · next top rest hlevel =>
    have hmem := mem_of_walk_mem
      (fun p hp q hq => pair_of_parent apart (hwalked p hp) (hjoined q hq))
      (fun node hnode p hp => by
        obtain ⟨e, he, rfl⟩ := mem_map.mp hnode
        exact leaf_ne_parent apart (hlisted e he) (hwalked p hp) (writable e he))
      (fun q hq => leaf_ne_parent apart hproof (hjoined q hq) hwritable)
      (hwalk ▸ hlevel ▸ mem_cons_self)
    obtain ⟨e, he, hleaf⟩ := mem_map.mp hmem.1
    exact entry_of_leaf apart (hlisted e he) hproof (writable e he) hwritable hleaf ▸ he

end AidnSpec.Registry
