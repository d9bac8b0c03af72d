import AidnSpec.Consensus.StateStore

/-!
# Snapshot directories

What `persist` writes under an identifier is what `_load_snapshot_by_identifier` reads back:
the same metadata and the same state with its members sorted. The name of a directory and the
rank of its snapshot determine each other.
-/

namespace AidnSpec.Consensus

open Base ABCIStateSnapshot List Nat

/-! ## Names -/

namespace ABCIStateSnapshot

theorem ofDigitChars_paddedHeight (height : Nat) :
    Nat.ofDigitChars 10 (paddedHeight height) 0 = height := by
  have hzeros : ∀ n : Nat, (List.replicate n '0').foldl
      (fun acc c => 10 * acc + (c.toNat - '0'.toNat)) 0 = 0 := by
    intro n
    induction n with
    | zero => rfl
    | succ n ih => rw [replicate_succ, foldl_cons]; exact ih
  rw [paddedHeight, Nat.ofDigitChars, foldl_append, hzeros]
  exact ofDigitChars_ten_toDigits

/-- A directory's name determines the rank of its snapshot. -/
theorem rank_of_identifier {m n : ABCIStateSnapshot} (h : m.identifier = n.identifier) :
    m.rank = n.rank := by
  have htext := congrArg String.toList h
  simp only [identifier, String.toList_ofList] at htext
  have hlength : ('-' :: hexChars false m.hash).length = ('-' :: hexChars false n.hash).length := by
    simp only [length_cons, length_hexChars, m.hash_length, n.hash_length]
  obtain ⟨hheight, hhash⟩ := append_inj' htext hlength
  have hheights : m.height = n.height := by
    rw [← ofDigitChars_paddedHeight m.height, hheight, ofDigitChars_paddedHeight]
  have hhashes : m.hash = n.hash := by
    have hread := congrArg fromHexChars (List.cons.inj hhash).2
    rw [fromHexChars_hexChars, fromHexChars_hexChars] at hread
    exact Option.some.inj hread
  rw [rank, rank, hheights, hhashes]

/-- The rank of a snapshot determines its directory's name. -/
theorem identifier_of_rank {m n : ABCIStateSnapshot} (h : m.rank = n.rank) :
    m.identifier = n.identifier := by
  obtain ⟨hheight, hhash⟩ := Prod.mk.inj (toLex.injective h)
  have hbytes : m.hash = n.hash :=
    map_injective_iff.mpr (fun _ _ => UInt8.toNat_inj.mp) hhash
  rw [identifier, identifier, hheight, hbytes]

theorem isLowerHex_hexDigit {v : Nat} (h : v < 16) : isLowerHex (hexDigit false v) = true := by
  have key : ∀ w : Fin 16, isLowerHex (hexDigit false w) = true := by decide
  exact key ⟨v, h⟩

/-- The name of a directory passes the check exactly when the height has at most twenty digits. -/
theorem isIdentifier_identifier (m : ABCIStateSnapshot) :
    isIdentifier m.identifier = true ↔ m.height < 10 ^ 20 := by
  have hhex : (hexChars false m.hash).length = 64 := by
    rw [length_hexChars, m.hash_length]
  have hdigits : ∀ c ∈ paddedHeight m.height, c.isDigit = true := by
    intro c hc
    rcases mem_append.mp hc with hc | hc
    · rw [(mem_replicate.mp hc).2]
      rfl
    · exact isDigit_of_mem_toDigits (by decide) (by decide) hc
  have hbound := length_toDigits_le_iff (n := m.height) (k := 20) (b := 10) (by decide)
    (by decide)
  rw [← hbound]
  have hlength : (paddedHeight m.height).length =
      max 20 (Nat.toDigits 10 m.height).length := by
    rw [paddedHeight, length_append, length_replicate]
    omega
  have htext : m.identifier.toList = paddedHeight m.height ++ '-' :: hexChars false m.hash := by
    rw [identifier, String.toList_ofList]
  constructor
  · intro h
    rw [isIdentifier, Bool.and_eq_true, beq_iff_eq, htext, length_append, length_cons,
      hhex, hlength] at h
    have := h.2
    omega
  · intro h
    have htwenty : (paddedHeight m.height).length = 20 := by
      rw [hlength]
      omega
    have htake : m.identifier.toList.take 20 = paddedHeight m.height := by
      rw [htext, ← htwenty, take_left']
      rfl
    have hdrop : m.identifier.toList.drop 20 = '-' :: hexChars false m.hash := by
      rw [htext, ← htwenty, drop_left']
      rfl
    have hafter : m.identifier.toList.drop 21 = hexChars false m.hash := by
      rw [show 21 = 20 + 1 by rfl, ← drop_drop, hdrop]
      rfl
    have hlower : (hexChars false m.hash).all isLowerHex = true := by
      rw [all_eq_true]
      intro c hc
      obtain ⟨v, hv, rfl⟩ := mem_hexChars hc
      exact isLowerHex_hexDigit hv
    rw [isIdentifier, htake, hdrop, hafter, hlower, all_eq_true.mpr hdigits, htext,
      length_append, length_cons, hhex, htwenty]
    rfl

end ABCIStateSnapshot

/-! ## Chunks -/

namespace StateStore

theorem length_slices (size : Nat) (payload : Bytes) :
    (slices size payload).length = (payload.length + size - 1) / size := by
  rw [slices, length_map, length_range]

/-- The chunks of a payload, one behind the other, are the payload. -/
theorem flatten_slices {size : Nat} (hsize : 1 ≤ size) (payload : Bytes) :
    (slices size payload).flatten = payload := by
  have hprefix : ∀ n : Nat, ((List.range n).map fun index =>
      (payload.drop (index * size)).take size).flatten = payload.take (n * size) := by
    intro n
    induction n with
    | zero => simp
    | succ n ih =>
      rw [range_succ, map_append, flatten_append, ih, succ_mul, take_add]
      simp
  rw [slices, hprefix]
  apply take_of_length_le
  have hdiv := div_add_mod (payload.length + size - 1) size
  have hmod := mod_lt (payload.length + size - 1) hsize
  rw [mul_comm]
  omega

/-- A chunk is not empty and not longer than the chunk size. -/
theorem length_of_mem_slices {size : Nat} (hsize : 1 ≤ size) {payload chunk : Bytes}
    (h : chunk ∈ slices size payload) : 1 ≤ chunk.length ∧ chunk.length ≤ size := by
  obtain ⟨index, hindex, rfl⟩ := mem_map.mp h
  rw [mem_range] at hindex
  have hdiv := div_add_mod (payload.length + size - 1) size
  have hmul : (index + 1) * size ≤ (payload.length + size - 1) / size * size :=
    mul_le_mul_right size hindex
  rw [succ_mul] at hmul
  rw [mul_comm] at hdiv
  rw [length_take, length_drop]
  omega

/-- The longest chunk of a payload is its first one. -/
theorem length_first_slice {size : Nat} (hsize : 1 ≤ size) {payload : Bytes} (h : payload ≠ []) :
    payload.take size ∈ slices size payload := by
  have hpos : 1 ≤ payload.length := length_pos_of_ne_nil h
  have hcount : 0 < (payload.length + size - 1) / size :=
    div_pos (by omega) hsize
  exact mem_map.mpr ⟨0, mem_range.mpr hcount, by rw [zero_mul, drop_zero]⟩

/-! ## Manifests and states -/

theorem toInt_sorted (v : PyValue) : v.sorted.toInt = v.toInt := by
  cases v <;> rfl

theorem hexOfValue_sorted (v : PyValue) : hexOfValue v.sorted = hexOfValue v := by
  cases v <;> rfl

def orderedMembers (members : List (String × PyValue)) : List (String × PyValue) :=
  (members.mergeSort fun a b => a.1 ≤ b.1).map fun m => (m.1, m.2.sorted)

theorem member_ordered {members : List (String × PyValue)} (hkeys : (members.map Prod.fst).Nodup)
    (key : String) :
    member (orderedMembers members) key = (member members key).map PyValue.sorted := by
  rw [member, member, orderedMembers, lookup_sorted hkeys]
  cases members.lookup key <;> rfl

/-- The height and application hash of a state do not depend on the order of its members. -/
theorem stateNames_ordered {members : List (String × PyValue)}
    (hkeys : (members.map Prod.fst).Nodup) :
    stateNames (orderedMembers members) = stateNames members := by
  simp only [stateNames, member_ordered hkeys]
  cases member members "last_block_height" with
  | error e => rfl
  | ok height =>
    cases member members "app_hash" with
    | error e => simp [Except.map, bind, Except.bind, toInt_sorted]
    | ok appHash => simp [Except.map, bind, Except.bind, toInt_sorted, hexOfValue_sorted]

theorem metadataFromState_ordered (limits : StoreLimits) {members : List (String × PyValue)}
    (hkeys : (members.map Prod.fst).Nodup) (payload : Bytes) :
    metadataFromState limits (orderedMembers members) payload =
      metadataFromState limits members payload := by
  rw [metadataFromState, metadataFromState, stateNames_ordered hkeys]

theorem make_self (m : ABCIStateSnapshot) :
    make m.height m.format m.chunks m.hash m.appHash = .ok m := by
  have hshape : 0 ≤ (m.height : Int) ∧ (m.format : Int) = 1 ∧ 1 ≤ (m.chunks : Int) :=
    ⟨by omega, by exact_mod_cast m.format_eq, by exact_mod_cast m.chunks_pos⟩
  rw [make, dif_pos hshape, dif_pos ⟨m.hash_length, m.appHash_length⟩]
  rfl

theorem make_eq_ok {height format chunks : Int} {hash appHash : Bytes} {m : ABCIStateSnapshot}
    (h : make height format chunks hash appHash = .ok m) :
    (m.height : Int) = height ∧ (m.format : Int) = format ∧ (m.chunks : Int) = chunks ∧
      m.hash = hash ∧ m.appHash = appHash := by
  unfold make at h
  split at h
  · next hshape =>
    split at h
    · cases h
      exact ⟨Int.toNat_of_nonneg hshape.1, Int.toNat_of_nonneg (by omega),
        Int.toNat_of_nonneg (by omega), rfl, rfl⟩
    · cases h
  · cases h

/-- What the metadata of a state says about it. -/
theorem metadataFromState_eq_ok {limits : StoreLimits} {state : List (String × PyValue)}
    {payload : Bytes} {m : ABCIStateSnapshot} (h : metadataFromState limits state payload = .ok m) :
    m.hash = sha256 payload ∧
      m.chunks = max 1 ((payload.length + limits.chunkSize - 1) / limits.chunkSize) := by
  unfold metadataFromState at h
  split at h
  · split at h
    · cases h
    · cases h
  · dsimp only at h
    split at h
    · cases h
    · next hmake =>
      cases h
      obtain ⟨-, -, hchunks, hhash, -⟩ := make_eq_ok hmake
      exact ⟨hhash, by exact_mod_cast hchunks⟩

/-- A payload has at most as many chunks as bytes. -/
theorem chunks_le_length {limits : StoreLimits} {state : List (String × PyValue)}
    {payload : Bytes} {m : ABCIStateSnapshot} (h : metadataFromState limits state payload = .ok m)
    (hpos : 1 ≤ payload.length) : m.chunks ≤ payload.length := by
  have hdiv : (payload.length + limits.chunkSize - 1) / limits.chunkSize ≤ payload.length := by
    apply le_of_lt_succ
    rw [div_lt_iff_lt_mul limits.chunkSize_pos]
    have hmul : payload.length ≤ payload.length * limits.chunkSize :=
      Nat.le_mul_of_pos_right _ limits.chunkSize_pos
    rw [succ_mul]
    have hsize := limits.chunkSize_pos
    omega
  rw [(metadataFromState_eq_ok h).2]
  omega

variable [JsonReader]

def payloadOf (state : State) : Bytes := asciiBytes (canonicalText (.dict state.members))

/-- The keys of a state are distinct. -/
theorem State.nodup_keys (state : State) : (state.members.map Prod.fst).Nodup := by
  cases state.wellFormed with
  | dict hkeys _ => exact hkeys

theorem payloadOf_ne_nil (state : State) : payloadOf state ≠ [] := by
  rw [payloadOf, canonicalText]
  exact cons_ne_nil _ _

omit [JsonReader] in
theorem nodup_manifest_keys (m : ABCIStateSnapshot) (createdAt : Int) :
    (List.map Prod.fst [("schema_version", PyValue.int 1), ("height", .int m.height), ("format",
      .int m.format), ("chunks", .int m.chunks), ("hash", .str (hexEncode false m.hash)),
      ("app_hash", .str (hexEncode false m.appHash)), ("created_at", .int createdAt)]).Nodup := by
  simp only [map_cons, map_nil]
  decide

theorem wellFormed_manifestOf (m : ABCIStateSnapshot) (createdAt : Int) :
    (manifestOf m createdAt).WellFormed := by
  apply PyValue.WellFormed.dict (nodup_manifest_keys m createdAt)
  intro member hmember
  simp only [mem_cons, not_mem_nil, or_false] at hmember
  rcases hmember with rfl | rfl | rfl | rfl | rfl | rfl | rfl
  · exact .int _
  · exact .int _
  · exact .int _
  · exact .int _
  · exact .str _
  · exact .str _
  · exact .int _

/-- The files of a directory are what `persist` wrote for a state under its metadata. -/
structure Holds (limits : StoreLimits) (files : SnapshotFiles) (m : ABCIStateSnapshot)
    (state : State) : Prop where
  dumpable : (PyValue.dict state.members).dumpable = true
  fits : (payloadOf state).length ≤ limits.maximumSnapshotBytes
  metadata : metadataFromState limits state.members (payloadOf state) = .ok m
  manifest : ∃ createdAt, (manifestOf m createdAt).dumpable = true ∧
    files.manifest = asciiBytes (canonicalText (manifestOf m createdAt))
  chunks : files.chunks = slices limits.chunkSize (payloadOf state)

variable {limits : StoreLimits} {files : SnapshotFiles} {m : ABCIStateSnapshot} {state : State}

variable (h : Holds limits files m state)

include h

theorem Holds.length_chunks : files.chunks.length = m.chunks := by
  have hpos : 1 ≤ (payloadOf state).length := length_pos_of_ne_nil (payloadOf_ne_nil state)
  have hcount : 0 < ((payloadOf state).length + limits.chunkSize - 1) / limits.chunkSize :=
    div_pos (by omega) limits.chunkSize_pos
  rw [h.chunks, length_slices, (metadataFromState_eq_ok h.metadata).2]
  omega

theorem Holds.flatten_chunks : files.chunks.flatten = payloadOf state := by
  rw [h.chunks, flatten_slices limits.chunkSize_pos]

theorem Holds.chunks_le : m.chunks ≤ limits.maximumSnapshotBytes :=
  le_trans (chunks_le_length h.metadata (length_pos_of_ne_nil (payloadOf_ne_nil state)))
    h.fits

theorem Holds.length_of_mem {chunk : Bytes}
    (hchunk : chunk ∈ files.chunks) : 1 ≤ chunk.length ∧ chunk.length ≤ limits.chunkSize := by
  rw [h.chunks] at hchunk
  exact length_of_mem_slices limits.chunkSize_pos hchunk

theorem Holds.loadsBytes_payload :
    loadsBytes (payloadOf state) = some (.dict (orderedMembers state.members)) := by
  rw [payloadOf, loadsBytes_canonicalText state.wellFormed h.dumpable, PyValue.sorted_dict]
  rfl

theorem Holds.checkedState_eq :
    checkedState limits m (payloadOf state) = .ok (orderedMembers state.members) := by
  have hhash := (metadataFromState_eq_ok h.metadata).1
  have hvalid : ¬ (limits.maximumSnapshotBytes < (payloadOf state).length ∨
      sha256 (payloadOf state) ≠ m.hash) := by
    rintro (hlength | hne)
    · exact absurd h.fits (Nat.not_le_of_lt hlength)
    · exact hne hhash.symm
  have hsame : ¬ (m.height ≠ m.height ∨ m.appHash ≠ m.appHash) := by simp
  rw [checkedState, if_neg hvalid, h.loadsBytes_payload]
  dsimp only
  rw [metadataFromState_ordered limits state.nodup_keys, h.metadata]
  dsimp only
  rw [if_neg hsame]

omit h

omit [JsonReader] in
theorem manifestMetadata_manifestOf (m : ABCIStateSnapshot) (createdAt : Int) :
    ∃ manifest, (manifestOf m createdAt).sorted = .dict manifest ∧
      (PyValue.get manifest "schema_version").eqv (.int 1) = true ∧
      manifestMetadata manifest = .ok m := by
  refine ⟨_, PyValue.sorted_dict _, ?_, ?_⟩
  · rw [PyValue.get, lookup_sorted (nodup_manifest_keys m createdAt)]
    rfl
  · have hread := member_ordered (nodup_manifest_keys m createdAt)
    have hhash : hexOfValue (.str (hexEncode false m.hash)) = .ok m.hash := by
      rw [hexOfValue, fromHex_hexEncode]
      rfl
    have happ : hexOfValue (.str (hexEncode false m.appHash)) = .ok m.appHash := by
      rw [hexOfValue, fromHex_hexEncode]
      rfl
    rw [orderedMembers] at hread
    simp only [manifestMetadata, hread]
    show (do
      let hash ← hexOfValue (.str (hexEncode false m.hash))
      let appHash ← hexOfValue (.str (hexEncode false m.appHash))
      make m.height m.format m.chunks hash appHash) = Except.ok m
    rw [hhash, happ]
    exact make_self m

/-- A directory that `persist` wrote is read back. -/
theorem loadSnapshotByIdentifier_of_holds {store : StateStore}
    (hfiles : store.snapshots.get? m.identifier = some files) (h : Holds limits files m state) :
    loadSnapshotByIdentifier limits store m.identifier =
      .ok (m, orderedMembers state.members) := by
  obtain ⟨createdAt, hdumpable, hmanifest⟩ := h.manifest
  obtain ⟨manifest, hsorted, hversion, hmetadata⟩ := manifestMetadata_manifestOf m createdAt
  have hread : loadsBytes files.manifest = some (.dict manifest) := by
    rw [hmanifest, loadsBytes_canonicalText (wellFormed_manifestOf m createdAt) hdumpable, hsorted]
  have hchunks : ¬ (m.identifier ≠ m.identifier ∨ files.chunks.length < m.chunks) := by
    rw [h.length_chunks]
    simp
  have hpayload : (files.chunks.take m.chunks).flatten = payloadOf state := by
    rw [← h.length_chunks, take_length, h.flatten_chunks]
  rw [loadSnapshotByIdentifier, hfiles]
  dsimp only
  rw [hread]
  dsimp only
  rw [hversion, hmetadata]
  simp only [Bool.not_true, Bool.false_eq_true, if_false, if_neg hchunks, hpayload,
    h.checkedState_eq]

end StateStore

end AidnSpec.Consensus
