import AidnSpec.Snapshot.HonestDownload
import AidnSpec.Snapshot.Production

/-!
# What a produced snapshot is

The manifest and the chunks that `produce` returns belong together: every chunk proves itself
against the manifest, the hashes of all have its root, and put together they are what was
compressed.
-/

namespace AidnSpec.Snapshot

open Base
open Consensus.StateStore (slices length_slices flatten_slices)

/-! ## Cutting -/

/-- Chunks cut from payloads, `index` of them cut before. -/
structure CutFrom (total : ℕ) (payloads : List Bytes) (index : ℕ)
    (chunks : List SnapshotChunk) : Prop where
  payloads : chunks.map (·.payload) = payloads
  each : ∀ k chunk, chunks[k]? = some chunk → chunk.chunkIndex = index + k ∧
    chunk.totalChunks = total ∧ chunk.uncompressedSize = chunk.payload.length ∧
    chunk.compressedSize = chunk.payload.length ∧ verifyChunk chunk = true

theorem exists_splitFrom (snapshotId : String) {total index : ℕ} {payloads : List Bytes}
    (h : index + payloads.length ≤ total) :
    ∃ chunks, splitFrom snapshotId total payloads index = .ok chunks ∧
      CutFrom total payloads index chunks := by
  induction payloads generalizing index with
  | nil => exact ⟨[], rfl, rfl, fun k chunk hk => by cases hk⟩
  | cons payload rest ih =>
    rw [List.length_cons] at h
    obtain ⟨chunks, hchunks, hcut⟩ := @ih (index + 1) (by omega)
    refine ⟨⟨snapshotId, index, total, payload.length, payload.length, hexDigest payload, payload,
      by omega⟩ :: chunks, ?_, ?_, ?_⟩
    · rw [splitFrom, dif_pos (by omega), hchunks]
      rfl
    · rw [List.map_cons, hcut.payloads]
    · intro k chunk hk
      cases k with
      | zero =>
        cases hk
        exact ⟨rfl, rfl, rfl, rfl, beq_self_eq_true _⟩
      | succ k =>
        obtain ⟨hindex, hrest⟩ := hcut.each k chunk hk
        exact ⟨by omega, hrest⟩

variable {chunks : List SnapshotChunk}

/-- Chunks cut from data in pieces of a positive size. -/
theorem split_eq_ok {chunkSize : Int} {data : Bytes} {snapshotId : String}
    (hnonneg : 0 ≤ chunkSize) (hne : data ≠ []) (h : split chunkSize data snapshotId = .ok chunks) :
    CutFrom chunks.length (slices chunkSize.toNat data) 0 chunks ∧ chunks ≠ [] ∧
      chunks.length ≤ data.length ∧ (chunks.map (·.payload)).flatten = data := by
  unfold split at h
  rw [if_neg (by rwa [List.isEmpty_iff])] at h
  split at h
  · cases h
  · next hzero =>
    rw [if_neg (by omega)] at h
    have hsize : 1 ≤ chunkSize.toNat := by omega
    have hlength := length_slices chunkSize.toNat data
    obtain ⟨cut, hcut, hfrom⟩ := @exists_splitFrom snapshotId _ 0 (slices chunkSize.toNat data)
      (by rw [Nat.zero_add, hlength])
    obtain rfl := Except.ok.inj (hcut.symm.trans h)
    have hcount : cut.length = (data.length + chunkSize.toNat - 1) / chunkSize.toNat := by
      rw [← hlength, ← hfrom.payloads, List.length_map]
    have hpos : 1 ≤ data.length := List.length_pos_of_ne_nil hne
    refine ⟨hcount ▸ hfrom, ?_, ?_, ?_⟩
    · rintro rfl
      have hdiv : 0 < (data.length + chunkSize.toNat - 1) / chunkSize.toNat :=
        Nat.div_pos (by omega) hsize
      rw [List.length_nil] at hcount
      omega
    · rw [hcount]
      refine Nat.div_le_of_le_mul ?_
      have hmul : data.length + chunkSize.toNat ≤ chunkSize.toNat * data.length + 1 := by
        nlinarith
      omega
    · rw [hfrom.payloads, flatten_slices hsize]

/-- Chunks in their order are put together. -/
theorem reassembleFrom_eq_ok {index : ℕ}
    (h : ∀ k chunk, chunks[k]? = some chunk → chunk.chunkIndex = index + k) :
    reassembleFrom chunks index = .ok (chunks.map (·.payload)).flatten := by
  induction chunks generalizing index with
  | nil => rfl
  | cons chunk rest ih =>
    have hfirst : chunk.chunkIndex = index := h 0 chunk rfl
    rw [reassembleFrom, if_neg (by omega), if_neg (not_not.mpr hfirst),
      ih fun k other hk => (h (k + 1) other hk).trans (by omega)]
    rfl

/-! ## The pipeline -/

theorem step_eq_ok {α : Type} {x : Except SnapshotError α} {a : α} :
    step x = .ok a ↔ x = .ok a := by
  cases x with
  | ok b => exact ⟨fun h => by rw [Except.ok.inj h], fun h => by rw [Except.ok.inj h]; rfl⟩
  | error e => constructor <;> intro h <;> cases h

theorem requireProducer_eq_ok {condition : Bool} {message : String} :
    requireProducer condition message = .ok () ↔ condition = true := by
  cases condition with
  | true => exact iff_of_true rfl rfl
  | false => constructor <;> intro h <;> cases h

structure Produced [Gzip] (config : SnapshotProducerConfig) (state : Fields)
    (encoded compressed : Bytes) (r : ProduceResult) : Prop where
  encodes : encode state = .ok encoded
  compresses : CompressionHandler.compress {} encoded config.compression = .ok compressed
  chunks : ∃ cutId pieces, split config.chunkSize compressed cutId = .ok pieces ∧
    chunkRootOf (hexDigest encoded) pieces = .ok r.manifest.chunkRoot ∧
    r.chunks = pieces.map fun piece => { piece with snapshotId := r.manifest.snapshotId }
  nonnegative : 0 ≤ config.chunkSize
  contentHash : r.manifest.snapshotContentHash = hexDigest encoded
  stateHash : r.manifest.applicationStateHash = hexDigest encoded
  size : r.manifest.snapshotContentSize = encoded.length
  count : r.manifest.chunkCount = if r.chunks.isEmpty then 1 else r.chunks.length
  compression : r.manifest.compression = config.compression

variable [FloatReader] [Gzip]

variable {state data : Fields} {encoded : Bytes}

theorem exists_produced {config : SnapshotProducerConfig} {signingKey : Bytes} {i : ProduceInputs}
    {creationTime : String} {r : ProduceResult}
    (h : produce config signingKey i creationTime state = .ok r) :
    ∃ encoded compressed, Produced config state encoded compressed r := by
  simp only [produce, bind_eq_ok, pure_eq_ok, step_eq_ok, lifted_eq_ok] at h
  obtain ⟨-, -, encoded, hencoded, contentHash, hhash, size, hsize, -, -, compressed, hcompressed,
    cutId, -, pieces, hpieces, root, hroot, id, -, manifest, hmanifest, signature, -, -, -,
    rfl⟩ := h
  obtain ⟨encoded', hencoded', rfl⟩ := computeContentHash_eq_ok.mp hhash
  obtain rfl := Except.ok.inj (hencoded.symm.trans hencoded')
  simp only [computeContentSize, hencoded, bind_eq_ok, pure_eq_ok] at hsize
  obtain ⟨_, heq, rfl⟩ := hsize
  cases heq
  simp only [unsignedManifest, bind_eq_ok, require_eq_ok, pure_eq_ok] at hmanifest
  obtain ⟨-, hnonneg, rfl⟩ := hmanifest
  simp only [Bool.and_eq_true, decide_eq_true_eq] at hnonneg
  exact ⟨encoded, compressed, hencoded, hcompressed, ⟨cutId, pieces, hpieces, hroot, rfl⟩,
    hnonneg.2, rfl, rfl, rfl, rfl, rfl⟩

/-- How `gzip` behaves: what is compressed is decompressed, and a stream is never empty. -/
structure GzipRoundTrip [Gzip] : Prop where
  decompress_compress : ∀ data, Gzip.decompress (Gzip.compress data) = .ok data
  compress_ne_nil : ∀ data, Gzip.compress data ≠ []

omit [FloatReader] [Gzip] in
/-- An encoded state starts with a brace. -/
theorem exists_cons_of_encode (h : encode state = .ok encoded) : ∃ rest, encoded = 123 :: rest := by
  obtain ⟨-, -, rfl⟩ := encode_eq_ok.mp h
  have hbrace : ∀ cs : List Char,
      utf8Encode (String.ofList ('\x7b' :: cs)) = 123 :: utf8Encode (String.ofList cs) := by
    intro cs
    rw [String.ofList_cons]
    simp [utf8Encode]
    rfl
  rw [plainBytes, jsonText, List.cons_append, hbrace]
  exact ⟨_, rfl⟩

omit [FloatReader] [Gzip] in
/-- An integer up to ten gibibytes has a text. -/
theorem dumpable_of_le {n : ℕ} (h : n ≤ 10737418240) : (PyValue.int n).dumpable = true := by
  rw [PyValue.dumpable, decide_eq_true_eq, Int.natAbs_natCast]
  have hlength := (Nat.length_toDigits_le_iff (b := 10) (k := 11) (n := n) (by decide)
    (by decide)).mpr (by omega)
  omega

section Laws

omit [FloatReader]

variable {config : SnapshotProducerConfig} {state : Fields} {encoded compressed : Bytes}
  {r : ProduceResult}

/-- Compressed content is not empty and at most ten gibibytes long. -/
theorem Produced.length_compressed (h : Produced config state encoded compressed r)
    (gzip : GzipRoundTrip) : compressed ≠ [] ∧ compressed.length ≤ 10737418240 := by
  obtain ⟨rest, hrest⟩ := exists_cons_of_encode h.encodes
  have hcompress := h.compresses
  unfold CompressionHandler.compress at hcompress
  split at hcompress
  · split at hcompress
    · cases hcompress
    · cases hcompress
      next hle => exact ⟨hrest ▸ List.cons_ne_nil _ _, Nat.le_of_not_lt hle⟩
  · split at hcompress
    · cases hcompress
    · dsimp only at hcompress
      split at hcompress
      · cases hcompress
      · cases hcompress
        next hle =>
          have hmax : (Gzip.compress encoded).length ≤ 1073741824 := Nat.le_of_not_lt hle
          exact ⟨gzip.compress_ne_nil encoded, by omega⟩
  · cases hcompress

/-- The chunks of a produced snapshot prove themselves against its manifest, and put together they
are the compressed content. -/
theorem Produced.genuine (h : Produced config state encoded compressed r) (gzip : GzipRoundTrip) :
    Genuine r.manifest r.chunks ∧ reassemble r.chunks = .ok compressed := by
  obtain ⟨hne, hlength⟩ := h.length_compressed gzip
  obtain ⟨cutId, pieces, hsplit, hroot, hchunks⟩ := h.chunks
  obtain ⟨hcut, hpieces, hpieceCount, hflatten⟩ := split_eq_ok h.nonnegative hne hsplit
  have hcount : r.manifest.chunkCount = pieces.length := by
    rw [h.count, hchunks, if_neg (by simpa using hpieces), List.length_map]
  have hpayloads : r.chunks.map (·.payload) = pieces.map (·.payload) := by
    rw [hchunks, List.map_map]
    rfl
  have heach : ∀ (k : ℕ) (chunk : SnapshotChunk), r.chunks[k]? = some chunk →
      ∃ piece : SnapshotChunk, pieces[k]? = some piece ∧
      { piece with snapshotId := r.manifest.snapshotId } = chunk := by
    intro k chunk hk
    rw [hchunks, List.getElem?_map, Option.map_eq_some_iff] at hk
    exact hk
  refine ⟨⟨by rw [hcount, hchunks, List.length_map], by rw [hchunks]; simpa using hpieces, ?_, ?_,
    ?_⟩, ?_⟩
  · intro k chunk hk
    obtain ⟨piece, hpiece, rfl⟩ := heach k chunk hk
    obtain ⟨hindex, htotal, -, hsize, hverified⟩ := hcut.each k piece hpiece
    exact chunkMatches_iff.mpr ⟨rfl, by simpa using hindex, htotal.trans hcount.symm, hsize,
      hverified⟩
  · intro chunk hmem
    obtain ⟨k, hk⟩ := List.getElem?_of_mem hmem
    obtain ⟨piece, hpiece, rfl⟩ := heach k chunk hk
    obtain ⟨hindex, htotal, hplain, hsize, -⟩ := hcut.each k piece hpiece
    have hpayload : piece.payload.length ≤ compressed.length := by
      rw [← hflatten]
      exact (List.sublist_flatten_of_mem
        (List.mem_map_of_mem (List.mem_of_getElem? hpiece))).length_le
    have hlt := piece.index_lt
    have hints : ∀ n ∈ [piece.chunkIndex, piece.totalChunks, piece.uncompressedSize,
        piece.compressedSize], (PyValue.int n).dumpable = true := by
      intro n hn
      refine dumpable_of_le ?_
      simp only [List.mem_cons, List.not_mem_nil, or_false] at hn
      omega
    simp only [List.forall_mem_cons, List.not_mem_nil, false_imp_iff, implies_true,
      and_true] at hints
    rw [storable, PyValue.dumpable]
    simp only [chunkRecord, PyValue.dumpableMembers, hints]
    rfl
  · rw [hchunks, List.map_map]
    have hhashes : pieces ≠ [] := hpieces
    rw [chunkRootOf, if_neg (by simpa using hhashes)] at hroot
    exact hroot
  · rw [reassemble, reassembleFrom_eq_ok, hpayloads, hflatten]
    intro k chunk hk
    obtain ⟨piece, hpiece, rfl⟩ := heach k chunk hk
    exact (hcut.each k piece hpiece).1

end Laws

/-! ## Productions that succeed -/

omit [Gzip] in
/-- A state with the namespaces of an encoded one in order is encoded like it. -/
theorem encode_of_lookup (wellFormed : (PyValue.dict state).WellFormed)
    (h : encode state = .ok encoded) (hknown : unknownNamespaces data = [])
    (hdata : ∀ ns ∈ stateNamespaces, data.lookup ns = some (orderedNamespace state ns)) :
    encode data = .ok encoded := by
  obtain ⟨-, hdump, rfl⟩ := encode_eq_ok.mp h
  have hordered := orderedState_of_lookup wellFormed hdata
  exact encode_eq_ok.mpr ⟨hknown, by rw [hordered]; exact hdump, by rw [hordered]⟩

omit [FloatReader] [Gzip] in
theorem unknownNamespaces_eq_nil (h : ∀ key ∈ data.map Prod.fst, key ∈ stateNamespaces) :
    unknownNamespaces data = [] := by
  rw [unknownNamespaces, List.filter_eq_nil_iff]
  intro key hkey
  simpa using h key hkey

omit [Gzip] in
/-- What is encoded is restored locally. -/
theorem verifyLocalRestoration_eq_ok (wellFormed : (PyValue.dict state).WellFormed)
    (h : encode state = .ok encoded) :
    verifyLocalRestoration state (hexDigest encoded) = .ok () := by
  obtain ⟨-, hdump, hencoded⟩ := encode_eq_ok.mp h
  have hdecoded : (encode state >>= decode) = .ok (.dict (orderedState state)) := by
    rw [h]
    exact hencoded ▸ decode_plainBytes (wellFormed_orderedState wellFormed) hdump
  have hagain : encode (orderedState state) = .ok encoded :=
    encode_of_lookup wellFormed h (unknownNamespaces_eq_nil fun key hkey => by
      rwa [keys_orderedState] at hkey) fun ns hns => by
      rw [orderedState_eq]
      exact lookup_map_name hns
  have hhash : computeContentHash (orderedState state) = .ok (hexDigest encoded) :=
    computeContentHash_eq_ok.mpr ⟨encoded, hagain, rfl⟩
  rw [verifyLocalRestoration, hdecoded]
  dsimp only
  rw [hhash]
  dsimp only
  rw [beq_self_eq_true]
  rfl

def plainConfig : SnapshotProducerConfig where
  compression := .none

def firstBlock : ProduceInputs where
  blockHeight := 1
  blockHash := "b"
  blockTime := "2026-01-01T00:00:00+00:00"
  epoch := 0
  chainId := "c"
  networkId := "n"
  networkRevision := 1
  protocolVersion := "1"
  applicationVersion := "1"
  stateSchemaVersion := 1
  producerServiceId := "p"

/-- A snapshot of the first block is produced of every state that can be encoded in one chunk. -/
theorem exists_produce (signingKey : Bytes) (creationTime : String) {state : Fields}
    {encoded : Bytes} (wellFormed : (PyValue.dict state).WellFormed)
    (hencode : encode state = .ok encoded) (hlength : encoded.length ≤ 8388608) :
    ∃ r, produce plainConfig signingKey firstBlock creationTime state = .ok r ∧
      r.chunks.map (·.payload) = [encoded] ∧
      r.manifest.applicationStateHash = hexDigest encoded := by
  obtain ⟨rest, hrest⟩ := exists_cons_of_encode hencode
  have hne : encoded ≠ [] := hrest ▸ List.cons_ne_nil _ _
  have hhash : computeContentHash state = .ok (hexDigest encoded) :=
    computeContentHash_eq_ok.mpr ⟨encoded, hencode, rfl⟩
  have hsize : computeContentSize state = .ok encoded.length := by
    rw [computeContentSize, hencode]
    rfl
  have hpos : 1 ≤ encoded.length := List.length_pos_of_ne_nil hne
  have hslices : slices 8388608 encoded = [encoded] := by
    have hone : (encoded.length + 8388608 - 1) / 8388608 = 1 := by omega
    rw [slices, hone]
    simp [hlength]
  have hid : ∀ stateHash root, ∃ id, snapshotIdFor plainConfig firstBlock stateHash root = .ok id :=
    fun _ _ => ⟨_, rfl⟩
  obtain ⟨cutId, hcutId⟩ := hid (hexDigest encoded) (hexDigest encoded)
  obtain ⟨pieces, hpieces, hcut⟩ := @exists_splitFrom cutId 1 0 [encoded] (Nat.le_refl 1)
  have hsplit : split plainConfig.chunkSize encoded cutId = .ok pieces := by
    have hcount : (encoded.length + (8388608 : Int).toNat - 1) / (8388608 : Int).toNat = 1 := by
      show (encoded.length + 8388608 - 1) / 8388608 = 1
      omega
    rw [split, if_neg (by rwa [List.isEmpty_iff]), if_neg (by decide), if_neg (by decide)]
    exact (congrArg₂ (fun total payloads => splitFrom cutId total payloads 0) hcount
      hslices).trans hpieces
  obtain ⟨piece, rfl⟩ : ∃ piece, pieces = [piece] := by
    have hcount := congrArg List.length hcut.payloads
    rw [List.length_map] at hcount
    exact List.length_eq_one_iff.mp hcount
  have hpayload : piece.payload = encoded := (List.cons.inj hcut.payloads).1
  obtain ⟨root, hroot⟩ := exists_rootHash (List.cons_ne_nil encoded [])
  have hchunkRoot : chunkRootOf (hexDigest encoded) [piece] = .ok root := by
    have hverified := (hcut.each 0 piece rfl).2.2.2.2
    rw [chunkRootOf, if_neg (by rw [List.isEmpty_cons]; decide), List.map_singleton,
      chunkHash_of_verifyChunk hverified, hpayload]
    exact hroot
  obtain ⟨id, hsnapshotId⟩ := hid (hexDigest encoded) root
  have hcompress : CompressionHandler.compress {} encoded plainConfig.compression = .ok encoded :=
    if_neg (by show ¬ encoded.length > 10737418240; omega)
  have hdump : ∀ m : SnapshotManifest,
      unsignedManifest plainConfig firstBlock creationTime id (hexDigest encoded) encoded.length 1
        root = .ok m → (PyValue.dict m.unsignedDump).dumpable = true := by
    intro m hm
    cases hm
    have hlong : (PyValue.int encoded.length).dumpable = true := dumpable_of_le (by omega)
    rw [PyValue.dumpable]
    simp only [SnapshotManifest.unsignedDump, PyValue.dumpableMembers, hlong]
    rfl
  obtain ⟨manifest, hmanifest⟩ : ∃ manifest, unsignedManifest plainConfig firstBlock creationTime id
      (hexDigest encoded) encoded.length 1 root = .ok manifest := ⟨_, rfl⟩
  obtain ⟨signature, hsignature⟩ : ∃ signature,
      signManifestWithKey signingKey manifest = .ok signature := by
    rw [signManifestWithKey, hdump manifest hmanifest]
    exact ⟨_, rfl⟩
  have hstate : manifest.applicationStateHash = hexDigest encoded := by
    cases hmanifest
    rfl
  have hmax : requireProducer (encoded.length ≤ plainConfig.maxSnapshotSize)
      s!"Snapshot content size {encoded.length} exceeds max {plainConfig.maxSnapshotSize}" =
        .ok () := by
    refine requireProducer_eq_ok.mpr (decide_eq_true ?_)
    show (encoded.length : Int) ≤ 10737418240
    omega
  refine ⟨⟨{ manifest with producerSignature := signature },
    [{ piece with snapshotId := id }], hexDigest encoded, encoded.length, root⟩, ?_,
    congrArg (fun payload => [payload]) hpayload, hstate⟩
  simp only [produce, bind_eq_ok, pure_eq_ok, step_eq_ok, lifted_eq_ok]
  exact ⟨(), rfl, encoded, hencode, hexDigest encoded, hhash, encoded.length, hsize, (), hmax,
    encoded, hcompress, cutId, hcutId, [piece], hsplit, root, hchunkRoot, id, hsnapshotId, manifest,
    hmanifest, signature, hsignature, (), verifyLocalRestoration_eq_ok wellFormed hencode, rfl⟩

end AidnSpec.Snapshot
