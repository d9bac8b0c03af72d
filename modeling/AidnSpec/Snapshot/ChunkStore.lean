import AidnSpec.Snapshot.Chunking
import AidnSpec.Snapshot.Encoding

/-!
# Stored chunks

`snapshot/chunk_store.py`: a chunk is a file under a key that the store makes of the snapshot, the
index and the hash. Keys that a session brings are resolved below the root of the store, so several
of them can name one file.
-/

namespace AidnSpec.Snapshot

open Base List

/-- What the snapshot code raises: errors with a kind that is told apart, `OSError`,
`NotImplementedError`, and what is not handled. -/
inductive SnapshotError where
  | python (error : PyError)
  | os (message : String)
  | notImplemented (message : String)
  | other (message : String)

def SnapshotError.message : SnapshotError → String
  | .python e => e.message
  | .os message => message
  | .notImplemented message => message
  | .other message => message

/-- A path below the root of the store. -/
abbrev StorePath := List (List Char)

/-- Which file operations of a put fail. -/
structure DiskFaults where
  mkdir : Bool := false
  write : Bool := false

/-- `FileSnapshotChunkStore`: the files below its root. -/
structure FileSnapshotChunkStore where
  files : Dict StorePath Bytes := .empty

/-- `f"{index:08d}"`. -/
def paddedIndex (index : ℕ) : List Char :=
  List.replicate (8 - (Nat.toDigits 10 index).length) '0' ++ Nat.toDigits 10 index

def keyFor (chunk : SnapshotChunk) : String :=
  hexDigest (utf8Encode chunk.snapshotId) ++ "/" ++ String.ofList (paddedIndex chunk.chunkIndex) ++
    "-" ++ chunk.chunkHash ++ ".json"

/-- `_path_for`, which raises for a key that leads out of the root or to it. -/
def pathFor (key : String) : Option StorePath :=
  let parts := key.toList.splitOn '/'
  if key.isEmpty || key.toList.contains '\\' || key.toList.head? = some '/' ||
      parts.contains ['.', '.'] then none
  else
    let path := parts.filter fun part => part ≠ [] && part ≠ ['.']
    if path = [] then none else some path

def chunkRecord (chunk : SnapshotChunk) : Fields := [
  ("snapshot_id", .str chunk.snapshotId), ("chunk_index", .int chunk.chunkIndex),
  ("total_chunks", .int chunk.totalChunks), ("uncompressed_size", .int chunk.uncompressedSize),
  ("compressed_size", .int chunk.compressedSize), ("chunk_hash", .str chunk.chunkHash),
  ("payload_b64", .str (b64Encode chunk.payload))]

def recordBytes (chunk : SnapshotChunk) : Bytes :=
  utf8Encode (String.ofList (canonicalText (.dict (chunkRecord chunk))))

section Reading

variable [Runtime] [FloatReader]

/-- `SnapshotChunk(…)` of a record and a payload. -/
def chunkOf (record : Fields) (payload : Bytes) : Option SnapshotChunk := do
  let snapshotId ← fieldText record "snapshot_id" false
  let chunkIndex ← fieldNat record "chunk_index"
  let totalChunks ← fieldNat record "total_chunks"
  let uncompressedSize ← fieldNat record "uncompressed_size"
  let compressedSize ← fieldNat record "compressed_size"
  let chunkHash ← fieldText record "chunk_hash" false
  if h : chunkIndex < totalChunks then
    some ⟨snapshotId, chunkIndex, totalChunks, uncompressedSize, compressedSize, chunkHash, payload,
      h⟩
  else none

/-- A parsed file as a chunk. A `KeyError` or `ValueError` gives no chunk, a `TypeError` is not
handled. -/
def readRecord : PyValue → Except PyError (Option SnapshotChunk)
  | .dict record =>
    if ["snapshot_id", "chunk_index", "total_chunks", "uncompressed_size", "compressed_size",
        "chunk_hash"].all (Fields.has record) then
      match record.lookup "payload_b64" with
      | none => .ok none
      | some (.str text) => .ok ((b64Decode text).bind (chunkOf record))
      | some _ => raiseType "argument should be a bytes-like object or ASCII string"
    else .ok none
  | .list _ => raiseType "list indices must be integers or slices, not str"
  | .str _ => raiseType "string indices must be integers, not 'str'"
  | _ => raiseType "object is not subscriptable"

namespace FileSnapshotChunkStore

def put (store : FileSnapshotChunkStore) (chunk : SnapshotChunk) (faults : DiskFaults) :
    Except SnapshotError String × FileSnapshotChunkStore :=
  match pathFor (keyFor chunk) with
  | none => (.error (.python ⟨.value, "invalid snapshot chunk storage key"⟩), store)
  | some path =>
    if faults.mkdir then (.error (.os "cannot create directory"), store)
    else if (PyValue.dict (chunkRecord chunk)).dumpable then
      if faults.write then (.error (.os "cannot write file"), store)
      else (.ok (keyFor chunk), { store with files := store.files.set path (recordBytes chunk) })
    else (.error (.python ⟨.value,
      "Exceeds the limit (4300 digits) for integer string conversion"⟩), store)

def get (store : FileSnapshotChunkStore) (key : String) : Except PyError (Option SnapshotChunk) :=
  match (pathFor key).bind store.files.get? with
  | none => .ok none
  | some raw =>
    match decode raw with
    | .error _ => .ok none
    | .ok value => readRecord value

end FileSnapshotChunkStore

/-! ## Reading what was written -/

omit [Runtime] [FloatReader] in
theorem nodup_chunkRecord (chunk : SnapshotChunk) : ((chunkRecord chunk).map Prod.fst).Nodup := by
  simp [chunkRecord]

omit [Runtime] in
theorem wellFormed_chunkRecord (chunk : SnapshotChunk) :
    (PyValue.dict (chunkRecord chunk)).WellFormed := by
  refine .dict (nodup_chunkRecord chunk) fun member hmember => ?_
  simp only [chunkRecord, mem_cons, not_mem_nil, or_false] at hmember
  rcases hmember with rfl | rfl | rfl | rfl | rfl | rfl | rfl
  all_goals first | exact .str _ | exact .int _

variable {chunk : SnapshotChunk}

omit [Runtime] [FloatReader] in
/-- A record has no members to sort. -/
theorem sorted_chunkRecord {key : String} {value : PyValue}
    (h : (chunkRecord chunk).lookup key = some value) : value.sorted = value := by
  have hmem := mem_of_lookup h
  simp only [chunkRecord, mem_cons, Prod.mk.injEq, not_mem_nil, or_false] at hmem
  rcases hmem with h | h | h | h | h | h | h <;> rw [h.2, PyValue.sorted]

omit [FloatReader] in
/-- A record is read as its chunk, in whatever order its members stand. -/
theorem readRecord_eq {record : Fields}
    (h : ∀ key, record.lookup key = (chunkRecord chunk).lookup key) :
    readRecord (.dict record) = .ok (some chunk) := by
  have hid : record.lookup "snapshot_id" = some (.str chunk.snapshotId) := (h _).trans rfl
  have hindex : record.lookup "chunk_index" = some (.int chunk.chunkIndex) := (h _).trans rfl
  have htotal : record.lookup "total_chunks" = some (.int chunk.totalChunks) := (h _).trans rfl
  have hplain : record.lookup "uncompressed_size" = some (.int chunk.uncompressedSize) :=
    (h _).trans rfl
  have hsize : record.lookup "compressed_size" = some (.int chunk.compressedSize) :=
    (h _).trans rfl
  have hhash : record.lookup "chunk_hash" = some (.str chunk.chunkHash) := (h _).trans rfl
  have hpayload : record.lookup "payload_b64" = some (.str (b64Encode chunk.payload)) :=
    (h _).trans rfl
  have hread : chunkOf record chunk.payload = some chunk := by
    simp only [chunkOf, fieldText_of_lookup hid, fieldNat_of_lookup hindex,
      fieldNat_of_lookup htotal, fieldNat_of_lookup hplain, fieldNat_of_lookup hsize,
      fieldText_of_lookup hhash, Option.bind_eq_bind, Option.bind_some, dif_pos chunk.index_lt]
  have hkeys : (["snapshot_id", "chunk_index", "total_chunks", "uncompressed_size",
      "compressed_size", "chunk_hash"].all (Fields.has record)) = true := by
    simp [Fields.has, hid, hindex, htotal, hplain, hsize, hhash]
  rw [readRecord, if_pos hkeys, hpayload]
  simp only [b64Decode_b64Encode, Option.bind_some, hread]

/-- The file of a chunk that could be written is read as that chunk. -/
theorem read_recordBytes (h : (PyValue.dict (chunkRecord chunk)).dumpable = true) :
    ∃ value, decode (recordBytes chunk) = .ok value ∧ readRecord value = .ok (some chunk) := by
  refine ⟨(PyValue.dict (chunkRecord chunk)).sorted, ?_, ?_⟩
  · rw [decode, recordBytes, utf8Decode_utf8Encode]
    simp only [String.toList_ofList, loads_canonicalText (wellFormed_chunkRecord chunk) h]
  · rw [PyValue.sorted_dict]
    apply readRecord_eq
    intro key
    rw [lookup_sorted (nodup_chunkRecord chunk)]
    cases hvalue : (chunkRecord chunk).lookup key with
    | none => rfl
    | some value => exact congrArg some (sorted_chunkRecord hvalue)

end Reading

/-! ## Keys and the files they name -/

/-- A character that stands in no generated key but as a mark. -/
def isPathMark (c : Char) : Bool := c = '/' || c = '\\' || c = '.' || c = '-'

theorem not_isPathMark_hexDigit {v : ℕ} (h : v < 16) : isPathMark (hexDigit false v) = false := by
  have hall : ∀ w : Fin 16, isPathMark (hexDigit false w) = false := by decide
  exact hall ⟨v, h⟩

theorem not_isPathMark_hex {bytes : Bytes} {c : Char} (h : c ∈ hexChars false bytes) :
    isPathMark c = false := by
  obtain ⟨v, hv, rfl⟩ := mem_hexChars h
  exact not_isPathMark_hexDigit hv

variable {index : ℕ} {c : Char} {payload : Bytes} {chunk : SnapshotChunk}

theorem isDigit_of_mem_paddedIndex (h : c ∈ paddedIndex index) : c.isDigit = true := by
  rcases mem_append.mp h with h | h
  · rw [eq_of_mem_replicate h]
    decide
  · exact Nat.isDigit_of_mem_toDigits (by decide) (by decide) h

def fileName (index : ℕ) (payload : Bytes) : List Char :=
  paddedIndex index ++ '-' :: (hexChars false (sha256 payload) ++ ".json".toList)

def directoryName (snapshotId : String) : List Char :=
  hexChars false (sha256 (utf8Encode snapshotId))

theorem not_mem_directoryName {snapshotId : String} (h : isPathMark c = true) :
    c ∉ directoryName snapshotId := by
  intro hmem
  rw [not_isPathMark_hex hmem] at h
  cases h

/-- A file name has no slash of either kind. -/
theorem not_mem_fileName (h : c = '/' ∨ c = '\\') : c ∉ fileName index payload := by
  intro hmem
  rcases mem_append.mp hmem with hmem | hmem
  · have hdigit := isDigit_of_mem_paddedIndex hmem
    rcases h with rfl | rfl <;> cases hdigit
  · rcases mem_cons.mp hmem with hmem | hmem
    · rcases h with rfl | rfl <;> cases hmem
    · rcases mem_append.mp hmem with hmem | hmem
      · have hmark := not_isPathMark_hex hmem
        rcases h with rfl | rfl <;> cases hmark
      · rcases h with rfl | rfl <;> revert hmem <;> decide

theorem hexChars_sha256_ne_nil (message : Bytes) : hexChars false (sha256 message) ≠ [] := by
  intro h
  have hlength := congrArg List.length h
  rw [length_hexChars, length_sha256] at hlength
  cases hlength

/-- The key of a verified chunk. -/
theorem toList_keyFor (h : verifyChunk chunk = true) :
    (keyFor chunk).toList =
      directoryName chunk.snapshotId ++ '/' :: fileName chunk.chunkIndex chunk.payload := by
  have hhash : chunk.chunkHash = hexDigest chunk.payload := beq_iff_eq.mp h
  simp only [keyFor, hhash, hexDigest, hexEncode, String.toList_append, String.toList_ofList,
    directoryName, fileName, append_assoc]
  rfl

/-- A verified chunk has a file: in the directory of its snapshot, under its index and hash. -/
theorem pathFor_keyFor (h : verifyChunk chunk = true) :
    pathFor (keyFor chunk) =
      some [directoryName chunk.snapshotId, fileName chunk.chunkIndex chunk.payload] := by
  have hslash : '/' ∉ directoryName chunk.snapshotId := not_mem_directoryName (by decide)
  have hparts : (keyFor chunk).toList.splitOn '/' =
      [directoryName chunk.snapshotId, fileName chunk.chunkIndex chunk.payload] := by
    rw [toList_keyFor h, splitOn_append_cons_self_of_not_mem hslash,
      splitOn_eq_singleton (not_mem_fileName (.inl rfl))]
  obtain ⟨first, directory, hdirectory⟩ := exists_cons_of_ne_nil
    (hexChars_sha256_ne_nil (utf8Encode chunk.snapshotId))
  have hname : ∀ part : List Char, part.length < 3 →
      fileName chunk.chunkIndex chunk.payload ≠ part := by
    intro part hpart heq
    have hlength := congrArg List.length heq
    simp only [fileName, length_append, length_cons, length_hexChars,
      length_sha256] at hlength
    omega
  have hdots : ∀ part : List Char, '.' ∈ part → directoryName chunk.snapshotId ≠ part := by
    rintro part hpart rfl
    exact not_mem_directoryName (by decide) hpart
  have hempty : (keyFor chunk).isEmpty = false := by
    rw [← Bool.not_eq_true, String.isEmpty_iff]
    intro hkey
    have hlist := toList_keyFor h
    rw [hkey, directoryName, hdirectory] at hlist
    cases hlist
  have hback : (keyFor chunk).toList.contains '\\' = false := by
    rw [contains_eq_mem, decide_eq_false_iff_not, toList_keyFor h]
    intro hmem
    rcases mem_append.mp hmem with hmem | hmem
    · exact not_mem_directoryName (by decide) hmem
    · rcases mem_cons.mp hmem with hmem | hmem
      · cases hmem
      · exact not_mem_fileName (.inr rfl) hmem
  have hhead : (keyFor chunk).toList.head? ≠ some '/' := by
    rw [toList_keyFor h, directoryName, hdirectory]
    intro hfirst
    have hmark := @not_isPathMark_hex (sha256 (utf8Encode chunk.snapshotId)) first
      (hdirectory ▸ mem_cons_self)
    rw [Option.some.inj hfirst] at hmark
    cases hmark
  have hnonempty : directoryName chunk.snapshotId ≠ [] := hexChars_sha256_ne_nil _
  rw [pathFor]
  simp only [hparts, hempty, hback, Bool.false_or]
  simp [hhead, hnonempty, Ne.symm (hdots ['.', '.'] (by decide)), hdots ['.'] (by decide),
    Ne.symm (hname ['.', '.'] (by decide)), hname ['.'] (by decide), hname [] (by decide)]

theorem ofDigitChars_paddedIndex (index : ℕ) :
    Nat.ofDigitChars 10 (paddedIndex index) 0 = index := by
  have hzeros : ∀ n : ℕ, Nat.ofDigitChars 10 (List.replicate n '0') 0 = 0 := by
    intro n
    induction n with
    | zero => rfl
    | succ n ih =>
      rw [replicate_succ, Nat.ofDigitChars, foldl_cons]
      exact ih
  have happend : ∀ xs ys : List Char, Nat.ofDigitChars 10 (xs ++ ys) 0 =
      Nat.ofDigitChars 10 ys (Nat.ofDigitChars 10 xs 0) := fun xs ys => foldl_append
  rw [paddedIndex, happend, hzeros]
  exact Nat.ofDigitChars_ten_toDigits

/-- The name of a file determines the index of its chunk. -/
theorem index_of_fileName {other : ℕ} {payload' : Bytes}
    (h : fileName index payload = fileName other payload') : index = other := by
  have htake : ∀ (i : ℕ) (p : Bytes), (fileName i p).takeWhile Char.isDigit = paddedIndex i := by
    intro i p
    rw [fileName, takeWhile_append_of_pos fun c hc => isDigit_of_mem_paddedIndex hc,
      takeWhile_cons_of_neg (by decide), append_nil]
  have hpadded : paddedIndex index = paddedIndex other := by
    rw [← htake index payload, h, htake]
  rw [← ofDigitChars_paddedIndex index, hpadded, ofDigitChars_paddedIndex]

/-! ## The store over its puts -/

namespace FileSnapshotChunkStore

/-- Every file is that of a verified chunk, under its own key. -/
def Filed (store : FileSnapshotChunkStore) : Prop :=
  ∀ path raw, store.files.get? path = some raw → ∃ chunk, verifyChunk chunk = true ∧
    pathFor (keyFor chunk) = some path ∧ (PyValue.dict (chunkRecord chunk)).dumpable = true ∧
    raw = recordBytes chunk

theorem filed_empty : Filed {} := fun _ _ h => by cases h

/-- What a put can do: it raises and leaves the files alone, or it writes the file of the chunk. -/
theorem put_cases (store : FileSnapshotChunkStore) (chunk : SnapshotChunk) (faults : DiskFaults) :
    (∃ e, store.put chunk faults = (.error e, store)) ∨
    ∃ path, pathFor (keyFor chunk) = some path ∧
      (PyValue.dict (chunkRecord chunk)).dumpable = true ∧
      store.put chunk faults =
        (.ok (keyFor chunk), { files := store.files.set path (recordBytes chunk) }) := by
  unfold put
  cases hpath : pathFor (keyFor chunk) with
  | none => exact .inl ⟨_, rfl⟩
  | some path =>
    dsimp only
    split
    · exact .inl ⟨_, rfl⟩
    · split
      · next hdumpable =>
        split
        · exact .inl ⟨_, rfl⟩
        · exact .inr ⟨path, rfl, hdumpable, rfl⟩
      · exact .inl ⟨_, rfl⟩

variable {store : FileSnapshotChunkStore} {chunk : SnapshotChunk} {key : String}

theorem Filed.put (h : store.Filed) (verified : verifyChunk chunk = true) (faults : DiskFaults) :
    (store.put chunk faults).2.Filed := by
  rcases store.put_cases chunk faults with ⟨e, heq⟩ | ⟨path, hpath, hdumpable, heq⟩
  · rw [heq]
    exact h
  · rw [heq]
    intro path' raw hraw
    rw [Dict.get?_set] at hraw
    split at hraw
    · next hsame => exact ⟨chunk, verified, hsame ▸ hpath, hdumpable, (Option.some.inj hraw).symm⟩
    · exact h path' raw hraw

variable [Runtime] [FloatReader]

theorem get_eq {path : StorePath} (hpath : pathFor key = some path)
    (hraw : store.files.get? path = some (recordBytes chunk))
    (hdumpable : (PyValue.dict (chunkRecord chunk)).dumpable = true) :
    store.get key = .ok (some chunk) := by
  obtain ⟨value, hvalue, hread⟩ := read_recordBytes hdumpable
  rw [get, hpath, Option.bind_some, hraw]
  simp only [hvalue, hread]

/-- A chunk that was put is there. -/
theorem get_put {store' : FileSnapshotChunkStore} {faults : DiskFaults}
    (h : store.put chunk faults = (.ok key, store')) : store'.get key = .ok (some chunk) := by
  rcases store.put_cases chunk faults with ⟨e, heq⟩ | ⟨path, hpath, hdumpable, heq⟩
  · rw [heq] at h
    cases h
  · rw [heq] at h
    obtain ⟨hkey, rfl⟩ := Prod.mk.inj h
    cases hkey
    exact get_eq hpath (Dict.get?_set_self _ _ _) hdumpable

/-- A stored chunk stays where it is when one of another index is put. -/
theorem Filed.get_put_of_ne (h : store.Filed) {stored : SnapshotChunk}
    (verified : verifyChunk chunk = true) (hget : store.get key = .ok (some stored))
    (hindex : stored.chunkIndex ≠ chunk.chunkIndex) (faults : DiskFaults) :
    (store.put chunk faults).2.get key = .ok (some stored) := by
  rcases store.put_cases chunk faults with ⟨e, heq⟩ | ⟨path, hpath, hdumpable, heq⟩
  · rw [heq]
    exact hget
  · rw [heq]
    unfold get at hget
    cases hkey : pathFor key with
    | none =>
      rw [hkey] at hget
      cases hget
    | some path' =>
      rw [hkey, Option.bind_some] at hget
      cases hraw : store.files.get? path' with
      | none =>
        rw [hraw] at hget
        cases hget
      | some raw =>
        obtain ⟨filed, hverified, hfiled, hdump, rfl⟩ := h path' raw hraw
        obtain ⟨value, hvalue, hread⟩ := read_recordBytes hdump
        rw [hraw] at hget
        simp only [hvalue, hread] at hget
        cases hget
        have hne : path' ≠ path := by
          rintro rfl
          rw [pathFor_keyFor hverified] at hfiled
          rw [pathFor_keyFor verified, ← hfiled] at hpath
          have hnames := List.cons.inj (List.cons.inj (Option.some.inj hpath)).2
          exact hindex (index_of_fileName hnames.1).symm
        exact get_eq hkey ((Dict.get?_set_of_ne _ _ hne).trans hraw) hdump

end FileSnapshotChunkStore

/-- Nothing is dated and nothing signed. -/
@[reducible] def recordRuntime : Runtime where
  coerceInt _ := none
  fromisoformat _ := none
  ed25519Verify _ _ _ := false

end AidnSpec.Snapshot
