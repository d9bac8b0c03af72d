import AidnSpec.Snapshot.Download

/-!
# What a session proves

The bitmap of a session that a download returns is true only for chunks that the store holds and
that belong to the snapshot. Storing one chunk leaves the chunks of other indices in place, since
the name of a file has the index of its chunk.
-/

namespace AidnSpec.Snapshot

open Base FileSnapshotChunkStore List

variable [Runtime] [FloatReader]

/-- The files of verified chunks stay, but for those of an index. -/
structure Extends (index : ℕ) (store store' : FileSnapshotChunkStore) : Prop where
  filed : store.Filed → store'.Filed
  kept : store.Filed → ∀ key stored, store.get key = .ok (some stored) →
    stored.chunkIndex ≠ index → store'.get key = .ok (some stored)

theorem Extends.refl (index : ℕ) (store : FileSnapshotChunkStore) : Extends index store store :=
  ⟨id, fun _ _ _ hget _ => hget⟩

variable {index i maxRetryCount : ℕ} {store store' : FileSnapshotChunkStore} {chunk : SnapshotChunk}
  {p : Progress} {s : DownloadSession} {α ε β : Type} {now : String} {providers : List String}
  {slots : List (Option Slot)}

theorem Extends.trans {store'' : FileSnapshotChunkStore} (h : Extends index store store')
    (h' : Extends index store' store'') : Extends index store store'' :=
  ⟨fun hfiled => h'.filed (h.filed hfiled), fun hfiled key stored hget hindex =>
    h'.kept (h.filed hfiled) key stored (h.kept hfiled key stored hget hindex) hindex⟩

theorem extends_put (store : FileSnapshotChunkStore) (verified : verifyChunk chunk = true)
    (faults : DiskFaults) : Extends chunk.chunkIndex store (store.put chunk faults).2 :=
  ⟨fun hfiled => hfiled.put verified faults, fun hfiled _ _ hget hindex =>
    hfiled.get_put_of_ne verified hget hindex faults⟩

omit [Runtime] [FloatReader] in
theorem chunkMatches_iff {snapshotId : String} {total : ℕ} :
    chunkMatches snapshotId total index chunk = true ↔ chunk.snapshotId = snapshotId ∧
      chunk.chunkIndex = index ∧ chunk.totalChunks = total ∧
      chunk.compressedSize = chunk.payload.length ∧ verifyChunk chunk = true := by
  simp [chunkMatches, and_assoc]

/-! ## One chunk -/

/-- A chunk that was fetched is accepted and stored. -/
def Fetched (accepts : SnapshotChunk → Bool)
    (outcome : Except SnapshotError (Option (SnapshotChunk × String)) × FileSnapshotChunkStore) :
    Prop :=
  ∀ chunk key, outcome.1 = .ok (some (chunk, key)) →
    accepts chunk = true ∧ outcome.2.get key = .ok (some chunk)

variable (answers : Answers) {accepts : SnapshotChunk → Bool} {index : ℕ}

theorem attempts_spec (haccepts : ∀ chunk, accepts chunk = true →
    chunk.chunkIndex = index ∧ verifyChunk chunk = true) (provider : String) (left attempt : ℕ)
    (store : FileSnapshotChunkStore) :
    Extends index store (attempts answers accepts provider index left attempt store).2 ∧
      Fetched accepts (attempts answers accepts provider index left attempt store) := by
  induction left generalizing attempt store with
  | zero => exact ⟨.refl index store, fun _ _ h => by cases h⟩
  | succ left ih =>
    rw [attempts]
    cases hanswer : answers.chunk provider index attempt with
    | none => exact ih (attempt + 1) store
    | some chunk =>
      dsimp only
      by_cases haccept : accepts chunk = true
      · rw [if_pos haccept]
        obtain ⟨hindex, hverified⟩ := haccepts chunk haccept
        have hput := extends_put store hverified (answers.faults provider index attempt)
        rw [hindex] at hput
        cases heq : store.put chunk (answers.faults provider index attempt) with
        | mk outcome store' =>
          rw [heq] at hput
          cases outcome with
          | ok key =>
            refine ⟨hput, fun chunk' key' h => ?_⟩
            obtain ⟨rfl, rfl⟩ := Prod.mk.inj (Option.some.inj (Except.ok.inj h))
            exact ⟨haccept, get_put heq⟩
          | error e =>
            cases e with
            | os message => exact ⟨hput.trans (ih (attempt + 1) store').1, (ih _ store').2⟩
            | python | notImplemented | other => exact ⟨hput, fun _ _ h => by cases h⟩
      · rw [if_neg haccept]
        exact ih (attempt + 1) store

theorem fetch_spec (haccepts : ∀ chunk, accepts chunk = true →
    chunk.chunkIndex = index ∧ verifyChunk chunk = true) (maxRetryCount : ℕ)
    (providers : List String) (store : FileSnapshotChunkStore) :
    Extends index store (fetch answers accepts maxRetryCount index providers store).2 ∧
      Fetched accepts (fetch answers accepts maxRetryCount index providers store) := by
  induction providers generalizing store with
  | nil => exact ⟨.refl index store, fun _ _ h => by cases h⟩
  | cons provider rest ih =>
    rw [fetch]
    split
    · obtain ⟨hextends, hfetched⟩ :=
        attempts_spec answers haccepts provider (maxRetryCount + 1) 0 store
      cases hattempts : attempts answers accepts provider index (maxRetryCount + 1) 0 store with
      | mk outcome store' =>
        rw [hattempts] at hextends hfetched
        cases outcome with
        | error e => exact ⟨hextends, hfetched⟩
        | ok fetched =>
          cases fetched with
          | none => exact ⟨hextends.trans (ih store').1, (ih store').2⟩
          | some fetched => exact ⟨hextends, hfetched⟩
    · exact ih store

/-! ## All chunks -/

omit [Runtime] [FloatReader] in
theorem accepted_chunkMatches (snapshotId : String) (total index : ℕ) (chunk : SnapshotChunk)
    (h : chunkMatches snapshotId total index chunk = true) :
    chunk.chunkIndex = index ∧ verifyChunk chunk = true :=
  ⟨(chunkMatches_iff.mp h).2.1, (chunkMatches_iff.mp h).2.2.2.2⟩

/-- Every slot is that of a stored chunk of the snapshot. -/
def Holds (store : FileSnapshotChunkStore) (snapshotId : String) (total : ℕ)
    (slots : List (Option Slot)) : Prop :=
  ∀ i slot, slots[i]? = some (some slot) → ∃ chunk, store.get slot.key = .ok (some chunk) ∧
    chunkMatches snapshotId total i chunk = true ∧ chunk.chunkHash = slot.hash

theorem holds_replicate (store : FileSnapshotChunkStore) (snapshotId : String) (total n : ℕ) :
    Holds store snapshotId total (List.replicate n none) := by
  intro i slot hslot
  have hmem := mem_of_getElem? hslot
  cases eq_of_mem_replicate hmem

variable {snapshotId : String} {total : ℕ}

/-- One chunk keeps the others, and its own slot is that of a stored chunk when it was fetched. -/
theorem Holds.record (hfiled : store.Filed) (h : Holds store snapshotId total p.slots)
    (hindex : p.slots[index]? = some none) {fetched : Option (SnapshotChunk × String)}
    (hextends : Extends index store store')
    (hfetched : Fetched (chunkMatches snapshotId total index) (.ok fetched, store')) :
    Holds store' snapshotId total (p.record index fetched).slots := by
  have hold : ∀ i slot, i ≠ index → p.slots[i]? = some (some slot) →
      ∃ chunk, store'.get slot.key = .ok (some chunk) ∧
        chunkMatches snapshotId total i chunk = true ∧ chunk.chunkHash = slot.hash := by
    intro i slot hi hslot
    obtain ⟨chunk, hget, hmatches, hhash⟩ := h i slot hslot
    refine ⟨chunk, hextends.kept hfiled _ _ hget ?_, hmatches, hhash⟩
    rw [(chunkMatches_iff.mp hmatches).2.1]
    exact hi
  cases fetched with
  | none =>
    intro i slot hslot
    refine hold i slot ?_ hslot
    rintro rfl
    have hsome : p.slots[i]? = some (some slot) := hslot
    rw [hindex] at hsome
    cases hsome
  | some fetched =>
    obtain ⟨chunk, key⟩ := fetched
    intro i slot hslot
    have hset : (p.slots.set index (some ⟨chunk.chunkHash, key⟩))[i]? = some (some slot) := hslot
    rw [getElem?_set] at hset
    split at hset
    · next hi =>
      subst hi
      rw [if_pos (List.getElem?_eq_some_iff.mp hindex).1] at hset
      cases hset
      obtain ⟨haccepted, hget⟩ := hfetched chunk key rfl
      exact ⟨chunk, hget, haccepted, rfl⟩
    · next hi => exact hold i slot (Ne.symm hi) hset

omit [Runtime] [FloatReader] in
theorem slots_record_of_ne (p : Progress) (hi : i ≠ index)
    (fetched : Option (SnapshotChunk × String)) :
    (p.record index fetched).slots[i]? = p.slots[i]? := by
  cases fetched with
  | none => rfl
  | some fetched => exact getElem?_set_ne (Ne.symm hi)

omit [Runtime] [FloatReader] in
theorem length_record (p : Progress) (fetched : Option (SnapshotChunk × String)) :
    (p.record index fetched).slots.length = p.slots.length := by
  cases fetched with
  | none => rfl
  | some fetched => exact length_set

theorem transfer_spec (maxRetryCount : ℕ) (plan : List (List String)) {indices : List ℕ}
    (p : Progress) (hfiled : store.Filed) (h : Holds store snapshotId total p.slots)
    (hnodup : indices.Nodup) (hempty : ∀ i ∈ indices, p.slots[i]? = some none) :
    (transfer answers (chunkMatches snapshotId total) maxRetryCount plan indices p store).2.Filed ∧
      ∀ p', (transfer answers (chunkMatches snapshotId total) maxRetryCount plan indices p
          store).1 = .ok p' →
        Holds (transfer answers (chunkMatches snapshotId total) maxRetryCount plan indices p
          store).2 snapshotId total p'.slots ∧ p'.slots.length = p.slots.length := by
  induction indices generalizing p store with
  | nil =>
    refine ⟨hfiled, fun p' hp' => ?_⟩
    cases hp'
    exact ⟨h, rfl⟩
  | cons index rest ih =>
    rw [transfer]
    obtain ⟨hnotmem, hrest⟩ := nodup_cons.mp hnodup
    obtain ⟨hextends, hfetched⟩ := fetch_spec answers (accepted_chunkMatches snapshotId total index)
      maxRetryCount (plan[index]?.getD []) store
    cases hfetch : fetch answers (chunkMatches snapshotId total index) maxRetryCount index
        (plan[index]?.getD []) store with
    | mk outcome store' =>
      rw [hfetch] at hextends hfetched
      cases outcome with
      | error e => exact ⟨hextends.filed hfiled, fun p' hp' => by cases hp'⟩
      | ok fetched =>
        have hslots := h.record hfiled (hempty index mem_cons_self) hextends hfetched
        have hstill : ∀ i ∈ rest, (p.record index fetched).slots[i]? = some none := by
          intro i hi
          rw [slots_record_of_ne p (by rintro rfl; exact hnotmem hi) fetched]
          exact hempty i (mem_cons_of_mem index hi)
        obtain ⟨hfiled', hspec⟩ := ih _ (hextends.filed hfiled) hslots hrest hstill
        refine ⟨hfiled', fun p' hp' => ?_⟩
        obtain ⟨hholds, hlength⟩ := hspec p' hp'
        exact ⟨hholds, hlength.trans (length_record p fetched)⟩

/-! ## The session that is returned -/

/-- A session of a snapshot whose bitmap is true only at indices whose stored chunk belongs
there. -/
structure DownloadSession.Proven (store : FileSnapshotChunkStore) (snapshotId : String) (total : ℕ)
    (s : DownloadSession) : Prop where
  sameSnapshot : s.snapshotId = snapshotId
  sameTotal : s.verifiedChunkBitmap.length = total
  stored : ∀ i, s.verifiedChunkBitmap[i]? = some true → ∃ key chunk,
    s.chunkStorageKeys[i]? = some (some key) ∧ store.get key = .ok (some chunk) ∧
    chunkMatches snapshotId total i chunk = true

theorem Holds.proven (h : Holds store snapshotId total p.slots) (hid : s.snapshotId = snapshotId)
    (htotal : p.slots.length = total) (hbitmap : s.verifiedChunkBitmap = p.bitmap)
    (hkeys : s.chunkStorageKeys = p.chunkStorageKeys) : s.Proven store snapshotId total := by
  refine ⟨hid, by rw [hbitmap, Progress.bitmap, length_map, htotal], fun i hi => ?_⟩
  rw [hbitmap, Progress.bitmap, getElem?_map, Option.map_eq_some_iff] at hi
  obtain ⟨slot, hslot, hsome⟩ := hi
  obtain ⟨slot, rfl⟩ := Option.isSome_iff_exists.mp hsome
  obtain ⟨chunk, hget, hmatches, -⟩ := h i slot hslot
  refine ⟨slot.key, chunk, ?_, hget, hmatches⟩
  rw [hkeys, Progress.chunkStorageKeys, getElem?_map, hslot]
  rfl

theorem Holds.settle {p' : Progress} {root : String} (h : Holds store snapshotId total p.slots)
    (hsettle : p.settle root = .ok p') :
    Holds store snapshotId total p'.slots ∧ p'.slots.length = p.slots.length := by
  unfold Progress.settle at hsettle
  split at hsettle
  · obtain ⟨verified, -, hp'⟩ := bind_eq_ok.mp hsettle
    obtain rfl := pure_eq_ok.mp hp'
    cases verified
    · exact ⟨holds_replicate _ _ _ _, length_replicate⟩
    · exact ⟨h, rfl⟩
  · cases hsettle
    exact ⟨h, rfl⟩

omit [Runtime] [FloatReader] in
theorem lifted_eq_ok {x : Except PyError α} {a : α} : lifted x = .ok a ↔ x = .ok a := by
  cases x with
  | ok b => exact ⟨fun h => by rw [Except.ok.inj h], fun h => by rw [Except.ok.inj h]; rfl⟩
  | error e => constructor <;> intro h <;> cases h

omit [Runtime] [FloatReader] in
theorem map_eq_ok {f : α → β} {x : Except ε α} {b : β} :
    x.map f = .ok b ↔ ∃ a, x = .ok a ∧ f a = b := by
  cases x with
  | ok a => exact ⟨fun h => ⟨a, rfl, Except.ok.inj h⟩, fun ⟨_, h, hb⟩ => by
      rw [Except.ok.inj h, ← hb]; rfl⟩
  | error e => exact ⟨fun h => (by cases h), fun ⟨_, h, _⟩ => by cases h⟩

/-- Every session a download returns is proven by the store behind it. -/
theorem download_proven {manifest : SnapshotManifest} (hfiled : store.Filed) :
    (download maxRetryCount answers now snapshotId manifest providers store).2.Filed ∧
      ∀ result, (download maxRetryCount answers now snapshotId manifest providers store).1 =
          .ok result →
        result.session.Proven
          (download maxRetryCount answers now snapshotId manifest providers store).2
          manifest.snapshotId manifest.chunkCount := by
  unfold download
  split
  · exact ⟨hfiled, fun result h => by cases h⟩
  · next hid =>
    split
    · exact ⟨hfiled, fun result h => by cases h⟩
    · have hempty : ∀ i ∈ List.range manifest.chunkCount,
          (List.replicate manifest.chunkCount (none : Option Slot))[i]? = some none := by
        intro i hi
        rw [getElem?_replicate, if_pos (mem_range.mp hi)]
      have hspec := transfer_spec answers maxRetryCount
        (plan manifest.chunkCount providers answers.inventory)
        ⟨List.replicate manifest.chunkCount none, [], 0⟩ hfiled
        (holds_replicate store manifest.snapshotId manifest.chunkCount _) nodup_range hempty
      dsimp only
      cases htransfer : transfer answers (chunkMatches manifest.snapshotId manifest.chunkCount)
          maxRetryCount (plan manifest.chunkCount providers answers.inventory)
          (List.range manifest.chunkCount)
          ⟨List.replicate manifest.chunkCount none, [], 0⟩ store with
      | mk outcome store' =>
        rw [htransfer] at hspec
        cases outcome with
        | error e => exact ⟨hspec.1, fun result h => by cases h⟩
        | ok p =>
          refine ⟨hspec.1, fun result h => ?_⟩
          obtain ⟨p', hsettle, rfl⟩ := map_eq_ok.mp (lifted_eq_ok.mp h)
          obtain ⟨hholds, hlength⟩ := hspec.2 p rfl
          obtain ⟨hholds', hlength'⟩ := hholds.settle hsettle
          refine hholds'.proven (not_not.mp hid) ?_ rfl rfl
          rw [hlength', hlength, length_replicate]

theorem storedChunkIsValid_eq_true {key expectedHash : Option String}
    (h : storedChunkIsValid store key expectedHash snapshotId index total = .ok true) :
    ∃ k hash chunk, key = some k ∧ expectedHash = some hash ∧ store.get k = .ok (some chunk) ∧
      chunkMatches snapshotId total index chunk = true ∧ chunk.chunkHash = hash := by
  cases key with
  | none => cases h
  | some k =>
    cases expectedHash with
    | none => cases h
    | some hash =>
      obtain ⟨stored, hget, hany⟩ := bind_eq_ok.mp h
      cases stored with
      | none => cases hany
      | some chunk =>
        have hboth : (chunkMatches snapshotId total index chunk && chunk.chunkHash == hash) =
          true := Except.ok.inj hany
        rw [Bool.and_eq_true, beq_iff_eq] at hboth
        exact ⟨k, hash, chunk, rfl, rfl, hget, hboth.1, hboth.2⟩

/-- A kept slot is that of a stored chunk. -/
theorem keptSlot_eq_some {slot : Slot} (h : keptSlot store s index = .ok (some slot)) :
    s.verifiedChunkBitmap[index]? = some true ∧ s.chunkStorageKeys[index]? = some (some slot.key) ∧
      ∃ chunk, store.get slot.key = .ok (some chunk) ∧
        chunkMatches s.snapshotId s.verifiedChunkBitmap.length index chunk = true ∧
        chunk.chunkHash = slot.hash := by
  unfold keptSlot at h
  split at h
  · next hbit =>
    obtain ⟨valid, hvalid, h⟩ := bind_eq_ok.mp h
    cases valid with
    | false => cases h
    | true =>
      obtain ⟨key, hash, chunk, hkey, hhash, hget, hmatches, hchunk⟩ :=
        storedChunkIsValid_eq_true hvalid
      have hslot : s.slot index = some slot := Except.ok.inj h
      rw [DownloadSession.slot, hkey, hhash] at hslot
      cases hslot
      exact ⟨hbit, Option.join_eq_some_iff.mp hkey, chunk, hget, hmatches, hchunk⟩
  · cases h

omit [Runtime] [FloatReader] in
/-- A successful pass over a list returns one item for each. -/
theorem getElem?_of_mapM {f : α → Except ε β} {xs : List α} {ys : List β} (h : xs.mapM f = .ok ys) :
    ys.length = xs.length ∧
      ∀ (i : ℕ) (y : β), ys[i]? = some y → ∃ x, xs[i]? = some x ∧ f x = .ok y := by
  induction xs generalizing ys with
  | nil =>
    cases h
    exact ⟨rfl, fun i y hy => by cases hy⟩
  | cons x xs ih =>
    simp only [mapM_cons, bind_eq_ok, pure_eq_ok] at h
    obtain ⟨y, hy, rest, hrest, rfl⟩ := h
    obtain ⟨hlength, hget⟩ := ih hrest
    refine ⟨by rw [length_cons, length_cons, hlength], fun i z hz => ?_⟩
    cases i with
    | zero =>
      cases hz
      exact ⟨x, rfl, hy⟩
    | succ i => exact hget i z hz

/-- What the store does not prove is not kept. -/
theorem keptSlots_spec (h : keptSlots store s = .ok slots) :
    slots.length = s.verifiedChunkBitmap.length ∧ ∀ i slot, slots[i]? = some (some slot) →
      keptSlot store s i = .ok (some slot) := by
  unfold keptSlots at h
  dsimp only at h
  split at h
  · cases h
    refine ⟨length_replicate, fun i slot hslot => ?_⟩
    cases eq_of_mem_replicate (mem_of_getElem? hslot)
  · obtain ⟨hlength, hget⟩ := getElem?_of_mapM h
    refine ⟨hlength.trans length_range, fun i slot hslot => ?_⟩
    obtain ⟨x, hx, hkept⟩ := hget i _ hslot
    obtain ⟨hi, rfl⟩ := List.getElem?_eq_some_iff.mp hx
    rw [getElem_range] at hkept
    exact hkept

theorem keptSlots_holds (h : keptSlots store s = .ok slots) :
    Holds store s.snapshotId s.verifiedChunkBitmap.length slots := fun i slot hslot =>
  (keptSlot_eq_some ((keptSlots_spec h).2 i slot hslot)).2.2

omit [Runtime] [FloatReader] in
theorem mem_pending : i ∈ p.pending ↔ p.slots[i]? = some none := by
  rw [Progress.pending, mem_filter, mem_range, Progress.bitmap, getElem?_map]
  constructor
  · rintro ⟨hi, hslot⟩
    rw [getElem?_eq_getElem hi] at hslot ⊢
    simpa using hslot
  · intro hslot
    exact ⟨(List.getElem?_eq_some_iff.mp hslot).1, by rw [hslot]; rfl⟩

omit [Runtime] [FloatReader] in
theorem nodup_pending (p : Progress) : p.pending.Nodup := nodup_range.filter _

/-- Every session that is resumed returns one that is proven by the store behind it. -/
theorem resume_proven (hfiled : store.Filed) :
    (resume maxRetryCount answers now s providers store).2.Filed ∧
      ∀ result, (resume maxRetryCount answers now s providers store).1 = .ok result →
        result.session.Proven (resume maxRetryCount answers now s providers store).2 s.snapshotId
          s.verifiedChunkBitmap.length := by
  unfold resume
  dsimp only
  split
  · exact ⟨hfiled, fun result h => by cases h⟩
  · cases hkept : keptSlots store s with
    | error e => exact ⟨hfiled, fun result h => by cases h⟩
    | ok slots =>
      obtain ⟨hlength, hslots⟩ := keptSlots_spec hkept
      have hholds := keptSlots_holds hkept
      dsimp only
      split
      · next hpending =>
        refine ⟨hfiled, fun result h => ?_⟩
        cases h
        refine ⟨rfl, rfl, fun i hi => ?_⟩
        -- nothing is pending, so the slot of every index was kept
        have hlt : i < slots.length := hlength ▸ (List.getElem?_eq_some_iff.mp hi).1
        cases hslot : slots[i] with
        | none =>
          have hmem : i ∈ Progress.pending ⟨slots, s.failedChunks, s.totalBytesDownloaded⟩ :=
            mem_pending.mpr (hslot ▸ getElem?_eq_getElem hlt)
          rw [hpending] at hmem
          cases hmem
        | some slot =>
          obtain ⟨-, hkey, chunk, hget, hmatches, -⟩ :=
            keptSlot_eq_some (hslots i slot (hslot ▸ getElem?_eq_getElem hlt))
          exact ⟨slot.key, chunk, hkey, hget, hmatches⟩
      · have hspec := transfer_spec answers maxRetryCount
          (plan s.verifiedChunkBitmap.length providers answers.inventory)
          ⟨slots, s.failedChunks, s.totalBytesDownloaded⟩ hfiled hholds
          (nodup_pending _) fun i hi => mem_pending.mp hi
        split
        · next heq =>
          rw [heq] at hspec
          exact ⟨hspec.1, fun result h => by cases h⟩
        · next p store' heq =>
          rw [heq] at hspec
          refine ⟨hspec.1, fun result h => ?_⟩
          obtain ⟨p', hsettle, rfl⟩ := map_eq_ok.mp (lifted_eq_ok.mp h)
          obtain ⟨hholds', hlength'⟩ := hspec.2 p rfl
          obtain ⟨hsettled, hlength''⟩ := hholds'.settle hsettle
          exact hsettled.proven rfl (by rw [hlength'', hlength', hlength]) rfl rfl

/-- Chunks are loaded of a session that is complete and under its root. -/
theorem loadVerifiedChunks_eq_ok {chunks : List SnapshotChunk} :
    loadVerifiedChunks store s = .ok chunks ↔
      0 < s.verifiedChunkBitmap.length ∧
      s.chunkHashes.length = s.verifiedChunkBitmap.length ∧
      s.chunkStorageKeys.length = s.verifiedChunkBitmap.length ∧
      verifiedRoot s.verifiedChunkBitmap s.chunkHashes s.expectedChunkRoot = .ok true ∧
      (List.range s.verifiedChunkBitmap.length).mapM (loadChunk store s) = .ok chunks := by
  unfold loadVerifiedChunks
  dsimp only
  split
  · next hbad =>
    constructor
    · intro h
      cases h
    · rintro ⟨hpos, hhashes, hkeys, -, -⟩
      simp [hhashes, hkeys, Nat.pos_iff_ne_zero.mp hpos] at hbad
  · next hgood =>
    simp only [Bool.or_eq_true, decide_eq_true_eq, not_or, not_not, Nat.not_lt] at hgood
    obtain ⟨⟨hpos, hhashes⟩, hkeys⟩ := hgood
    simp only [bind_eq_ok, require_eq_ok]
    constructor
    · rintro ⟨complete, hroot, -, rfl, h⟩
      exact ⟨hpos, hhashes, hkeys, hroot, h⟩
    · rintro ⟨-, -, -, hroot, h⟩
      exact ⟨true, hroot, (), rfl, h⟩

end AidnSpec.Snapshot
