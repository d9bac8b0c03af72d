import AidnSpec.Base.JsonPrefix
import AidnSpec.Consensus.DurablePointer
import Mathlib.Algebra.Order.Group.Nat

/-!
# State Sync between two stores

The chunks of a listed snapshot, loaded from one store and delivered to another in any order and
with any repetitions. Chunks are addressed by height, snapshots by height and hash: the transfer
succeeds exactly when the snapshot is the first of its height and its chunks pass the limit of
the import.
-/

namespace AidnSpec.Consensus

open Base ABCIStateSnapshot List

namespace StateStore

section
variable [JsonReader]

/-! ## Transfers -/

/-- What a call of `add_import_chunk` yields. -/
def yielded (result : Except StoreError (Option (ABCIStateSnapshot × List (String × PyValue)))) :
    List (ABCIStateSnapshot × List (String × PyValue)) :=
  match result with
  | .ok (some imported) => [imported]
  | _ => []

/-- Chunks delivered one after the other, and what these calls yield; a call that raises yields
nothing. -/
def deliverAll (limits : StoreLimits) :
    List (Nat × Bytes) → StateStore → List (ABCIStateSnapshot × List (String × PyValue))
  | [], _ => []
  | (index, payload) :: rest, target =>
    yielded (target.addImportChunk limits index payload).1 ++
      deliverAll limits rest (target.addImportChunk limits index payload).2

/-- Chunks of a height and format loaded from one store, at the given times, and delivered to
another. -/
def transfer (limits : StoreLimits) (m : ABCIStateSnapshot) :
    List (Nat × ℚ) → StateStore → StateStore → List (ABCIStateSnapshot × List (String × PyValue))
  | [], _, _ => []
  | (index, now) :: rest, source, target =>
    match source.loadSnapshotChunk limits m.height m.format index now with
    | (.error _, source) => transfer limits m rest source target
    | (.ok payload, source) =>
      yielded (target.addImportChunk limits index payload).1 ++
        transfer limits m rest source (target.addImportChunk limits index payload).2

def servedChunk (limits : StoreLimits) (source : StateStore) (m : ABCIStateSnapshot)
    (index : Nat) : Option Bytes :=
  match (source.loadSnapshotChunk limits m.height m.format index 0).1 with
  | .ok payload => some payload
  | .error _ => none

variable {store store' : StateStore}

theorem listSnapshots_congr (limits : StoreLimits) (h : store'.snapshots = store.snapshots) :
    listSnapshots limits store' = listSnapshots limits store := by
  have hlisted : listedSnapshot limits store' = listedSnapshot limits store := by
    funext name
    simp only [listedSnapshot, loadSnapshotByIdentifier_congr limits h]
  rw [listSnapshots, listSnapshots, hlisted, h]

/-- The chunk that is served depends on the directories only. -/
theorem loadSnapshotChunk_congr (limits : StoreLimits) (h : store'.snapshots = store.snapshots)
    (height format chunk : Int) (now now' : ℚ) :
    (store'.loadSnapshotChunk limits height format chunk now').1 =
      (store.loadSnapshotChunk limits height format chunk now).1 := by
  simp only [loadSnapshotChunk, listSnapshots_congr limits h, h]
  split
  · rfl
  · split
    · rfl
    · split
      · rfl
      · split
        · rfl
        · split
          · rfl
          · split <;> rfl

/-- A transfer delivers the chunks that the source serves. -/
theorem transfer_eq_deliverAll (limits : StoreLimits) (m : ABCIStateSnapshot)
    (deliveries : List (Nat × ℚ)) (source target : StateStore) :
    transfer limits m deliveries source target =
      deliverAll limits (deliveries.filterMap fun d =>
        (servedChunk limits source m d.1).map fun payload => (d.1, payload)) target := by
  have hrun : ∀ (deliveries : List (Nat × ℚ)) (source' target : StateStore),
      source'.snapshots = source.snapshots →
      transfer limits m deliveries source' target =
        deliverAll limits (deliveries.filterMap fun d =>
          (servedChunk limits source m d.1).map fun payload => (d.1, payload)) target := by
    intro deliveries
    induction deliveries with
    | nil => exact fun _ _ _ => rfl
    | cons delivery deliveries ih =>
      intro source' target hsame
      obtain ⟨index, now⟩ := delivery
      have hnext : (source'.loadSnapshotChunk limits m.height m.format index now).2.snapshots =
          source.snapshots :=
        (@files_of_not_persist _ limits source' (.loadSnapshotChunk m.height m.format index now)
          rfl).1.trans hsame
      have hchunk := loadSnapshotChunk_congr limits hsame m.height m.format index 0 now
      rw [filterMap_cons, transfer]
      cases hload : source'.loadSnapshotChunk limits m.height m.format index now with
      | mk result source'' =>
        rw [hload] at hnext hchunk
        cases result with
        | error error =>
          dsimp only at hchunk ⊢
          rw [servedChunk, ← hchunk]
          exact ih source'' target hnext
        | ok payload =>
          dsimp only at hchunk ⊢
          rw [servedChunk, ← hchunk]
          dsimp only [Option.map_some]
          rw [deliverAll, ih source'' _ hnext]
  exact hrun deliveries source target rfl

end

/-! ## The import -/

/-- The import of a snapshot whose chunk of an index is the one that `chunkOf` names. -/
structure Importing (limits : StoreLimits) (chunkOf : Nat → Bytes) (delivered : Nat → Prop)
    (incoming : IncomingSnapshot) : Prop where
  chunk : ∀ index payload, incoming.chunks.get? index = some payload →
    index < incoming.metadata.chunks ∧ payload = chunkOf index ∧ delivered index ∧
      payload.length ≤ limits.maximumImportChunkBytes
  total : incoming.totalBytes =
    (incoming.chunks.keys.map fun index => (chunkOf index).length).sum

theorem importing_empty (limits : StoreLimits) (chunkOf : Nat → Bytes) (delivered : Nat → Prop)
    (m : ABCIStateSnapshot) : Importing limits chunkOf delivered ⟨m, Dict.empty, 0⟩ := by
  refine ⟨fun _ _ h => ?_, rfl⟩
  cases h

variable {limits : StoreLimits} {chunkOf : Nat → Bytes} {delivered : Nat → Prop}
  {incoming : IncomingSnapshot} {index : Nat}

variable (h : Importing limits chunkOf delivered incoming)

include h

/-- The chunks that are there are distinct ones of the snapshot. -/
theorem Importing.subperm : incoming.chunks.keys.Subperm (List.range incoming.metadata.chunks) := by
  apply subperm_of_subset incoming.chunks.nodup
  intro index hindex
  obtain ⟨payload, hpayload⟩ := Option.isSome_iff_exists.mp (Dict.mem_keys.mp hindex)
  exact mem_range.mpr (h.chunk index payload hpayload).1

/-- When as many chunks are there as the snapshot has, all of them are. -/
theorem Importing.complete (hall : incoming.chunks.keys.length = incoming.metadata.chunks)
    (hindex : index < incoming.metadata.chunks) :
    incoming.chunks.get? index = some (chunkOf index) := by
  have hperm := h.subperm.perm_of_length_le (by rw [length_range, hall])
  have hmem : index ∈ incoming.chunks.keys := hperm.mem_iff.mpr (mem_range.mpr hindex)
  obtain ⟨payload, hpayload⟩ := Option.isSome_iff_exists.mp (Dict.mem_keys.mp hmem)
  rw [hpayload, (h.chunk index payload hpayload).2.1]

theorem Importing.assembled_eq (hall : incoming.chunks.keys.length = incoming.metadata.chunks) :
    assembled incoming = (List.range incoming.metadata.chunks).flatMap chunkOf := by
  rw [assembled]
  apply flatMap_congr
  intro index hindex
  rw [h.complete hall (mem_range.mp hindex)]
  rfl

/-- What is there is not longer than the whole. -/
theorem Importing.total_le :
    incoming.totalBytes ≤ ((List.range incoming.metadata.chunks).flatMap chunkOf).length := by
  rw [h.total, length_flatMap]
  obtain ⟨keys, hperm, hsub⟩ := h.subperm
  rw [← (hperm.map fun index => (chunkOf index).length).sum_eq]
  exact (hsub.map fun index => (chunkOf index).length).sum_le_sum fun _ _ => Nat.zero_le _

/-- A new chunk joins the import. -/
theorem Importing.receive (hindex : index < incoming.metadata.chunks) (hdelivered : delivered index)
    (hlength : (chunkOf index).length ≤ limits.maximumImportChunkBytes)
    (hnew : incoming.chunks.get? index = none) :
    Importing limits chunkOf delivered ⟨incoming.metadata,
      incoming.chunks.set index (chunkOf index), incoming.totalBytes + (chunkOf index).length⟩ := by
  constructor
  · intro other payload hpayload
    dsimp only at hpayload
    rw [Dict.get?_set] at hpayload
    split at hpayload
    · next heq =>
      cases hpayload
      rw [heq]
      exact ⟨hindex, rfl, hdelivered, hlength⟩
    · exact h.chunk other payload hpayload
  · dsimp only
    rw [Dict.keys_set hnew, map_append, sum_append, h.total, map_singleton,
      sum_singleton]

omit h

section
variable [JsonReader]

/-- What a finished import yields: the state, when the assembled bytes hash to the metadata and
are the JSON text of a dictionary. -/
def importResult (m : ABCIStateSnapshot) (payload : Bytes) :
    List (ABCIStateSnapshot × List (String × PyValue)) :=
  if sha256 payload ≠ m.hash then []
  else
    match loadsBytes payload with
    | some (.dict state) => [(m, state)]
    | _ => []

variable {m first : ABCIStateSnapshot} {target store : StateStore} {indices : List Nat}
  {listed : List ABCIStateSnapshot} {files : SnapshotFiles} {state : State}

theorem mem_importResult {payload : Bytes} {imported : ABCIStateSnapshot × List (String × PyValue)}
    (h : imported ∈ importResult m payload) :
    sha256 payload = m.hash ∧ loadsBytes payload = some (.dict imported.2) := by
  unfold importResult at h
  split at h
  · cases h
  · next hhash =>
    split at h
    · next state hloads =>
      obtain rfl := mem_singleton.mp h
      exact ⟨not_not.mp hhash, hloads⟩
    · cases h

theorem yielded_finishImport (incoming : IncomingSnapshot) :
    yielded (finishImport incoming) = importResult incoming.metadata (assembled incoming) := by
  rw [finishImport, importResult]
  split
  · rfl
  · cases loadsBytes (assembled incoming) with
    | none => rfl
    | some value => cases value <;> rfl

/-- Nothing is yielded once the import has ended. -/
theorem deliverAll_of_none (limits : StoreLimits) (chunks : List (Nat × Bytes))
    (h : target.incoming = none) : deliverAll limits chunks target = [] := by
  induction chunks with
  | nil => rfl
  | cons chunk chunks ih =>
    have hresult : target.addImportChunk limits chunk.1 chunk.2 =
        (.error (.stateStore "no matching ABCI snapshot import"), target) := by
      rw [addImportChunk, h]
    rw [deliverAll, hresult]
    exact ih

/-- One delivery of the chunk of an index: a valid new one is received, and ends the import when
it is the last; anything else leaves the chunks as they are and yields nothing. -/
theorem addImportChunk_cases (hincoming : target.incoming = some incoming)
    (h : Importing limits chunkOf delivered incoming)
    (hwhole : ((List.range incoming.metadata.chunks).flatMap chunkOf).length ≤
      limits.maximumSnapshotBytes) (hindex : index < incoming.metadata.chunks)
    (hdelivered : delivered index) :
    ((incoming.chunks.get? index ≠ none ∨ chunkOf index = [] ∨
        limits.maximumImportChunkBytes < (chunkOf index).length) ∧
      (target.addImportChunk limits index (chunkOf index)).2 = target ∧
      yielded (target.addImportChunk limits index (chunkOf index)).1 = []) ∨
    (incoming.chunks.get? index = none ∧ ∃ received, received.metadata = incoming.metadata ∧
      received.chunks = incoming.chunks.set index (chunkOf index) ∧
      Importing limits chunkOf delivered received ∧
      (received.chunks.keys.length ≠ received.metadata.chunks ∧
          (target.addImportChunk limits index (chunkOf index)).2.incoming = some received ∧
          yielded (target.addImportChunk limits index (chunkOf index)).1 = [] ∨
        received.chunks.keys.length = received.metadata.chunks ∧
          (target.addImportChunk limits index (chunkOf index)).2.incoming = none ∧
          yielded (target.addImportChunk limits index (chunkOf index)).1 =
            importResult received.metadata
              ((List.range received.metadata.chunks).flatMap chunkOf))) := by
  have hrange : ¬ ((index : Int) < 0 ∨ (incoming.metadata.chunks : Int) ≤ index) := by omega
  rw [addImportChunk, hincoming]
  dsimp only
  rw [if_neg hrange]
  by_cases hinvalid : (chunkOf index).isEmpty = true ∨
      limits.maximumImportChunkBytes < (chunkOf index).length
  · rw [if_pos hinvalid]
    refine .inl ⟨.inr ?_, rfl, rfl⟩
    rcases hinvalid with hempty | hlong
    · exact .inl (isEmpty_iff.mp hempty)
    · exact .inr hlong
  · rw [if_neg hinvalid, Int.toNat_natCast]
    cases hget : incoming.chunks.get? index with
    | some previous =>
      have hprevious := (h.chunk index previous hget).2.1
      dsimp only
      rw [if_neg (not_not.mpr hprevious)]
      exact .inl ⟨.inl (by simp), rfl, rfl⟩
    | none =>
      have hlength : (chunkOf index).length ≤ limits.maximumImportChunkBytes :=
        Nat.le_of_not_lt fun hlong => hinvalid (.inr hlong)
      have hreceived := h.receive hindex hdelivered hlength hget
      have htotal := hreceived.total_le
      dsimp only at htotal ⊢
      rw [if_neg (Nat.not_lt_of_le (Nat.le_trans htotal hwhole))]
      refine .inr ⟨rfl, ⟨incoming.metadata, incoming.chunks.set index (chunkOf index),
        incoming.totalBytes + (chunkOf index).length⟩, rfl, rfl, hreceived, ?_⟩
      dsimp only
      by_cases hall : (incoming.chunks.set index (chunkOf index)).keys.length =
          incoming.metadata.chunks
      · rw [if_neg (not_not.mpr hall)]
        refine .inr ⟨hall, rfl, ?_⟩
        dsimp only
        rw [yielded_finishImport, hreceived.assembled_eq hall]
      · rw [if_pos hall]
        exact .inl ⟨hall, rfl, rfl⟩

def deliveriesOf (chunkOf : Nat → Bytes) (indices : List Nat) : List (Nat × Bytes) :=
  indices.map fun index => (index, chunkOf index)

section Delivery

variable (hwhole : ((List.range m.chunks).flatMap chunkOf).length ≤ limits.maximumSnapshotBytes)
  (hindices : ∀ index ∈ indices, index < m.chunks ∧ delivered index)
  (hincoming : target.incoming = some incoming) (hm : incoming.metadata = m)

include hwhole hindices hincoming hm h

/-- When every chunk is valid, deliveries that reach every index yield the result of the import
once, whatever their order and their repetitions. -/
theorem deliverAll_complete
    (hvalid : ∀ index < m.chunks, chunkOf index ≠ [] ∧
      (chunkOf index).length ≤ limits.maximumImportChunkBytes)
    (hopen : incoming.chunks.keys.length ≠ m.chunks)
    (hcover : ∀ index < m.chunks, incoming.chunks.get? index ≠ none ∨ index ∈ indices) :
    deliverAll limits (deliveriesOf chunkOf indices) target =
      importResult m ((List.range m.chunks).flatMap chunkOf) := by
  induction indices generalizing target incoming with
  | nil =>
    -- nothing is left to deliver, so the import was complete
    have hsub : (List.range m.chunks).Subperm incoming.chunks.keys := by
      apply subperm_of_subset nodup_range
      intro index hindex
      rcases hcover index (mem_range.mp hindex) with hthere | hin
      · exact Dict.mem_keys.mpr (Option.isSome_iff_ne_none.mpr hthere)
      · cases hin
    have hle := h.subperm.length_le
    have hge := hsub.length_le
    rw [length_range] at hle hge
    rw [hm] at hle
    exact absurd (Nat.le_antisymm hle hge) hopen
  | cons index indices ih =>
    obtain ⟨hindex, hdelivered⟩ := hindices index mem_cons_self
    have hrest : ∀ other ∈ indices, other < m.chunks ∧ delivered other :=
      fun other hother => hindices other (mem_cons_of_mem index hother)
    subst hm
    obtain ⟨hnonempty, hlength⟩ := hvalid index hindex
    show yielded (target.addImportChunk limits index (chunkOf index)).1 ++
      deliverAll limits (deliveriesOf chunkOf indices)
        (target.addImportChunk limits index (chunkOf index)).2 = _
    rcases addImportChunk_cases hincoming h hwhole hindex hdelivered with
      ⟨hrepeated, hsame, hnothing⟩ | ⟨hnew, received, hmetadata, hchunks, hreceived, hend⟩
    · have hthere : incoming.chunks.get? index ≠ none := by
        rcases hrepeated with hthere | hempty | hlong
        · exact hthere
        · exact absurd hempty hnonempty
        · exact absurd hlength (Nat.not_le_of_lt hlong)
      rw [hsame, hnothing, nil_append]
      apply ih h hrest hincoming rfl hopen
      intro other hother
      rcases hcover other hother with hget | hmem
      · exact .inl hget
      · rcases mem_cons.mp hmem with rfl | hmem
        · exact .inl hthere
        · exact .inr hmem
    · rcases hend with ⟨hmissing, hnext, hnothing⟩ | ⟨-, hnext, hresult⟩
      · rw [hnothing, nil_append]
        apply ih hreceived hrest hnext hmetadata (hmetadata ▸ hmissing)
        intro other hother
        rw [hchunks, Dict.get?_set]
        split
        · exact .inl (by simp)
        · next hne =>
          rcases hcover other hother with hget | hmem
          · exact .inl hget
          · exact .inr ((mem_cons.mp hmem).resolve_left hne)
      · rw [hresult, hmetadata, deliverAll_of_none limits _ hnext, append_nil]

/-- What is yielded is the result of the whole import, and every index was delivered with a chunk
within the limit. -/
theorem mem_deliverAll {imported : ABCIStateSnapshot × List (String × PyValue)}
    (hmem : imported ∈ deliverAll limits (deliveriesOf chunkOf indices) target) :
    imported ∈ importResult m ((List.range m.chunks).flatMap chunkOf) ∧
      ∀ index < m.chunks, delivered index ∧
        (chunkOf index).length ≤ limits.maximumImportChunkBytes := by
  induction indices generalizing target incoming with
  | nil => cases hmem
  | cons index indices ih =>
    obtain ⟨hindex, hdelivered⟩ := hindices index mem_cons_self
    have hrest : ∀ other ∈ indices, other < m.chunks ∧ delivered other :=
      fun other hother => hindices other (mem_cons_of_mem index hother)
    subst hm
    have hmem : imported ∈ yielded (target.addImportChunk limits index (chunkOf index)).1 ++
      deliverAll limits (deliveriesOf chunkOf indices)
        (target.addImportChunk limits index (chunkOf index)).2 := hmem
    rcases addImportChunk_cases hincoming h hwhole hindex hdelivered with
      ⟨-, hsame, hnothing⟩ | ⟨-, received, hmetadata, -, hreceived, hend⟩
    · rw [hsame, hnothing, nil_append] at hmem
      exact ih h hrest hincoming rfl hmem
    · rcases hend with ⟨-, hnext, hnothing⟩ | ⟨hall, hnext, hresult⟩
      · rw [hnothing, nil_append] at hmem
        exact ih hreceived hrest hnext hmetadata hmem
      · rw [hresult, hmetadata, deliverAll_of_none limits _ hnext, append_nil] at hmem
        refine ⟨hmem, fun other hother => ?_⟩
        have hthere := hreceived.complete hall (hmetadata ▸ hother)
        obtain ⟨-, -, hdone, hlength⟩ := hreceived.chunk other _ hthere
        exact ⟨hdone, hlength⟩

end Delivery

/-! ## What the source serves -/

omit [JsonReader] in
/-- The snapshot that is served for a height is the greatest of that height. -/
theorem served_greatest (hlisted : listed.Pairwise fun a b => b.rank < a.rank) (hm : m ∈ listed) :
    ∃ first ∈ listed, served listed m.height m.format = some first ∧ first.height = m.height ∧
      ∀ n ∈ listed, n.height = m.height → n.rank ≤ first.rank := by
  have hformat : ∀ n : ABCIStateSnapshot, n.format = m.format := fun n =>
    n.format_eq.trans m.format_eq.symm
  have hsome : (served listed m.height m.format).isSome = true := by
    rw [served, find?_isSome]
    exact ⟨m, hm, by simp⟩
  obtain ⟨first, hfirst⟩ := Option.isSome_iff_exists.mp hsome
  obtain ⟨hmatch, before, after, rfl, hbefore⟩ := find?_eq_some_iff_append.mp hfirst
  simp only [decide_eq_true_eq, Int.natCast_inj] at hmatch
  refine ⟨first, by simp, hfirst, hmatch.1, fun n hn hheight => ?_⟩
  rcases mem_append.mp hn with hn | hn
  · have hno := hbefore n hn
    simp [hheight, hformat n] at hno
  · rcases mem_cons.mp hn with rfl | hn
    · exact le_refl _
    · exact le_of_lt ((pairwise_cons.mp (pairwise_append.mp hlisted).2.1).1 n hn)

/-- The chunks that are served are those of that snapshot's directory. -/
theorem servedChunk_eq (hlisted : listSnapshots limits store = .ok listed)
    (hfirst : served listed m.height m.format = some first)
    (hfiles : store.snapshots.get? first.identifier = some files)
    (hholds : Holds limits files first state) (index : Nat) :
    servedChunk limits store m index = files.chunks[index]? := by
  have hindex : ¬ (index : Int) < 0 := by omega
  rw [servedChunk, loadSnapshotChunk, if_neg hindex, hlisted]
  dsimp only
  rw [hfirst]
  dsimp only
  by_cases hrange : first.chunks ≤ index
  · rw [if_pos (by exact_mod_cast hrange)]
    rw [← hholds.length_chunks] at hrange
    rw [getElem?_eq_none hrange]
  · rw [if_neg (by exact_mod_cast hrange), hfiles, Option.bind_some, Int.toNat_natCast]
    rw [← hholds.length_chunks] at hrange
    have hlt : index < files.chunks.length := Nat.lt_of_not_le hrange
    obtain ⟨hpos, hle⟩ := hholds.length_of_mem (getElem_mem hlt)
    have hvalid : ¬ (files.chunks[index].isEmpty = true ∨
        limits.chunkSize < files.chunks[index].length) := by
      rintro (hempty | hlong)
      · rw [isEmpty_iff.mp hempty] at hpos
        cases hpos
      · omega
    rw [getElem?_eq_getElem hlt]
    dsimp only
    rw [if_neg hvalid]

omit [JsonReader] in
theorem flatMap_getD (chunks : List Bytes) (n : Nat) :
    ((List.range n).flatMap fun index => chunks[index]?.getD []) = (chunks.take n).flatten := by
  induction n with
  | zero => simp
  | succ n ih =>
    rw [range_succ, flatMap_append, ih, flatMap_singleton]
    by_cases hn : n < chunks.length
    · rw [take_add_one, getElem?_eq_getElem hn, Option.getD_some, Option.toList_some,
        flatten_append, flatten_singleton]
    · have hle : chunks.length ≤ n := Nat.le_of_not_lt hn
      rw [getElem?_eq_none hle, Option.getD_none, append_nil, take_of_length_le hle,
        take_of_length_le (Nat.le_succ_of_le hle)]

omit [JsonReader] in
theorem filterMap_served (chunks : List Bytes) (deliveries : List (Nat × ℚ)) :
    (deliveries.filterMap fun d => chunks[d.1]?.map fun payload => (d.1, payload)) =
      deliveriesOf (fun index => chunks[index]?.getD [])
        ((deliveries.map Prod.fst).filter fun index => index < chunks.length) := by
  induction deliveries with
  | nil => rfl
  | cons delivery deliveries ih =>
    rw [filterMap_cons, map_cons, filter_cons]
    by_cases hlt : delivery.1 < chunks.length
    · rw [getElem?_eq_getElem hlt, if_pos (by simpa using hlt)]
      dsimp only [Option.map_some]
      rw [ih, deliveriesOf, deliveriesOf, map_cons, getElem?_eq_getElem hlt,
        Option.getD_some]
    · rw [getElem?_eq_none (Nat.le_of_not_lt hlt), if_neg (by simpa using hlt)]
      exact ih

/-! ## Round trips -/

/-- The chunks of a snapshot, delivered to any other store after its offer, in any order and with
any repetitions, yield the snapshot and the state exactly once. -/
def RoundTrips (limits : StoreLimits) (source : StateStore) (m : ABCIStateSnapshot)
    (state : State) : Prop :=
  ∀ (target : StateStore) (deliveries : List (Nat × ℚ)), (∀ d ∈ deliveries, d.1 < m.chunks) →
    (∀ index < m.chunks, ∃ d ∈ deliveries, d.1 = index) →
    (target.offerImport limits m).1 = true ∧
      ∃ held, transfer limits m deliveries source (target.offerImport limits m).2 = [(m, held)] ∧
        (PyValue.dict held).eqv (.dict state.members) = true

theorem offerImport_of_holds (h : Holds limits files m state) (target : StateStore) :
    target.offerImport limits m = (true, { target with incoming := some ⟨m, Dict.empty, 0⟩ }) := by
  rw [offerImport, if_neg (Nat.not_lt_of_le h.chunks_le)]

/-- The result of importing a snapshot's own payload. -/
theorem importResult_payload (h : Holds limits files m state) :
    importResult m (payloadOf state) = [(m, orderedMembers state.members)] := by
  rw [importResult, if_neg (not_not.mpr (metadataFromState_eq_ok h.metadata).1.symm),
    h.loadsBytes_payload]

/-- No payload cut short is the JSON text of a dictionary. -/
theorem loadsBytes_take (h : Holds limits files m state) {n : Nat}
    (hn : n < (payloadOf state).length) : loadsBytes ((payloadOf state).take n) = none := by
  have hplain := isPlain_canonicalText state.wellFormed
  have htake : (payloadOf state).take n =
      asciiBytes ((canonicalText (.dict state.members)).take n) := by
    rw [payloadOf, asciiBytes, asciiBytes, map_take]
  have hmore : (canonicalText (.dict state.members)).drop n ≠ [] := by
    intro hnil
    have hle := drop_eq_nil_iff.mp hnil
    rw [payloadOf, asciiBytes, length_map] at hn
    omega
  rw [htake, loadsBytes_asciiBytes fun c hc => hplain c (mem_of_mem_take hc)]
  exact loads_prefix state.wellFormed h.dumpable (take_append_drop n _).symm hmore

/-- A directory holds one snapshot. -/
theorem eq_of_rank {n : ABCIStateSnapshot} {files' : SnapshotFiles} {state' : State}
    (hrank : n.rank = m.rank) (hfiles : store.snapshots.get? m.identifier = some files)
    (hm : Holds limits files m state) (hfiles' : store.snapshots.get? n.identifier = some files')
    (hn : Holds limits files' n state') : n = m ∧ files' = files := by
  have hname := identifier_of_rank hrank
  have hload := loadSnapshotByIdentifier_of_holds hfiles' hn
  rw [hname, loadSnapshotByIdentifier_of_holds hfiles hm] at hload
  rw [hname, hfiles] at hfiles'
  exact ⟨(Prod.mk.inj (Except.ok.inj hload)).1.symm, (Option.some.inj hfiles').symm⟩

/-- The longest chunk of a snapshot passes the limit of the import. -/
theorem Holds.import_limit_iff (h : Holds limits files m state) :
    (∀ chunk ∈ files.chunks, chunk.length ≤ limits.maximumImportChunkBytes) ↔
      min limits.chunkSize (payloadOf state).length ≤ limits.maximumImportChunkBytes := by
  constructor
  · intro hall
    have hfirst := length_first_slice limits.chunkSize_pos (payloadOf_ne_nil state)
    rw [← h.chunks] at hfirst
    have hlength := hall _ hfirst
    rwa [length_take] at hlength
  · intro hmin chunk hchunk
    have hsize := (h.length_of_mem hchunk).2
    have hpayload : chunk.length ≤ (payloadOf state).length := by
      rw [← h.flatten_chunks, length_flatten]
      exact le_sum_of_mem (mem_map_of_mem hchunk)
    omega

/-- What the source serves for a snapshot, as deliveries of the chunks of one directory. -/
theorem transfer_eq (hlisted : listSnapshots limits store = .ok listed)
    (hfirst : served listed m.height m.format = some first)
    (hfiles : store.snapshots.get? first.identifier = some files)
    (hholds : Holds limits files first state) (deliveries : List (Nat × ℚ)) (target : StateStore) :
    transfer limits m deliveries store target =
      deliverAll limits (deliveriesOf (fun index => files.chunks[index]?.getD [])
        ((deliveries.map Prod.fst).filter fun index => index < files.chunks.length)) target := by
  rw [transfer_eq_deliverAll, ← filterMap_served]
  simp only [servedChunk_eq hlisted hfirst hfiles hholds]

/-- A transfer succeeds only from the first snapshot of the height, in chunks within the limit. -/
theorem Kept.served_of_roundTrips (hkept : Kept limits store)
    (hlisted : listSnapshots limits store = .ok listed) (hm : m ∈ listed)
    (hfiles : store.snapshots.get? m.identifier = some files)
    (hstate : Holds limits files m state) (h : RoundTrips limits store m state) :
    (∀ n ∈ listed, n.height = m.height → n.rank ≤ m.rank) ∧
      ∀ chunk ∈ files.chunks, chunk.length ≤ limits.maximumImportChunkBytes := by
  obtain ⟨_, heq, hmem, hpairwise⟩ := hkept.listSnapshots_eq
  obtain rfl := Except.ok.inj (heq.symm.trans hlisted)
  obtain ⟨first, hin, hfirst, hheight, hgreatest⟩ := served_greatest hpairwise hm
  obtain ⟨-, files', state', hfiles', hstate'⟩ := (hmem first).mp hin
  obtain ⟨-, held, htransfer, -⟩ := h fresh ((List.range m.chunks).map fun index => (index, 0))
    (fun d hd => by
      obtain ⟨index, hindex, rfl⟩ := mem_map.mp hd
      exact mem_range.mp hindex)
    (fun index hindex => ⟨(index, 0), mem_map_of_mem (mem_range.mpr hindex), rfl⟩)
  have hsplit : (files'.chunks.take m.chunks).flatten ++ (files'.chunks.drop m.chunks).flatten =
      payloadOf state' := by
    rw [← flatten_append, take_append_drop, hstate'.flatten_chunks]
  have hwhole : (files'.chunks.take m.chunks).flatten.length ≤ limits.maximumSnapshotBytes := by
    have hpart := congrArg List.length hsplit
    rw [length_append] at hpart
    exact Nat.le_trans (by omega) hstate'.fits
  rw [offerImport_of_holds hstate, transfer_eq hlisted hfirst hfiles' hstate'] at htransfer
  have hyield : (m, held) ∈ [(m, held)] := mem_singleton.mpr rfl
  rw [← htransfer] at hyield
  have hchunks := flatMap_getD files'.chunks m.chunks
  obtain ⟨himport, hevery⟩ := @mem_deliverAll limits _ (fun index => index < files'.chunks.length)
    _ (importing_empty _ _ _ _) _ m _ _ (by rw [hchunks]; exact hwhole) (fun index hindex => by
      obtain ⟨hindex, hlt⟩ := mem_filter.mp hindex
      rw [map_map, mem_map] at hindex
      obtain ⟨k, hk, rfl⟩ := hindex
      exact ⟨mem_range.mp hk, by simpa using hlt⟩) rfl rfl _ hyield
  rw [hchunks] at himport
  obtain ⟨hhash, hloads⟩ := mem_importResult himport
  have hall : files'.chunks.length ≤ m.chunks := by
    -- otherwise the import ends on a payload cut short
    by_contra hshort
    obtain ⟨chunk, rest, hrest⟩ : ∃ chunk rest, files'.chunks.drop m.chunks = chunk :: rest :=
      exists_cons_of_ne_nil (by rw [Ne, drop_eq_nil_iff]; exact hshort)
    have hchunk := hstate'.length_of_mem (mem_of_mem_drop (hrest ▸ mem_cons_self))
    have hlength := congrArg List.length hsplit
    rw [hrest, flatten_cons, length_append, length_append] at hlength
    have hcut := loadsBytes_take hstate'
      (show (files'.chunks.take m.chunks).flatten.length < (payloadOf state').length by omega)
    rw [← hsplit, take_left, hloads] at hcut
    cases hcut
  rw [take_of_length_le hall, hstate'.flatten_chunks] at hhash
  have hrank : first.rank = m.rank := by
    rw [rank, rank, hheight, (metadataFromState_eq_ok hstate'.metadata).1, hhash]
  obtain ⟨rfl, rfl⟩ := eq_of_rank hrank hfiles hstate hfiles' hstate'
  refine ⟨hgreatest, fun chunk hchunk => ?_⟩
  obtain ⟨index, hindex, rfl⟩ := mem_iff_getElem.mp hchunk
  have hlimit := (hevery index (Nat.lt_of_lt_of_le hindex hall)).2
  rwa [getElem?_eq_getElem hindex, Option.getD_some] at hlimit

/-- The first snapshot of a height is transferred when its chunks are within the limit. -/
theorem Kept.roundTrips_of_served (hkept : Kept limits store)
    (hlisted : listSnapshots limits store = .ok listed) (hm : m ∈ listed)
    (hfiles : store.snapshots.get? m.identifier = some files)
    (hstate : Holds limits files m state)
    (hgreatest : ∀ n ∈ listed, n.height = m.height → n.rank ≤ m.rank)
    (hlimit : ∀ chunk ∈ files.chunks, chunk.length ≤ limits.maximumImportChunkBytes) :
    RoundTrips limits store m state := by
  obtain ⟨_, heq, hmem, hpairwise⟩ := hkept.listSnapshots_eq
  obtain rfl := Except.ok.inj (heq.symm.trans hlisted)
  obtain ⟨first, hin, hfirst, hheight, habove⟩ := served_greatest hpairwise hm
  obtain ⟨-, files', state', hfiles', hstate'⟩ := (hmem first).mp hin
  have hrank : first.rank = m.rank := le_antisymm (hgreatest first hin hheight) (habove m hm rfl)
  obtain ⟨rfl, rfl⟩ := eq_of_rank hrank hfiles hstate hfiles' hstate'
  have hlength := hstate.length_chunks
  have hpayload : ((List.range first.chunks).flatMap fun index => files'.chunks[index]?.getD []) =
      payloadOf state := by
    rw [flatMap_getD, ← hlength, take_length, hstate.flatten_chunks]
  intro target deliveries hrange hcover
  rw [offerImport_of_holds hstate, transfer_eq hlisted hfirst hfiles' hstate]
  refine ⟨rfl, orderedMembers state.members, ?_, ?_⟩
  · have hresult := @deliverAll_complete limits (fun index => files'.chunks[index]?.getD [])
      (fun _ => True) ⟨first, Dict.empty, 0⟩ (importing_empty _ _ _ _) _ first
      { target with incoming := some ⟨first, Dict.empty, 0⟩ }
      ((deliveries.map Prod.fst).filter fun index => index < files'.chunks.length)
      (by rw [hpayload]; exact hstate.fits) (fun index hindex => ?_) rfl rfl
      (fun index hindex => ?_) ?_ (fun index hindex => .inr ?_)
    · rw [hresult, hpayload, importResult_payload hstate]
    · obtain ⟨-, hlt⟩ := mem_filter.mp hindex
      rw [← hlength]
      exact ⟨by simpa using hlt, trivial⟩
    · rw [← hlength] at hindex
      have hchunk := getElem_mem hindex
      have hpos := (hstate.length_of_mem hchunk).1
      rw [getElem?_eq_getElem hindex, Option.getD_some]
      exact ⟨ne_nil_of_length_pos hpos, hlimit _ hchunk⟩
    · have hpos := first.chunks_pos
      show (0 : Nat) ≠ first.chunks
      omega
    · obtain ⟨d, hd, rfl⟩ := hcover index hindex
      rw [mem_filter]
      exact ⟨mem_map_of_mem hd, by rw [hlength]; simpa using hindex⟩
  · have heqv := PyValue.eqv_sorted state.wellFormed
    rwa [PyValue.sorted_dict] at heqv

/-- In every store that a run reaches, a listed snapshot makes the round trip exactly when no
other listed snapshot of its height has a greater hash and its chunks are within the limit of
the import. -/
theorem round_trip_iff (limits : StoreLimits) (ops : List StoreOp) (listed : List ABCIStateSnapshot)
    (hlisted : listSnapshots limits (runOps limits fresh ops) = .ok listed) (m : ABCIStateSnapshot)
    (hm : m ∈ listed) (files : SnapshotFiles) (state : State)
    (hfiles : (runOps limits fresh ops).snapshots.get? m.identifier = some files)
    (hstate : Holds limits files m state) :
    RoundTrips limits (runOps limits fresh ops) m state ↔
      (∀ n ∈ listed, n.height = m.height → n.rank ≤ m.rank) ∧
        min limits.chunkSize (payloadOf state).length ≤ limits.maximumImportChunkBytes := by
  have hkept := kept_runOps limits ops
  rw [← hstate.import_limit_iff]
  constructor
  · exact hkept.served_of_roundTrips hlisted hm hfiles hstate
  · rintro ⟨hgreatest, hlimit⟩
    exact hkept.roundTrips_of_served hlisted hm hfiles hstate hgreatest hlimit

end

/-! ## Samples -/

/-- The limits of the service, with chunks of two bytes of which the import takes one. -/
def narrowImport : StoreLimits where
  chunkSize := 2
  maximumSnapshotBytes := 67108864
  maximumImportChunkBytes := 1
  retainedSnapshots := 8
  snapshotLeaseSeconds := 1800
  chunkSize_pos := Nat.two_pos
  chunkSize_le := by decide
  importChunk_pos := Nat.one_pos
  importChunk_le := by decide
  retained_pos := by decide
  lease_pos := keepOne.lease_pos

def keepTwo : StoreLimits :=
  { keepOne with
    retainedSnapshots := 2
    retained_pos := Nat.two_pos }

/-- The later of two snapshots makes the round trip. -/
theorem later_snapshot_round_trip :
    letI := plainReader
    let store := runOps keepTwo fresh [.persist (stateAt 1) 0 0, .persist (stateAt 2) 0 0]
    ∃ listed m, listSnapshots keepTwo store = .ok listed ∧ m ∈ listed ∧ m.height = 2 ∧
      RoundTrips keepTwo store m (stateAt 2) := by
  let _ := plainReader
  intro store
  obtain ⟨before, hbefore, hlow⟩ := listed_first (show keepTwo.maximumSnapshotBytes = _ from rfl)
  obtain ⟨-, m, listed, files, -, -, hlisted, hm, hmheight, hfiles, hholds, hadded⟩ :=
    (kept_runOps keepTwo [.persist (stateAt 1) 0 0]).listed_stateAt rfl hbefore hlow
      (show 2 < 10 by decide)
  refine ⟨listed, m, hlisted, hm, hmheight, ?_⟩
  apply (round_trip_iff keepTwo [.persist (stateAt 1) 0 0, .persist (stateAt 2) 0 0] listed hlisted
    m hm files (stateAt 2) hfiles hholds).mpr
  refine ⟨fun other hother hsame => ?_, Nat.le_trans (Nat.min_le_left _ _) (by decide)⟩
  rcases hadded other hother with hrank | hold
  · exact le_of_eq hrank
  · have hless := hlow other hold
    omega

/-- A snapshot whose chunks are longer than the import allows does not make the round trip. -/
theorem long_chunks_refused :
    letI := plainReader
    ∃ listed m files,
      listSnapshots narrowImport (runOps narrowImport fresh [.persist (stateAt 1) 0 0]) =
        .ok listed ∧ m ∈ listed ∧
      (runOps narrowImport fresh [.persist (stateAt 1) 0 0]).snapshots.get? m.identifier =
        some files ∧ Holds narrowImport files m (stateAt 1) ∧
      ¬ RoundTrips narrowImport (runOps narrowImport fresh [.persist (stateAt 1) 0 0]) m
        (stateAt 1) := by
  let _ := plainReader
  obtain ⟨-, m, listed, files, -, -, hlisted, hm, -, hfiles, hholds, -⟩ :=
    (kept_fresh narrowImport).listed_stateAt rfl (listSnapshots_fresh narrowImport)
      (fun _ h => absurd h List.not_mem_nil) (show 1 < 10 by decide)
  refine ⟨listed, m, files, hlisted, hm, hfiles, hholds, fun hround => ?_⟩
  have hlimit := ((kept_runOps narrowImport [.persist (stateAt 1) 0 0]).served_of_roundTrips
    hlisted hm hfiles hholds hround).2
  rw [hholds.import_limit_iff] at hlimit
  have hsize : narrowImport.chunkSize = 2 := rfl
  have himport : narrowImport.maximumImportChunkBytes = 1 := rfl
  have hlong : 2 ≤ (payloadOf (stateAt 1)).length := by
    rw [payloadOf, asciiBytes, List.length_map, canonicalText, List.length_append,
      List.length_cons, List.length_singleton]
    omega
  omega

end StateStore

end AidnSpec.Consensus
