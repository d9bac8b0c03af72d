import AidnSpec.Consensus.SnapshotFiles

/-!
# The pointer to the current state

Runs of the state store. Every directory holds what `persist` wrote into it. `persist` prunes by
height and hash, not by age: the snapshot it has just pointed to survives exactly when it holds a
lease or ranks among the retained ones.
-/

namespace AidnSpec.Consensus

open Base ABCIStateSnapshot

/-! ## Descending lists -/

/-- Behind the first `n` elements of a descending list are those with `n` greater ones. -/
theorem mem_drop_iff_of_descending {α β : Type} [LinearOrder β] (key : α → β) {xs : List α}
    (hxs : xs.Pairwise fun a b => key b < key a) {x : α} (hx : x ∈ xs) (n : Nat) :
    x ∈ xs.drop n ↔ n ≤ (xs.filter fun y => key x < key y).length := by
  induction xs generalizing n with
  | nil => cases hx
  | cons a xs ih =>
    obtain ⟨hhead, htail⟩ := List.pairwise_cons.mp hxs
    cases n with
    | zero => simp only [List.drop_zero, hx, Nat.zero_le]
    | succ n =>
      rw [List.drop_succ_cons]
      rcases List.mem_cons.mp hx with rfl | hmem
      · -- the greatest element stands first and has none above it
        have hnone : (x :: xs).filter (fun y => decide (key x < key y)) = [] := by
          rw [List.filter_eq_nil_iff]
          intro y hy
          rcases List.mem_cons.mp hy with rfl | hy
          · simp
          · simpa using le_of_lt (hhead y hy)
        have hout : x ∉ xs.drop n := fun h => lt_irrefl _ (hhead x (List.mem_of_mem_drop h))
        simp only [hnone, hout, List.length_nil, false_iff]
        omega
      · rw [List.filter_cons_of_pos (by simpa using hhead x hmem), List.length_cons,
          ih htail hmem n]
        omega

namespace StateStore

section
variable [JsonReader]

/-! ## Runs -/

/-- The calls of a store, and a new object on its root. -/
inductive StoreOp where
  | persist (state : State) (createdAt : Int) (now : ℚ)
  | loadSnapshotChunk (height format chunk : Int) (now : ℚ)
  | releaseSnapshotLease (height format : Int)
  | offerImport (m : ABCIStateSnapshot)
  | addImportChunk (index : Int) (payload : Bytes)
  | abortImport
  | restart

/-- The store after a call, whether it raised or not. -/
def StoreOp.apply (limits : StoreLimits) (store : StateStore) : StoreOp → StateStore
  | .persist state createdAt now => (store.persist limits state createdAt now).2
  | .loadSnapshotChunk height format chunk now =>
    (store.loadSnapshotChunk limits height format chunk now).2
  | .releaseSnapshotLease height format => (store.releaseSnapshotLease limits height format).2
  | .offerImport m => (store.offerImport limits m).2
  | .addImportChunk index payload => (store.addImportChunk limits index payload).2
  | .abortImport => store.abortImport
  | .restart => store.restart

/-- Whether a call is a `persist`. -/
def StoreOp.isPersist : StoreOp → Bool
  | .persist _ _ _ => true
  | _ => false

/-- The store after a sequence of calls. -/
def runOps (limits : StoreLimits) (store : StateStore) (ops : List StoreOp) : StateStore :=
  ops.foldl (StoreOp.apply limits) store

/-- Only `persist` touches the files. -/
theorem files_of_not_persist (limits : StoreLimits) (store : StateStore) {op : StoreOp}
    (h : op.isPersist = false) :
    (op.apply limits store).snapshots = store.snapshots ∧
      (op.apply limits store).current = store.current := by
  cases op with
  | persist state createdAt now => cases h
  | loadSnapshotChunk height format chunk now =>
    simp only [StoreOp.apply, loadSnapshotChunk]
    split_ifs
    · exact ⟨rfl, rfl⟩
    · split
      · exact ⟨rfl, rfl⟩
      · split
        · exact ⟨rfl, rfl⟩
        · split_ifs
          · exact ⟨rfl, rfl⟩
          · split
            · exact ⟨rfl, rfl⟩
            · split_ifs <;> exact ⟨rfl, rfl⟩
  | releaseSnapshotLease height format =>
    simp only [StoreOp.apply, releaseSnapshotLease]
    split
    · exact ⟨rfl, rfl⟩
    · split <;> exact ⟨rfl, rfl⟩
  | offerImport m =>
    simp only [StoreOp.apply, offerImport]
    split_ifs <;> exact ⟨rfl, rfl⟩
  | addImportChunk index payload =>
    simp only [StoreOp.apply, addImportChunk]
    split
    · exact ⟨rfl, rfl⟩
    · split
      · exact ⟨rfl, rfl⟩
      · split
        · exact ⟨rfl, rfl⟩
        · split
          · split <;> exact ⟨rfl, rfl⟩
          · split
            · exact ⟨rfl, rfl⟩
            · split <;> exact ⟨rfl, rfl⟩
  | abortImport => exact ⟨rfl, rfl⟩
  | restart => exact ⟨rfl, rfl⟩

/-- What is read from the files does not change in a run without `persist`. -/
theorem files_of_run (limits : StoreLimits) {ops : List StoreOp}
    (h : ∀ op ∈ ops, op.isPersist = false) (store : StateStore) :
    (runOps limits store ops).snapshots = store.snapshots ∧
      (runOps limits store ops).current = store.current := by
  induction ops generalizing store with
  | nil => exact ⟨rfl, rfl⟩
  | cons op ops ih =>
    obtain ⟨hsnapshots, hcurrent⟩ := files_of_not_persist limits store (h op List.mem_cons_self)
    obtain ⟨hrest, hrest'⟩ := ih (fun o ho => h o (List.mem_cons_of_mem op ho))
      (op.apply limits store)
    exact ⟨hrest.trans hsnapshots, hrest'.trans hcurrent⟩

variable {store store' : StateStore} {limits : StoreLimits} {now : ℚ} {m n : ABCIStateSnapshot}
  {createdAt : Int} {snapshots : Dict String SnapshotFiles} {state : State} {name : String}
  {files : SnapshotFiles} {listed : List ABCIStateSnapshot} {height : Nat}

/-- `_load_snapshot_by_identifier` reads the directories only. -/
theorem loadSnapshotByIdentifier_congr (limits : StoreLimits)
    (h : store'.snapshots = store.snapshots) (name : String) :
    loadSnapshotByIdentifier limits store' name = loadSnapshotByIdentifier limits store name := by
  rw [loadSnapshotByIdentifier, loadSnapshotByIdentifier, h]

theorem loadCurrent_congr (limits : StoreLimits) (h : store'.snapshots = store.snapshots)
    (hcurrent : store'.current = store.current) :
    loadCurrent limits store' = loadCurrent limits store := by
  simp only [loadCurrent, hcurrent, loadSnapshotByIdentifier_congr limits h]

/-! ## What the directories hold -/

/-- Every directory holds what `persist` wrote into it. -/
def Kept (limits : StoreLimits) (store : StateStore) : Prop :=
  ∀ name files, store.snapshots.get? name = some files →
    ∃ m state, m.identifier = name ∧ Holds limits files m state

theorem kept_fresh (limits : StoreLimits) : Kept limits fresh := by
  intro name files h
  cases h

omit [JsonReader] in
/-- Directories are only removed. -/
theorem get?_removeUnleased (leases : Dict String ℚ) (dropped : List ABCIStateSnapshot)
    (snapshots : Dict String SnapshotFiles) (name : String) :
    (removeUnleased leases dropped snapshots).get? name =
      if (∃ m ∈ dropped, m.identifier = name) ∧ leases.contains name = false then none
      else snapshots.get? name := by
  induction dropped generalizing snapshots with
  | nil => simp [removeUnleased]
  | cons m dropped ih =>
    have hstep : removeUnleased leases (m :: dropped) snapshots =
        removeUnleased leases dropped
          (if leases.contains m.identifier then snapshots else snapshots.erase m.identifier) := rfl
    rw [hstep, ih]
    by_cases hname : m.identifier = name
    · by_cases hleased : leases.contains name = true
      · simp [hname, hleased]
      · rw [Bool.not_eq_true] at hleased
        simp [hname, hleased, Dict.get?_erase]
    · have hother : ((if leases.contains m.identifier then snapshots
          else snapshots.erase m.identifier).get? name) = snapshots.get? name := by
        split
        · rfl
        · rw [Dict.get?_erase, if_neg (Ne.symm hname)]
      simp [hname, hother]

/-- Fewer directories are kept as well as many. -/
theorem Kept.of_removed (h : Kept limits store)
    (hless : ∀ name files, store'.snapshots.get? name = some files → store.snapshots.get? name =
      some files) :
    Kept limits store' :=
  fun name files hfiles => h name files (hless name files hfiles)

theorem pruneRetainedSnapshots_eq_ok (h : pruneRetainedSnapshots limits store now = .ok store') :
    ∃ listed, listSnapshots limits store = .ok listed ∧
      store'.current = store.current ∧
      store'.snapshots = removeUnleased (store.leases.filterValues fun e => now < e)
        (listed.drop limits.retainedSnapshots) store.snapshots ∧
      store'.leases = store.leases.filterValues fun e => now < e := by
  obtain ⟨listed, hlisted, hstore⟩ := bind_eq_ok.mp h
  cases hstore
  exact ⟨listed, hlisted, rfl, rfl, rfl⟩

/-- What a `persist` did that got as far as writing: the snapshot was written or was there, and
the pointer is on it; pruning may have raised. -/
theorem persist_cases (limits : StoreLimits) (store : StateStore) (state : State)
    (createdAt : Int) (now : ℚ) :
    (store.persist limits state createdAt now).2 = store ∧
        (∃ error, (store.persist limits state createdAt now).1 = .error error) ∨
      ∃ m snapshots, (PyValue.dict state.members).dumpable = true ∧
        (payloadOf state).length ≤ limits.maximumSnapshotBytes ∧
        metadataFromState limits state.members (payloadOf state) = .ok m ∧
        writeSnapshot limits store m (payloadOf state) createdAt = .ok snapshots ∧
        store.persist limits state createdAt now =
          (match pruneRetainedSnapshots limits { store with
              snapshots, current := some (asciiBytes (canonicalText (pointerTo m))) } now with
          | .error error => (.error error, { store with
              snapshots, current := some (asciiBytes (canonicalText (pointerTo m))) })
          | .ok pruned => (.ok m, pruned)) := by
  unfold persist canonicalJsonBytes
  by_cases hdumpable : (PyValue.dict state.members).dumpable = true
  · rw [if_pos hdumpable]
    dsimp only
    by_cases hlength : limits.maximumSnapshotBytes < (payloadOf state).length
    · rw [payloadOf] at hlength
      rw [if_pos hlength]
      exact .inl ⟨rfl, _, rfl⟩
    · have hfits := Nat.le_of_not_lt hlength
      rw [payloadOf] at hlength
      rw [if_neg hlength]
      cases hmetadata : metadataFromState limits state.members
          (asciiBytes (canonicalText (.dict state.members))) with
      | error error => exact .inl ⟨rfl, _, rfl⟩
      | ok m =>
        dsimp only
        cases hwrite : writeSnapshot limits store m
            (asciiBytes (canonicalText (.dict state.members))) createdAt with
        | error error => exact .inl ⟨rfl, _, rfl⟩
        | ok snapshots =>
          exact .inr ⟨m, snapshots, hdumpable, hfits, hmetadata, hwrite, rfl⟩
  · rw [if_neg hdumpable]
    exact .inl ⟨rfl, _, rfl⟩

omit [JsonReader] in
/-- A directory is written once, with the files of the state. -/
theorem writeSnapshot_eq_ok {payload : Bytes}
    (h : writeSnapshot limits store m payload createdAt = .ok snapshots) :
    store.snapshots.contains m.identifier = true ∧ snapshots = store.snapshots ∨
      store.snapshots.get? m.identifier = none ∧ (manifestOf m createdAt).dumpable = true ∧
        snapshots = store.snapshots.set m.identifier
          ⟨asciiBytes (canonicalText (manifestOf m createdAt)),
            slices limits.chunkSize payload⟩ := by
  unfold writeSnapshot at h
  split at h
  · next hthere => exact .inl ⟨hthere, (Except.ok.inj h).symm⟩
  · next hthere =>
    obtain ⟨manifest, hmanifest, hset⟩ := bind_eq_ok.mp h
    unfold canonicalJsonBytes at hmanifest
    split at hmanifest
    · next hdumpable =>
      cases hmanifest
      rw [Bool.not_eq_true, Dict.contains, Option.isSome_eq_false_iff,
        Option.isNone_iff_eq_none] at hthere
      exact .inr ⟨hthere, hdumpable, (Except.ok.inj hset).symm⟩
    · cases hmanifest

theorem Kept.writeSnapshot (hkept : Kept limits store)
    (hdumpable : (PyValue.dict state.members).dumpable = true)
    (hfits : (payloadOf state).length ≤ limits.maximumSnapshotBytes)
    (hmetadata : metadataFromState limits state.members (payloadOf state) = .ok m)
    (h : writeSnapshot limits store m (payloadOf state) createdAt = .ok snapshots)
    (current : Option Bytes) : Kept limits { store with snapshots, current } := by
  intro name files hfiles
  rcases writeSnapshot_eq_ok h with ⟨-, rfl⟩ | ⟨-, hmanifest, rfl⟩
  · exact hkept name files hfiles
  · rw [Dict.get?_set] at hfiles
    split at hfiles
    · next hname =>
      cases hfiles
      exact ⟨m, state, hname.symm, hdumpable, hfits, hmetadata, ⟨createdAt, hmanifest, rfl⟩, rfl⟩
    · exact hkept name files hfiles

/-- A call keeps every directory as `persist` wrote it. -/
theorem Kept.apply (hkept : Kept limits store) (op : StoreOp) :
    Kept limits (op.apply limits store) := by
  by_cases hpersist : op.isPersist = true
  · cases op with
    | persist state createdAt now =>
      rw [StoreOp.apply]
      rcases persist_cases limits store state createdAt now with ⟨hsame, -⟩ |
        ⟨m, snapshots, hdumpable, hfits, hmetadata, hwrite, hresult⟩
      · rw [hsame]
        exact hkept
      · have hpointed := hkept.writeSnapshot hdumpable hfits hmetadata hwrite
          (some (asciiBytes (canonicalText (pointerTo m))))
        rw [hresult]
        split
        · exact hpointed
        · next pruned hpruned =>
          obtain ⟨listed, -, -, hsnapshots, -⟩ := pruneRetainedSnapshots_eq_ok hpruned
          apply hpointed.of_removed
          intro name files hfiles
          rw [hsnapshots, get?_removeUnleased] at hfiles
          split at hfiles
          · cases hfiles
          · exact hfiles
    | loadSnapshotChunk | releaseSnapshotLease | offerImport | addImportChunk | abortImport
    | restart => cases hpersist
  · have hfiles := files_of_not_persist limits store (Bool.eq_false_iff.mpr hpersist)
    apply hkept.of_removed
    intro name files h
    rwa [hfiles.1] at h

/-- In every store that a run reaches, every directory holds what `persist` wrote. -/
theorem kept_runOps (limits : StoreLimits) (ops : List StoreOp) :
    Kept limits (runOps limits fresh ops) := by
  have hrun : ∀ (ops : List StoreOp) (store : StateStore), Kept limits store →
      Kept limits (runOps limits store ops) := by
    intro ops
    induction ops with
    | nil => exact fun store h => h
    | cons op ops ih => exact fun store h => ih (op.apply limits store) (h.apply op)
  exact hrun ops fresh (kept_fresh limits)

/-- `persist` adds the directory of its snapshot only. -/
theorem snapshots_persist (limits : StoreLimits)
    (hresult : (store.persist limits state createdAt now).1 = .ok m)
    (h : (store.persist limits state createdAt now).2.snapshots.get? name = some files) :
    name = m.identifier ∨ store.snapshots.get? name = some files := by
  rcases persist_cases limits store state createdAt now with ⟨-, error, herror⟩ |
    ⟨m', snapshots, -, -, -, hwrite, heq⟩
  · rw [herror] at hresult
    cases hresult
  rw [heq] at h hresult
  split at hresult
  · cases hresult
  next pruned hpruned =>
  cases hresult
  obtain ⟨listed, -, -, hsnapshots, -⟩ := pruneRetainedSnapshots_eq_ok hpruned
  rw [hpruned] at h
  dsimp only at h hsnapshots
  rw [hsnapshots, get?_removeUnleased] at h
  split at h
  · cases h
  · rcases writeSnapshot_eq_ok hwrite with ⟨-, rfl⟩ | ⟨-, -, rfl⟩
    · exact .inr h
    · rw [Dict.get?_set] at h
      split at h
      · next hname => exact .inl hname
      · exact .inr h

/-- `persist` grants no lease. -/
theorem leases_persist (limits : StoreLimits) (store : StateStore) (state : State)
    (createdAt : Int) (now : ℚ) {expiresAt : ℚ}
    (h : (store.persist limits state createdAt now).2.leases.get? name = some expiresAt) :
    store.leases.get? name = some expiresAt := by
  rcases persist_cases limits store state createdAt now with ⟨hsame, -⟩ |
    ⟨m, snapshots, -, -, -, -, hresult⟩
  · rwa [hsame] at h
  · rw [hresult] at h
    split at h
    · exact h
    · next pruned hpruned =>
      obtain ⟨listed, -, -, -, hleases⟩ := pruneRetainedSnapshots_eq_ok hpruned
      dsimp only at h hleases
      rw [hleases, Dict.get?_filterValues] at h
      exact (Option.filter_eq_some_iff.mp h).1

/-! ## The listed snapshots -/

theorem listSnapshots_fresh (limits : StoreLimits) : listSnapshots limits fresh = .ok [] := by
  rw [listSnapshots]
  exact congrArg Except.ok List.mergeSort_nil

theorem listedSnapshot_of_holds (hfiles : store.snapshots.get? m.identifier = some files)
    (h : Holds limits files m state) :
    listedSnapshot limits store m.identifier =
      .ok (if m.height < 10 ^ 20 then some m else none) := by
  have hname := m.isIdentifier_identifier
  rw [listedSnapshot]
  by_cases hheight : m.height < 10 ^ 20
  · rw [if_pos hheight, hname.mpr hheight, loadSnapshotByIdentifier_of_holds hfiles h]
    rfl
  · rw [if_neg hheight, Bool.eq_false_iff.mpr (mt hname.mp hheight)]
    rfl

/-- The snapshot that a directory is listed as. -/
def entryOf (limits : StoreLimits) (store : StateStore) (name : String) :
    Option ABCIStateSnapshot :=
  match listedSnapshot limits store name with
  | .ok entry => entry
  | .error _ => none

theorem Kept.entryOf_eq (hkept : Kept limits store) (hname : name ∈ store.snapshots.keys) :
    listedSnapshot limits store name = .ok (entryOf limits store name) := by
  obtain ⟨files, hfiles⟩ := Option.isSome_iff_exists.mp (Dict.mem_keys.mp hname)
  obtain ⟨m, state, rfl, hholds⟩ := hkept name files hfiles
  rw [entryOf, listedSnapshot_of_holds hfiles hholds]

theorem Kept.entryOf_eq_some (hkept : Kept limits store) (hname : name ∈ store.snapshots.keys) :
    entryOf limits store name = some m ↔ m.identifier = name ∧ m.height < 10 ^ 20 ∧
      ∃ files state, store.snapshots.get? name = some files ∧ Holds limits files m state := by
  obtain ⟨files, hfiles⟩ := Option.isSome_iff_exists.mp (Dict.mem_keys.mp hname)
  constructor
  · intro h
    obtain ⟨n, state, rfl, hholds⟩ := hkept name files hfiles
    rw [entryOf, listedSnapshot_of_holds hfiles hholds] at h
    dsimp only at h
    split at h
    · next hheight =>
      cases h
      exact ⟨rfl, hheight, files, state, hfiles, hholds⟩
    · cases h
  · rintro ⟨rfl, hheight, files, state, hfiles, hholds⟩
    rw [entryOf, listedSnapshot_of_holds hfiles hholds]
    dsimp only
    rw [if_pos hheight]

/-- What `list_snapshots` returns: every directory whose height has at most twenty digits, the
greatest height and hash first. -/
theorem Kept.listSnapshots_eq (hkept : Kept limits store) :
    ∃ listed, listSnapshots limits store = .ok listed ∧
      (∀ m, m ∈ listed ↔ m.height < 10 ^ 20 ∧ ∃ files state,
        store.snapshots.get? m.identifier = some files ∧ Holds limits files m state) ∧
      listed.Pairwise fun a b => b.rank < a.rank := by
  have hfound : store.snapshots.keys.mapM (listedSnapshot limits store) =
      .ok (store.snapshots.keys.map (entryOf limits store)) := by
    have h := @mapM_map_ok _ _ _ _ (listedSnapshot limits store) id (entryOf limits store)
      store.snapshots.keys fun name hname => hkept.entryOf_eq hname
    rwa [List.map_id] at h
  have hfilter : (store.snapshots.keys.map (entryOf limits store)).filterMap id =
      store.snapshots.keys.filterMap (entryOf limits store) := by
    rw [List.filterMap_map]
    rfl
  refine ⟨(store.snapshots.keys.filterMap (entryOf limits store)).mergeSort
    fun a b => b.rank ≤ a.rank, ?_, ?_, ?_⟩
  · rw [listSnapshots, hfound, ← hfilter]
    rfl
  · intro m
    rw [List.mem_mergeSort, List.mem_filterMap]
    constructor
    · rintro ⟨name, hname, hentry⟩
      obtain ⟨rfl, hheight, files, state, hfiles, hholds⟩ := (hkept.entryOf_eq_some hname).mp hentry
      exact ⟨hheight, files, state, hfiles, hholds⟩
    · rintro ⟨hheight, files, state, hfiles, hholds⟩
      have hname : m.identifier ∈ store.snapshots.keys :=
        Dict.mem_keys.mpr (by rw [hfiles]; rfl)
      exact ⟨m.identifier, hname,
        (hkept.entryOf_eq_some hname).mpr ⟨rfl, hheight, files, state, hfiles, hholds⟩⟩
  · -- names are distinct, so ranks are, and the sorted list descends strictly
    have hdistinct : (store.snapshots.keys.filterMap (entryOf limits store)).Pairwise
        fun a b => a.rank ≠ b.rank := by
      have hkeys : store.snapshots.keys.Pairwise fun a b => a ≠ b := store.snapshots.nodup
      rw [List.pairwise_filterMap]
      apply List.Pairwise.imp_of_mem _ hkeys
      intro first second hfirst hsecond hne m hm n hn hrank
      rw [((hkept.entryOf_eq_some hfirst).mp hm).1.symm,
        ((hkept.entryOf_eq_some hsecond).mp hn).1.symm] at hne
      exact hne (identifier_of_rank hrank)
    have hsorted : ((store.snapshots.keys.filterMap (entryOf limits store)).mergeSort
        fun a b => b.rank ≤ a.rank).Pairwise fun a b => decide (b.rank ≤ a.rank) = true := by
      apply List.pairwise_mergeSort
      · intro a b c hab hbc
        simp only [decide_eq_true_eq] at hab hbc ⊢
        exact le_trans hbc hab
      · intro a b
        simpa using le_total b.rank a.rank
    have hdistinct' := (List.mergeSort_perm
      (store.snapshots.keys.filterMap (entryOf limits store))
      fun a b => decide (b.rank ≤ a.rank)).pairwise_iff (fun h => Ne.symm h) |>.mpr hdistinct
    apply (hsorted.and hdistinct').imp
    intro a b hab
    exact lt_of_le_of_ne (by simpa using hab.1) (Ne.symm hab.2)

/-! ## The current state -/

omit [JsonReader] in
theorem nodup_pointer_keys (m : ABCIStateSnapshot) :
    (List.map Prod.fst [("schema_version", PyValue.int 1),
      ("snapshot_id", .str m.identifier)]).Nodup := by
  simp only [List.map_cons, List.map_nil]
  decide

/-- What the pointer says is read back. -/
theorem loadsBytes_pointerTo (m : ABCIStateSnapshot) :
    ∃ pointer, loadsBytes (asciiBytes (canonicalText (pointerTo m))) = some (.dict pointer) ∧
      (PyValue.get pointer "schema_version").eqv (.int 1) = true ∧
      PyValue.get pointer "snapshot_id" = .str m.identifier := by
  have hwellFormed : (pointerTo m).WellFormed := by
    apply PyValue.WellFormed.dict (nodup_pointer_keys m)
    intro member hmember
    simp only [List.mem_cons, List.not_mem_nil, or_false] at hmember
    rcases hmember with rfl | rfl
    · exact .int _
    · exact .str _
  refine ⟨orderedMembers [("schema_version", .int 1), ("snapshot_id", .str m.identifier)],
    ?_, ?_, ?_⟩
  · rw [loadsBytes_canonicalText hwellFormed rfl]
    exact congrArg some (PyValue.sorted_dict _)
  · rw [PyValue.get, orderedMembers, lookup_sorted (nodup_pointer_keys m)]
    rfl
  · rw [PyValue.get, orderedMembers, lookup_sorted (nodup_pointer_keys m)]
    rfl

/-- `load_current` once the pointer is on a snapshot whose directory is as it was written. -/
theorem loadCurrent_of_holds
    (hcurrent : store.current = some (asciiBytes (canonicalText (pointerTo m))))
    (hheight : m.height < 10 ^ 20) (hname : n.identifier = m.identifier)
    (hfiles : store.snapshots.get? m.identifier = some files) (h : Holds limits files n state) :
    loadCurrent limits store = .ok (some (orderedMembers state.members)) := by
  obtain ⟨pointer, hread, hversion, hid⟩ := loadsBytes_pointerTo m
  have hload := loadSnapshotByIdentifier_of_holds (hname ▸ hfiles) h
  rw [hname] at hload
  simp only [loadCurrent, hcurrent, hread, hversion, hid, m.isIdentifier_identifier.mpr hheight,
    hload, Bool.not_true, Bool.false_eq_true, if_false]

/-- `load_current` once the pointer is on a snapshot that is gone, or whose name has more than
twenty digits. -/
theorem loadCurrent_of_missing {limits : StoreLimits} {store : StateStore} {m : ABCIStateSnapshot}
    (hcurrent : store.current = some (asciiBytes (canonicalText (pointerTo m))))
    (h : store.snapshots.get? m.identifier = none ∨ ¬ m.height < 10 ^ 20) :
    ∃ error, loadCurrent limits store = .error error := by
  obtain ⟨pointer, hread, hversion, hid⟩ := loadsBytes_pointerTo m
  by_cases hheight : m.height < 10 ^ 20
  · have hmissing := h.resolve_right fun hn => hn hheight
    have hload : loadSnapshotByIdentifier limits store m.identifier =
        .error (.stateStore "ABCI snapshot is corrupt") := by
      rw [loadSnapshotByIdentifier, hmissing]
    exact ⟨_, by simp only [loadCurrent, hcurrent, hread, hversion, hid,
      m.isIdentifier_identifier.mpr hheight, hload, Bool.not_true, Bool.false_eq_true,
        if_false]; rfl⟩
  · have hname := Bool.eq_false_iff.mpr (mt m.isIdentifier_identifier.mp hheight)
    exact ⟨_, by simp only [loadCurrent, hcurrent, hread, hversion, hid, hname, Bool.not_true,
      Bool.not_false, Bool.false_eq_true, if_false, if_true]; rfl⟩

/-- The snapshot of the state that is persisted survives the pruning: its name is a valid one, a
directory of that name holds an equal state, and it has a lease or ranks among the retained
snapshots. -/
def Survives (limits : StoreLimits) (store : StateStore) (state : State) (now : ℚ)
    (m : ABCIStateSnapshot) : Prop :=
  m.height < 10 ^ 20 ∧
    (∀ files, store.snapshots.get? m.identifier = some files →
      ∃ held, loadsBytes files.chunks.flatten = some (.dict held) ∧
        (PyValue.dict held).eqv (.dict state.members) = true) ∧
    ((∃ expiresAt, store.leases.get? m.identifier = some expiresAt ∧ now < expiresAt) ∨
      ∀ listed, listSnapshots limits store = .ok listed →
        (listed.filter fun n => m.rank < n.rank).length < limits.retainedSnapshots)

omit [JsonReader] in
theorem contains_filterValues {leases : Dict String ℚ} :
    (leases.filterValues fun e => decide (now < e)).contains name = true ↔
      ∃ expiresAt, leases.get? name = some expiresAt ∧ now < expiresAt := by
  rw [Dict.contains, Dict.get?_filterValues, Option.isSome_iff_exists]
  simp only [Option.filter_eq_some_iff, decide_eq_true_eq]

/-- Writing a snapshot adds no snapshot of another rank. -/
theorem length_greater_written {pointed : StateStore} {listed' : List ABCIStateSnapshot}
    (hkept : Kept limits store) (hkept' : Kept limits pointed)
    (hother : ∀ name, name ≠ m.identifier → pointed.snapshots.get? name = store.snapshots.get? name)
    (hlisted : listSnapshots limits store = .ok listed)
    (hlisted' : listSnapshots limits pointed = .ok listed') :
    (listed'.filter fun n => m.rank < n.rank).length =
      (listed.filter fun n => m.rank < n.rank).length := by
  obtain ⟨_, heq, hmem, hpairwise⟩ := hkept.listSnapshots_eq
  obtain ⟨_, heq', hmem', hpairwise'⟩ := hkept'.listSnapshots_eq
  obtain rfl := Except.ok.inj (heq.symm.trans hlisted)
  obtain rfl := Except.ok.inj (heq'.symm.trans hlisted')
  have hnodup : ∀ xs : List ABCIStateSnapshot, xs.Pairwise (fun a b => b.rank < a.rank) →
      xs.Nodup := fun xs h => h.imp fun hlt heq => absurd (heq ▸ hlt) (lt_irrefl _)
  apply List.Perm.length_eq
  rw [List.perm_ext_iff_of_nodup ((hnodup _ hpairwise').filter _) ((hnodup _ hpairwise).filter _)]
  intro n
  rw [List.mem_filter, List.mem_filter]
  apply and_congr_left
  intro hrank
  have hname : n.identifier ≠ m.identifier := by
    intro heq
    rw [rank_of_identifier heq] at hrank
    simp at hrank
  rw [hmem, hmem', hother _ hname]

/-- After the write a directory of the snapshot's name is there: one that was there before, or
the files of the state. -/
theorem exists_written (hkept : Kept limits store)
    (hdumpable : (PyValue.dict state.members).dumpable = true)
    (hfits : (payloadOf state).length ≤ limits.maximumSnapshotBytes)
    (hmetadata : metadataFromState limits state.members (payloadOf state) = .ok m)
    (h : writeSnapshot limits store m (payloadOf state) createdAt = .ok snapshots) :
    ∃ files n held, snapshots.get? m.identifier = some files ∧ n.identifier = m.identifier ∧
      Holds limits files n held ∧
      (store.snapshots.get? m.identifier = some files ∨
        store.snapshots.get? m.identifier = none ∧ held = state) := by
  rcases writeSnapshot_eq_ok h with ⟨hthere, rfl⟩ | ⟨hnone, hmanifest, rfl⟩
  · obtain ⟨files, hfiles⟩ := Option.isSome_iff_exists.mp hthere
    obtain ⟨n, held, hname, hholds⟩ := hkept _ files hfiles
    exact ⟨files, n, held, hfiles, hname, hholds, .inl hfiles⟩
  · exact ⟨_, m, state, Dict.get?_set_self _ _ _, rfl,
      ⟨hdumpable, hfits, hmetadata, ⟨createdAt, hmanifest, rfl⟩, rfl⟩, .inr ⟨hnone, rfl⟩⟩

/-- A listed snapshot is among those behind the retained ones exactly when as many rank above
it. -/
theorem Kept.dropped_iff (hkept : Kept limits store)
    (hlisted : listSnapshots limits store = .ok listed) {held : State}
    (hname : n.identifier = m.identifier) (hheight : m.height < 10 ^ 20)
    (hfiles : store.snapshots.get? m.identifier = some files) (hholds : Holds limits files n held)
    (k : Nat) :
    (∃ d ∈ listed.drop k, d.identifier = m.identifier) ↔
      k ≤ (listed.filter fun y => m.rank < y.rank).length := by
  obtain ⟨_, heq, hmem, hpairwise⟩ := hkept.listSnapshots_eq
  obtain rfl := Except.ok.inj (heq.symm.trans hlisted)
  have hrank := rank_of_identifier hname
  have hheights : n.height = m.height := (Prod.mk.inj (toLex.injective hrank)).1
  have hn := (hmem n).mpr ⟨hheights ▸ hheight, files, held, hname ▸ hfiles, hholds⟩
  rw [← hrank, ← mem_drop_iff_of_descending rank hpairwise hn]
  constructor
  · rintro ⟨d, hd, hdname⟩
    obtain ⟨-, files', state', hfiles', hholds'⟩ := (hmem d).mp (List.mem_of_mem_drop hd)
    have hload := loadSnapshotByIdentifier_of_holds hfiles' hholds'
    rw [hdname, ← hname, loadSnapshotByIdentifier_of_holds (hname ▸ hfiles) hholds] at hload
    rw [(Prod.mk.inj (Except.ok.inj hload)).1]
    exact hd
  · exact fun hd => ⟨n, hd, hname⟩

/-- A successful `persist` leaves the pointer on the snapshot and its directory in place, unless
enough snapshots rank above it and no lease protects it. -/
theorem Kept.persist_outcome (hkept : Kept limits store)
    (h : (store.persist limits state createdAt now).1 = .ok m) :
    ∃ files n held listed, n.identifier = m.identifier ∧ Holds limits files n held ∧
      (store.snapshots.get? m.identifier = some files ∨
        store.snapshots.get? m.identifier = none ∧ held = state) ∧
      listSnapshots limits store = .ok listed ∧
      (store.persist limits state createdAt now).2.current =
        some (asciiBytes (canonicalText (pointerTo m))) ∧
      (m.height < 10 ^ 20 →
        (store.persist limits state createdAt now).2.snapshots.get? m.identifier =
          if limits.retainedSnapshots ≤ (listed.filter fun y => m.rank < y.rank).length ∧
            (store.leases.filterValues fun e => now < e).contains m.identifier = false then none
          else some files) := by
  rcases persist_cases limits store state createdAt now with ⟨-, error, herror⟩ |
    ⟨m', snapshots, hdumpable, hfits, hmetadata, hwrite, hresult⟩
  · rw [herror] at h
    cases h
  have hkept' := hkept.writeSnapshot hdumpable hfits hmetadata hwrite
    (some (asciiBytes (canonicalText (pointerTo m'))))
  obtain ⟨files, n, held, hfiles, hname, hholds, hbefore⟩ :=
    exists_written hkept hdumpable hfits hmetadata hwrite
  have hother : ∀ name, name ≠ m'.identifier → snapshots.get? name = store.snapshots.get? name := by
    intro name hne
    rcases writeSnapshot_eq_ok hwrite with ⟨-, rfl⟩ | ⟨-, -, rfl⟩
    · rfl
    · exact Dict.get?_set_of_ne _ _ hne
  obtain ⟨listed, hlisted, -, -⟩ := hkept.listSnapshots_eq
  rw [hresult] at h ⊢
  split at h
  · cases h
  next pruned hpruned =>
  cases h
  obtain ⟨listed', hlisted', hcurrent, hsnapshots, -⟩ := pruneRetainedSnapshots_eq_ok hpruned
  refine ⟨files, n, held, listed, hname, hholds, hbefore, hlisted, hcurrent, fun hheight => ?_⟩
  have hdropped := hkept'.dropped_iff hlisted' hname hheight hfiles hholds
    limits.retainedSnapshots
  rw [length_greater_written hkept hkept' hother hlisted hlisted'] at hdropped
  dsimp only
  rw [hsnapshots, get?_removeUnleased, hfiles]
  simp only [hdropped]

/-- After a successful `persist` the pointer leads to an equal state exactly when the snapshot
survives the pruning. -/
theorem Kept.loadCurrent_persist_iff (hkept : Kept limits store)
    (h : (store.persist limits state createdAt now).1 = .ok m) :
    (∃ held, loadCurrent limits (store.persist limits state createdAt now).2 = .ok (some held) ∧
      (PyValue.dict held).eqv (.dict state.members) = true) ↔
      Survives limits store state now m := by
  obtain ⟨files, n, held, listed, hname, hholds, hbefore, hlisted, hcurrent, hget⟩ :=
    hkept.persist_outcome h
  have hraises : ∀ error,
      loadCurrent limits (store.persist limits state createdAt now).2 = .error error →
      ¬ ∃ held, loadCurrent limits (store.persist limits state createdAt now).2 =
        .ok (some held) ∧ (PyValue.dict held).eqv (.dict state.members) = true := by
    rintro error herror ⟨_, hload, -⟩
    rw [herror] at hload
    cases hload
  by_cases hheight : m.height < 10 ^ 20
  · have hget := hget hheight
    by_cases hgone : limits.retainedSnapshots ≤ (listed.filter fun y => m.rank < y.rank).length ∧
        (store.leases.filterValues fun e => decide (now < e)).contains m.identifier = false
    · -- the snapshot is removed, and the pointer leads nowhere
      rw [if_pos hgone] at hget
      obtain ⟨error, herror⟩ := @loadCurrent_of_missing _ limits _ _ hcurrent (.inl hget)
      apply iff_of_false (hraises error herror)
      rintro ⟨-, -, hlease | hretained⟩
      · rw [contains_filterValues.mpr hlease] at hgone
        cases hgone.2
      · exact absurd (hretained listed hlisted) (Nat.not_lt_of_le hgone.1)
    · rw [if_neg hgone] at hget
      have hload := loadCurrent_of_holds hcurrent hheight hname hget hholds
      have hpayload : loadsBytes files.chunks.flatten =
          some (.dict (orderedMembers held.members)) := by
        rw [hholds.flatten_chunks, hholds.loadsBytes_payload]
      rw [hload]
      constructor
      · rintro ⟨held', hheld, heqv⟩
        cases hheld
        refine ⟨hheight, ?_, ?_⟩
        · intro files' hfiles'
          rcases hbefore with hsame | ⟨hnone, -⟩
          · obtain rfl := Option.some.inj (hsame.symm.trans hfiles')
            exact ⟨_, hpayload, heqv⟩
          · rw [hnone] at hfiles'
            cases hfiles'
        · rcases not_and_or.mp hgone with hfew | hleased
          · refine .inr fun listed' hlisted' => ?_
            obtain rfl := Except.ok.inj (hlisted.symm.trans hlisted')
            exact Nat.lt_of_not_le hfew
          · exact .inl (contains_filterValues.mp (by simpa using hleased))
      · rintro ⟨-, hequal, -⟩
        refine ⟨_, rfl, ?_⟩
        rcases hbefore with hsame | ⟨-, rfl⟩
        · obtain ⟨held', hheld, heqv⟩ := hequal files hsame
          rw [hpayload] at hheld
          obtain rfl := PyValue.dict.inj (Option.some.inj hheld)
          exact heqv
        · have heqv := PyValue.eqv_sorted held.wellFormed
          rwa [PyValue.sorted_dict] at heqv
  · obtain ⟨error, herror⟩ := @loadCurrent_of_missing _ limits _ _ hcurrent (.inr hheight)
    exact iff_of_false (hraises error herror) fun hsurvives => hheight hsurvives.1

/-- A state that can be written, fits and has valid metadata is persisted. -/
theorem Kept.persist_ok (hkept : Kept limits store)
    (hdumpable : (PyValue.dict state.members).dumpable = true)
    (hfits : (payloadOf state).length ≤ limits.maximumSnapshotBytes)
    (hmetadata : metadataFromState limits state.members (payloadOf state) = .ok m)
    (hmanifest : (manifestOf m createdAt).dumpable = true) :
    (store.persist limits state createdAt now).1 = .ok m := by
  have hwrite : ∃ snapshots,
      StateStore.writeSnapshot limits store m (payloadOf state) createdAt = .ok snapshots := by
    rw [StateStore.writeSnapshot]
    split
    · exact ⟨_, rfl⟩
    · rw [canonicalJsonBytes, if_pos hmanifest]
      exact ⟨_, rfl⟩
  obtain ⟨snapshots, hwrite⟩ := hwrite
  obtain ⟨listed, hlisted, -, -⟩ := (hkept.writeSnapshot hdumpable hfits hmetadata hwrite
    (some (asciiBytes (canonicalText (pointerTo m))))).listSnapshots_eq
  have hfits' : ¬ limits.maximumSnapshotBytes < (payloadOf state).length := Nat.not_lt_of_le hfits
  rw [payloadOf] at hmetadata hwrite hfits'
  simp only [persist, canonicalJsonBytes, if_pos hdumpable, if_neg hfits', hmetadata, hwrite,
    pruneRetainedSnapshots, hlisted]
  rfl

/-- Over every run: once a `persist` has succeeded, and until the next one, the current state is
equal to the persisted one exactly when its snapshot survived the pruning. -/
theorem current_state_iff_survives (limits : StoreLimits) (ops later : List StoreOp)
    (hlater : ∀ op ∈ later, op.isPersist = false) (state : State) (createdAt : Int) (now : ℚ)
    (m : ABCIStateSnapshot)
    (h : ((runOps limits fresh ops).persist limits state createdAt now).1 = .ok m) :
    (∃ held, loadCurrent limits (runOps limits
        ((runOps limits fresh ops).persist limits state createdAt now).2 later) = .ok (some held) ∧
      (PyValue.dict held).eqv (.dict state.members) = true) ↔
      Survives limits (runOps limits fresh ops) state now m := by
  obtain ⟨hsnapshots, hcurrent⟩ := files_of_run limits hlater
    ((runOps limits fresh ops).persist limits state createdAt now).2
  rw [loadCurrent_congr limits hsnapshots hcurrent]
  exact (kept_runOps limits ops).loadCurrent_persist_iff h

/-! ## A lower height than before -/

def stateAt (height : Nat) : State where
  members := [("app_hash", .str (hexEncode false (List.replicate 32 0))),
    ("last_block_height", .int height)]
  wellFormed := by
    apply PyValue.WellFormed.dict
    · simp only [List.map_cons, List.map_nil]
      decide
    · intro member hmember
      simp only [List.mem_cons, List.not_mem_nil, or_false] at hmember
      rcases hmember with rfl | rfl
      · exact .str _
      · exact .int _

def keepOne : StoreLimits where
  chunkSize := 65536
  maximumSnapshotBytes := 67108864
  maximumImportChunkBytes := 1000000
  retainedSnapshots := 1
  snapshotLeaseSeconds := 1800
  chunkSize_pos := by decide
  chunkSize_le := by decide
  importChunk_pos := by decide
  importChunk_le := by decide
  retained_pos := by decide
  lease_pos := by decide

theorem metadata_stateAt (limits : StoreLimits) (height : Nat) (payload : Bytes) :
    ∃ m, metadataFromState limits (stateAt height).members payload = .ok m ∧ m.height = height := by
  have hnames : stateNames (stateAt height).members = .ok (height, List.replicate 32 0) := by
    have hhash : hexOfValue (.str (hexEncode false (List.replicate 32 0))) =
        .ok (List.replicate 32 0) := by
      rw [hexOfValue, fromHex_hexEncode]
      rfl
    show (do
      let appHash ← hexOfValue (.str (hexEncode false (List.replicate 32 0)))
      return ((height : Int), appHash)) = Except.ok ((height : Int), List.replicate 32 0)
    rw [hhash]
    rfl
  have hshape : 0 ≤ (height : Int) ∧ (1 : Int) = 1 ∧
      1 ≤ ((max 1 ((payload.length + limits.chunkSize - 1) / limits.chunkSize) : Nat) : Int) :=
    ⟨by omega, rfl, by omega⟩
  have hhash : (sha256 payload).length = 32 ∧ (List.replicate 32 (0 : UInt8)).length = 32 :=
    ⟨length_sha256 payload, List.length_replicate⟩
  rw [metadataFromState, hnames]
  dsimp only
  rw [make, dif_pos hshape, dif_pos hhash]
  exact ⟨_, rfl, Int.toNat_natCast height⟩

theorem length_payload_stateAt (h : height < 10) :
    (payloadOf (stateAt height)).length ≤ 67108864 := by
  have horder : decide ("app_hash" ≤ "last_block_height") = true := by decide
  have hsorted : (stateAt height).members.mergeSort (fun a b => a.1 ≤ b.1) =
      (stateAt height).members := by
    apply List.mergeSort_of_pairwise
    simp only [stateAt, List.pairwise_cons, List.mem_singleton, forall_eq, List.not_mem_nil,
      false_implies, implies_true, List.Pairwise.nil, and_true]
    exact horder
  have happ := length_quoteText_le "app_hash"
  have hzeros := length_quoteText_le (hexEncode false (List.replicate 32 0))
  have hheight := length_quoteText_le "last_block_height"
  have hdigits : (toString (height : Int)).toList.length = 1 := by
    show (Nat.repr height).toList.length = 1
    rw [Nat.toList_repr, Nat.toDigits_of_lt_base h]
    rfl
  have htext : (hexEncode false (List.replicate 32 0)).length = 64 := by
    rw [hexEncode, String.length_ofList, length_hexChars, List.length_replicate]
  have happLength : "app_hash".length = 8 := rfl
  have hheightLength : "last_block_height".length = 17 := rfl
  rw [payloadOf, asciiBytes, List.length_map, canonicalText_dict, hsorted]
  simp only [stateAt, List.map_cons, List.map_nil, joinTexts_cons_cons, joinTexts_singleton,
    canonicalText, List.length_append, List.length_cons, List.length_nil, hdigits]
  omega

omit [JsonReader] in
/-- A number of at most nine digits can be written. -/
theorem length_toDigits_le {n : Nat} (h : n < 10 ^ 9) : (Nat.toDigits 10 n).length ≤ 4300 :=
  Nat.le_trans ((Nat.length_toDigits_le_iff (by decide) (by decide)).mpr h) (by decide)

/-- The state of a low height is persisted in every store of a run. -/
theorem persist_stateAt (hlimit : limits.maximumSnapshotBytes = 67108864)
    (hkept : Kept limits store) (h : height < 10) :
    ∃ m, (store.persist limits (stateAt height) 0 0).1 = .ok m ∧ m.height = height := by
  obtain ⟨m, hmetadata, hheight⟩ := metadata_stateAt limits height (payloadOf (stateAt height))
  have hfits := length_payload_stateAt h
  have hchunks := chunks_le_length hmetadata
    (List.length_pos_of_ne_nil (payloadOf_ne_nil (stateAt height)))
  have hdumpable : (PyValue.dict (stateAt height).members).dumpable = true := by
    simp [stateAt, PyValue.dumpable, PyValue.dumpableMembers, length_toDigits_le
      (show height < 10 ^ 9 by omega)]
  have hmanifest : (manifestOf m 0).dumpable = true := by
    simp [manifestOf, PyValue.dumpable, PyValue.dumpableMembers, m.format_eq,
      length_toDigits_le (show m.height < 10 ^ 9 by omega),
      length_toDigits_le (show m.chunks < 10 ^ 9 by omega),
      length_toDigits_le (show 1 < 10 ^ 9 by decide)]
  exact ⟨m, hkept.persist_ok hdumpable (by rw [hlimit]; exact hfits) hmetadata hmanifest, hheight⟩

/-- In a store of lower heights a state is persisted and survives, and its snapshot is all that is
added to the list. -/
theorem Kept.listed_stateAt {before : List ABCIStateSnapshot} (hkept : Kept limits store)
    (hlimit : limits.maximumSnapshotBytes = 67108864)
    (hbefore : listSnapshots limits store = .ok before) (hlow : ∀ n ∈ before, n.height < height)
    (h : height < 10) :
    ∃ m n listed files, (store.persist limits (stateAt height) 0 0).1 = .ok m ∧
      Survives limits store (stateAt height) 0 m ∧
      listSnapshots limits (store.persist limits (stateAt height) 0 0).2 = .ok listed ∧
      n ∈ listed ∧ n.height = height ∧
      (store.persist limits (stateAt height) 0 0).2.snapshots.get? n.identifier = some files ∧
      Holds limits files n (stateAt height) ∧
      ∀ other ∈ listed, other.rank = n.rank ∨ other ∈ before := by
  obtain ⟨m, hpersist, hheight⟩ := persist_stateAt hlimit hkept h
  obtain ⟨files, n, held, _, hname, hholds, hthere, heq, -, hget⟩ := hkept.persist_outcome hpersist
  obtain rfl := Except.ok.inj (hbefore.symm.trans heq)
  obtain ⟨_, heq, hmem, -⟩ := hkept.listSnapshots_eq
  obtain rfl := Except.ok.inj (hbefore.symm.trans heq)
  have hrank := rank_of_identifier hname
  have hheights : n.height = m.height := (Prod.mk.inj (toLex.injective hrank)).1
  have hnone : store.snapshots.get? m.identifier = none ∧ held = stateAt height := by
    refine hthere.resolve_left fun hfiles => ?_
    have hn := hlow n ((hmem n).mpr ⟨by omega, files, held, hname ▸ hfiles, hholds⟩)
    omega
  have hcount : (before.filter fun y => m.rank < y.rank).length < limits.retainedSnapshots := by
    rw [List.filter_eq_nil_iff.mpr fun y hy habove => ?_]
    · exact limits.retained_pos
    · have hy := hlow y hy
      exact lt_asymm (of_decide_eq_true habove) (Prod.Lex.left _ _ (by omega))
  have hretained := hget (by omega)
  rw [if_neg (fun h => absurd h.1 (Nat.not_le.mpr hcount)), ← hname] at hretained
  obtain ⟨listed, hlisted, hmem', -⟩ :=
    (hkept.apply (.persist (stateAt height) 0 0)).listSnapshots_eq
  obtain rfl := hnone.2
  refine ⟨m, n, listed, files, hpersist, ⟨by omega, fun files' hfiles' => ?_, .inr ?_⟩, hlisted,
    (hmem' n).mpr ⟨by omega, files, _, hretained, hholds⟩, hheights.trans hheight, hretained,
    hholds, fun other hother => ?_⟩
  · rw [hnone.1] at hfiles'
    cases hfiles'
  · intro listed hlisted
    obtain rfl := Except.ok.inj (hbefore.symm.trans hlisted)
    exact hcount
  · obtain ⟨hlt, files', state', hfiles', hholds'⟩ := (hmem' other).mp hother
    rcases snapshots_persist limits hpersist hfiles' with hsame | hold
    · exact .inl ((rank_of_identifier hsame).trans hrank.symm)
    · exact .inr ((hmem other).mpr ⟨hlt, files', state', hold, hholds'⟩)

/-- What is listed after the state of height one. -/
theorem listed_first (hlimit : limits.maximumSnapshotBytes = 67108864) :
    ∃ listed, listSnapshots limits (runOps limits fresh [.persist (stateAt 1) 0 0]) = .ok listed ∧
      ∀ n ∈ listed, n.height < 2 := by
  obtain ⟨-, n, listed, -, -, -, hlisted, -, hheight, -, -, hall⟩ :=
    (kept_fresh limits).listed_stateAt hlimit (listSnapshots_fresh limits)
      (fun _ h => absurd h List.not_mem_nil) (show 1 < 10 by decide)
  refine ⟨listed, hlisted, fun other hother => ?_⟩
  have hrank := (hall other hother).resolve_right List.not_mem_nil
  have hsame : other.height = n.height := (Prod.mk.inj (toLex.injective hrank)).1
  omega

end

@[reducible] def plainReader : JsonReader where
  readFloat := fun text => .float text 0
  loadsForeign := fun _ => none

/-- A state of a greater height than the persisted one is the current state. -/
theorem greater_height_current :
    letI := plainReader
    let store := runOps keepOne fresh [.persist (stateAt 1) 0 0]
    ∃ held, loadCurrent keepOne (store.persist keepOne (stateAt 2) 0 0).2 = .ok (some held) ∧
      (PyValue.dict held).eqv (.dict (stateAt 2).members) = true := by
  let _ := plainReader
  intro store
  obtain ⟨listed, hlisted, hlow⟩ := listed_first (show keepOne.maximumSnapshotBytes = _ from rfl)
  obtain ⟨m, -, -, -, hpersist, hsurvives, -⟩ :=
    (kept_runOps keepOne [.persist (stateAt 1) 0 0]).listed_stateAt rfl hlisted hlow
      (show 2 < 10 by decide)
  exact (current_state_iff_survives keepOne [.persist (stateAt 1) 0 0] []
    (fun _ h => absurd h List.not_mem_nil) (stateAt 2) 0 0 m hpersist).mpr hsurvives

/-- A state of a lower height than the retained one is gone as soon as it is persisted. -/
theorem lower_height_lost :
    letI := plainReader
    (∃ m, ((runOps keepOne fresh [.persist (stateAt 2) 0 0]).persist keepOne (stateAt 1) 0 0).1 =
        .ok m) ∧
      ∃ error, loadCurrent keepOne
        ((runOps keepOne fresh [.persist (stateAt 2) 0 0]).persist keepOne (stateAt 1) 0 0).2 =
          .error error := by
  let _ := plainReader
  have hkept := kept_runOps keepOne [.persist (stateAt 2) 0 0]
  -- the first state is retained
  obtain ⟨-, n, listed, -, -, -, hlisted, hn, hheight, -⟩ :=
    (kept_fresh keepOne).listed_stateAt rfl (listSnapshots_fresh keepOne)
      (fun _ h => absurd h List.not_mem_nil) (show 2 < 10 by decide)
  obtain ⟨low, hlow, hlowHeight⟩ := persist_stateAt rfl hkept (show 1 < 10 by decide)
  obtain ⟨_, _, _, _, -, -, -, hlisted', hcurrent, hgone⟩ := hkept.persist_outcome hlow
  obtain rfl := Except.ok.inj (hlisted.symm.trans hlisted')
  have habove : low.rank < n.rank := Prod.Lex.left _ _ (by omega)
  have hcount : 1 ≤ (listed.filter fun y => low.rank < y.rank).length :=
    List.length_pos_of_mem (List.mem_filter.mpr ⟨hn, by simpa using habove⟩)
  -- and nothing protects the second one
  have hleases : ((runOps keepOne fresh [.persist (stateAt 2) 0 0]).leases.filterValues
      fun e => decide ((0 : ℚ) < e)).contains low.identifier = false := by
    rw [Bool.eq_false_iff]
    intro hcontains
    obtain ⟨_, hlease, -⟩ := contains_filterValues.mp hcontains
    have hbefore := leases_persist keepOne fresh (stateAt 2) 0 0 hlease
    cases hbefore
  have hmissing := hgone (by omega)
  rw [if_pos ⟨hcount, hleases⟩] at hmissing
  exact ⟨⟨low, hlow⟩, loadCurrent_of_missing hcurrent (.inl hmissing)⟩

end StateStore

end AidnSpec.Consensus
