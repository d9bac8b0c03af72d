import AidnSpec.Base.Runs
import AidnSpec.Registry.ObjectStore

/-!
# Runs of the object store

What the views of the store say of each other after any calls. A hard delete forgets the tombstone
of an object and leaves its id in the indexes, so that an object that is stored again after it is
excepted from some of the agreements.
-/

namespace AidnSpec.Registry

open Base List

namespace ImmutableObjectStore

variable {s : ImmutableObjectStore}

/-! ## What a call leaves -/

theorem put_cases {x : RegistryObjectEnvelope} {answer : Bool} {s' : ImmutableObjectStore}
    (h : s.put x = .ok (answer, s')) :
    answer = false ∧ s' = s ∨
      answer = true ∧ x.objectId ∉ s.tombstones ∧
        ∃ hnew : s.objects.get? x.objectId = none, s' = s.store x hnew := by
  obtain ⟨valid, -, h⟩ := bind_eq_ok.mp h
  obtain ⟨u, -, h⟩ := bind_eq_ok.mp h
  rw [pure_eq_ok] at h
  split at h
  · cases h
    exact .inl ⟨rfl, rfl⟩
  · next hnew =>
    split at h
    · cases h
      exact .inl ⟨rfl, rfl⟩
    · next htomb =>
      cases h
      exact .inr ⟨rfl, htomb, hnew, rfl⟩

/-- A tombstone refuses an object. -/
theorem put_of_tombstone {x : RegistryObjectEnvelope} (h : x.objectId ∈ s.tombstones)
    {answer : Bool × ImmutableObjectStore} (hput : s.put x = .ok answer) : answer = (false, s) := by
  obtain ⟨taken, s'⟩ := answer
  obtain ⟨hanswer, hs⟩ | ⟨-, htomb, -⟩ := put_cases hput
  · exact Prod.ext hanswer hs
  · exact absurd h htomb

/-- What a retention call may change. -/
structure Retained (s : ImmutableObjectStore) (apply : Bool) (limit : Option Int)
    (report : RetentionReport) (s' : ImmutableObjectStore) : Prop where
  objects : s'.objects = s.objects
  typeIndex : s'.typeIndex = s.typeIndex
  epochIndex : s'.epochIndex = s.epochIndex
  insertionOrder : s'.insertionOrder = s.insertionOrder
  tombstones : s'.tombstones = s.tombstones
  expired : ∀ id, id ∈ s'.expired ↔ id ∈ s.expired ∨ apply = true ∧ id ∈ report.expiredIds
  dryRun : apply = false → s' = s
  limited : ∀ bound ∈ limit, report.expiredIds.length ≤ bound.toNat

theorem applyRetention_spec {currentEpoch : Int} {policy : RegistryRetentionPolicy} {apply : Bool}
    {limit : Option Int} {report : RetentionReport} {s' : ImmutableObjectStore}
    (h : s.applyRetention currentEpoch policy apply limit = .ok (report, s')) :
    Retained s apply limit report s' := by
  obtain ⟨found, -, h⟩ := bind_eq_ok.mp h
  rw [pure_eq_ok] at h
  have hlimited : ∀ bound ∈ limit, report.expiredIds.length ≤ bound.toNat := by
    rintro bound hbound
    cases hbound
    cases h
    simp
  cases apply with
  | true =>
    cases h
    exact ⟨rfl, rfl, rfl, rfl, rfl, by simp, nofun, hlimited⟩
  | false =>
    cases h
    exact ⟨rfl, rfl, rfl, rfl, rfl, by simp, fun _ => rfl, hlimited⟩

/-! ## Views of one store -/

theorem collect_none (result : List RegistryObjectEnvelope) (ids : List String) :
    s.collect none result ids = result ++ ids.filterMap s.objects.get? := by
  induction ids generalizing result with
  | nil => simp [collect]
  | cons id ids ih =>
    simp only [collect, Option.any_none, Bool.false_eq_true, if_false, ih, filterMap_cons]
    cases s.objects.get? id <;> simp

theorem has_eq_isSome_get (id : String) (includeExpired : Bool) :
    s.has id includeExpired = (s.get id includeExpired).isSome := by
  unfold has get Dict.contains
  by_cases htomb : id ∈ s.tombstones
  · simp [htomb]
  · by_cases hexpired : id ∈ s.expired
    · cases includeExpired <;> simp [htomb, hexpired]
    · simp [htomb, hexpired]

theorem nodup_allIds (includeExpired : Bool) : (s.allIds includeExpired).Nodup :=
  s.nodup.filter _

theorem mem_allIds {id : String} {includeExpired : Bool} :
    id ∈ s.allIds includeExpired ↔ s.has id includeExpired = true := by
  simp [allIds, has, Dict.contains, mem_filter, s.ordered, and_assoc]

/-- The visible objects in the order of their ids. -/
def visible (s : ImmutableObjectStore) (includeExpired : Bool) : List RegistryObjectEnvelope :=
  (s.allIds includeExpired).filterMap s.objects.get?

theorem get?_foldl_counted (objects : List RegistryObjectEnvelope) (stats : StorageStats)
    (objectType : String) :
    ((objects.foldl counted stats).objectsByType.get? objectType).getD 0 =
      (stats.objectsByType.get? objectType).getD 0 +
        (objects.filter (·.objectType = objectType)).length := by
  induction objects generalizing stats with
  | nil => simp
  | cons x objects ih =>
    rw [foldl_cons, ih]
    by_cases hx : x.objectType = objectType
    · simp [counted, hx]
      omega
    · simp [counted, hx, Dict.get?_set, Ne.symm hx]

/-- The statistics count the visible objects of a type. -/
theorem stats_objectsByType (objectType : String) :
    (s.stats.objectsByType.get? objectType).getD 0 =
      ((s.visible false).filter (·.objectType = objectType)).length := by
  have h := get?_foldl_counted (s.visible false) {} objectType
  rw [Dict.get?_empty, Option.getD_none, zero_add] at h
  exact h

end ImmutableObjectStore

/-! ## Histories -/

/-- A store with all objects that it has taken in order, the ids that had a tombstone, those that
were deleted and those that were stored again after it. -/
structure StoreHistory where
  store : ImmutableObjectStore := {}
  bound : List RegistryObjectEnvelope := []
  tombstoned : Finset String := ∅
  deleted : Finset String := ∅
  restored : Finset String := ∅

/-- The calls that change a store. -/
inductive StoreCall where
  | put (x : RegistryObjectEnvelope)
  | tombstone (id : String)
  | delete (id : String)
  | applyRetention (currentEpoch : Int) (policy : RegistryRetentionPolicy) (apply : Bool)
      (limit : Option Int)

namespace StoreHistory

open ImmutableObjectStore

variable (h : StoreHistory)

def step (h : StoreHistory) : StoreCall → StoreHistory
  | .put x =>
    match h.store.put x with
    | .ok (true, s) => { h with
        store := s
        bound := h.bound ++ [x]
        restored := if x.objectId ∈ h.deleted then insert x.objectId h.restored else h.restored }
    | _ => h
  | .tombstone id =>
    match h.store.tombstone id with
    | (true, s) => { h with store := s, tombstoned := insert id h.tombstoned }
    | (false, _) => h
  | .delete id =>
    match h.store.delete id with
    | (true, s) => { h with store := s, deleted := insert id h.deleted }
    | (false, _) => h
  | .applyRetention currentEpoch policy apply limit =>
    match h.store.applyRetention currentEpoch policy apply limit with
    | .ok (_, s) => { h with store := s }
    | .error _ => h

/-- An object was not stored again after a hard delete. -/
def once (x : RegistryObjectEnvelope) : Bool := x.objectId ∉ h.restored

/-- The store in terms of the objects that it has taken. -/
structure Invariant : Prop where
  typeIndex : ∀ objectType, (h.store.typeIndex.get? objectType).getD [] =
    (h.bound.filter (·.objectType = objectType)).map (·.objectId)
  epochIndex : ∀ epoch, (h.store.epochIndex.get? epoch).getD [] =
    (h.bound.filter (·.createdEpoch = some epoch)).map (·.objectId)
  objects : ∀ id x, h.store.objects.get? id = some x → x.objectId = id ∧ x ∈ h.bound
  order : h.store.insertionOrder.filter (· ∉ h.restored) =
    (h.bound.filter fun x => h.once x && h.store.objects.contains x.objectId).map (·.objectId)
  nodup : ((h.bound.filter h.once).map (·.objectId)).Nodup
  gone : ∀ x ∈ h.bound, h.store.objects.get? x.objectId = none → x.objectId ∈ h.deleted
  deleted : ∀ id ∈ h.deleted, id ∉ h.restored → h.store.objects.get? id = none
  restored : h.restored ⊆ h.deleted
  tombstoned : ∀ id ∈ h.tombstoned, id ∈ h.store.tombstones ∨ id ∈ h.deleted

variable {h}

theorem get?_indexed {K : Type} [DecidableEq K] (index : Dict K (List String)) (key j : K)
    (id : String) : ((indexed index key id).get? j).getD [] =
      (index.get? j).getD [] ++ if key = j then [id] else [] := by
  unfold indexed
  by_cases hj : key = j
  · simp [hj]
  · simp [hj, Dict.get?_set, Ne.symm hj]

/-- An id that was never deleted is new when it has no object. -/
theorem Invariant.fresh (hinv : Invariant h) {id : String} (hdeleted : id ∉ h.deleted)
    (hnew : h.store.objects.get? id = none) : ∀ y ∈ h.bound, y.objectId ≠ id := by
  rintro y hy rfl
  exact hdeleted (hinv.gone y hy hnew)

section Put

variable {x : RegistryObjectEnvelope} (hnew : h.store.objects.get? x.objectId = none)

theorem contains_store (id : String) : (h.store.store x hnew).objects.contains id =
    (id = x.objectId || h.store.objects.contains id) := by
  simp only [ImmutableObjectStore.store, Dict.contains, Dict.get?_set]
  by_cases hid : id = x.objectId
  · simp [hid]
  · simp [hid]

def afterPut (h : StoreHistory) (x : RegistryObjectEnvelope)
    (hnew : h.store.objects.get? x.objectId = none) : StoreHistory :=
  { h with
    store := h.store.store x hnew
    bound := h.bound ++ [x]
    restored := if x.objectId ∈ h.deleted then insert x.objectId h.restored else h.restored }

theorem Invariant.order_put (hinv : Invariant h) :
    (afterPut h x hnew).store.insertionOrder.filter (· ∉ (afterPut h x hnew).restored) =
      ((afterPut h x hnew).bound.filter fun y => (afterPut h x hnew).once y &&
        (afterPut h x hnew).store.objects.contains y.objectId).map (·.objectId) := by
  simp only [afterPut, once, contains_store]
  rw [show (h.store.store x hnew).insertionOrder = h.store.insertionOrder ++ [x.objectId] from rfl,
    filter_append, filter_append, map_append]
  have hold := hinv.order
  simp only [once] at hold
  by_cases hdeleted : x.objectId ∈ h.deleted
  · -- an object that was deleted is stored again: it leaves both sides
    have hleft : h.store.insertionOrder.filter (· ∉ insert x.objectId h.restored) =
        (h.store.insertionOrder.filter (· ∉ h.restored)).filter (· ≠ x.objectId) := by
      rw [filter_filter]
      congr 1
      ext id
      simp [not_or]
    simp only [if_pos hdeleted, hleft, hold, filter_map, filter_filter]
    simp only [filter_cons, filter_nil, Finset.mem_insert_self, not_true_eq_false,
      decide_false, Bool.false_eq_true, if_false, append_nil, Bool.false_and, map_nil]
    congr 1
    apply filter_congr
    intro y _
    by_cases hy : y.objectId = x.objectId
    · simp [hy]
    · simp [hy]
  · have hfresh := hinv.fresh hdeleted hnew
    have hrestored : x.objectId ∉ h.restored := fun hmem => hdeleted (hinv.restored hmem)
    simp only [if_neg hdeleted, hold]
    congr 1
    · congr 1
      apply filter_congr
      intro y hy
      simp [hfresh y hy]
    · simp [hrestored]

theorem Invariant.nodup_put (hinv : Invariant h) :
    (((afterPut h x hnew).bound.filter (afterPut h x hnew).once).map (·.objectId)).Nodup := by
  have hold := hinv.nodup
  unfold once at hold ⊢
  simp only [afterPut]
  by_cases hdeleted : x.objectId ∈ h.deleted
  · simp only [if_pos hdeleted, filter_append]
    refine hold.sublist ?_
    rw [map_append]
    simp only [filter_cons, filter_nil, Finset.mem_insert_self, not_true_eq_false,
      decide_false, Bool.false_eq_true, if_false, map_nil, append_nil]
    apply List.Sublist.map
    apply monotone_filter_right
    intro y hy
    simp only [Finset.mem_insert, not_or, decide_eq_true_eq] at hy
    exact decide_eq_true hy.2
  · have hfresh := hinv.fresh hdeleted hnew
    simp only [if_neg hdeleted, filter_append, map_append, nodup_append]
    refine ⟨hold, ?_, ?_⟩
    · exact ((nodup_singleton x).filter _).map_on (by simp)
    · intro id hid j hj
      obtain ⟨y, hy, rfl⟩ := mem_map.mp hid
      obtain ⟨z, hz, rfl⟩ := mem_map.mp hj
      have hzx := mem_of_mem_filter hz
      rw [mem_singleton] at hzx
      subst hzx
      exact hfresh y (mem_of_mem_filter hy)

theorem Invariant.put (hinv : Invariant h) : Invariant (afterPut h x hnew) where
  order := hinv.order_put hnew
  nodup := hinv.nodup_put hnew
  typeIndex objectType := by
    simp only [afterPut, ImmutableObjectStore.store, get?_indexed, hinv.typeIndex,
      filter_append, map_append]
    by_cases ht : x.objectType = objectType
    · simp [ht]
    · simp [ht]
  epochIndex epoch := by
    have hold := hinv.epochIndex epoch
    cases he : x.createdEpoch with
    | none => simp [afterPut, ImmutableObjectStore.store, he, hold]
    | some created =>
      simp only [afterPut, ImmutableObjectStore.store, he, get?_indexed, hold, filter_append,
        map_append]
      by_cases hc : created = epoch
      · simp [hc, he]
      · simp [hc, he]
  objects id y hy := by
    simp only [afterPut, ImmutableObjectStore.store, Dict.get?_set] at hy ⊢
    split_ifs at hy with hid
    · cases hy
      exact ⟨hid.symm, by simp⟩
    · exact ⟨(hinv.objects id y hy).1, by simp [(hinv.objects id y hy).2]⟩
  gone y hy hnone := by
    simp only [afterPut, ImmutableObjectStore.store, Dict.get?_set] at hy hnone ⊢
    split_ifs at hnone with hid
    rw [mem_append, mem_singleton] at hy
    rcases hy with hy | rfl
    · exact hinv.gone y hy hnone
    · exact absurd rfl hid
  deleted id hid hrestored := by
    simp only [afterPut, ImmutableObjectStore.store, Dict.get?_set] at hid hrestored ⊢
    by_cases hx : id = x.objectId
    · rw [if_pos (hx ▸ hid), hx] at hrestored
      exact absurd (Finset.mem_insert_self _ _) hrestored
    · rw [if_neg hx]
      apply hinv.deleted id hid
      intro hmem
      apply hrestored
      split_ifs
      · exact Finset.mem_insert_of_mem hmem
      · exact hmem
  restored id hid := by
    simp only [afterPut] at hid ⊢
    split_ifs at hid with hdeleted
    · rcases Finset.mem_insert.mp hid with rfl | hid
      · exact hdeleted
      · exact hinv.restored hid
    · exact hinv.restored hid
  tombstoned := hinv.tombstoned

end Put

/-- A deletion takes the object of an id, and its tombstone. -/
theorem Invariant.delete (hinv : Invariant h) (id : String) :
    Invariant { h with store := h.store.erased id, deleted := insert id h.deleted } where
  typeIndex := hinv.typeIndex
  epochIndex := hinv.epochIndex
  objects j x hx := by
    simp only [erased, Dict.get?_erase] at hx
    split_ifs at hx
    exact hinv.objects j x hx
  order := by
    have hold := hinv.order
    simp only [erased, once] at hold ⊢
    rw [h.store.nodup.erase_eq_filter, filter_comm, hold, filter_map, filter_filter]
    congr 1
    apply filter_congr
    intro y _
    by_cases hy : y.objectId = id
    · simp [hy, Dict.contains, Dict.get?_erase]
    · simp [hy, Dict.contains, Dict.get?_erase]
  nodup := hinv.nodup
  gone y hy hnone := by
    simp only [erased, Dict.get?_erase] at hnone
    split_ifs at hnone with hid
    · exact Finset.mem_insert.mpr (.inl hid)
    · exact Finset.mem_insert_of_mem (hinv.gone y hy hnone)
  deleted j hj hrestored := by
    simp only [erased, Dict.get?_erase]
    split_ifs with hid
    · rfl
    · exact hinv.deleted j ((Finset.mem_insert.mp hj).resolve_left hid) hrestored
  restored := hinv.restored.trans (Finset.subset_insert _ _)
  tombstoned j hj := by
    by_cases hid : j = id
    · exact .inr (Finset.mem_insert.mpr (.inl hid))
    · rcases hinv.tombstoned j hj with htomb | hdeleted
      · exact .inl (Finset.mem_erase.mpr ⟨hid, htomb⟩)
      · exact .inr (Finset.mem_insert_of_mem hdeleted)

theorem Invariant.tombstone (hinv : Invariant h) (id : String) :
    Invariant { h with
      store := { h.store with tombstones := insert id h.store.tombstones }
      tombstoned := insert id h.tombstoned } where
  typeIndex := hinv.typeIndex
  epochIndex := hinv.epochIndex
  objects := hinv.objects
  order := hinv.order
  nodup := hinv.nodup
  gone := hinv.gone
  deleted := hinv.deleted
  restored := hinv.restored
  tombstoned j hj := by
    rcases Finset.mem_insert.mp hj with rfl | hj
    · exact .inl (Finset.mem_insert_self _ _)
    · exact (hinv.tombstoned j hj).imp_left Finset.mem_insert_of_mem

theorem Invariant.step (hinv : Invariant h) (call : StoreCall) : Invariant (h.step call) := by
  cases call with
  | put x =>
    simp only [StoreHistory.step]
    split
    · next s hput =>
      obtain ⟨hfalse, -⟩ | ⟨-, -, hnew, rfl⟩ := put_cases hput
      · cases hfalse
      · exact hinv.put hnew
    · exact hinv
  | tombstone id =>
    simp only [StoreHistory.step, ImmutableObjectStore.tombstone]
    cases h.store.objects.contains id with
    | true => exact hinv.tombstone id
    | false => exact hinv
  | delete id =>
    simp only [StoreHistory.step, ImmutableObjectStore.delete]
    cases h.store.objects.contains id with
    | true => exact hinv.delete id
    | false => exact hinv
  | applyRetention currentEpoch policy apply limit =>
    simp only [StoreHistory.step]
    split
    · next report s hretention =>
      have hkept := applyRetention_spec hretention
      constructor <;> simp only [once, hkept.objects, hkept.typeIndex, hkept.epochIndex,
        hkept.insertionOrder, hkept.tombstones]
      · exact hinv.typeIndex
      · exact hinv.epochIndex
      · exact hinv.objects
      · exact hinv.order
      · exact hinv.nodup
      · exact hinv.gone
      · exact hinv.deleted
      · exact hinv.restored
      · exact hinv.tombstoned
    · exact hinv

theorem invariant_run (calls : List StoreCall) : Invariant (run StoreHistory.step {} calls) := by
  apply run_invariant (I := Invariant) fun h call hinv => hinv.step call
  constructor <;> simp

/-! ## Lists and views -/

/-- An id is bound to one object. -/
theorem Invariant.unique (hinv : Invariant h) {x y : RegistryObjectEnvelope} (hx : x ∈ h.bound)
    (hy : y ∈ h.bound) (hid : x.objectId = y.objectId) (honce : x.objectId ∉ h.restored) :
    x = y := by
  apply inj_on_of_nodup_map hinv.nodup
  · simp [hx, once, honce]
  · simp [hy, once, ← hid, honce]
  · exact hid

/-- A list over an index is the visible objects with its key, as far as they were stored once. -/
theorem Invariant.listed (hinv : Invariant h) {p : RegistryObjectEnvelope → Bool}
    {ids : List String} (hids : ids = (h.bound.filter p).map (·.objectId)) (includeExpired : Bool) :
    ((ids.filter (h.store.shown false includeExpired)).filterMap h.store.objects.get?).filter
        h.once =
      (h.store.visible includeExpired).filter fun x => p x && h.once x := by
  have hname : ∀ id, (h.store.objects.get? id).filter (fun x => p x && h.once x) =
      if id ∉ h.restored then (h.store.objects.get? id).filter p else none := by
    intro id
    cases hid : h.store.objects.get? id with
    | none => simp
    | some x =>
      have hx := (hinv.objects id x hid).1
      rw [Option.filter_some, Option.filter_some]
      by_cases hr : id ∈ h.restored
      · simp [once, hx, hr]
      · simp [once, hx, hr]
  have hright : (h.store.visible includeExpired).filter (fun x => p x && h.once x) =
      (h.store.insertionOrder.filter (· ∉ h.restored)).filterMap fun id =>
        if h.store.shown false includeExpired id then (h.store.objects.get? id).filter p
        else none := by
    rw [visible, allIds, filter_filterMap, filterMap_filter, filterMap_filter]
    congr 1
    ext1 id
    rw [hname, shown, Bool.false_or]
    by_cases hr : id ∈ h.restored
    · simp [hr]
    · simp [hr]
  rw [hright, hinv.order, hids, filter_filterMap, filterMap_filter, filterMap_map,
    filterMap_filter, filterMap_map, filterMap_filter]
  apply filterMap_congr
  intro y hy
  simp only [Function.comp]
  cases hget : h.store.objects.get? y.objectId with
  | none => simp
  | some x =>
    obtain ⟨hid, hx⟩ := hinv.objects y.objectId x hget
    rw [Option.filter_some, Option.filter_some]
    by_cases hr : y.objectId ∈ h.restored
    · simp [once, hid, hr]
    · have hxy : x = y := hinv.unique hx hy hid (hid ▸ hr)
      subst hxy
      simp only [once, hr, not_false_eq_true, decide_true, Dict.contains, hget, Option.isSome_some,
        Bool.and_true, if_true]
      by_cases hp : p x = true
      · simp [hp]
      · simp [hp]

/-- What the views say of each other, and of what was called before. -/
structure ViewsAgree (h : StoreHistory) : Prop where
  hasGet : ∀ id includeExpired,
    h.store.has id includeExpired = (h.store.get id includeExpired).isSome
  allIds : ∀ includeExpired, (h.store.allIds includeExpired).Nodup ∧
    ∀ id, id ∈ h.store.allIds includeExpired ↔ h.store.has id includeExpired = true
  byType : ∀ objectType includeExpired,
    (h.store.listByType objectType false includeExpired).filter h.once =
      (h.store.visible includeExpired).filter fun x => x.objectType = objectType && h.once x
  byEpoch : ∀ epoch includeExpired,
    (h.store.listByEpoch epoch false includeExpired).filter h.once =
      (h.store.visible includeExpired).filter fun x => x.createdEpoch = some epoch && h.once x
  total : h.store.stats.totalObjects = h.store.allIds.length
  counts : ∀ objectType, (h.store.stats.objectsByType.get? objectType).getD 0 =
    ((h.store.visible false).filter (·.objectType = objectType)).length
  listed : h.restored = ∅ → ∀ objectType,
    (h.store.stats.objectsByType.get? objectType).getD 0 = (h.store.listByType objectType).length
  tombstoned : ∀ id ∈ h.tombstoned, id ∉ h.restored → h.store.has id true = false
  refused : ∀ x : RegistryObjectEnvelope, x.objectId ∈ h.tombstoned → x.objectId ∉ h.deleted →
    ∀ answer, h.store.put x = .ok answer → answer = (false, h.store)
  bound : ∀ x ∈ h.bound, ∀ y ∈ h.bound, x.objectId = y.objectId → x.objectId ∉ h.restored → x = y
  retention : ∀ currentEpoch policy apply limit report s,
    h.store.applyRetention currentEpoch policy apply limit = .ok (report, s) →
      Retained h.store apply limit report s

/-- The views agree after any calls. -/
theorem views_agree (calls : List StoreCall) : ViewsAgree (run step {} calls) := by
  have hinv := invariant_run calls
  generalize run step {} calls = h at hinv
  have hbyType : ∀ objectType includeExpired,
      (h.store.listByType objectType false includeExpired).filter h.once =
        (h.store.visible includeExpired).filter
          fun x => x.objectType = objectType && h.once x := by
    intro objectType includeExpired
    rw [listByType, collect_none, List.nil_append]
    exact hinv.listed (hinv.typeIndex objectType) includeExpired
  constructor
  · exact has_eq_isSome_get
  · exact fun includeExpired => ⟨nodup_allIds includeExpired, fun id => mem_allIds⟩
  · exact hbyType
  · intro epoch includeExpired
    rw [listByEpoch, collect_none, List.nil_append]
    exact hinv.listed (hinv.epochIndex epoch) includeExpired
  · rfl
  · exact stats_objectsByType
  · intro hnone objectType
    have hall := hbyType objectType false
    have honce : h.once = fun _ => true := by
      ext1 x
      simp [once, hnone]
    simp only [honce, Bool.and_true, List.filter_true] at hall
    rw [stats_objectsByType, hall]
  · intro id hid hrestored
    rcases hinv.tombstoned id hid with htomb | hdeleted
    · simp [has, htomb]
    · simp [has, Dict.contains, hinv.deleted id hdeleted hrestored]
  · intro x hx hdeleted answer hput
    exact put_of_tombstone ((hinv.tombstoned _ hx).resolve_right hdeleted) hput
  · exact fun x hx y hy hid honce => hinv.unique hx hy hid honce
  · exact fun currentEpoch policy apply limit report s hs => applyRetention_spec hs

/-! ## An object that comes back -/

def emptyObject (objectType : String) : RegistryObjectEnvelope where
  objectId := "o"
  objectType := objectType
  contentHash := "44136fa355b3678a1146ad16f7e8649e94fb4fc21fe77e8310c060f61caaff8a"
  contentSize := 2

def storedAgain : StoreHistory :=
  run step {} [.put (emptyObject "t"), .tombstone "o", .delete "o", .put (emptyObject "t")]

def storedOther : StoreHistory :=
  run step {} [.put (emptyObject "t"), .delete "o", .put (emptyObject "u")]

/-- The object with a tombstone is visible and listed twice, and an id has two objects. -/
theorem comes_back :
    "o" ∈ storedAgain.tombstoned ∧ storedAgain.store.has "o" = true ∧
      storedAgain.store.allIds = ["o"] ∧ (storedAgain.store.listByType "t").length = 2 ∧
      storedOther.bound.map (·.objectId) = ["o", "o"] ∧
      storedOther.bound.map (·.objectType) = ["t", "u"] := by
  decide +kernel

end StoreHistory

end AidnSpec.Registry
