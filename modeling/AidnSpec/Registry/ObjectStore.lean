import AidnSpec.Registry.ObjectEnvelope
import Mathlib.Data.Finset.Basic
import Mathlib.Data.Finset.Dedup
import Mathlib.Data.List.ReduceOption

/-!
# Object store

`registry/retention.py:40–134` and `registry/storage.py:10–255`: the retention policy and the store
of immutable objects with its two indexes.
-/

namespace AidnSpec.Registry

open Base

/-- `RegistryRetentionPolicy`: its durations are those of retention classes and not negative. -/
structure RegistryRetentionPolicy where
  policyVersion : String := "registry-retention.v1"
  defaultRetentionClass : RegistryRetentionClass := .activeLifecycle
  expirationEpochsByClass : Dict String (Option Int) := .empty
  namespaceOverrides : Dict String RegistryRetentionClass := .empty
  objectTypeOverrides : Dict String RegistryRetentionClass := .empty
  policyHash : String
  durations : ∀ e ∈ expirationEpochsByClass.entries,
    (RegistryRetentionClass.ofText e.1).isSome = true ∧ ∀ duration ∈ e.2, 0 ≤ duration

namespace RegistryRetentionPolicy

variable (policy : RegistryRetentionPolicy)

def retentionClassFor (nameSpace objectType : Option String)
    (retentionClass : Option RegistryRetentionClass) : RegistryRetentionClass :=
  let override (overrides : Dict String RegistryRetentionClass) (key : Option String) :=
    key.bind fun k => if k.isEmpty then none else overrides.get? k
  (retentionClass <|> override policy.objectTypeOverrides objectType <|>
    override policy.namespaceOverrides nameSpace).getD policy.defaultRetentionClass

def expirationEpochFor (createdEpoch : Option Int) (nameSpace objectType : Option String)
    (retentionClass : Option RegistryRetentionClass) (explicitExpirationEpoch : Option Int) :
    Except PyError (Option Int) :=
  match explicitExpirationEpoch, createdEpoch with
  | some expiration, some created =>
    if expiration < created then raiseValue "expiration_epoch cannot precede created_epoch"
    else .ok (some expiration)
  | some expiration, none => .ok (some expiration)
  | none, none => .ok none
  | none, some created =>
    match policy.expirationEpochsByClass.get?
        (policy.retentionClassFor nameSpace objectType retentionClass).toText with
    | some (some duration) =>
      if duration < 0 then raiseValue "retention duration cannot be negative"
      else .ok (some (created + duration))
    | _ => .ok none

def isExpired (currentEpoch : Int) (expirationEpoch : Option Int) : Bool :=
  expirationEpoch.any (· ≤ currentEpoch)

end RegistryRetentionPolicy

structure StorageStats where
  totalObjects : ℕ := 0
  totalBytes : Int := 0
  objectsByType : Dict String ℕ := .empty
  earliestEpoch : Option Int := none
  latestEpoch : Option Int := none

/-- `ImmutableObjectStore`: every object is listed once in the insertion order. -/
structure ImmutableObjectStore where
  objects : Dict String RegistryObjectEnvelope := .empty
  typeIndex : Dict String (List String) := .empty
  epochIndex : Dict Int (List String) := .empty
  insertionOrder : List String := []
  tombstones : Finset String := ∅
  expired : Finset String := ∅
  nodup : insertionOrder.Nodup := by exact List.nodup_nil
  ordered : ∀ id, id ∈ insertionOrder ↔ (objects.get? id).isSome := by simp

/-- The answer of `apply_retention`. -/
structure RetentionReport where
  currentEpoch : Int
  policyHash : String
  applied : Bool
  expiredCount : ℕ
  newlyExpiredCount : ℕ
  expiredIds : List String
  expirationEpochs : List (String × Option Int)

namespace ImmutableObjectStore

variable (s : ImmutableObjectStore)

/-- `index[key].append(id)` on a dictionary of lists. -/
def indexed {K : Type} [DecidableEq K] (index : Dict K (List String)) (key : K) (id : String) :
    Dict K (List String) :=
  index.set key ((index.get? key).getD [] ++ [id])

/-- A new object at the end of the order and of its lists. -/
def store (x : RegistryObjectEnvelope) (h : s.objects.get? x.objectId = none) :
    ImmutableObjectStore :=
  { s with
    objects := s.objects.set x.objectId x
    typeIndex := indexed s.typeIndex x.objectType x.objectId
    epochIndex := match x.createdEpoch with
      | none => s.epochIndex
      | some epoch => indexed s.epochIndex epoch x.objectId
    insertionOrder := s.insertionOrder ++ [x.objectId]
    nodup := by
      have hnew : x.objectId ∉ s.insertionOrder := by simp [s.ordered, h]
      simpa [List.nodup_append, s.nodup] using fun id hid (heq : id = x.objectId) =>
        hnew (heq ▸ hid)
    ordered := by
      intro id
      rw [Dict.get?_set, List.mem_append, List.mem_singleton, s.ordered]
      by_cases hid : id = x.objectId
      · simp [hid]
      · simp [hid] }

def put (x : RegistryObjectEnvelope) : Except PyError (Bool × ImmutableObjectStore) := do
  let valid ← x.verifyIntegrity
  require valid "Registry object envelope integrity check failed"
  return match h : s.objects.get? x.objectId with
    | some _ => (false, s)
    | none => if x.objectId ∈ s.tombstones then (false, s) else (true, s.store x h)

def get (id : String) (includeExpired : Bool := false) : Option RegistryObjectEnvelope :=
  if id ∈ s.tombstones ∨ id ∈ s.expired ∧ includeExpired = false then none else s.objects.get? id

/-- The loop of a list: objects are appended until the limit is reached. -/
def collect (limit : Option Int) (result : List RegistryObjectEnvelope) :
    List String → List RegistryObjectEnvelope
  | [] => result
  | id :: ids =>
    let result := result ++ (s.objects.get? id).toList
    if limit.any fun bound => bound ≠ 0 ∧ bound ≤ (result.length : Int) then result
    else collect limit result ids

def shown (includeTombstoned includeExpired : Bool) (id : String) : Bool :=
  (includeTombstoned || id ∉ s.tombstones) && (includeExpired || id ∉ s.expired)

def listByType (objectType : String) (includeTombstoned includeExpired : Bool := false)
    (limit : Option Int := none) : List RegistryObjectEnvelope :=
  s.collect limit [] (((s.typeIndex.get? objectType).getD []).filter
    (s.shown includeTombstoned includeExpired))

def listByEpoch (epoch : Int) (includeTombstoned includeExpired : Bool := false) :
    List RegistryObjectEnvelope :=
  s.collect none [] (((s.epochIndex.get? epoch).getD []).filter
    (s.shown includeTombstoned includeExpired))

def has (id : String) (includeExpired : Bool := false) : Bool :=
  s.objects.contains id && id ∉ s.tombstones && (includeExpired || id ∉ s.expired)

def tombstone (id : String) : Bool × ImmutableObjectStore :=
  if s.objects.contains id then (true, { s with tombstones := insert id s.tombstones })
  else (false, s)

/-- What `delete` leaves; the indexes keep the id. -/
def erased (id : String) : ImmutableObjectStore :=
  { s with
    objects := s.objects.erase id
    tombstones := s.tombstones.erase id
    expired := s.expired.erase id
    insertionOrder := s.insertionOrder.erase id
    nodup := s.nodup.erase id
    ordered := by
      intro j
      rw [s.nodup.mem_erase_iff, Dict.get?_erase, s.ordered]
      by_cases hj : j = id
      · simp [hj]
      · simp [hj] }

def delete (id : String) : Bool × ImmutableObjectStore :=
  if s.objects.contains id then (true, s.erased id) else (false, s)

def allIds (includeExpired : Bool := false) : List String :=
  s.insertionOrder.filter fun id => id ∉ s.tombstones && (includeExpired || id ∉ s.expired)

def counted (stats : StorageStats) (x : RegistryObjectEnvelope) : StorageStats :=
  { stats with
    totalBytes := stats.totalBytes + x.contentSize
    objectsByType := stats.objectsByType.set x.objectType
      ((stats.objectsByType.get? x.objectType).getD 0 + 1) }

def stats : StorageStats :=
  let objects := s.allIds.filterMap s.objects.get?
  let epochs := objects.filterMap (·.createdEpoch)
  { objects.foldl counted {} with
    totalObjects := s.allIds.length
    earliestEpoch := epochs.min?
    latestEpoch := epochs.max? }

/-- The expiration of an object of the order, when it has passed. -/
def candidate (currentEpoch : Int) (policy : RegistryRetentionPolicy) (id : String) :
    Except PyError (Option (String × Option Int)) :=
  match s.objects.get? id with
  | none => .error ⟨.key, id⟩
  | some x => do
    let expiration ← policy.expirationEpochFor x.createdEpoch none none (some x.retentionClass)
      (x.expirationEpoch.map Int.ofNat)
    return if RegistryRetentionPolicy.isExpired currentEpoch expiration then some (id, expiration)
      else none

def applyRetention (currentEpoch : Int) (policy : RegistryRetentionPolicy) (apply : Bool := true)
    (limit : Option Int := none) : Except PyError (RetentionReport × ImmutableObjectStore) := do
  let found ← (s.insertionOrder.filter (· ∉ s.tombstones)).mapM (s.candidate currentEpoch policy)
  let candidates := match limit with
    | none => found.reduceOption
    | some bound => found.reduceOption.take bound.toNat
  let expiredIds := candidates.map (·.1)
  let report := {
    currentEpoch := currentEpoch
    policyHash := policy.policyHash
    applied := apply
    expiredCount := expiredIds.length
    newlyExpiredCount := (expiredIds.filter (· ∉ s.expired)).length
    expiredIds := expiredIds
    expirationEpochs := candidates }
  return (report, if apply then { s with expired := s.expired ∪ expiredIds.toFinset } else s)

end ImmutableObjectStore

end AidnSpec.Registry
