import AidnSpec.Snapshot.ProducedSnapshots
import AidnSpec.Snapshot.Staging

/-!
# The restored state

What an encoded state is restored to: its namespaces with their members in order, absent ones as
empty objects. It has the hash of the state and is the same value, and its references are valid when
those of the state resolve.
-/

namespace AidnSpec.Snapshot

open Base List

/-! ## Restoration -/

/-- What is restored of a state: its namespaces in the order in which they are loaded, absent ones
as empty objects. -/
def stagedState (state : Fields) : StagingStateStore where
  namespaces := loadOrder.map fun ns => (ns, orderedNamespace state ns)

theorem mem_loadOrder {ns : String} : ns ∈ loadOrder ↔ ns ∈ stateNamespaces := by
  have hall : (loadOrder.all (stateNamespaces.contains ·) &&
      stateNamespaces.all (loadOrder.contains ·)) = true := by decide
  simp only [Bool.and_eq_true, all_eq_true, contains_iff_mem] at hall
  exact ⟨hall.1 ns, hall.2 ns⟩

theorem getNamespace_stagedState {state : Fields} {ns : String} (h : ns ∈ stateNamespaces) :
    (stagedState state).getNamespace ns = some (orderedNamespace state ns) :=
  lookup_map_name (mem_loadOrder.mpr h)

/-- Every namespace of an encoded state is loaded. -/
theorem loadNamespaces_orderedState (state : Fields) :
    loadNamespaces (.dict (orderedState state)) = .ok (stagedState state) := by
  have hfold : ∀ (names : List String) (before : Fields),
      (∀ ns ∈ names, ns ∈ stateNamespaces) → (before.map Prod.fst ++ names).Nodup →
      names.foldlM (loadFrom (.dict (orderedState state))) ⟨before⟩ =
        .ok ⟨before ++ names.map fun ns => (ns, orderedNamespace state ns)⟩ := by
    intro names
    induction names with
    | nil =>
      intro before _ _
      rw [map_nil, append_nil]
      rfl
    | cons ns names ih =>
      intro before hnames hnodup
      have hlookup : (orderedState state).lookup ns = some (orderedNamespace state ns) := by
        rw [orderedState_eq]
        exact lookup_map_name (hnames ns mem_cons_self)
      have hfresh : ns ∉ before.map Prod.fst := fun hmem =>
        (nodup_append.mp hnodup).2.2 ns hmem ns mem_cons_self rfl
      have hload : loadFrom (.dict (orderedState state)) ⟨before⟩ ns =
          .ok ⟨before ++ [(ns, orderedNamespace state ns)]⟩ := by
        simp only [loadFrom, containsName, itemAt, hlookup, Option.isSome_some]
        exact congrArg (fun members => Except.ok (StagingStateStore.mk members))
          (put_of_not_mem hfresh)
      rw [foldlM_cons, hload]
      refine (ih (before ++ [(ns, orderedNamespace state ns)])
        (fun n hn => hnames n (mem_cons_of_mem ns hn)) ?_).trans ?_
      · rwa [map_append, append_assoc]
      · rw [append_assoc]
        rfl
  exact hfold loadOrder [] (fun ns hns => mem_loadOrder.mp hns) (by decide)

section Restored

variable [FloatReader]

/-- The restored state has the hash of the state. -/
theorem calculateStateHash_stagedState {state : Fields} {encoded : Bytes}
    (wellFormed : (PyValue.dict state).WellFormed) (h : encode state = .ok encoded) :
    (stagedState state).calculateStateHash = .ok (hexDigest encoded) := by
  refine computeContentHash_eq_ok.mpr ⟨encoded, encode_of_lookup wellFormed h
    (unknownNamespaces_eq_nil fun key hkey => ?_) fun ns hns => getNamespace_stagedState hns, rfl⟩
  rw [stagedState, map_map] at hkey
  obtain ⟨ns, hns, rfl⟩ := mem_map.mp hkey
  exact mem_loadOrder.mp hns

variable [Conversions]

/-- An encoded state is restored when its references are valid, and refused otherwise. -/
theorem restore_encoded {state : Fields} {encoded : Bytes}
    (wellFormed : (PyValue.dict state).WellFormed) (h : encode state = .ok encoded)
    (references : validateReferences (stagedState state) = .ok ()) :
    ∃ restoration, restore encoded = .ok (restoration, stagedState state) ∧
      restoration.applicationStateHash = hexDigest encoded := by
  obtain ⟨rest, hrest⟩ := exists_cons_of_encode h
  have hblank : ¬ isBlankBytes encoded = true := by
    rw [hrest, isBlankBytes, all_cons]
    simp
  obtain ⟨-, hdump, hencoded⟩ := encode_eq_ok.mp h
  have hdecoded : decode encoded = .ok (.dict (orderedState state)) :=
    hencoded ▸ decode_plainBytes (wellFormed_orderedState wellFormed) hdump
  have hrestored : ∃ restoration, restoreDecoded (.dict (orderedState state)) =
      .ok (restoration, stagedState state) ∧
        restoration.applicationStateHash = hexDigest encoded := by
    simp only [restoreDecoded, loadNamespaces_orderedState, references,
      calculateStateHash_stagedState wellFormed h, bind, Except.bind, pure, Except.pure]
    exact ⟨_, rfl, rfl⟩
  obtain ⟨restoration, hrestoration, hhash⟩ := hrestored
  refine ⟨restoration, ?_, hhash⟩
  rw [restore, if_neg hblank, hdecoded]
  simp only [hrestoration]

end Restored

/-! ## Namespaces -/

/-- A namespace of a state, an empty object when it is absent. -/
def namespaceOf (state : Fields) (ns : String) : PyValue := (state.lookup ns).getD (.dict [])

/-- A state with absent namespaces as empty objects. -/
def completed (state : Fields) : Fields := loadOrder.map fun ns => (ns, namespaceOf state ns)

theorem orderedNamespace_eq (state : Fields) (ns : String) :
    orderedNamespace state ns = (namespaceOf state ns).sorted := by
  rw [orderedNamespace, namespaceOf]
  cases state.lookup ns with
  | none => rw [Option.getD_none, PyValue.sorted_dict, mergeSort_nil, map_nil]
  | some value => rfl

section Namespaces

variable [FloatReader] {state : Fields}

theorem wellFormed_namespaceOf (wellFormed : (PyValue.dict state).WellFormed) (ns : String) :
    (namespaceOf state ns).WellFormed := by
  rw [namespaceOf]
  cases hlookup : state.lookup ns with
  | none => exact .dict nodup_nil fun m hm => by cases hm
  | some value =>
    cases wellFormed with
    | dict _ hmembers =>
      exact hmembers (ns, value) (mem_of_lookup hlookup)

/-- The restored state is the state, absent namespaces as empty objects. -/
theorem eqv_stagedState (wellFormed : (PyValue.dict state).WellFormed) :
    (PyValue.dict (stagedState state).namespaces).eqv (.dict (completed state)) = true := by
  have hsorted : (stagedState state).namespaces =
      (completed state).map fun member => (member.1, member.2.sorted) := by
    rw [stagedState, completed, map_map]
    exact map_congr_left fun ns _ => congrArg (Prod.mk ns) (orderedNamespace_eq state ns)
  rw [hsorted, PyValue.eqv, length_map, beq_self_eq_true, Bool.true_and]
  refine eqvMembers_map fun member hmember => ?_
  obtain ⟨ns, hns, rfl⟩ := mem_map.mp hmember
  exact ⟨lookup_map_name hns, PyValue.eqv_sorted (wellFormed_namespaceOf wellFormed ns)⟩

end Namespaces

/-! ## References -/

/-- The reference of a record, when it has one, names one of the identifiers. -/
def Resolves (ids : List String) (field : String) (record : PyValue) : Prop :=
  ∀ value, (membersOf record).lookup field = some value → ∃ id ∈ ids, value = .str id

/-- The wallets that hypervisors and stakes reference and the hypervisors that services reference
are among the records of the objects `wallets` and `hypervisors`. -/
structure ReferencesResolve (state : Fields) : Prop where
  hypervisors : ∀ record ∈ membersOf (namespaceOf state "hypervisors"),
    Resolves (recordIds (namespaceOf state "wallets")) "wallet" record.2
  services : ∀ record ∈ membersOf (namespaceOf state "services"),
    Resolves (recordIds (namespaceOf state "hypervisors")) "hypervisor" record.2
  stakes : ∀ items, namespaceOf state "stakes" = .list items → ∀ stake ∈ items,
    Resolves (recordIds (namespaceOf state "wallets")) "wallet" stake

theorem orElse_eq_or (value default : PyValue) :
    value.orElse default = value ∨ value.orElse default = default := by
  rw [PyValue.orElse]
  split_ifs
  · exact .inl rfl
  · exact .inr rfl

/-- An empty default has no members, like all that is replaced by it. -/
theorem membersOf_orElse (value : PyValue) :
    membersOf (value.orElse (.dict [])) = membersOf value := by
  rw [PyValue.orElse]
  split_ifs with htrue
  · rfl
  · cases value with
    | dict members =>
      cases members with
      | nil => rfl
      | cons member members => exact absurd rfl htrue
    | _ => rfl

theorem membersOf_sorted (value : PyValue) : membersOf value.sorted =
    ((membersOf value).mergeSort fun a b => a.1 ≤ b.1).map fun m => (m.1, m.2.sorted) := by
  cases value with
  | dict members => rw [PyValue.sorted_dict]; rfl
  | _ => simp [PyValue.sorted, membersOf]

theorem mem_recordIds_sorted {value : PyValue} {id : String} :
    id ∈ recordIds value.sorted ↔ id ∈ recordIds value := by
  rw [recordIds, membersOf_sorted, map_map]
  exact ((mergeSort_perm (membersOf value) _).map Prod.fst).mem_iff

theorem mem_membersOf_sorted {value : PyValue} {record : String × PyValue}
    (h : record ∈ membersOf value.sorted) :
    ∃ original ∈ membersOf value, record = (original.1, original.2.sorted) := by
  rw [membersOf_sorted] at h
  obtain ⟨original, hmem, rfl⟩ := mem_map.mp h
  exact ⟨original, mem_mergeSort.mp hmem, rfl⟩

theorem recordIds_orElse (value : PyValue) :
    recordIds (value.orElse (.dict [])) = recordIds value := by
  rw [recordIds, membersOf_orElse, recordIds]

theorem forM_eq_ok {α : Type} {f : α → Except PyError Unit} {xs : List α}
    (h : ∀ x ∈ xs, f x = .ok ()) : xs.forM f = .ok () := by
  induction xs with
  | nil => rfl
  | cons x xs ih =>
    have hbind : (f x >>= fun _ => xs.forM f) = .ok () :=
      bind_eq_ok.mpr ⟨(), h x mem_cons_self, ih fun y hy => h y (mem_cons_of_mem x hy)⟩
    exact hbind

variable [Conversions] [FloatReader] {records targets : PyValue} {field : String}

/-- A reference that resolves is found in the sorted records too. -/
theorem checkReference_sorted {record : PyValue} (wellFormed : record.WellFormed)
    (h : Resolves (recordIds targets) field record) (complaint : String) :
    checkReference (recordIds (targets.sorted.orElse (.dict []))) field complaint record.sorted =
      .ok () := by
  rw [recordIds_orElse]
  cases wellFormed with
  | @dict members hkeys hmembers =>
    rw [PyValue.sorted_dict, checkReference, lookup_sorted hkeys]
    cases hlookup : members.lookup field with
    | none => rfl
    | some value =>
      obtain ⟨id, hid, rfl⟩ := h value hlookup
      have hknown : (recordIds targets.sorted).contains id = true :=
        contains_iff_mem.mpr (mem_recordIds_sorted.mpr hid)
      simp only [Option.map_some, PyValue.sorted, requireKnown, hknown]
      rfl
  | list _ => rw [PyValue.sorted]; rfl
  | _ => rfl

/-- The references of the records of an object. -/
theorem checkReferences_object (wellFormed : records.WellFormed)
    (h : ∀ record ∈ membersOf records, Resolves (recordIds targets) field record.2)
    (complaint : String × PyValue → String) :
    (membersOf (records.sorted.orElse (.dict []))).forM (fun record =>
      checkReference (recordIds (targets.sorted.orElse (.dict []))) field (complaint record)
        record.2) = .ok () := by
  refine forM_eq_ok fun record hrecord => ?_
  rw [membersOf_orElse] at hrecord
  obtain ⟨original, hmem, rfl⟩ := mem_membersOf_sorted hrecord
  refine checkReference_sorted ?_ (h original hmem) _
  cases wellFormed with
  | dict _ hmembers => exact hmembers original hmem
  | _ => cases hmem

/-- The references of the records of a list. -/
theorem checkReferences_list {items : List PyValue} (wellFormed : (PyValue.list items).WellFormed)
    (h : ∀ item ∈ items, Resolves (recordIds targets) field item) (complaint : String) :
    (items.map PyValue.sorted).forM (checkReference
      (recordIds (targets.sorted.orElse (.dict []))) field complaint) = .ok () := by
  refine forM_eq_ok fun record hrecord => ?_
  obtain ⟨item, hitem, rfl⟩ := mem_map.mp hrecord
  cases wellFormed with
  | list hitems => exact checkReference_sorted (hitems item hitem) (h item hitem) complaint

/-- References that resolve are valid in the restored state. -/
theorem validateReferences_stagedState {state : Fields}
    (wellFormed : (PyValue.dict state).WellFormed) (h : ReferencesResolve state) :
    validateReferences (stagedState state) = .ok () := by
  have hnamespace : ∀ ns ∈ stateNamespaces, ∀ default, namespaceOr (stagedState state) ns default =
      (namespaceOf state ns).sorted.orElse default := by
    intro ns hns default
    rw [namespaceOr, getNamespace_stagedState hns, Option.getD_some, orderedNamespace_eq]
  have hstakes := wellFormed_namespaceOf wellFormed "stakes"
  simp only [validateReferences, hnamespace "wallets" (by decide),
    hnamespace "hypervisors" (by decide), hnamespace "services" (by decide),
    hnamespace "stakes" (by decide)]
  refine bind_eq_ok.mpr ⟨(), checkReferences_object (wellFormed_namespaceOf wellFormed _)
    h.hypervisors fun record => s!"Hypervisor {record.1} references missing wallet",
    bind_eq_ok.mpr ⟨(), checkReferences_object (wellFormed_namespaceOf wellFormed _) h.services
      fun record => s!"Service {record.1} references missing hypervisor", ?_⟩⟩
  cases hvalue : namespaceOf state "stakes" with
  | list items =>
    rw [hvalue] at hstakes
    have hlist : (PyValue.list items).sorted.orElse (.list []) =
        .list (items.map PyValue.sorted) := by
      rw [PyValue.sorted, PyValue.sortedItems_eq, PyValue.orElse]
      split_ifs with htrue
      · rfl
      · cases items with
        | nil => rfl
        | cons item items => exact absurd rfl htrue
    rw [hlist]
    exact checkReferences_list hstakes (h.stakes items hvalue) "Stake references missing wallet"
  | _ =>
    simp only [PyValue.sorted]
    rcases orElse_eq_or _ (.list []) with horElse | horElse
    · rw [horElse]
      rfl
    · rw [horElse]
      rfl

end AidnSpec.Snapshot
