import AidnSpec.Base.Conversions
import AidnSpec.Snapshot.Activation
import Mathlib.Data.List.Infix

/-!
# Restoring a state

`snapshot/staging.py`: encoded content is decoded and the namespaces it has are loaded into an empty
staging store. What the content has besides is ignored, so content that is no canonical encoding can
be restored too.
-/

namespace AidnSpec.Snapshot

open Base

/-- `RestorationResult` of a restoration that succeeded. -/
structure RestorationResult where
  namespacesLoaded : List String
  totalObjects : ℕ
  applicationStateHash : String

namespace StagingStateStore

def loadNamespace (s : StagingStateStore) (ns : String) (data : PyValue) : StagingStateStore :=
  ⟨Dict.put ns data s.namespaces⟩

def getNamespace (s : StagingStateStore) (ns : String) : Option PyValue := s.namespaces.lookup ns

def countObjects : PyValue → ℕ
  | .dict members => members.length
  | .list items => items.length
  | _ => 1

/-- `StagingStateStore.get_state_summary`: the total number of objects. -/
def totalObjects (s : StagingStateStore) : ℕ :=
  (s.namespaces.map fun member => countObjects member.2).sum

end StagingStateStore

/-- `namespace in decoded`. -/
def containsName (decoded : PyValue) (ns : String) : Except PyError Bool :=
  match decoded with
  | .dict members => .ok (members.lookup ns).isSome
  | .list items => .ok (items.any fun item => item.eqv (.str ns))
  | .str text => .ok (decide (ns.toList <:+: text.toList))
  | _ => raiseType "argument is not iterable"

/-- `decoded[namespace]`. -/
def itemAt (decoded : PyValue) (ns : String) : Except PyError PyValue :=
  match decoded with
  | .dict members =>
    match members.lookup ns with
    | some value => .ok value
    | none => .error ⟨.key, ns⟩
  | _ => raiseType "indices must be integers"

/-- One namespace of the content is loaded when the content has it. -/
def loadFrom (decoded : PyValue) (staging : StagingStateStore) (ns : String) :
    Except PyError StagingStateStore := do
  let contained ← containsName decoded ns
  if contained then do
    let value ← itemAt decoded ns
    return staging.loadNamespace ns value
  else return staging

def loadOrder : List String :=
  "protocol_parameters" :: stateNamespaces.filter (· ≠ "protocol_parameters")

def loadNamespaces (decoded : PyValue) : Except PyError StagingStateStore :=
  loadOrder.foldlM (loadFrom decoded) {}

/-! ## References -/

def membersOf : PyValue → Fields
  | .dict members => members
  | _ => []

/-- `staging.get_namespace(ns) or {}`, or the default given. -/
def namespaceOr (s : StagingStateStore) (ns : String) (default : PyValue) : PyValue :=
  ((s.getNamespace ns).getD .none).orElse default

/-- The identifiers of the records of a namespace that is a dictionary. -/
def recordIds (value : PyValue) : List String := (membersOf value).map Prod.fst

section References

variable [Conversions]

/-- A text that is one of the identifiers; an unhashable value raises. -/
def requireKnown (ids : List String) (value : PyValue) (complaint : String) :
    Except PyError Unit :=
  match value with
  | .str id => require (ids.contains id) s!"{complaint} {id}"
  | .list _ => raiseType "unhashable type: 'list'"
  | .dict _ => raiseType "unhashable type: 'dict'"
  | other => raiseValue s!"{complaint} {Conversions.str other}"

/-- The reference of a record to an identifier, when it has the field. -/
def checkReference (ids : List String) (field complaint : String) (data : PyValue) :
    Except PyError Unit :=
  match data with
  | .dict members =>
    match members.lookup field with
    | some value => requireKnown ids value complaint
    | none => .ok ()
  | _ => .ok ()

def validateReferences (s : StagingStateStore) : Except PyError Unit := do
  let wallets := namespaceOr s "wallets" (.dict [])
  let hypervisors := namespaceOr s "hypervisors" (.dict [])
  let services := namespaceOr s "services" (.dict [])
  let stakes := namespaceOr s "stakes" (.list [])
  (membersOf hypervisors).forM fun h =>
    checkReference (recordIds wallets) "wallet" s!"Hypervisor {h.1} references missing wallet" h.2
  (membersOf services).forM fun record =>
    checkReference (recordIds hypervisors) "hypervisor"
      s!"Service {record.1} references missing hypervisor" record.2
  match stakes with
  | .list items =>
    items.forM fun stake =>
      checkReference (recordIds wallets) "wallet" "Stake references missing wallet" stake
  | _ => return ()

end References

/-! ## Restoration -/

/-- Whitespace bytes only. -/
def isBlankBytes (data : Bytes) : Bool := data.all fun b => b = 32 || (9 ≤ b && b ≤ 13)

def restoreDecoded [Conversions] (decoded : PyValue) :
    Except PyError (RestorationResult × StagingStateStore) := do
  let staging ← loadNamespaces decoded
  validateReferences staging
  let stateHash ← staging.calculateStateHash
  return ({
    namespacesLoaded := stateNamespaces.filter (fun ns => ns ≠ "protocol_parameters" &&
      (staging.getNamespace ns).isSome) ++ (["protocol_parameters"].filter fun ns =>
        (staging.getNamespace ns).isSome)
    totalObjects := staging.totalObjects
    applicationStateHash := stateHash }, staging)

/-- `StateRestorer.restore` into a fresh store; whatever goes wrong is raised as `ValueError`. -/
def restore [Conversions] [FloatReader] (encodedData : Bytes) :
    Except PyError (RestorationResult × StagingStateStore) :=
  if isBlankBytes encodedData then raiseValue "Empty encoded data"
  else
    match decode encodedData with
    | .error _ => raiseValue "Decode error"
    | .ok decoded =>
      match restoreDecoded decoded with
      | .ok restored => .ok restored
      | .error e => raiseValue
        (if e.kind = .value then e.message else s!"Restoration failed: {e.message}")

end AidnSpec.Snapshot
