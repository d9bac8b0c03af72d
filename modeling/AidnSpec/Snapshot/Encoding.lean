import AidnSpec.Base.DigestInjection
import AidnSpec.Base.ProtobufWire
import AidnSpec.Base.Schema

/-!
# Encoding of application states

`snapshot/encoding.py`: the namespaces of a state in their fixed order, the keys of every value in
order, compact JSON without ASCII escapes as UTF-8, and its hash.
-/

namespace AidnSpec.Snapshot

open Base List

def stateNamespaces : List String :=
  ["wallets", "hypervisors", "services", "endpoints", "sessions", "stakes", "bonds",
    "certifications", "reputation", "epochs", "protocol_parameters", "evidence"]

/-- One character of a JSON string under `ensure_ascii=False`: quotation marks, backslashes and
control characters are escaped. -/
def plainEscape (c : Char) : List Char :=
  if c = '"' then ['\\', '"']
  else if c = '\\' then ['\\', '\\']
  else if c = '\n' then ['\\', 'n']
  else if c = '\r' then ['\\', 'r']
  else if c = '\t' then ['\\', 't']
  else if c.toNat = 8 then ['\\', 'b']
  else if c.toNat = 12 then ['\\', 'f']
  else if c.toNat < 32 then unicodeEscape c.toNat
  else [c]

/-- The namespaces of a state in order; a missing one becomes an empty entry. -/
def orderedState (state : Fields) : Fields :=
  stateNamespaces.map fun ns =>
    (ns, match state.lookup ns with
      | some value => value.sorted
      | none => .dict [])

def unknownNamespaces (state : Fields) : List String :=
  (state.map Prod.fst).filter fun key => !stateNamespaces.contains key

/-- `json.dumps(…, ensure_ascii=False).encode("utf-8")` of a dictionary in the order it has. -/
def plainBytes (members : Fields) : Bytes :=
  utf8Encode (String.ofList (jsonText plainEscape (.dict members)))

def encode (state : Fields) : Except PyError Bytes := do
  let unknown := unknownNamespaces state
  require unknown.isEmpty
    ("Unknown namespace(s): " ++ ", ".intercalate (unknown.mergeSort fun a b => a ≤ b))
  require (PyValue.dict (orderedState state)).dumpable
    "Exceeds the limit (4300 digits) for integer string conversion"
  return plainBytes (orderedState state)

/-- `PortableSnapshotEncoder.decode`: bytes that are no UTF-8 and texts that are no JSON raise. -/
def decode [FloatReader] (data : Bytes) : Except PyError PyValue :=
  match utf8Decode data with
  | none => raiseValue "'utf-8' codec can't decode"
  | some text =>
    match loads text.toList with
    | none => raiseValue "Expecting value"
    | some value => .ok value

def computeContentHash (state : Fields) : Except PyError String := do
  let encoded ← encode state
  return hexEncode false (sha256 encoded)

def computeContentSize (state : Fields) : Except PyError ℕ := do
  let encoded ← encode state
  return encoded.length

/-! ## Reading an encoded state -/

theorem readable_plainEscape : Readable plainEscape where
  length_pos := by
    intro c
    unfold plainEscape
    split_ifs <;> simp [unicodeEscape]
  read := by
    intro fuel c rest
    unfold plainEscape
    split_ifs with hquote hslash hnewline hreturn htab hback hfeed hlow
    · exact stringBody_escaped (by rw [hquote]; rfl)
    · exact stringBody_escaped (by rw [hslash]; rfl)
    · exact stringBody_escaped (by rw [hnewline]; rfl)
    · exact stringBody_escaped (by rw [hreturn]; rfl)
    · exact stringBody_escaped (by rw [htab]; rfl)
    · exact stringBody_escaped (by rw [← Char.ofNat_toNat c, hback]; rfl)
    · exact stringBody_escaped (by rw [← Char.ofNat_toNat c, hfeed]; rfl)
    · exact stringBody_unicode (unicodeChar_of_low (by omega) rest)
    · exact stringBody_plain hquote hslash (by omega) rest

theorem encode_eq_ok {state : Fields} {encoded : Bytes} :
    encode state = .ok encoded ↔ unknownNamespaces state = [] ∧
      (PyValue.dict (orderedState state)).dumpable = true ∧
        plainBytes (orderedState state) = encoded := by
  simp only [encode, bind_eq_ok, require_eq_ok, pure_eq_ok, exists_unit, List.isEmpty_iff]

theorem computeContentHash_eq_ok {state : Fields} {hash : String} :
    computeContentHash state = .ok hash ↔
      ∃ encoded, encode state = .ok encoded ∧ hexEncode false (sha256 encoded) = hash := by
  simp only [computeContentHash, bind_eq_ok, pure_eq_ok]

theorem keys_orderedState (state : Fields) :
    (orderedState state).map Prod.fst = stateNamespaces := by
  rw [orderedState, map_map]
  exact map_id _

def orderedNamespace (state : Fields) (ns : String) : PyValue :=
  match state.lookup ns with
  | some value => value.sorted
  | none => .dict []

theorem orderedState_eq (state : Fields) :
    orderedState state = stateNamespaces.map fun ns => (ns, orderedNamespace state ns) := rfl

/-- Reading a table that has an entry for each name. -/
theorem lookup_map_name {names : List String} {f : String → PyValue} {name : String}
    (h : name ∈ names) : (names.map fun n => (n, f n)).lookup name = some (f name) := by
  induction names with
  | nil => cases h
  | cons first names ih =>
    rw [map_cons, lookup_cons]
    by_cases hsame : name = first
    · rw [beq_iff_eq.mpr hsame, hsame]
    · rw [beq_eq_false_iff_ne.mpr hsame]
      exact ih ((mem_cons.mp h).resolve_left hsame)

theorem sorted_orderedNamespace [FloatReader] {state : Fields}
    (h : (PyValue.dict state).WellFormed) (ns : String) :
    (orderedNamespace state ns).sorted = orderedNamespace state ns := by
  unfold orderedNamespace
  cases hlookup : state.lookup ns with
  | none =>
    dsimp only
    rw [PyValue.sorted_dict, mergeSort_nil, map_nil]
  | some value =>
    cases h with
    | dict _ hmembers =>
      exact PyValue.sorted_sorted (hmembers (ns, value) (mem_of_lookup hlookup))

/-- A state with the namespaces of another in order is encoded like it. -/
theorem orderedState_of_lookup [FloatReader] {state data : Fields}
    (h : (PyValue.dict state).WellFormed)
    (hdata : ∀ ns ∈ stateNamespaces, data.lookup ns = some (orderedNamespace state ns)) :
    orderedState data = orderedState state := by
  rw [orderedState_eq, orderedState_eq]
  refine map_congr_left fun ns hns => ?_
  rw [orderedNamespace, hdata ns hns]
  exact congrArg (Prod.mk ns) (sorted_orderedNamespace h ns)

theorem wellFormed_orderedState [FloatReader] {state : Fields}
    (h : (PyValue.dict state).WellFormed) : (PyValue.dict (orderedState state)).WellFormed := by
  have hkeys : ((orderedState state).map Prod.fst).Nodup := by
    rw [keys_orderedState]
    decide
  refine .dict hkeys fun member hmember => ?_
  obtain ⟨ns, -, rfl⟩ := mem_map.mp hmember
  dsimp only
  cases hlookup : state.lookup ns with
  | none => exact .dict nodup_nil fun m hm => by cases hm
  | some value =>
    cases h with
    | dict _ hmembers =>
      exact (hmembers (ns, value) (mem_of_lookup hlookup)).sorted

/-- Encoded dictionaries are read back. -/
theorem decode_plainBytes [FloatReader] {members : Fields}
    (wellFormed : (PyValue.dict members).WellFormed)
    (dumpable : (PyValue.dict members).dumpable = true) :
    decode (plainBytes members) = .ok (.dict members) := by
  rw [decode, plainBytes, utf8Decode_utf8Encode]
  simp only [String.toList_ofList, loads_jsonText readable_plainEscape wellFormed dumpable]

end AidnSpec.Snapshot
