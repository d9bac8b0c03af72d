import AidnSpec.Base.ProtobufWire
import AidnSpec.Consensus.Application

/-!
# The ABCI wire codec

`consensus/abci_socket.py:237–304, 341–480`: the protobuf fields that the socket server reads and
writes. An `ABCIWireError` is a `ValueError`. The encoder wraps a negative integer modulo `2 ^ 64`;
the decoder reads at most ten bytes of a varint, and reads a value from `2 ^ 63` on as a negative
one.
-/

namespace AidnSpec.Consensus

open Base Ledger WireField List

/-! ## Encoder -/

def varint (value : Int) : Bytes := encodeVarint (unsigned value)

def varintField (number : Nat) (value : Int) : Bytes := varint (number <<< 3 : Nat) ++ varint value

def bytesField (number : Nat) (value : Bytes) : Bytes :=
  varint (number <<< 3 ||| 2 : Nat) ++ varint value.length ++ value

def messageField (number : Nat) (value : Bytes) : Bytes := bytesField number value

/-- `_string`. -/
def stringBytes (number : Nat) (value : String) : Bytes := bytesField number (utf8Encode value)

def repeatedBytes (number : Nat) (values : List Bytes) : Bytes :=
  (values.map (bytesField number)).flatten

/-- `_fields`: empty items are left out. -/
def fieldBytes (items : List Bytes) : Bytes := (items.filter (!·.isEmpty)).flatten

/-! ## Decoder -/

/-- `_varint_from`, on the bytes from the offset on: the value and what is left. -/
def varintFrom (payload : Bytes) : Except PyError (Nat × Bytes) :=
  match scanVarint 10 0 0 payload with
  | .done value rest => .ok (value, rest)
  | .truncated => raiseValue "ABCI protobuf varint is truncated"
  | .overlong => raiseValue "ABCI protobuf varint is invalid"

/-- `payload[offset:end]`, refused past the end. -/
def takeBytes (length : Nat) (payload : Bytes) : Except PyError (Bytes × Bytes) :=
  if payload.length < length then raiseValue "ABCI protobuf field is truncated"
  else .ok (payload.take length, payload.drop length)

/-- The value of a field by its wire type, and what is left. -/
def wireValue (wire : Nat) (payload : Bytes) : Except PyError (WireValue × Bytes) := do
  if wire = 0 then
    let (value, rest) ← varintFrom payload
    return (.varint value, rest)
  else if wire = 2 then
    let (length, rest) ← varintFrom payload
    let (value, rest) ← takeBytes length rest
    return (.bytes value, rest)
  else if wire = 1 then
    let (value, rest) ← takeBytes 8 payload
    return (.fixed64 value, rest)
  else if wire = 5 then
    let (value, rest) ← takeBytes 4 payload
    return (.fixed32 value, rest)
  else raiseValue "ABCI protobuf wire type is unsupported"

/-- The loop of `_fields_value`; `fuel` bounds the number of fields. -/
def fieldsLoop : (fuel : Nat) → Bytes → Except PyError (List WireField)
  | _, [] => .ok []
  | 0, _ :: _ => .ok []
  | fuel + 1, payload@(_ :: _) => do
    let (key, rest) ← varintFrom payload
    if key >>> 3 < 1 then raiseValue "ABCI protobuf field number is invalid"
    else
      let (value, rest) ← wireValue (key &&& 7) rest
      let fields ← fieldsLoop fuel rest
      return ⟨key >>> 3, value⟩ :: fields

/-- `_fields_value`: every field takes at least one byte. -/
def fieldsValue (payload : Bytes) : Except PyError (List WireField) :=
  fieldsLoop payload.length payload

def bytesValues (number : Nat) (fields : List WireField) : List Bytes :=
  fields.filterMap fun
    | ⟨field, .bytes value⟩ => if field = number then some value else none
    | _ => none

def varintValues (number : Nat) (fields : List WireField) : List Nat :=
  fields.filterMap fun
    | ⟨field, .varint value⟩ => if field = number then some value else none
    | _ => none

/-- `_bytes_field_value`: the last field with the number. -/
def bytesFieldValue (payload : Bytes) (number : Nat) (default : Option Bytes) :
    Except PyError Bytes := do
  let fields ← fieldsValue payload
  match (bytesValues number fields).getLast?, default with
  | some value, _ => return value
  | none, some value => return value
  | none, none => raiseValue "required ABCI bytes field is missing"

def repeatedBytesValue (payload : Bytes) (number : Nat) : Except PyError (List Bytes) := do
  let fields ← fieldsValue payload
  return bytesValues number fields

def stringField (payload : Bytes) (number : Nat) (default : Option String) :
    Except PyError String := do
  let value ← bytesFieldValue payload number (default.map utf8Encode)
  match utf8Decode value with
  | some text => return text
  | none => raiseValue "ABCI string field is invalid"

/-- A varint as a signed integer of 64 bits. -/
def signedValue (value : Nat) : Int := if value < 2 ^ 63 then value else (value : Int) - 2 ^ 64

/-- `_int_field`: the last field with the number. -/
def intField (payload : Bytes) (number : Nat) (default : Option Int) : Except PyError Int := do
  let fields ← fieldsValue payload
  match (varintValues number fields).getLast?, default with
  | some value, _ => return signedValue value
  | none, some value => return value
  | none, none => raiseValue "required ABCI integer field is missing"

/-! ## What the decoder returns -/

/-- A field that the decoder reads back: its key, its number and its length fit in a varint
of ten bytes. -/
structure Readable (f : WireField) : Prop where
  number_pos : 1 ≤ f.number
  key_lt : f.key < 2 ^ 70
  sized : f.value.Sized
  varint_lt : ∀ n, f.value = .varint n → n < 2 ^ 70
  length_lt : ∀ b, f.value = .bytes b → b.length < 2 ^ 70

theorem varintFrom_encodeVarint {n : Nat} (hn : n < 2 ^ 70) (rest : Bytes) :
    varintFrom (encodeVarint n ++ rest) = .ok (n, rest) := by
  have h := scanVarint_encodeVarint (show n < 2 ^ (7 * (9 + 1)) from hn)
    (show 0 < 2 ^ 0 by decide) rest
  simp [varintFrom, h]

/-- A varint of more than ten bytes is refused. -/
theorem varintFrom_of_ge {n : Nat} (hn : 2 ^ 70 ≤ n) (rest : Bytes) :
    varintFrom (encodeVarint n ++ rest) = raiseValue "ABCI protobuf varint is invalid" := by
  have h := scanVarint_of_ge (show 2 ^ (7 * 10) ≤ n from hn) (by omega) 0 0 rest
  simp [varintFrom, h]

theorem length_of_varintFrom {payload rest : Bytes} {n : Nat}
    (h : varintFrom payload = .ok (n, rest)) : rest.length < payload.length := by
  rw [varintFrom] at h
  split at h
  · next hscan =>
    cases h
    exact length_of_scanVarint hscan
  · cases h
  · cases h

theorem takeBytes_append {length : Nat} {b : Bytes} (hb : b.length = length) (rest : Bytes) :
    takeBytes length (b ++ rest) = .ok (b, rest) := by
  subst hb
  rw [takeBytes, if_neg (by simp), take_left, drop_left]

theorem length_of_takeBytes {length : Nat} {payload value rest : Bytes}
    (h : takeBytes length payload = .ok (value, rest)) : rest.length ≤ payload.length := by
  rw [takeBytes] at h
  split at h
  · cases h
  · cases h
    simp

theorem length_of_wireValue {wire : Nat} {payload rest : Bytes} {value : WireValue}
    (h : wireValue wire payload = .ok (value, rest)) : rest.length ≤ payload.length := by
  rw [wireValue] at h
  split_ifs at h
  · obtain ⟨⟨n, rest'⟩, hn, hrest⟩ := bind_eq_ok.mp h
    cases hrest
    exact (length_of_varintFrom hn).le
  · obtain ⟨⟨n, rest'⟩, hn, hrest⟩ := bind_eq_ok.mp h
    obtain ⟨⟨b, rest''⟩, hb, hrest⟩ := bind_eq_ok.mp hrest
    cases hrest
    exact (length_of_takeBytes hb).trans (length_of_varintFrom hn).le
  · obtain ⟨⟨b, rest'⟩, hb, hrest⟩ := bind_eq_ok.mp h
    cases hrest
    exact length_of_takeBytes hb
  · obtain ⟨⟨b, rest'⟩, hb, hrest⟩ := bind_eq_ok.mp h
    cases hrest
    exact length_of_takeBytes hb
  · cases h

/-- The bound on the number of fields never ends the loop. -/
theorem fieldsLoop_eq {fuel more : Nat} {payload : Bytes} (h : payload.length ≤ fuel)
    (h' : payload.length ≤ more) : fieldsLoop fuel payload = fieldsLoop more payload := by
  induction fuel generalizing more payload with
  | zero =>
    obtain rfl := length_eq_zero_iff.mp (Nat.le_zero.mp h)
    cases more <;> rfl
  | succ fuel ih =>
    match payload, more with
    | [], 0 => rfl
    | [], _ + 1 => rfl
    | byte :: payload, more + 1 =>
      rw [fieldsLoop, fieldsLoop]
      cases hkey : varintFrom (byte :: payload) with
      | error e => rfl
      | ok pair =>
        obtain ⟨key, rest⟩ := pair
        have hrest := length_of_varintFrom hkey
        simp only [bind, Except.bind]
        split_ifs
        · rfl
        · cases hvalue : wireValue (key &&& 7) rest with
          | error e => rfl
          | ok pair =>
            obtain ⟨value, left⟩ := pair
            have hleft := length_of_wireValue hvalue
            simp only
            simp only [length_cons] at h h' hrest
            rw [@ih more left (by omega) (by omega)]

/-- Reading the value that a field was written with. -/
theorem wireValue_encode {f : WireField} (hf : Readable f) (rest : Bytes) :
    wireValue f.value.wire (f.value.encode ++ rest) = .ok (f.value, rest) := by
  obtain ⟨number, value⟩ := f
  cases value with
  | varint n =>
    have h := varintFrom_encodeVarint (hf.varint_lt n rfl) rest
    simp [wireValue, WireValue.wire, WireValue.encode, h, bind, Except.bind, pure, Except.pure]
  | fixed64 | fixed32 =>
    have h := takeBytes_append hf.sized rest
    simp [wireValue, WireValue.wire, WireValue.encode, h, bind, Except.bind, pure, Except.pure]
  | bytes b =>
    have hlen := varintFrom_encodeVarint (hf.length_lt b rfl) (b ++ rest)
    have h := @takeBytes_append b.length b rfl rest
    simp [wireValue, WireValue.wire, WireValue.encode, hlen, h, bind, Except.bind, pure,
      Except.pure]

/-- A field in front is read first. -/
theorem fieldsValue_encode_append {f : WireField} (hf : Readable f) (rest : Bytes) :
    fieldsValue (f.encode ++ rest) = (fieldsValue rest).map (f :: ·) := by
  have hkey := varintFrom_encodeVarint hf.key_lt (f.value.encode ++ rest)
  have hwire := f.value.wire_lt
  have hnumber : f.key >>> 3 = f.number := by
    rw [Nat.shiftRight_eq_div_pow, WireField.key]
    omega
  have hlow : f.key &&& 7 = f.value.wire := by
    have hmod : f.key &&& 7 = f.key % 8 := Nat.and_two_pow_sub_one_eq_mod f.key 3
    rw [hmod, WireField.key]
    omega
  have hpos : 0 < (encodeVarint f.key).length :=
    length_pos_iff.mpr (encodeVarint_ne_nil f.key)
  obtain ⟨byte, tail, hcons⟩ : ∃ byte tail, f.encode ++ rest = byte :: tail :=
    exists_cons_of_ne_nil (by simp [f.encode_ne_nil])
  have hlen : rest.length ≤ tail.length := by
    have := congrArg List.length hcons
    simp only [encode, length_append, length_cons] at this
    omega
  rw [← append_assoc, ← encode, hcons] at hkey
  rw [fieldsValue, hcons, length_cons, fieldsLoop, hkey]
  simp only [bind, Except.bind, hnumber, hlow, wireValue_encode hf]
  rw [if_neg (by have := hf.number_pos; omega), fieldsLoop_eq hlen (Nat.le_refl _)]
  cases h : fieldsValue rest with
  | error | ok => rw [fieldsValue] at h; rw [h]; rfl

/-- Every list of readable fields is read back in order. -/
theorem fieldsValue_encodeFields {fields : List WireField} (h : ∀ f ∈ fields, Readable f) :
    fieldsValue (encodeFields fields) = .ok fields := by
  induction fields with
  | nil => rfl
  | cons f fields ih =>
    rw [encodeFields_cons, fieldsValue_encode_append (h f mem_cons_self),
      ih fun g hg => h g (mem_cons_of_mem f hg)]
    rfl

/-- One readable field is read back. -/
theorem fieldsValue_encode {f : WireField} (hf : Readable f) : fieldsValue f.encode = .ok [f] := by
  have h := fieldsValue_encode_append hf []
  rw [append_nil] at h
  exact h

/-! ## Encoded fields -/

theorem varint_natCast (n : Nat) : varint n = encodeVarint n := by
  rw [varint, unsigned, if_neg (by omega), Int.toNat_natCast]

/-- A negative integer is written modulo `2 ^ 64`. -/
theorem varintField_eq (number : Nat) (value : Int) :
    varintField number value = encode ⟨number, .varint (unsigned value)⟩ := by
  have hkey := shiftLeft_or_wire number (show 0 < 8 by decide)
  rw [Nat.or_zero] at hkey
  rw [varintField, varint_natCast, hkey]
  rfl

theorem bytesField_eq (number : Nat) (value : Bytes) :
    bytesField number value = encode ⟨number, .bytes value⟩ := by
  rw [bytesField, varint_natCast, varint_natCast, shiftLeft_or_wire number (by decide),
    append_assoc]
  rfl

/-- An encoded field is never empty, so `_fields` leaves none of them out. -/
theorem fieldBytes_map_encode (fields : List WireField) :
    fieldBytes (fields.map encode) = encodeFields fields := by
  rw [fieldBytes, filter_eq_self.mpr, encodeFields, List.flatMap]
  intro item hitem
  obtain ⟨f, -, rfl⟩ := mem_map.mp hitem
  simp [f.encode_ne_nil]

theorem readable_varint {number : Nat} (hpos : 1 ≤ number) (hnumber : number < 2 ^ 67) {n : Nat}
    (hn : n < 2 ^ 70) : Readable ⟨number, .varint n⟩ where
  number_pos := hpos
  key_lt := by simp only [WireField.key, WireValue.wire]; omega
  sized := trivial
  varint_lt m hm := by cases hm; exact hn
  length_lt b hb := by cases hb

theorem readable_bytes {number : Nat} (hpos : 1 ≤ number) (hnumber : number < 2 ^ 67) {b : Bytes}
    (hb : b.length < 2 ^ 70) : Readable ⟨number, .bytes b⟩ where
  number_pos := hpos
  key_lt := by simp only [WireField.key, WireValue.wire]; omega
  sized := trivial
  varint_lt m hm := by cases hm
  length_lt b' hb' := by cases hb'; exact hb

/-- The unsigned form of a signed integer of 64 bits, and back. -/
theorem signedValue_unsigned {value : Int} (hlo : -2 ^ 63 ≤ value) (hhi : value < 2 ^ 63) :
    unsigned value < 2 ^ 70 ∧ signedValue (unsigned value) = value := by
  rw [signedValue, unsigned]
  split_ifs <;> omega

/-! ## Messages -/

inductive ResponseKind where
  | exception | echo | flush | info | initChain | query | checkTx | commit | listSnapshots
  | offerSnapshot | loadSnapshotChunk | applySnapshotChunk | prepareProposal | processProposal
  | extendVote | verifyVoteExtension | finalizeBlock

/-- `_RESPONSE_FIELDS`. -/
def ResponseKind.number : ResponseKind → Nat
  | .exception => 1
  | .echo => 2
  | .flush => 3
  | .info => 4
  | .initChain => 6
  | .query => 7
  | .checkTx => 9
  | .commit => 12
  | .listSnapshots => 13
  | .offerSnapshot => 14
  | .loadSnapshotChunk => 15
  | .applySnapshotChunk => 16
  | .prepareProposal => 17
  | .processProposal => 18
  | .extendVote => 19
  | .verifyVoteExtension => 20
  | .finalizeBlock => 21

def response (kind : ResponseKind) (payload : Bytes) : Bytes := messageField kind.number payload

inductive ABCICode where
  | ok | rejected | invalid | duplicate | expired | sequence | internal

/-- `_CODE`. -/
def ABCICode.number : ABCICode → Int
  | .ok => 0
  | .rejected => 1
  | .invalid => 2
  | .duplicate => 3
  | .expired => 4
  | .sequence => 5
  | .internal => 6

/-- The members of an `ABCIResult` that go over the socket. -/
structure ResultFields where
  code : ABCICode
  data : Bytes := []
  log : String := ""
  gasWanted : Int := 0
  gasUsed : Int := 0
  codespace : String := ""

def resultMessage (result : ResultFields) : Bytes :=
  fieldBytes
    [varintField 1 result.code.number, bytesField 2 result.data, stringBytes 3 result.log,
      varintField 5 result.gasWanted, varintField 6 result.gasUsed, stringBytes 8 result.codespace]

def validatorUpdateMessage (update : ValidatorUpdate) : Except PyError Bytes :=
  if "ed25519:".toList.isPrefixOf update.publicKey.toList then
    match b64Decode (String.ofList (removePre "ed25519:".toList update.publicKey.toList)) with
    | none => raiseValue "validator update public key is invalid"
    | some publicKeyBytes =>
      if publicKeyBytes.length ≠ 32 then
        raiseValue "validator update public key must contain 32 bytes"
      else if update.power < 0 then raiseValue "validator update voting power is invalid"
      else
        .ok (fieldBytes
          [messageField 1 (fieldBytes [bytesField 1 publicKeyBytes]), varintField 2 update.power])
  else raiseValue "validator update public key is invalid"

def ABCICode.ofNumber (number : Int) : Except PyError ABCICode :=
  match [ABCICode.ok, .rejected, .invalid, .duplicate, .expired, .sequence, .internal].find?
      (·.number = number) with
  | some code => .ok code
  | none => raiseValue "unknown code"

def readResult (message : Bytes) : Except PyError ResultFields := do
  let code ← ABCICode.ofNumber (← intField message 1 none)
  let data ← bytesFieldValue message 2 none
  let log ← stringField message 3 none
  let gasWanted ← intField message 5 none
  let gasUsed ← intField message 6 none
  let codespace ← stringField message 8 none
  return ⟨code, data, log, gasWanted, gasUsed, codespace⟩

/-- The public key and the power of an update, read back with the field readers. -/
def readValidatorUpdate (message : Bytes) : Except PyError (Bytes × Int) := do
  let publicKeyMessage ← bytesFieldValue message 1 none
  let publicKey ← bytesFieldValue publicKeyMessage 1 none
  let power ← intField message 2 none
  return (publicKey, power)

/-! ## Round trips -/

/-- One item of a message: a field number with an integer or a byte string. -/
abbrev WireItem := ℕ × (ℕ ⊕ Bytes)

/-- `_varint_field` or `_bytes_field` of an item. -/
def WireItem.encode : WireItem → Bytes
  | (number, .inl value) => varintField number value
  | (number, .inr value) => bytesField number value

/-- What `_fields_value` has to return for an item. -/
def WireItem.field : WireItem → WireField
  | (number, .inl value) => ⟨number, .varint value⟩
  | (number, .inr value) => ⟨number, .bytes value⟩

/-- The items of the round trip: the key fits in ten bytes, an integer in 64 bits, and a
length in ten bytes. -/
def WireItem.Fits : WireItem → Prop
  | (number, .inl value) => 1 ≤ number ∧ number < 2 ^ 67 ∧ value < 2 ^ 64
  | (number, .inr value) => 1 ≤ number ∧ number < 2 ^ 67 ∧ value.length < 2 ^ 70

theorem WireItem.encode_eq (item : WireItem) : item.encode = item.field.encode := by
  match item with
  | (number, .inl value) =>
    rw [WireItem.encode, varintField_eq, unsigned, if_neg (by omega), Int.toNat_natCast]
    rfl
  | (number, .inr value) => exact bytesField_eq number value

theorem WireItem.readable {item : WireItem} (h : item.Fits) : Readable item.field := by
  match item, h with
  | (number, .inl value), ⟨hpos, hnumber, hvalue⟩ =>
    exact readable_varint hpos hnumber (hvalue.trans (by decide))
  | (number, .inr value), ⟨hpos, hnumber, hvalue⟩ => exact readable_bytes hpos hnumber hvalue

/-- Every list of items comes back in order. -/
theorem fieldsValue_items {items : List WireItem} (h : ∀ item ∈ items, item.Fits) :
    fieldsValue (items.map WireItem.encode).flatten = .ok (items.map WireItem.field) := by
  have hbytes : (items.map WireItem.encode).flatten = encodeFields (items.map WireItem.field) := by
    simp only [encodeFields, List.flatMap, map_map]
    exact congrArg List.flatten (map_congr_left fun item _ => item.encode_eq)
  rw [hbytes]
  refine fieldsValue_encodeFields fun f hf => ?_
  obtain ⟨item, hitem, rfl⟩ := mem_map.mp hf
  exact WireItem.readable (h item hitem)

/-- Every signed integer of 64 bits comes back. -/
theorem intField_varintField {number : Nat} (hpos : 1 ≤ number) (hnumber : number < 2 ^ 67)
    {value : Int} (hlo : -2 ^ 63 ≤ value) (hhi : value < 2 ^ 63) (default : Option Int) :
    intField (varintField number value) number default = .ok value := by
  obtain ⟨hlt, hsigned⟩ := signedValue_unsigned hlo hhi
  rw [varintField_eq, intField, fieldsValue_encode (readable_varint hpos hnumber hlt)]
  simp only [bind, Except.bind, varintValues, filterMap_cons, if_pos, filterMap_nil,
    getLast?_singleton, hsigned]
  rfl

/-- Every list of byte strings comes back, empty ones included. -/
theorem repeatedBytesValue_repeatedBytes {number : Nat} (hpos : 1 ≤ number)
    (hnumber : number < 2 ^ 67) {values : List Bytes} (h : ∀ b ∈ values, b.length < 2 ^ 70) :
    repeatedBytesValue (repeatedBytes number values) number = .ok values := by
  have hread : fieldsValue (repeatedBytes number values) =
      .ok (values.map fun b => ⟨number, .bytes b⟩) := by
    have hbytes : repeatedBytes number values =
        encodeFields (values.map fun b => ⟨number, .bytes b⟩) := by
      simp only [repeatedBytes, encodeFields, List.flatMap, map_map]
      exact congrArg List.flatten (map_congr_left fun b _ => bytesField_eq number b)
    rw [hbytes]
    refine fieldsValue_encodeFields fun f hf => ?_
    obtain ⟨b, hb, rfl⟩ := mem_map.mp hf
    exact readable_bytes hpos hnumber (h b hb)
  have hvalues : bytesValues number (values.map fun b => ⟨number, .bytes b⟩) = values := by
    simp [bytesValues, filterMap_map]
  rw [repeatedBytesValue, hread]
  exact congrArg Except.ok hvalues

/-- A response holds its kind and its payload. -/
theorem fieldsValue_response (kind : ResponseKind) {payload : Bytes} (h : payload.length < 2 ^ 70) :
    fieldsValue (response kind payload) = .ok [⟨kind.number, .bytes payload⟩] := by
  have hkind : 1 ≤ kind.number ∧ kind.number < 2 ^ 67 := by cases kind <;> decide
  rw [response, messageField, bytesField_eq, fieldsValue_encode (readable_bytes hkind.1 hkind.2 h)]

/-- The members of a result that fit the wire: integers of 64 bits, and texts whose length
fits in ten bytes. -/
structure ResultFields.Fits (result : ResultFields) : Prop where
  data_lt : result.data.length < 2 ^ 70
  log_lt : (utf8Encode result.log).length < 2 ^ 70
  codespace_lt : (utf8Encode result.codespace).length < 2 ^ 70
  gasWanted : -2 ^ 63 ≤ result.gasWanted ∧ result.gasWanted < 2 ^ 63
  gasUsed : -2 ^ 63 ≤ result.gasUsed ∧ result.gasUsed < 2 ^ 63

/-- A result comes back member by member. -/
theorem readResult_resultMessage {result : ResultFields} (h : result.Fits) :
    readResult (resultMessage result) = .ok result := by
  have hcode : -2 ^ 63 ≤ result.code.number ∧ result.code.number < 2 ^ 63 := by
    cases result.code <;> decide
  obtain ⟨hc, hcode⟩ := signedValue_unsigned hcode.1 hcode.2
  obtain ⟨hw, hwanted⟩ := signedValue_unsigned h.gasWanted.1 h.gasWanted.2
  obtain ⟨hu, hused⟩ := signedValue_unsigned h.gasUsed.1 h.gasUsed.2
  have hread : fieldsValue (resultMessage result) = .ok
      [⟨1, .varint (unsigned result.code.number)⟩, ⟨2, .bytes result.data⟩,
        ⟨3, .bytes (utf8Encode result.log)⟩, ⟨5, .varint (unsigned result.gasWanted)⟩,
        ⟨6, .varint (unsigned result.gasUsed)⟩, ⟨8, .bytes (utf8Encode result.codespace)⟩] := by
    rw [← fieldsValue_encodeFields, ← fieldBytes_map_encode]
    · simp only [resultMessage, stringBytes, varintField_eq, bytesField_eq, map_cons,
        map_nil]
    · simp only [mem_cons, not_mem_nil, or_false, forall_eq_or_imp, forall_eq]
      exact ⟨readable_varint (by decide) (by decide) hc,
        readable_bytes (by decide) (by decide) h.data_lt,
        readable_bytes (by decide) (by decide) h.log_lt,
        readable_varint (by decide) (by decide) hw, readable_varint (by decide) (by decide) hu,
        readable_bytes (by decide) (by decide) h.codespace_lt⟩
  have hnumber : ABCICode.ofNumber result.code.number = .ok result.code := by
    cases result.code <;> rfl
  simp [readResult, intField, bytesFieldValue, stringField, hread, bytesValues, varintValues, bind,
    Except.bind, pure, Except.pure, utf8Decode_utf8Encode, hcode, hwanted, hused, hnumber]

def updateFields (publicKey : Bytes) (power : Int) : List WireField :=
  [⟨1, .bytes (encode ⟨1, .bytes publicKey⟩)⟩, ⟨2, .varint (unsigned power)⟩]

/-- An update that is written has a key of 32 bytes and no negative power. -/
theorem validatorUpdateMessage_eq_ok {update : ValidatorUpdate} {message : Bytes}
    (h : validatorUpdateMessage update = .ok message) :
    ∃ publicKey, decodeConsensusPublicKey (.str update.publicKey) = .ok publicKey ∧
      publicKey.length = 32 ∧ 0 ≤ update.power ∧
        message = encodeFields (updateFields publicKey update.power) := by
  have hinner : ∀ publicKey, fieldBytes [bytesField 1 publicKey] =
      encode ⟨1, .bytes publicKey⟩ := by
    intro publicKey
    have h := fieldBytes_map_encode [⟨1, .bytes publicKey⟩]
    simpa [bytesField_eq] using h
  rw [validatorUpdateMessage] at h
  split at h
  · next hprefix =>
    split at h
    · cases h
    · next publicKey hdecoded =>
      split at h
      · cases h
      · next hlen =>
        rw [ne_eq, not_not] at hlen
        split at h
        · cases h
        · next hpower =>
          cases h
          refine ⟨publicKey, ?_, hlen, by omega, ?_⟩
          · simp only [decodeConsensusPublicKey, decodeEd25519PublicKey, hprefix, if_true, hdecoded,
              hlen]
          · rw [← fieldBytes_map_encode, hinner, messageField, varintField_eq, bytesField_eq]
            rfl
  · cases h

/-- The two fields of an update are read back. -/
theorem fieldsValue_updateFields {publicKey : Bytes} (hlen : publicKey.length = 32) {power : Int}
    (hpower : unsigned power < 2 ^ 70) :
    fieldsValue (encodeFields (updateFields publicKey power)) =
      .ok (updateFields publicKey power) := by
  have hlength : (encode ⟨1, .bytes publicKey⟩).length = 34 := by
    simp [encode, WireField.key, WireValue.encode, WireValue.wire, hlen, encodeVarint_of_lt]
  refine fieldsValue_encodeFields ?_
  simp only [updateFields, mem_cons, not_mem_nil, or_false, forall_eq_or_imp, forall_eq]
  exact ⟨readable_bytes (by decide) (by decide) (by rw [hlength]; decide),
    readable_varint (by decide) (by decide) hpower⟩

/-- An update comes back, with every power below `2 ^ 63`. -/
theorem readValidatorUpdate_message {update : ValidatorUpdate} {message : Bytes}
    (h : validatorUpdateMessage update = .ok message) (hpower : update.power < 2 ^ 63) :
    ∃ publicKey, decodeConsensusPublicKey (.str update.publicKey) = .ok publicKey ∧
      readValidatorUpdate message = .ok (publicKey, update.power) := by
  obtain ⟨publicKey, hkey, hlen, hnonneg, rfl⟩ := validatorUpdateMessage_eq_ok h
  obtain ⟨hlt, hsigned⟩ := signedValue_unsigned (show -2 ^ 63 ≤ update.power by omega) hpower
  have hinner : Readable ⟨1, .bytes publicKey⟩ :=
    readable_bytes (by decide) (by decide) (by rw [hlen]; decide)
  have hread := fieldsValue_updateFields hlen hlt
  refine ⟨publicKey, hkey, ?_⟩
  generalize encodeFields (updateFields publicKey update.power) = message at hread
  simp [readValidatorUpdate, bytesFieldValue, intField, hread, updateFields,
    fieldsValue_encode hinner, bytesValues, varintValues, bind, Except.bind, pure, Except.pure,
    hsigned]

/-- The codec round trips: items with keys and lengths of at most ten bytes come back in
order, every signed integer of 64 bits, every list of byte strings, and the messages of
responses, results and validator updates. -/
theorem codec_round_trips :
    (∀ items : List WireItem, (∀ item ∈ items, item.Fits) →
      fieldsValue (items.map WireItem.encode).flatten = .ok (items.map WireItem.field)) ∧
    (∀ (number : Nat) (value : Int) (default : Option Int), 1 ≤ number → number < 2 ^ 67 →
      -2 ^ 63 ≤ value → value < 2 ^ 63 →
      intField (varintField number value) number default = .ok value) ∧
    (∀ (number : Nat) (values : List Bytes), 1 ≤ number → number < 2 ^ 67 →
      (∀ b ∈ values, b.length < 2 ^ 70) →
      repeatedBytesValue (repeatedBytes number values) number = .ok values) ∧
    (∀ (kind : ResponseKind) (payload : Bytes), payload.length < 2 ^ 70 →
      fieldsValue (response kind payload) = .ok [⟨kind.number, .bytes payload⟩]) ∧
    (∀ result : ResultFields, result.Fits → readResult (resultMessage result) = .ok result) ∧
    (∀ (update : ValidatorUpdate) (message : Bytes),
      validatorUpdateMessage update = .ok message → update.power < 2 ^ 63 →
      ∃ publicKey, decodeConsensusPublicKey (.str update.publicKey) = .ok publicKey ∧
        readValidatorUpdate message = .ok (publicKey, update.power)) :=
  ⟨fun _ h => fieldsValue_items h,
    fun _ _ default hpos hnumber hlo hhi => intField_varintField hpos hnumber hlo hhi default,
    fun _ _ hpos hnumber h => repeatedBytesValue_repeatedBytes hpos hnumber h,
    fun kind _ h => fieldsValue_response kind h, fun _ h => readResult_resultMessage h,
    fun _ _ h hpower => readValidatorUpdate_message h hpower⟩

def zeroKey : String := "ed25519:AAAAAAAAAAAAAAAAAAAAAAAAAAAAAAAAAAAAAAAAAAA="

/-- The message of an update of the zero key. -/
theorem validatorUpdateMessage_zeroKey {power : Int} (h : 0 ≤ power) :
    validatorUpdateMessage ⟨zeroKey, power⟩ =
      .ok (fieldBytes [messageField 1 (fieldBytes [bytesField 1 (List.replicate 32 0)]),
        varintField 2 power]) := by
  have hprefix : "ed25519:".toList.isPrefixOf zeroKey.toList = true := by decide +kernel
  have hdecoded : b64Decode (String.ofList (removePre "ed25519:".toList zeroKey.toList)) =
      some (List.replicate 32 0) := by decide +kernel
  have hlen : ¬ (List.replicate 32 (0 : UInt8)).length ≠ 32 := by decide
  rw [validatorUpdateMessage, if_pos hprefix, hdecoded]
  simp only
  rw [if_neg hlen, if_neg (by omega)]

/-- Items, a negative integer, an empty string, a response, a result and an update. -/
theorem codec_round_trips_example :
    fieldsValue ([(1, .inl 300), (2, .inr [])].map WireItem.encode).flatten =
      .ok [⟨1, .varint 300⟩, ⟨2, .bytes []⟩] ∧
    intField (varintField 3 (-1)) 3 none = .ok (-1) ∧
    repeatedBytesValue (repeatedBytes 1 [[], [7]]) 1 = .ok [[], [7]] ∧
    fieldsValue (response .flush []) = .ok [⟨3, .bytes []⟩] ∧
    readResult (resultMessage ⟨.rejected, [1], "", -5, 0, ""⟩) =
      .ok ⟨.rejected, [1], "", -5, 0, ""⟩ ∧
    ∃ publicKey, decodeConsensusPublicKey (.str zeroKey) = .ok publicKey ∧
      readValidatorUpdate (fieldBytes
        [messageField 1 (fieldBytes [bytesField 1 (List.replicate 32 0)]), varintField 2 5]) =
        .ok (publicKey, 5) :=
  ⟨codec_round_trips.1 [(1, .inl 300), (2, .inr [])] (by simp [WireItem.Fits]),
    codec_round_trips.2.1 3 (-1) none (by decide) (by decide) (by decide) (by decide),
    codec_round_trips.2.2.1 1 [[], [7]] (by decide) (by decide) (by simp),
    codec_round_trips.2.2.2.1 .flush [] (by decide),
    codec_round_trips.2.2.2.2.1 ⟨.rejected, [1], "", -5, 0, ""⟩
      ⟨by decide, by simp [utf8Encode_eq_nil.mpr], by simp [utf8Encode_eq_nil.mpr], by decide,
        by decide⟩,
    codec_round_trips.2.2.2.2.2 ⟨zeroKey, 5⟩ _ (validatorUpdateMessage_zeroKey (by decide))
      (by decide)⟩

/-- A field number from `2 ^ 67` on has a key of more than ten bytes. -/
theorem fieldsValue_of_long_key {number : Nat} (h : 2 ^ 67 ≤ number) (value : Int) :
    fieldsValue (varintField number value) = raiseValue "ABCI protobuf varint is invalid" := by
  have hkey := varintFrom_of_ge (n := number <<< 3) (by rw [Nat.shiftLeft_eq]; omega)
    (varint value)
  rw [← varint_natCast] at hkey
  change varintFrom (varintField number value) = _ at hkey
  generalize hbytes : varintField number value = payload at hkey
  cases payload with
  | nil => simp [varintField, varint, encodeVarint_ne_nil] at hbytes
  | cons byte payload =>
    rw [fieldsValue, length_cons, fieldsLoop, hkey]
    rfl

/-- The decoder refuses the field number `2 ^ 67` that the encoder writes, and reads the
voting power `2 ^ 63` that the ledger admits as a negative number. -/
theorem long_number_refused_large_power_misread :
    fieldsValue (varintField (2 ^ 67) 0) = raiseValue "ABCI protobuf varint is invalid" ∧
      readPowerUpdate (.dict [("node_id", .str "node-1"), ("voting_power", .int (2 ^ 63))]) =
        .ok ("node-1", 2 ^ 63) ∧
      ∃ message, validatorUpdateMessage ⟨zeroKey, 2 ^ 63⟩ = .ok message ∧
        intField message 2 none = .ok (-2 ^ 63) := by
  refine ⟨fieldsValue_of_long_key (Nat.le_refl _) 0, by decide +kernel, _,
    validatorUpdateMessage_zeroKey (by decide), ?_⟩
  obtain ⟨publicKey, -, hlen, -, hmessage⟩ :=
    validatorUpdateMessage_eq_ok (validatorUpdateMessage_zeroKey (show 0 ≤ 2 ^ 63 by decide))
  have hread := fieldsValue_updateFields hlen (show unsigned (2 ^ 63) < 2 ^ 70 by decide)
  rw [← hmessage] at hread
  rw [intField, hread]
  rfl

end AidnSpec.Consensus
