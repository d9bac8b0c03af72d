import AidnSpec.Base.Conversions
import AidnSpec.Consensus.InclusionSoundness
import AidnSpec.Consensus.SignBytes

/-!
# Header hashes

`consensus/cometbft_header.py`: the block hash of a header is the root over fourteen leaves, one for
each field. A field at its zero value is an empty leaf. This encoder refuses a negative number of
seconds where the one of the votes wraps it.
-/

namespace AidnSpec.Consensus

open Base List

/-! ## Readers -/

def mapping (value : PyValue) (fieldName : String) : Except PyError Fields :=
  match value with
  | .dict members => .ok members
  | _ => raiseValue ("CometBFT " ++ fieldName ++ " is invalid")

/-- `_string`. -/
def stringValue (value : PyValue) (fieldName : String) : Except PyError String :=
  match value with
  | .str s => .ok s
  | _ => raiseValue ("CometBFT " ++ fieldName ++ " is invalid")

def optionalHexBytes (value : PyValue) : Except PyError Bytes :=
  match value with
  | .none => .ok []
  | .str s =>
    if s.isEmpty then .ok []
    else if s.length % 2 ≠ 0 ∨ ¬ s.toList.all (fun c => (hexValue c).isSome) then
      raiseValue "CometBFT hex bytes are invalid"
    else
      match fromHex s with
      | some decoded => .ok decoded
      | none => raiseValue "non-hexadecimal number found in fromhex() arg"
  | _ => raiseValue "CometBFT hex bytes are invalid"

def requiredHash (value : PyValue) : Except PyError Bytes := do
  let decoded ← optionalHexBytes value
  if decoded.length ≠ 32 then raiseValue "CometBFT required hash is invalid" else return decoded

def requiredBytes (value : PyValue) (expectedLength : Nat) : Except PyError Bytes := do
  let decoded ← optionalHexBytes value
  if decoded.length ≠ expectedLength then raiseValue "CometBFT required bytes are invalid"
  else return decoded

/-- `_nonnegative_int`. -/
def headerNonnegativeInt (value : PyValue) (fieldName : String) : Except PyError Nat :=
  let invalid := "CometBFT " ++ fieldName ++ " is invalid"
  let checked (result : Int) : Except PyError Nat :=
    if result < 0 then raiseValue invalid else .ok result.toNat
  match value with
  | .int n => checked n
  | .str s =>
    if isDecimalText s then
      match intOfText s with
      | some n => checked n
      | none => raiseValue "Exceeds the limit (4300 digits) for integer string conversion"
    else raiseValue invalid
  | _ => raiseValue invalid

/-- `_positive_int`. -/
def headerPositiveInt (value : PyValue) (fieldName : String) : Except PyError Nat := do
  let result ← headerNonnegativeInt value fieldName
  if result < 1 then raiseValue ("CometBFT " ++ fieldName ++ " must be positive")
  else return result

/-! ## Encoders -/

/-- `_encode_varint`. -/
def headerEncodeVarint (value : Int) : Except PyError Bytes :=
  if value < 0 then raiseValue "CometBFT protobuf integer is invalid"
  else .ok (encodeVarint value.toNat)

/-- `_proto_varint_field`. -/
def headerVarintField (fieldNumber : Nat) (value : Int) : Except PyError Bytes := do
  return encodeVarint (fieldNumber <<< 3) ++ (← headerEncodeVarint value)

/-- `fields.append(_proto_varint_field(…))` for a number that is not zero. -/
def nonzeroVarintField (fieldNumber value : Nat) : Except PyError Bytes :=
  if value = 0 then .ok [] else headerVarintField fieldNumber value

def protobufConsensusVersion (block app : Nat) : Except PyError Bytes := do
  return (← nonzeroVarintField 1 block) ++ (← nonzeroVarintField 2 app)

def protobufBytesWrapper (value : Bytes) : Bytes :=
  if value.isEmpty then [] else protoBytesField 1 value

def protobufStringWrapper (value : String) : Bytes :=
  if value.isEmpty then [] else protoBytesField 1 (utf8Encode value)

/-- `_protobuf_int64_wrapper`. -/
def protobufInt64Wrapper (value : Nat) : Except PyError Bytes := nonzeroVarintField 1 value

/-- `_protobuf_timestamp`. -/
def headerTimestamp (value : String) : Except PyError Bytes := do
  let t ← readTimestamp "CometBFT header time is invalid" value
  let (seconds, nanos) ← utcInstant t
  return (← headerVarintField 1 seconds) ++ (← nonzeroVarintField 2 nanos)

def blockParts (blockId : Fields) : Except PyError Fields :=
  let legacy := PyValue.get blockId "part_set_header"
  let current := PyValue.get blockId "parts"
  if legacy ≠ .none ∧ current ≠ .none then raiseValue "CometBFT block ID has ambiguous parts"
  else mapping (if current ≠ .none then current else legacy) "block part set"

/-- `_protobuf_block_id` with `allow_empty`. -/
def protobufBlockId (value : PyValue) : Except PyError Bytes := do
  if value = .none ∨ value = .str "" then return []
  else
    let blockId ← mapping value "block ID"
    let hashBytes ← optionalHexBytes (PyValue.get blockId "hash")
    let parts ← blockParts blockId
    let total ← headerNonnegativeInt (PyValue.get parts "total") "block part total"
    let partHash ← optionalHexBytes (PyValue.get parts "hash")
    if hashBytes.isEmpty ≠ partHash.isEmpty ∨ (hashBytes.isEmpty ∧ total ≠ 0) then
      raiseValue "CometBFT block ID is incomplete"
    else
      let totalField ← nonzeroVarintField 1 total
      let partsBytes := totalField ++ (if partHash.isEmpty then [] else protoBytesField 2 partHash)
      return protobufBytesWrapper hashBytes ++
        (if partsBytes.isEmpty then [] else protoMessageField 2 partsBytes)

/-- The leaves of `cometbft_header_hash`. -/
def headerLeaves (header : Fields) : Except PyError (List Bytes) := do
  let version ← mapping (PyValue.get header "version") "header version"
  let blockVersion ← headerNonnegativeInt (PyValue.get version "block") "block version"
  let appVersion ← headerNonnegativeInt (version.getD "app" (.int 0)) "app version"
  let chainId ← stringValue (PyValue.get header "chain_id") "header chain_id"
  let height ← headerPositiveInt (PyValue.get header "height") "header height"
  let timestamp ← headerTimestamp (← stringValue (PyValue.get header "time") "header time")
  let lastBlockId ← protobufBlockId (PyValue.get header "last_block_id")
  let versionLeaf ← protobufConsensusVersion blockVersion appVersion
  let heightLeaf ← protobufInt64Wrapper height
  let lastCommitHash ← optionalHexBytes (PyValue.get header "last_commit_hash")
  let dataHash ← optionalHexBytes (PyValue.get header "data_hash")
  let validatorsHash ← requiredHash (PyValue.get header "validators_hash")
  let nextValidatorsHash ← requiredHash (PyValue.get header "next_validators_hash")
  let consensusHash ← optionalHexBytes (PyValue.get header "consensus_hash")
  let appHash ← optionalHexBytes (PyValue.get header "app_hash")
  let lastResultsHash ← optionalHexBytes (PyValue.get header "last_results_hash")
  let evidenceHash ← optionalHexBytes (PyValue.get header "evidence_hash")
  let proposerAddress ← requiredBytes (PyValue.get header "proposer_address") 20
  return [versionLeaf, protobufStringWrapper chainId, heightLeaf, timestamp, lastBlockId,
    protobufBytesWrapper lastCommitHash, protobufBytesWrapper dataHash,
    protobufBytesWrapper validatorsHash, protobufBytesWrapper nextValidatorsHash,
    protobufBytesWrapper consensusHash, protobufBytesWrapper appHash,
    protobufBytesWrapper lastResultsHash, protobufBytesWrapper evidenceHash,
    protobufBytesWrapper proposerAddress]

def cometbftHeaderHash (header : Fields) : Except PyError String := do
  let leaves ← headerLeaves header
  let root ← headerMerkleHash leaves
  return hexEncode true root

/-! ## What is hashed -/

/-- The fourteen decoded fields of a header. -/
structure HeaderContent where
  blockVersion : Nat
  appVersion : Nat
  chainId : String
  height : Nat
  instant : Int × Nat
  lastBlockId : BlockIdContent
  lastCommitHash : Bytes
  dataHash : Bytes
  validatorsHash : Bytes
  nextValidatorsHash : Bytes
  consensusHash : Bytes
  appHash : Bytes
  lastResultsHash : Bytes
  evidenceHash : Bytes
  proposerAddress : Bytes

/-- The last block id of a header, decoded; a missing one has no bytes. -/
def decodedLastBlockId (value : PyValue) : Except PyError BlockIdContent := do
  if value = .none ∨ value = .str "" then return ⟨[], 0, []⟩
  else
    let blockId ← mapping value "block ID"
    let hashBytes ← optionalHexBytes (PyValue.get blockId "hash")
    let parts ← blockParts blockId
    let total ← headerNonnegativeInt (PyValue.get parts "total") "block part total"
    let partHash ← optionalHexBytes (PyValue.get parts "hash")
    if hashBytes.isEmpty ≠ partHash.isEmpty ∨ (hashBytes.isEmpty ∧ total ≠ 0) then
      raiseValue "CometBFT block ID is incomplete"
    else return ⟨hashBytes, total, partHash⟩

def headerInstant (value : String) : Except PyError (Int × Nat) := do
  utcInstant (← readTimestamp "CometBFT header time is invalid" value)

def decodedHeader (header : Fields) : Except PyError HeaderContent := do
  let version ← mapping (PyValue.get header "version") "header version"
  return {
    blockVersion := ← headerNonnegativeInt (PyValue.get version "block") "block version"
    appVersion := ← headerNonnegativeInt (version.getD "app" (.int 0)) "app version"
    chainId := ← stringValue (PyValue.get header "chain_id") "header chain_id"
    height := ← headerPositiveInt (PyValue.get header "height") "header height"
    instant := ← headerInstant (← stringValue (PyValue.get header "time") "header time")
    lastBlockId := ← decodedLastBlockId (PyValue.get header "last_block_id")
    lastCommitHash := ← optionalHexBytes (PyValue.get header "last_commit_hash")
    dataHash := ← optionalHexBytes (PyValue.get header "data_hash")
    validatorsHash := ← requiredHash (PyValue.get header "validators_hash")
    nextValidatorsHash := ← requiredHash (PyValue.get header "next_validators_hash")
    consensusHash := ← optionalHexBytes (PyValue.get header "consensus_hash")
    appHash := ← optionalHexBytes (PyValue.get header "app_hash")
    lastResultsHash := ← optionalHexBytes (PyValue.get header "last_results_hash")
    evidenceHash := ← optionalHexBytes (PyValue.get header "evidence_hash")
    proposerAddress := ← requiredBytes (PyValue.get header "proposer_address") 20 }

def numberFields (number value : Nat) : List WireField :=
  if value = 0 then [] else [⟨number, .varint value⟩]

def byteFields (number : Nat) (value : Bytes) : List WireField :=
  if value = [] then [] else [⟨number, .bytes value⟩]

def lastBlockIdFields (block : BlockIdContent) : List WireField :=
  byteFields 1 block.hash ++
    byteFields 2 (encodeFields (numberFields 1 block.total ++ byteFields 2 block.partHash))

/-- The fields of the fourteen leaves. -/
def HeaderContent.leafFields (c : HeaderContent) : List (List WireField) :=
  [numberFields 1 c.blockVersion ++ numberFields 2 c.appVersion,
    byteFields 1 (utf8Encode c.chainId), numberFields 1 c.height, timestampFields c.instant,
    lastBlockIdFields c.lastBlockId, byteFields 1 c.lastCommitHash, byteFields 1 c.dataHash,
    byteFields 1 c.validatorsHash, byteFields 1 c.nextValidatorsHash,
    byteFields 1 c.consensusHash, byteFields 1 c.appHash, byteFields 1 c.lastResultsHash,
    byteFields 1 c.evidenceHash, byteFields 1 c.proposerAddress]

theorem headerVarintField_natCast (number n : Nat) :
    headerVarintField number n = .ok (WireField.encode ⟨number, .varint n⟩) := by
  have hkey := WireField.shiftLeft_or_wire number (show 0 < 8 by decide)
  rw [Nat.or_zero] at hkey
  rw [headerVarintField, headerEncodeVarint, if_neg (by omega), hkey]
  rfl

theorem nonzeroVarintField_eq (number n : Nat) :
    nonzeroVarintField number n = .ok (encodeFields (numberFields number n)) := by
  rw [nonzeroVarintField, numberFields, headerVarintField_natCast]
  split_ifs <;> simp

theorem bytesField_eq_encodeFields (number : Nat) (value : Bytes) :
    (if value.isEmpty then [] else protoBytesField number value) =
      encodeFields (byteFields number value) := by
  by_cases h : value = [] <;> simp [byteFields, h, protoBytesField_eq]

theorem protobufBytesWrapper_eq (value : Bytes) :
    protobufBytesWrapper value = encodeFields (byteFields 1 value) :=
  bytesField_eq_encodeFields 1 value

theorem protobufStringWrapper_eq (value : String) :
    protobufStringWrapper value = encodeFields (byteFields 1 (utf8Encode value)) := by
  by_cases h : value = "" <;>
    simp [protobufStringWrapper, byteFields, h, utf8Encode_eq_nil, protoBytesField_eq]

/-- The encoder of the header takes instants from the epoch on. -/
theorem headerTimestamp_eq_ok {value : String} {bytes : Bytes}
    (h : headerTimestamp value = .ok bytes) :
    ∃ instant, headerInstant value = .ok instant ∧
      bytes = encodeFields (timestampFields instant) := by
  simp only [headerTimestamp, bind_eq_ok, pure_eq_ok] at h
  obtain ⟨t, ht, ⟨seconds, nanos⟩, hutc, first, hfirst, second, hsecond, rfl⟩ := h
  refine ⟨(seconds, nanos), bind_eq_ok.mpr ⟨t, ht, hutc⟩, ?_⟩
  have hnonneg : 0 ≤ seconds := by
    by_contra hneg
    simp [headerVarintField, headerEncodeVarint, not_le.mp hneg, raiseValue, bind, Except.bind]
      at hfirst
  obtain ⟨n, rfl⟩ := Int.eq_ofNat_of_zero_le hnonneg
  rw [headerVarintField_natCast] at hfirst
  rw [nonzeroVarintField_eq] at hsecond
  cases hfirst
  cases hsecond
  simp only [timestampFields, unsigned_natCast, encodeFields_cons]
  rfl

/-- The bytes of a last block id are its fields. -/
theorem protobufBlockId_eq (value : PyValue) :
    protobufBlockId value = (decodedLastBlockId value).map (encodeFields ∘ lastBlockIdFields) := by
  rw [protobufBlockId, decodedLastBlockId]
  split_ifs
  · rfl
  · cases mapping value "block ID" with
    | error e => rfl
    | ok blockId =>
      simp only [bind, Except.bind]
      cases optionalHexBytes (PyValue.get blockId "hash") with
      | error e => rfl
      | ok hashBytes =>
        cases blockParts blockId with
        | error e => rfl
        | ok parts =>
          simp only
          cases headerNonnegativeInt (PyValue.get parts "total") "block part total" with
          | error e => rfl
          | ok total =>
            simp only
            cases optionalHexBytes (PyValue.get parts "hash") with
            | error e => rfl
            | ok partHash =>
              simp only
              split
              · rfl
              · simp only [nonzeroVarintField_eq, protoMessageField, bytesField_eq_encodeFields,
                  protobufBytesWrapper_eq, ← encodeFields_append]
                rfl

/-- The leaves of an accepted header are its decoded fields. -/
theorem headerLeaves_eq_ok {header : Fields} {leaves : List Bytes}
    (h : headerLeaves header = .ok leaves) :
    ∃ content, decodedHeader header = .ok content ∧
      leaves = content.leafFields.map encodeFields := by
  simp only [headerLeaves, bind_eq_ok, pure_eq_ok] at h
  obtain ⟨version, hversion, blockVersion, hblockVersion, appVersion, happVersion, chainId,
    hchainId,
    height, hheight, time, htime, timestamp, htimestamp, lastBlockId, hlastBlockId, versionLeaf,
    hversionLeaf, heightLeaf, hheightLeaf, lastCommitHash, hlastCommitHash, dataHash, hdataHash,
    validatorsHash, hvalidatorsHash, nextValidatorsHash, hnextValidatorsHash, consensusHash,
    hconsensusHash, appHash, happHash, lastResultsHash, hlastResultsHash, evidenceHash,
    hevidenceHash, proposerAddress, hproposerAddress, rfl⟩ := h
  obtain ⟨instant, hinstant, rfl⟩ := headerTimestamp_eq_ok htimestamp
  rw [protobufBlockId_eq] at hlastBlockId
  cases hblock : decodedLastBlockId (PyValue.get header "last_block_id") with
  | error e => rw [hblock] at hlastBlockId; cases hlastBlockId
  | ok block =>
    rw [hblock] at hlastBlockId
    cases hlastBlockId
    refine ⟨⟨blockVersion, appVersion, chainId, height, instant, block, lastCommitHash, dataHash,
      validatorsHash, nextValidatorsHash, consensusHash, appHash, lastResultsHash, evidenceHash,
      proposerAddress⟩, ?_, ?_⟩
    · simp only [decodedHeader, hversion, hblockVersion, happVersion, hchainId, hheight, htime,
        hinstant, hblock, hlastCommitHash, hdataHash, hvalidatorsHash, hnextValidatorsHash,
        hconsensusHash, happHash, hlastResultsHash, hevidenceHash, hproposerAddress, bind,
        Except.bind, pure, Except.pure]
    · simp only [protobufConsensusVersion, protobufInt64Wrapper, nonzeroVarintField_eq, bind,
        Except.bind, pure, Except.pure, Except.ok.injEq] at hversionLeaf hheightLeaf
      rw [← hversionLeaf, ← hheightLeaf]
      simp only [HeaderContent.leafFields, map_cons, map_nil, protobufStringWrapper_eq,
        protobufBytesWrapper_eq, encodeFields_append, Function.comp_apply]

/-! ## The leaves determine the header -/

theorem sized_numberFields (number value : Nat) :
    ∀ f ∈ numberFields number value, f.value.Sized := by
  rw [numberFields]
  split_ifs <;> simp [WireValue.Sized]

theorem sized_byteFields (number : Nat) (value : Bytes) :
    ∀ f ∈ byteFields number value, f.value.Sized := by
  rw [byteFields]
  split_ifs <;> simp [WireValue.Sized]

theorem sized_append {fields more : List WireField} (h : ∀ f ∈ fields, f.value.Sized)
    (h' : ∀ f ∈ more, f.value.Sized) : ∀ f ∈ fields ++ more, f.value.Sized := by
  intro f hf
  rcases mem_append.mp hf with hf | hf
  · exact h f hf
  · exact h' f hf

theorem sized_leafFields (c : HeaderContent) :
    ∀ fields ∈ c.leafFields, ∀ f ∈ fields, f.value.Sized := by
  simp only [HeaderContent.leafFields, mem_cons, not_mem_nil, or_false,
    forall_eq_or_imp, forall_eq]
  exact ⟨sized_append (sized_numberFields _ _) (sized_numberFields _ _), sized_byteFields _ _,
    sized_numberFields _ _, sized_timestampFields _,
    sized_append (sized_byteFields _ _) (sized_byteFields _ _), sized_byteFields _ _,
    sized_byteFields _ _, sized_byteFields _ _, sized_byteFields _ _, sized_byteFields _ _,
    sized_byteFields _ _, sized_byteFields _ _, sized_byteFields _ _, sized_byteFields _ _⟩

theorem numberFields_inj {number a b : Nat} (h : numberFields number a = numberFields number b) :
    a = b := by
  rw [numberFields, numberFields] at h
  split_ifs at h with ha hb
  · rw [ha, hb]
  · simpa using h

theorem byteFields_inj {number : Nat} {a b : Bytes}
    (h : byteFields number a = byteFields number b) :
    a = b := by
  rw [byteFields, byteFields] at h
  split_ifs at h with ha hb
  · rw [ha, hb]
  · simpa using h

/-- Two optional fields with different numbers are determined by their list. -/
theorem optionalFields_inj {fields fields' more more' : List WireField} {number number' : Nat}
    (hne : number ≠ number') (hf : ∀ f ∈ fields, f.number = number)
    (hf' : ∀ f ∈ fields', f.number = number) (hm : ∀ f ∈ more, f.number = number')
    (hm' : ∀ f ∈ more', f.number = number') (h : fields ++ more = fields' ++ more') :
    fields = fields' ∧ more = more' := by
  have hleft : ∀ xs ys : List WireField, (∀ f ∈ xs, f.number = number) →
      (∀ f ∈ ys, f.number = number') → (xs ++ ys).filter (·.number == number) = xs := by
    intro xs ys hx hy
    rw [filter_append, filter_eq_self.mpr (by simpa using hx),
      filter_eq_nil_iff.mpr (by intro f hf; simpa [hy f hf] using hne.symm), append_nil]
  have hfields : fields = fields' := by
    rw [← hleft fields more hf hm, h, hleft fields' more' hf' hm']
  refine ⟨hfields, ?_⟩
  rw [hfields] at h
  exact append_cancel_left h

theorem number_of_mem_numberFields {number value : Nat} :
    ∀ f ∈ numberFields number value, f.number = number := by
  rw [numberFields]
  split_ifs <;> simp

theorem number_of_mem_byteFields {number : Nat} {value : Bytes} :
    ∀ f ∈ byteFields number value, f.number = number := by
  rw [byteFields]
  split_ifs <;> simp

/-- A last block id is determined by its fields. -/
theorem lastBlockIdFields_inj {a b : BlockIdContent}
    (h : lastBlockIdFields a = lastBlockIdFields b) : a = b := by
  obtain ⟨hash, total, partHash⟩ := a
  obtain ⟨hash', total', partHash'⟩ := b
  obtain ⟨hhash, hparts⟩ := optionalFields_inj (by decide) number_of_mem_byteFields
    number_of_mem_byteFields number_of_mem_byteFields number_of_mem_byteFields h
  have hparts := encodeFields_inj (sized_append (sized_numberFields _ _) (sized_byteFields _ _))
    (sized_append (sized_numberFields _ _) (sized_byteFields _ _)) (byteFields_inj hparts)
  obtain ⟨htotal, hpart⟩ := optionalFields_inj (by decide) number_of_mem_numberFields
    number_of_mem_numberFields number_of_mem_byteFields number_of_mem_byteFields hparts
  obtain rfl := byteFields_inj hhash
  obtain rfl := numberFields_inj htotal
  obtain rfl := byteFields_inj hpart
  rfl

/-- A header whose instant is one of `datetime` is determined by its fields. -/
theorem leafFields_inj {c d : HeaderContent}
    (hc : firstSecond ≤ c.instant.1 ∧ c.instant.1 ≤ lastSecond)
    (hd : firstSecond ≤ d.instant.1 ∧ d.instant.1 ≤ lastSecond)
    (h : c.leafFields = d.leafFields) : c = d := by
  simp only [HeaderContent.leafFields, List.cons.injEq, and_true] at h
  obtain ⟨hversion, hchain, hheight, hinstant, hblock, h6, h7, h8, h9, h10, h11, h12, h13, h14⟩ := h
  obtain ⟨hblockVersion, happVersion⟩ := optionalFields_inj (by decide) number_of_mem_numberFields
    number_of_mem_numberFields number_of_mem_numberFields number_of_mem_numberFields hversion
  have hinstant := timestampFields_inj hc hd hinstant
  cases c
  cases d
  simp only [HeaderContent.mk.injEq]
  exact ⟨numberFields_inj hblockVersion, numberFields_inj happVersion,
    utf8Encode_inj (byteFields_inj hchain), numberFields_inj hheight, hinstant,
    lastBlockIdFields_inj hblock, byteFields_inj h6, byteFields_inj h7, byteFields_inj h8,
    byteFields_inj h9, byteFields_inj h10, byteFields_inj h11, byteFields_inj h12,
    byteFields_inj h13, byteFields_inj h14⟩

/-- The instant of a decoded header is one of `datetime`. -/
theorem instant_range {header : Fields} {content : HeaderContent}
    (h : decodedHeader header = .ok content) :
    firstSecond ≤ content.instant.1 ∧ content.instant.1 ≤ lastSecond := by
  simp only [decodedHeader, bind_eq_ok, pure_eq_ok] at h
  obtain ⟨version, -, blockVersion, -, appVersion, -, chainId, -, height, -, time, -, instant,
    hinstant, block, -, c6, -, c7, -, c8, -, c9, -, c10, -, c11, -, c12, -, c13, -, c14, -,
      rfl⟩ := h
  obtain ⟨t, -, hutc⟩ := bind_eq_ok.mp hinstant
  rw [utcInstant] at hutc
  split_ifs at hutc with hrange
  cases hutc
  exact hrange

/-! ## Hashes -/

/-- The byte strings hashed for a header: its leaves and the nodes over them. -/
def headerMessages (header : Fields) : List Bytes :=
  match headerLeaves header with
  | .ok leaves => leaves.map (0x00 :: ·) ++ (merkleTree.joined leaves).map joinMessage
  | .error _ => []

/-- Two headers with one hash have the same decoded fields, when SHA-256 has no collision
between the strings hashed at one place of the two trees. -/
theorem headerHash_inj {header header' : Fields} {hash : String}
    (hfree : ∀ p ∈ (headerMessages header).zip (headerMessages header'),
      sha256 p.1 = sha256 p.2 → p.1 = p.2)
    (h : cometbftHeaderHash header = .ok hash) (h' : cometbftHeaderHash header' = .ok hash) :
    ∃ content, decodedHeader header = .ok content ∧ decodedHeader header' = .ok content := by
  simp only [cometbftHeaderHash, bind_eq_ok, pure_eq_ok] at h h'
  obtain ⟨leaves, hleaves, root, hroot, rfl⟩ := h
  obtain ⟨leaves', hleaves', root', hroot', hhex⟩ := h'
  obtain rfl := hexEncode_inj hhex
  obtain ⟨content, hcontent, hfields⟩ := headerLeaves_eq_ok hleaves
  obtain ⟨content', hcontent', hfields'⟩ := headerLeaves_eq_ok hleaves'
  have hne : leaves ≠ [] := by rw [hfields]; simp [HeaderContent.leafFields]
  have hne' : leaves' ≠ [] := by rw [hfields']; simp [HeaderContent.leafFields]
  have hlen : leaves.length = leaves'.length := by rw [hfields, hfields']; rfl
  rw [headerMerkleHash_eq hne, merkleHash_eq_root] at hroot
  rw [headerMerkleHash_eq hne', merkleHash_eq_root] at hroot'
  have hsame : leaves = leaves' := by
    simp only [headerMessages, hleaves, hleaves'] at hfree
    rw [zip_append (by simp [hlen]), zip_map, zip_map] at hfree
    refine merkleTree.root_inj hlen (fun p hp hleaf => ?_) (fun p hp hinner => ?_)
      ((Except.ok.inj hroot).trans (Except.ok.inj hroot').symm)
    · have := hfree _ (mem_append_left _ (mem_map_of_mem hp)) hleaf
      exact (List.cons.inj this).2
    · obtain ⟨hleft, hright⟩ := of_mem_zip hp
      exact joinMessage_inj (length_of_mem_joined hleft) (length_of_mem_joined hright)
        (hfree _ (mem_append_right _ (mem_map_of_mem hp)) hinner)
  refine ⟨content, hcontent, ?_⟩
  have hleafFields : content.leafFields = content'.leafFields := by
    rw [hfields, hfields'] at hsame
    exact map_encodeFields_inj (sized_leafFields _) (sized_leafFields _) hsame
  rw [leafFields_inj (instant_range hcontent) (instant_range hcontent') hleafFields]
  exact hcontent'

/-- What is signed is unambiguous. The sign bytes of a vote determine the chain, the height,
the round, the decoded block id and the instant; timestamps of one instant in two zones sign
alike; and the hash of a header determines its fourteen decoded fields, as far as SHA-256 has
no collision between the strings hashed at one place of the two trees. -/
theorem signed_bytes_unambiguous :
    (∀ (chainId chainId' : String) (height height' roundNumber roundNumber' : Int)
      (blockId blockId' : Option Fields) (timestamp timestamp' : String) (bytes : Bytes),
      cometbftVoteSignBytes chainId height roundNumber blockId timestamp = .ok bytes →
      cometbftVoteSignBytes chainId' height' roundNumber' blockId' timestamp' = .ok bytes →
      chainId = chainId' ∧ height = height' ∧ roundNumber = roundNumber' ∧
        (∃ block, decodedVoteBlock blockId = .ok block ∧ decodedVoteBlock blockId' = .ok block) ∧
        ∃ instant, signedInstant timestamp = .ok instant ∧
          signedInstant timestamp' = .ok instant) ∧
    (∀ (chainId : String) (height roundNumber : Int) (blockId : Option Fields)
      (timestamp timestamp' : String) (t t' : Timestamp),
      readTimestamp "CometBFT timestamp must be RFC3339 with a timezone" timestamp = .ok t →
      readTimestamp "CometBFT timestamp must be RFC3339 with a timezone" timestamp' = .ok t' →
      t.instant = t'.instant →
      cometbftVoteSignBytes chainId height roundNumber blockId timestamp =
        cometbftVoteSignBytes chainId height roundNumber blockId timestamp') ∧
    ∀ (header header' : Fields) (hash : String),
      (∀ p ∈ (headerMessages header).zip (headerMessages header'),
        sha256 p.1 = sha256 p.2 → p.1 = p.2) →
      cometbftHeaderHash header = .ok hash → cometbftHeaderHash header' = .ok hash →
      ∃ content, decodedHeader header = .ok content ∧ decodedHeader header' = .ok content :=
  ⟨fun _ _ _ _ _ _ _ _ _ _ _ h h' => voteSignBytes_inj h h',
    fun chainId height roundNumber blockId _ _ _ _ h h' hinstant =>
      voteSignBytes_congr h h' hinstant chainId height roundNumber blockId,
    fun _ _ _ hfree h h' => headerHash_inj hfree h h'⟩

def headerAt (time : String) : Fields :=
  let digest (b : UInt8) : PyValue := .str (hexEncode true (List.replicate 32 b))
  [("version", .dict [("block", .str "11")]), ("chain_id", .str "aidn"), ("height", .str "7"),
    ("time", .str time), ("last_block_id", .dict [("hash", digest 1), ("parts", .dict [("total",
    .int 1), ("hash", digest 2)])]), ("last_commit_hash", .str ""), ("data_hash", digest 4),
    ("validators_hash", digest 5), ("next_validators_hash", digest 6), ("consensus_hash", digest 7),
    ("app_hash", digest 8), ("last_results_hash", digest 9), ("evidence_hash", .none),
    ("proposer_address", .str (hexEncode true (List.replicate 20 10)))]

theorem noon_and_two_signed_alike :
    (∃ instant, signedInstant "2024-01-01T12:00:00.5Z" = .ok instant ∧
      signedInstant "2024-01-01T14:00:00.50+02:00" = .ok instant) ∧
    ∃ content, decodedHeader (headerAt "2024-01-01T12:00:00Z") = .ok content ∧
      decodedHeader (headerAt "2024-01-01T14:00:00+02:00") = .ok content := by
  obtain ⟨hvotes, hzones, hheaders⟩ := signed_bytes_unambiguous
  constructor
  · have hbytes := hzones "aidn" 7 0 none "2024-01-01T12:00:00.5Z" "2024-01-01T14:00:00.50+02:00"
      _ _ rfl rfl (by decide +kernel)
    have hsigned : (cometbftVoteSignBytes "aidn" 7 0 none "2024-01-01T12:00:00.5Z").isOk := by
      decide +kernel
    cases h : cometbftVoteSignBytes "aidn" 7 0 none "2024-01-01T12:00:00.5Z" with
    | error e => rw [h] at hsigned; cases hsigned
    | ok bytes => exact (hvotes _ _ _ _ _ _ _ _ _ _ bytes h (hbytes ▸ h)).2.2.2.2
  · have hleaves : headerLeaves (headerAt "2024-01-01T14:00:00+02:00") =
        headerLeaves (headerAt "2024-01-01T12:00:00Z") := by decide +kernel
    have hread : (headerLeaves (headerAt "2024-01-01T12:00:00Z")).toOption.any (· ≠ []) := by
      decide +kernel
    cases h : headerLeaves (headerAt "2024-01-01T12:00:00Z") with
    | error e => rw [h] at hread; cases hread
    | ok leaves =>
      have hne : leaves ≠ [] := by simpa [h, Except.toOption] using hread
      refine hheaders _ _ (hexEncode true (merkleHash leaves)) ?_ ?_ ?_
      · rw [headerMessages, headerMessages, hleaves]
        simp [List.zip, List.zipWith_self]
      · simp [cometbftHeaderHash, h, headerMerkleHash_eq hne, bind, Except.bind, pure, Except.pure]
      · simp [cometbftHeaderHash, hleaves, h, headerMerkleHash_eq hne, bind, Except.bind, pure,
          Except.pure]

end AidnSpec.Consensus
