import AidnSpec.Base.ProtobufWire
import AidnSpec.Base.Schema

/-!
# Vote sign bytes

`consensus/cometbft_crypto.py:30–33, 78–100, 274–306, 354–418`: RFC 3339 timestamps with
nanoseconds, and the bytes that a precommit signs. Python's `\d` and `str.isdecimal` take every
Unicode decimal digit; `datetime.fromisoformat` takes ASCII digits only. A `struct.error` is an
overflow here: the caller that handles one handles the other.
-/

namespace AidnSpec.Consensus

open Base

/-! ## Timestamps -/

/-- `\d`. -/
def isDecimal (c : Char) : Bool := (decimalValue c).isSome

/-- The number that a run of decimal digits spells. -/
def decimalNumber (cs : List Char) : Nat :=
  cs.foldl (fun acc c => 10 * acc + (decimalValue c).getD 0) 0

/-- Match a template in which `d` stands for a decimal digit; what is left. -/
def matchTemplate : (template : List Char) → List Char → Option (List Char)
  | [], cs => some cs
  | _ :: _, [] => none
  | t :: template, c :: cs =>
    if (if t = 'd' then isDecimal c else c == t) then matchTemplate template cs else none

/-- The fraction of the regular expression: its digits, and what is left. -/
def matchFraction : List Char → Option (List Char × List Char)
  | '.' :: cs =>
    let digits := cs.takeWhile isDecimal
    if 1 ≤ digits.length ∧ digits.length ≤ 9 then some (digits, cs.drop digits.length) else none
  | cs => some ([], cs)

/-- The zone of the regular expression as its sign and the four digits behind it; `Z` has
none. -/
def matchZone : List Char → Option (Option (Bool × List Char))
  | ['Z'] => some none
  | '+' :: cs => if matchTemplate "dd:dd".toList cs = some [] then some (some (false, cs)) else none
  | '-' :: cs => if matchTemplate "dd:dd".toList cs = some [] then some (some (true, cs)) else none
  | _ => none

/-- `_TIMESTAMP_RE.fullmatch`: date and time, fraction, zone. -/
def matchTimestamp (value : String) :
    Option (List Char × List Char × Option (Bool × List Char)) := do
  let rest ← matchTemplate "dddd-dd-ddTdd:dd:dd".toList value.toList
  let (fraction, rest) ← matchFraction rest
  let zone ← matchZone rest
  return (value.toList.take 19, fraction, zone)

/-- Days of a month of the proleptic Gregorian calendar. -/
def daysInMonth (year month : Nat) : Nat :=
  if month = 2 then
    if year % 4 = 0 ∧ (year % 100 ≠ 0 ∨ year % 400 = 0) then 29 else 28
  else if [4, 6, 9, 11].contains month then 30
  else 31

/-- `datetime.toordinal`: the first of January of year one is day one. -/
def toOrdinal (year month day : Nat) : Nat :=
  365 * (year - 1) + (year - 1) / 4 - (year - 1) / 100 + (year - 1) / 400 +
    ((List.range (month - 1)).map fun m => daysInMonth year (m + 1)).sum + day

/-- `datetime(1970, 1, 1).toordinal()`. -/
def epochOrdinal : Nat := 719163

/-- The part of `datetime.fromisoformat` that reads an ASCII number. -/
def asciiNumber (cs : List Char) : Option Nat :=
  if cs.all Char.isDigit then some (decimalNumber cs) else none

/-- `datetime.fromisoformat` on a date and a time without fraction and zone, in seconds after
the epoch. -/
def localSeconds (cs : List Char) : Option Int := do
  let year ← asciiNumber (cs.take 4)
  let month ← asciiNumber ((cs.drop 5).take 2)
  let day ← asciiNumber ((cs.drop 8).take 2)
  let hour ← asciiNumber ((cs.drop 11).take 2)
  let minute ← asciiNumber ((cs.drop 14).take 2)
  let second ← asciiNumber ((cs.drop 17).take 2)
  if 1 ≤ year ∧ 1 ≤ month ∧ month ≤ 12 ∧ 1 ≤ day ∧ day ≤ daysInMonth year month ∧ hour < 24 ∧
      minute < 60 ∧ second < 60 then
    some (86400 * ((toOrdinal year month day : Int) - epochOrdinal) + 3600 * hour + 60 * minute +
      second)
  else none

/-- A timestamp before it is moved to UTC: the local time and the offset of its zone, in
seconds, and the nanoseconds. -/
structure Timestamp where
  localTime : Int
  offset : Int
  nanos : Nat

/-- The instant of a timestamp: seconds after the epoch in UTC, and nanoseconds. -/
def Timestamp.instant (t : Timestamp) : Int × Nat := (t.localTime - t.offset, t.nanos)

/-- The offset of a zone in seconds; `timezone` takes less than a day. -/
def zoneOffset : Option (Bool × List Char) → Except PyError Int
  | none => .ok 0
  | some (negative, cs) =>
    let seconds := 3600 * decimalNumber (cs.take 2) + 60 * decimalNumber (cs.drop 3)
    if seconds < 86400 then .ok (if negative then -seconds else seconds)
    else raiseValue "offset must be strictly between -24 and 24 hours"

/-- The reading part of `_protobuf_timestamp`. -/
def readTimestamp (complaint value : String) : Except PyError Timestamp :=
  match matchTimestamp value with
  | none => raiseValue complaint
  | some (dateTime, fraction, zone) => do
    let offset ← zoneOffset zone
    match localSeconds dateTime with
    | none => raiseValue "Invalid isoformat string"
    | some localTime =>
      return ⟨localTime, offset, decimalNumber (fraction ++ List.replicate (9 - fraction.length)
        '0')⟩

/-- The first and the last second of `datetime`. -/
def firstSecond : Int := -62135596800

@[inherit_doc firstSecond]
def lastSecond : Int := 253402300799

/-- `parsed.astimezone(UTC) - epoch`: the instant, inside the range of `datetime`. -/
def utcInstant (t : Timestamp) : Except PyError (Int × Nat) :=
  if firstSecond ≤ t.instant.1 ∧ t.instant.1 ≤ lastSecond then .ok t.instant
  else .error ⟨.overflow, "date value out of range"⟩

/-- The last day of a leap February, an hour apart from UTC. -/
example : (readTimestamp "" "2024-02-29T23:30:00.25-01:00").map Timestamp.instant =
    .ok (1709253000, 250000000) := by
  decide +kernel

/-! ## Encoders -/

/-- `_proto_varint_field`; a negative value is taken modulo `2 ^ 64`. -/
def protoVarintField (fieldNumber : Nat) (value : Int) : Bytes :=
  encodeVarint (fieldNumber <<< 3) ++ encodeVarint (unsigned value)

/-- `struct.pack("<q", value)`. -/
def packInt64 (value : Int) : Except PyError Bytes :=
  if -2 ^ 63 ≤ value ∧ value < 2 ^ 63 then .ok (littleEndian 8 (unsigned value))
  else .error ⟨.overflow, "int too large to convert"⟩

/-- `_proto_fixed64_field`. -/
def protoFixed64Field (fieldNumber : Nat) (value : Int) : Except PyError Bytes := do
  return encodeVarint (fieldNumber <<< 3 ||| 1) ++ (← packInt64 value)

def protoBytesField (fieldNumber : Nat) (value : Bytes) : Bytes :=
  encodeVarint (fieldNumber <<< 3 ||| 2) ++ encodeVarint value.length ++ value

def protoMessageField (fieldNumber : Nat) (value : Bytes) : Bytes :=
  protoBytesField fieldNumber value

def requiredString (value : PyValue) (fieldName : String) : Except PyError String :=
  match value with
  | .str s => if s.isEmpty then raiseValue ("CometBFT " ++ fieldName ++ " is missing") else .ok s
  | _ => raiseValue ("CometBFT " ++ fieldName ++ " is missing")

def decodeHex (value : String) (expectedLength : Nat) : Except PyError Bytes :=
  if value.length ≠ expectedLength * 2 ∨ ¬ value.toList.all (fun c => (hexValue c).isSome) then
    raiseValue "CometBFT hash has an invalid length or encoding"
  else
    match fromHex value with
    | some decoded => .ok decoded
    | none => raiseValue "non-hexadecimal number found in fromhex() arg"

/-- `value.isdecimal()`. -/
def isDecimalText (s : String) : Bool := !s.isEmpty && s.toList.all isDecimal

def parseNonnegativeInt (value : PyValue) (fieldName : String) : Except PyError Nat :=
  let invalid := "CometBFT " ++ fieldName ++ " is invalid"
  let checked (result : Int) : Except PyError Nat :=
    if result < 0 then raiseValue ("CometBFT " ++ fieldName ++ " must not be negative")
    else .ok result.toNat
  match value with
  | .int n => checked n
  | .str s =>
    if isDecimalText s then
      match intOfText s with
      | some n => checked n
      | none => raiseValue "Exceeds the limit (4300 digits) for integer string conversion"
    else raiseValue invalid
  | _ => raiseValue invalid

def partSetHeader (blockId : Fields) : PyValue :=
  if blockId.has "parts" then PyValue.get blockId "parts" else PyValue.get blockId "part_set_header"

def canonicalBlockId (blockId : Fields) : Except PyError Bytes := do
  let blockHash ← decodeHex (← requiredString (PyValue.get blockId "hash") "block hash") 32
  if blockId.has "parts" ∧ blockId.has "part_set_header" then
    raiseValue "CometBFT block ID parts are ambiguous"
  else
    match partSetHeader blockId with
    | .dict header => do
      let total ← parseNonnegativeInt (PyValue.get header "total") "part set total"
      let partHash ← decodeHex (← requiredString (PyValue.get header "hash") "part set hash") 32
      let partSet := protoVarintField 1 total ++ protoBytesField 2 partHash
      return protoBytesField 1 blockHash ++ protoMessageField 2 partSet
    | _ => raiseValue "CometBFT block part set header is missing"

def protobufTimestamp (value : String) : Except PyError Bytes := do
  let t ← readTimestamp "CometBFT timestamp must be RFC3339 with a timezone" value
  let (seconds, nanos) ← utcInstant t
  return protoVarintField 1 seconds ++ (if nanos ≠ 0 then protoVarintField 2 nanos else [])

/-- `if value: fields.append(_proto_fixed64_field(…))`. -/
def nonzeroFixed64 (fieldNumber : Nat) (value : Int) : Except PyError Bytes :=
  if value = 0 then .ok [] else protoFixed64Field fieldNumber value

/-- `if block_id is not None: fields.append(…)`. -/
def voteBlockField : Option Fields → Except PyError Bytes
  | none => .ok []
  | some blockId => (canonicalBlockId blockId).map (protoMessageField 4)

def cometbftVoteSignBytes (chainId : String) (height roundNumber : Int) (blockId : Option Fields)
    (timestamp : String) : Except PyError Bytes := do
  require (!(height < 0 || roundNumber < 0)) "CometBFT vote height and round must not be negative"
  let heightField ← nonzeroFixed64 2 height
  let roundField ← nonzeroFixed64 3 roundNumber
  let blockField ← voteBlockField blockId
  let timestampField ← protobufTimestamp timestamp
  let chainField := if chainId.isEmpty then [] else protoBytesField 6 (utf8Encode chainId)
  let payload := protoVarintField 1 2 ++ heightField ++ roundField ++ blockField ++
    protoMessageField 5 timestampField ++ chainField
  return encodeVarint payload.length ++ payload

/-! ## What is signed -/

/-- A decoded block id. -/
structure BlockIdContent where
  hash : Bytes
  total : Nat
  partHash : Bytes

def decodedBlockId (blockId : Fields) : Except PyError BlockIdContent := do
  let blockHash ← decodeHex (← requiredString (PyValue.get blockId "hash") "block hash") 32
  if blockId.has "parts" ∧ blockId.has "part_set_header" then
    raiseValue "CometBFT block ID parts are ambiguous"
  else
    match partSetHeader blockId with
    | .dict header => do
      let total ← parseNonnegativeInt (PyValue.get header "total") "part set total"
      let partHash ← decodeHex (← requiredString (PyValue.get header "hash") "part set hash") 32
      return ⟨blockHash, total, partHash⟩
    | _ => raiseValue "CometBFT block part set header is missing"

/-- The instant that a timestamp of a vote stands for. -/
def signedInstant (value : String) : Except PyError (Int × Nat) := do
  utcInstant (← readTimestamp "CometBFT timestamp must be RFC3339 with a timezone" value)

def decodedVoteBlock : Option Fields → Except PyError (Option BlockIdContent)
  | none => .ok none
  | some blockId => (decodedBlockId blockId).map some

def timestampFields (instant : Int × Nat) : List WireField :=
  ⟨1, .varint (unsigned instant.1)⟩ ::
    (if instant.2 = 0 then [] else [⟨2, .varint instant.2⟩])

def partSetFields (block : BlockIdContent) : List WireField :=
  [⟨1, .varint block.total⟩, ⟨2, .bytes block.partHash⟩]

def blockIdFields (block : BlockIdContent) : List WireField :=
  [⟨1, .bytes block.hash⟩, ⟨2, .bytes (encodeFields (partSetFields block))⟩]

/-- The optional fixed-width field of an integer. -/
def int64Fields (number : Nat) (value : Int) : List WireField :=
  if value = 0 then [] else [⟨number, .fixed64 (littleEndian 8 (unsigned value))⟩]

def voteFields (chainId : String) (height roundNumber : Int) (block : Option BlockIdContent)
    (instant : Int × Nat) : List WireField :=
  [⟨1, .varint 2⟩] ++ int64Fields 2 height ++ int64Fields 3 roundNumber ++
    (block.map fun b => ⟨4, .bytes (encodeFields (blockIdFields b))⟩).toList ++
    [⟨5, .bytes (encodeFields (timestampFields instant))⟩] ++
    (if chainId = "" then [] else [⟨6, .bytes (utf8Encode chainId)⟩])

theorem protoVarintField_eq (number : Nat) (value : Int) :
    protoVarintField number value = WireField.encode ⟨number, .varint (unsigned value)⟩ := by
  have hkey := WireField.shiftLeft_or_wire number (show 0 < 8 by decide)
  rw [Nat.or_zero] at hkey
  rw [protoVarintField, hkey]
  rfl

theorem protoBytesField_eq (number : Nat) (value : Bytes) :
    protoBytesField number value = WireField.encode ⟨number, .bytes value⟩ := by
  rw [protoBytesField, WireField.shiftLeft_or_wire number (by decide), List.append_assoc]
  rfl

/-- The bytes of a timestamp are its fields. -/
theorem protobufTimestamp_eq (value : String) :
    protobufTimestamp value = (signedInstant value).map (encodeFields ∘ timestampFields) := by
  rw [protobufTimestamp, signedInstant]
  cases readTimestamp "CometBFT timestamp must be RFC3339 with a timezone" value with
  | error e => rfl
  | ok t =>
    simp only [bind, Except.bind]
    cases utcInstant t with
    | error e => rfl
    | ok instant =>
      obtain ⟨seconds, nanos⟩ := instant
      by_cases h : nanos = 0 <;>
        simp [h, timestampFields, protoVarintField_eq, unsigned_natCast, Except.map, pure,
          Except.pure]

/-- The bytes of a block id are its fields. -/
theorem canonicalBlockId_eq (blockId : Fields) :
    canonicalBlockId blockId = (decodedBlockId blockId).map (encodeFields ∘ blockIdFields) := by
  rw [canonicalBlockId, decodedBlockId]
  cases requiredString (PyValue.get blockId "hash") "block hash" with
  | error e => rfl
  | ok text =>
    simp only [bind, Except.bind]
    cases decodeHex text 32 with
    | error e => rfl
    | ok blockHash =>
      simp only
      split_ifs
      · rfl
      · cases partSetHeader blockId with
        | dict header =>
          simp only
          cases parseNonnegativeInt (PyValue.get header "total") "part set total" with
          | error e => rfl
          | ok total =>
            simp only
            cases requiredString (PyValue.get header "hash") "part set hash" with
            | error e => rfl
            | ok text =>
              simp only
              cases decodeHex text 32 with
              | error e => rfl
              | ok partHash =>
                simp [protoVarintField_eq, protoBytesField_eq, protoMessageField, unsigned_natCast,
                  blockIdFields, partSetFields, Except.map, pure, Except.pure]
        | _ => rfl

variable {number : Nat} {bytes : Bytes} {chainId timestamp chainId' timestamp' : String}
  {height roundNumber height' roundNumber' : Int} {blockId : Option Fields} {instant : Int × Nat}

/-- A nonzero integer of 64 bits is one field. -/
theorem nonzeroFixed64_eq_ok {value : Int} (h : nonzeroFixed64 number value = .ok bytes) :
    -2 ^ 63 ≤ value ∧ value < 2 ^ 63 ∧ bytes = encodeFields (int64Fields number value) := by
  rw [nonzeroFixed64] at h
  rw [int64Fields]
  split_ifs at h ⊢ with hzero
  · cases h
    exact ⟨by omega, by omega, rfl⟩
  · obtain ⟨packed, hpacked, hbytes⟩ := bind_eq_ok.mp h
    rw [packInt64] at hpacked
    split_ifs at hpacked with hrange
    cases hpacked
    cases hbytes
    refine ⟨hrange.1, hrange.2, ?_⟩
    rw [encodeFields_cons, encodeFields_nil, List.append_nil,
      WireField.shiftLeft_or_wire number (by decide)]
    rfl

/-- The bytes that are signed are the length and the fields of the decoded vote. -/
theorem cometbftVoteSignBytes_eq_ok
    (h : cometbftVoteSignBytes chainId height roundNumber blockId timestamp = .ok bytes) :
    ∃ block instant, decodedVoteBlock blockId = .ok block ∧ signedInstant timestamp = .ok instant ∧
      0 ≤ height ∧ height < 2 ^ 63 ∧ 0 ≤ roundNumber ∧ roundNumber < 2 ^ 63 ∧
      bytes = encodeVarint (encodeFields
        (voteFields chainId height roundNumber block instant)).length ++
          encodeFields (voteFields chainId height roundNumber block instant) := by
  simp only [cometbftVoteSignBytes, bind_eq_ok, require_eq_ok] at h
  obtain ⟨_, hsigns, heightField, hheight, roundField, hround, blockField, hblock, timeField,
    htime, hbytes⟩ := h
  obtain ⟨-, hheight', rfl⟩ := nonzeroFixed64_eq_ok hheight
  obtain ⟨-, hround', rfl⟩ := nonzeroFixed64_eq_ok hround
  simp only [Bool.not_eq_true', Bool.or_eq_false_iff, decide_eq_false_iff_not, not_lt] at hsigns
  rw [protobufTimestamp_eq] at htime
  cases hinstant : signedInstant timestamp with
  | error e => rw [hinstant] at htime; cases htime
  | ok instant =>
    rw [hinstant] at htime
    cases htime
    have hchain : (if chainId.isEmpty = true then [] else protoBytesField 6 (utf8Encode chainId)) =
        encodeFields (if chainId = "" then [] else [⟨6, .bytes (utf8Encode chainId)⟩]) := by
      by_cases he : chainId = "" <;> simp [he, protoBytesField_eq]
    rw [hchain, protoVarintField_eq, protoMessageField, protoBytesField_eq] at hbytes
    cases blockId with
    | none =>
      cases hblock
      cases hbytes
      refine ⟨none, instant, rfl, rfl, hsigns.1, hheight', hsigns.2, hround', ?_⟩
      simp [voteFields, encodeFields_append, unsigned]
    | some blockId =>
      rw [voteBlockField, canonicalBlockId_eq] at hblock
      cases hdecoded : decodedBlockId blockId with
      | error e => rw [hdecoded] at hblock; cases hblock
      | ok block =>
        rw [hdecoded] at hblock
        cases hblock
        cases hbytes
        refine ⟨some block, instant, by rw [decodedVoteBlock, hdecoded]; rfl, rfl, hsigns.1,
          hheight', hsigns.2, hround', ?_⟩
        simp [voteFields, encodeFields_append, unsigned, protoMessageField, protoBytesField_eq]

/-! ## The fields determine the vote -/

theorem sized_int64Fields (number : Nat) (value : Int) :
    ∀ f ∈ int64Fields number value, f.value.Sized := by
  rw [int64Fields]
  split_ifs
  · simp
  · simpa [WireValue.Sized] using length_littleEndian 8 _

theorem sized_timestampFields (instant : Int × Nat) :
    ∀ f ∈ timestampFields instant, f.value.Sized := by
  rw [timestampFields]
  split_ifs <;> simp [WireValue.Sized]

theorem sized_voteFields (chainId : String) (height roundNumber : Int)
    (block : Option BlockIdContent) (instant : Int × Nat) :
    ∀ f ∈ voteFields chainId height roundNumber block instant, f.value.Sized := by
  intro f hf
  simp only [voteFields, List.mem_append, List.mem_singleton, Option.mem_toList,
    Option.map_eq_some_iff] at hf
  rcases hf with ((((rfl | hf) | hf) | ⟨b, -, rfl⟩) | rfl) | hf
  · trivial
  · exact sized_int64Fields _ _ f hf
  · exact sized_int64Fields _ _ f hf
  · trivial
  · trivial
  · split_ifs at hf
    · cases hf
    · obtain rfl := List.mem_singleton.mp hf
      trivial

/-- A block id is determined by its fields. -/
theorem blockIdFields_inj {a b : BlockIdContent} (h : blockIdFields a = blockIdFields b) :
    a = b := by
  obtain ⟨hash, total, partHash⟩ := a
  obtain ⟨hash', total', partHash'⟩ := b
  simp only [blockIdFields, List.cons.injEq, WireField.mk.injEq, WireValue.bytes.injEq, true_and,
    and_true] at h
  obtain ⟨rfl, hparts⟩ := h
  have hparts := encodeFields_inj (by simp [partSetFields, WireValue.Sized])
    (by simp [partSetFields, WireValue.Sized]) hparts
  simp only [partSetFields, List.cons.injEq, WireField.mk.injEq, WireValue.varint.injEq,
    WireValue.bytes.injEq, true_and, and_true] at hparts
  obtain ⟨rfl, rfl⟩ := hparts
  rfl

/-- An instant of `datetime` is determined by its fields. -/
theorem timestampFields_inj {a b : Int × Nat} (ha : firstSecond ≤ a.1 ∧ a.1 ≤ lastSecond)
    (hb : firstSecond ≤ b.1 ∧ b.1 ≤ lastSecond) (h : timestampFields a = timestampFields b) :
    a = b := by
  obtain ⟨seconds, nanos⟩ := a
  obtain ⟨seconds', nanos'⟩ := b
  simp only [firstSecond, lastSecond] at ha hb
  simp only [timestampFields, List.cons.injEq, WireField.mk.injEq, WireValue.varint.injEq,
    true_and] at h
  obtain rfl := unsigned_inj (by omega) (by omega) h.1
  have hnanos := h.2
  split_ifs at hnanos with hn hn'
  · rw [hn, hn']
  · simpa using hnanos

/-- An integer of 64 bits is determined by its optional field. -/
theorem int64Fields_inj {a b : Int} (ha : -2 ^ 63 ≤ a ∧ a < 2 ^ 63) (hb : -2 ^ 63 ≤ b ∧ b < 2 ^ 63)
    (h : fieldAt number (int64Fields number a) = fieldAt number (int64Fields number b)) :
    a = b := by
  rw [int64Fields, int64Fields] at h
  split_ifs at h with ha0 hb0 hb0
  · rw [ha0, hb0]
  · simp at h
  · simp at h
  · simp only [fieldAt_cons_self, Option.some.injEq, WireValue.fixed64.injEq] at h
    exact unsigned_inj ha hb (littleEndian_inj ((unsigned_lt ha.2).trans_eq (by decide))
      ((unsigned_lt hb.2).trans_eq (by decide)) h)

/-- The fields of a vote by number. -/
theorem fieldAt_voteFields (chainId : String) (height roundNumber : Int)
    (block : Option BlockIdContent) (instant : Int × Nat) :
    fieldAt 2 (voteFields chainId height roundNumber block instant) =
        fieldAt 2 (int64Fields 2 height) ∧
      fieldAt 3 (voteFields chainId height roundNumber block instant) =
        fieldAt 3 (int64Fields 3 roundNumber) ∧
      fieldAt 4 (voteFields chainId height roundNumber block instant) =
        block.map (.bytes ∘ encodeFields ∘ blockIdFields) ∧
      fieldAt 5 (voteFields chainId height roundNumber block instant) =
        some (.bytes (encodeFields (timestampFields instant))) ∧
      fieldAt 6 (voteFields chainId height roundNumber block instant) =
        if chainId = "" then none else some (.bytes (utf8Encode chainId)) := by
  by_cases hheight : height = 0 <;> by_cases hround : roundNumber = 0 <;>
    by_cases hchain : chainId = "" <;> cases block <;>
    simp [voteFields, int64Fields, fieldAt, hheight, hround, hchain]

/-- A vote within its ranges is determined by its fields. -/
theorem voteFields_inj {block block' : Option BlockIdContent} {instant' : Int × Nat}
    (hheight : -2 ^ 63 ≤ height ∧ height < 2 ^ 63)
    (hheight' : -2 ^ 63 ≤ height' ∧ height' < 2 ^ 63)
    (hround : -2 ^ 63 ≤ roundNumber ∧ roundNumber < 2 ^ 63)
    (hround' : -2 ^ 63 ≤ roundNumber' ∧ roundNumber' < 2 ^ 63)
    (htime : firstSecond ≤ instant.1 ∧ instant.1 ≤ lastSecond)
    (htime' : firstSecond ≤ instant'.1 ∧ instant'.1 ≤ lastSecond)
    (h : voteFields chainId height roundNumber block instant =
      voteFields chainId' height' roundNumber' block' instant') :
    chainId = chainId' ∧ height = height' ∧ roundNumber = roundNumber' ∧ block = block' ∧
      instant = instant' := by
  obtain ⟨h2, h3, h4, h5, h6⟩ := fieldAt_voteFields chainId height roundNumber block instant
  obtain ⟨h2', h3', h4', h5', h6'⟩ :=
    fieldAt_voteFields chainId' height' roundNumber' block' instant'
  rw [← h] at h2' h3' h4' h5' h6'
  have hinstant :
      encodeFields (timestampFields instant) = encodeFields (timestampFields instant') :=
    WireValue.bytes.inj (Option.some.inj (h5.symm.trans h5'))
  have hinj : Function.Injective
      (WireValue.bytes ∘ encodeFields ∘ blockIdFields : BlockIdContent → WireValue) := by
    intro a b hab
    exact blockIdFields_inj (encodeFields_inj (by simp [blockIdFields, WireValue.Sized])
      (by simp [blockIdFields, WireValue.Sized]) (WireValue.bytes.inj hab))
  refine ⟨?_, int64Fields_inj hheight hheight' (h2.symm.trans h2'),
    int64Fields_inj hround hround' (h3.symm.trans h3'),
    Option.map_injective hinj (h4.symm.trans h4'), timestampFields_inj htime htime'
      (encodeFields_inj (sized_timestampFields _) (sized_timestampFields _) hinstant)⟩
  have hchain := h6.symm.trans h6'
  split_ifs at hchain with hc hc'
  · rw [hc, hc']
  · exact utf8Encode_inj (by simpa using hchain)

/-- An accepted instant is one of `datetime`. -/
theorem signedInstant_range {value : String} (h : signedInstant value = .ok instant) :
    firstSecond ≤ instant.1 ∧ instant.1 ≤ lastSecond := by
  obtain ⟨t, -, h⟩ := bind_eq_ok.mp h
  rw [utcInstant] at h
  split_ifs at h with hrange
  cases h
  exact hrange

/-- Two votes with the same sign bytes are the same vote, as far as it is decoded. -/
theorem voteSignBytes_inj {blockId' : Option Fields}
    (h : cometbftVoteSignBytes chainId height roundNumber blockId timestamp = .ok bytes)
    (h' : cometbftVoteSignBytes chainId' height' roundNumber' blockId' timestamp' = .ok bytes) :
    chainId = chainId' ∧ height = height' ∧ roundNumber = roundNumber' ∧
      (∃ block, decodedVoteBlock blockId = .ok block ∧ decodedVoteBlock blockId' = .ok block) ∧
      ∃ instant, signedInstant timestamp = .ok instant ∧ signedInstant timestamp' =
        .ok instant := by
  obtain ⟨block, instant, hblock, htime, hlo, hhi, hrlo, hrhi, rfl⟩ := cometbftVoteSignBytes_eq_ok h
  obtain ⟨block', instant', hblock', htime', hlo', hhi', hrlo', hrhi', hbytes⟩ :=
    cometbftVoteSignBytes_eq_ok h'
  have hfields := encodeFields_inj (sized_voteFields _ _ _ _ _) (sized_voteFields _ _ _ _ _)
    (encodeVarint_append_inj hbytes).2
  obtain ⟨rfl, rfl, rfl, rfl, rfl⟩ := voteFields_inj ⟨by omega, hhi⟩ ⟨by omega, hhi'⟩
    ⟨by omega, hrhi⟩ ⟨by omega, hrhi'⟩ (signedInstant_range htime) (signedInstant_range htime')
    hfields
  exact ⟨rfl, rfl, rfl, ⟨block, hblock, hblock'⟩, instant, htime, htime'⟩

/-- Timestamps of one instant sign alike, whatever zones they are written in. -/
theorem voteSignBytes_congr {t t' : Timestamp}
    (h : readTimestamp "CometBFT timestamp must be RFC3339 with a timezone" timestamp = .ok t)
    (h' : readTimestamp "CometBFT timestamp must be RFC3339 with a timezone" timestamp' = .ok t')
    (hinstant : t.instant = t'.instant) (chainId : String) (height roundNumber : Int)
    (blockId : Option Fields) :
    cometbftVoteSignBytes chainId height roundNumber blockId timestamp =
      cometbftVoteSignBytes chainId height roundNumber blockId timestamp' := by
  have hutc : utcInstant t = utcInstant t' := by rw [utcInstant, utcInstant, hinstant]
  have htime : protobufTimestamp timestamp = protobufTimestamp timestamp' := by
    rw [protobufTimestamp, protobufTimestamp, h, h']
    simp only [bind, Except.bind, hutc]
  rw [cometbftVoteSignBytes, cometbftVoteSignBytes, htime]

end AidnSpec.Consensus
