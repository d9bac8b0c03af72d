import AidnSpec.Base.TextCodec
import Mathlib.Data.Nat.Bitwise
import Mathlib.Tactic.Ring
import Mathlib.Tactic.Linarith

/-!
# Protobuf wire format

Base-128 varints over unbounded numbers, the fields of a message, and the UTF-8 bytes of a text. A
scanner reads at most a given number of varint bytes. A list of fields is determined by its bytes:
no field is a proper prefix of another.
-/

namespace AidnSpec.Base

open List Nat

/-! ## UTF-8 -/

/-- `text.encode("utf-8")`; a text has no lone surrogates. -/
def utf8Encode (s : String) : Bytes := s.toUTF8.data.toList

/-- `value.decode("utf-8")`; `none` stands for `UnicodeDecodeError`. -/
def utf8Decode (bs : Bytes) : Option String := String.fromUTF8? ⟨bs.toArray⟩

/-- Decoding inverts encoding. -/
theorem utf8Decode_utf8Encode (s : String) : utf8Decode (utf8Encode s) = some s := by
  have hvalid : s.toByteArray.IsValidUTF8 := s.isValidUTF8
  simp [utf8Decode, utf8Encode, String.fromUTF8?, hvalid, String.fromUTF8]

variable {s : String} {value n shift steps m : Nat} {a : Int}

/-- A text is determined by its bytes. -/
theorem utf8Encode_inj {t : String} (h : utf8Encode s = utf8Encode t) : s = t := by
  have hs := utf8Decode_utf8Encode s
  rw [h, utf8Decode_utf8Encode t] at hs
  exact (Option.some.inj hs).symm

/-- Only the empty text has no bytes. -/
theorem utf8Encode_eq_nil : utf8Encode s = [] ↔ s = "" := by
  constructor
  · intro h
    exact utf8Encode_inj (h.trans rfl)
  · rintro rfl
    rfl

/-! ## Varints -/

/-- Seven bits a byte, least significant first, with the high bit on all bytes but the
last. -/
def encodeVarint (value : Nat) : Bytes :=
  if 0x7F < value then UInt8.ofNat ((value &&& 0x7F) ||| 0x80) :: encodeVarint (value >>> 7)
  else [UInt8.ofNat value]
termination_by value
decreasing_by rw [shiftRight_eq_div_pow]; omega

/-- A value of seven bits is one byte. -/
theorem encodeVarint_of_lt (h : value < 128) : encodeVarint value = [UInt8.ofNat value] := by
  rw [encodeVarint, if_neg (by omega)]

/-- A larger value starts with its low bits. -/
theorem encodeVarint_of_ge (h : 128 ≤ value) :
    encodeVarint value = UInt8.ofNat (value % 128 + 128) :: encodeVarint (value / 128) := by
  have hlow : (value &&& 0x7F) ||| 0x80 = value % 128 + 128 := by
    have hmod : value &&& 0x7F = value % 128 := and_two_pow_sub_one_eq_mod value 7
    rw [hmod, Nat.or_comm, Nat.add_comm]
    exact (two_pow_add_eq_or_of_lt (i := 7) (mod_lt _ (by decide)) 1).symm
  rw [encodeVarint, if_pos (by omega), hlow, shiftRight_eq_div_pow]

/-- A varint has at least one byte. -/
theorem encodeVarint_ne_nil (value : Nat) : encodeVarint value ≠ [] := by
  rw [encodeVarint]
  split <;> simp

/-- `value &= (1 << 64) - 1` when the value is negative. -/
def unsigned (value : Int) : Nat := (if value < 0 then value % 2 ^ 64 else value).toNat

/-- The unsigned form keeps signed integers of 64 bits apart. -/
theorem unsigned_inj {b : Int} (ha : -2 ^ 63 ≤ a ∧ a < 2 ^ 63) (hb : -2 ^ 63 ≤ b ∧ b < 2 ^ 63)
    (h : unsigned a = unsigned b) : a = b := by
  simp only [unsigned] at h
  split_ifs at h <;> omega

theorem unsigned_lt (h : a < 2 ^ 63) : unsigned a < 2 ^ 64 := by
  rw [unsigned]
  split_ifs <;> omega

theorem unsigned_natCast (n : Nat) : unsigned n = n := by
  rw [unsigned, if_neg (by omega), Int.toNat_natCast]

/-- How the scan of a varint ends. -/
inductive VarintScan where
  | done (value : Nat) (rest : Bytes)
  | truncated
  | overlong

/-- Read at most `steps` bytes of a varint whose first `shift` bits are `value`. -/
def scanVarint : (steps shift value : Nat) → Bytes → VarintScan
  | 0, _, _, _ => .overlong
  | _ + 1, _, _, [] => .truncated
  | steps + 1, shift, value, byte :: rest =>
    let value := value ||| ((byte.toNat &&& 0x7F) <<< shift)
    if byte.toNat &&& 0x80 = 0 then .done value rest else scanVarint steps (shift + 7) value rest

private theorem low_bits (n : Nat) : n &&& 0x7F = n % 128 := and_two_pow_sub_one_eq_mod n 7

private theorem high_bit (h : n < 256) : n &&& 0x80 = 0 ↔ n < 128 := by
  have key : ∀ m : Fin 256, m.val &&& 0x80 = 0 ↔ m.val < 128 := by decide +kernel
  exact key ⟨n, h⟩

private theorem scanVarint_cons (steps shift value : Nat) (byte : UInt8) (rest : Bytes)
    (hvalue : value < 2 ^ shift) :
    scanVarint (steps + 1) shift value (byte :: rest) =
      if byte.toNat < 128 then .done (value + byte.toNat % 128 * 2 ^ shift) rest
      else scanVarint steps (shift + 7) (value + byte.toNat % 128 * 2 ^ shift) rest := by
  rw [scanVarint]
  simp only [high_bit byte.toNat_lt, low_bits]
  rw [Nat.or_comm, ← Nat.shiftLeft_add_eq_or_of_lt hvalue, Nat.shiftLeft_eq, Nat.add_comm]

private theorem lt_of_digit {digit : Nat} (hvalue : value < 2 ^ shift) (hdigit : digit < 128) :
    value + digit * 2 ^ shift < 2 ^ (shift + 7) := by
  calc value + digit * 2 ^ shift < 2 ^ shift + digit * 2 ^ shift := by omega
    _ = (digit + 1) * 2 ^ shift := by ring
    _ ≤ 2 ^ 7 * 2 ^ shift := mul_le_mul_right _ (by omega)
    _ = 2 ^ (shift + 7) := by rw [pow_add, mul_comm]

private theorem seven_mul_succ (steps : Nat) : 2 ^ (7 * (steps + 1)) = 2 ^ (7 * steps) * 128 := by
  rw [show 7 * (steps + 1) = 7 * steps + 7 by omega, Nat.pow_add]

private theorem toNat_lastByte (h : n < 128) : (UInt8.ofNat n).toNat = n := by
  rw [UInt8.toNat_ofNat']
  omega

private theorem toNat_leadByte (n : Nat) : (UInt8.ofNat (n % 128 + 128)).toNat = n % 128 + 128 := by
  rw [UInt8.toNat_ofNat']
  omega

/-- Scanning a varint of at most `steps + 1` bytes gives the value back and stops behind
it. -/
theorem scanVarint_encodeVarint (hn : n < 2 ^ (7 * (steps + 1))) (hvalue : value < 2 ^ shift)
    (rest : Bytes) :
    scanVarint (steps + 1) shift value (encodeVarint n ++ rest) =
      .done (value + n * 2 ^ shift) rest := by
  -- induction on the bytes the scan may still read
  induction steps generalizing n shift value with
  | zero =>
    have hsmall : n < 128 := by simpa using hn
    rw [encodeVarint_of_lt hsmall, singleton_append, scanVarint_cons _ _ _ _ _ hvalue,
      toNat_lastByte hsmall, if_pos hsmall, mod_eq_of_lt hsmall]
  | succ steps ih =>
    by_cases hsmall : n < 128
    · rw [encodeVarint_of_lt hsmall, singleton_append, scanVarint_cons _ _ _ _ _ hvalue,
        toNat_lastByte hsmall, if_pos hsmall, mod_eq_of_lt hsmall]
    · have hnext : n / 128 < 2 ^ (7 * (steps + 1)) := by
        rw [div_lt_iff_lt_mul (by decide), ← seven_mul_succ]
        exact hn
      have hsum : n % 128 * 2 ^ shift + n / 128 * 2 ^ (shift + 7) = n * 2 ^ shift := by
        calc n % 128 * 2 ^ shift + n / 128 * 2 ^ (shift + 7)
            = (128 * (n / 128) + n % 128) * 2 ^ shift := by rw [pow_add]; ring
          _ = n * 2 ^ shift := by rw [div_add_mod]
      rw [encodeVarint_of_ge (by omega), cons_append, scanVarint_cons _ _ _ _ _ hvalue,
        toNat_leadByte, if_neg (by omega), add_mod_right, mod_mod,
        ih hnext (lt_of_digit hvalue (mod_lt _ (by decide))), add_assoc, hsum]

/-- A varint of more bytes than the scan may read is refused. -/
theorem scanVarint_of_ge (hn : 2 ^ (7 * steps) ≤ n) (hpos : 0 < n) (shift value : Nat)
    (rest : Bytes) : scanVarint steps shift value (encodeVarint n ++ rest) = .overlong := by
  induction steps generalizing n shift value with
  | zero => rw [scanVarint]
  | succ steps ih =>
    have hone : 0 < 2 ^ (7 * steps) := Nat.two_pow_pos _
    rw [seven_mul_succ] at hn
    have hnext : 2 ^ (7 * steps) ≤ n / 128 := (le_div_iff_mul_le (by decide)).mpr hn
    have hlead := toNat_leadByte n
    rw [encodeVarint_of_ge (by omega), cons_append, scanVarint]
    simp only [hlead, high_bit (show n % 128 + 128 < 256 by omega)]
    rw [if_neg (by omega)]
    exact ih hnext (by omega) _ _

/-- Every scan stops behind the bytes it has read. -/
theorem length_of_scanVarint {payload rest : Bytes}
    (h : scanVarint steps shift value payload = .done n rest) : rest.length < payload.length := by
  induction steps generalizing shift value payload with
  | zero => cases h
  | succ steps ih =>
    cases payload with
    | nil => cases h
    | cons byte payload =>
      rw [scanVarint] at h
      split at h
      · cases h
        exact lt_succ_self _
      · exact lt_succ_of_lt (ih h)

/-- No varint is a proper prefix of another. -/
theorem encodeVarint_append_inj {xs ys : Bytes} (h : encodeVarint m ++ xs = encodeVarint n ++ ys) :
    m = n ∧ xs = ys := by
  have hlt : ∀ k ≤ m + n, k < 2 ^ (7 * (m + n + 1)) := by
    intro k hk
    calc k < 2 ^ k := Nat.lt_two_pow_self
      _ ≤ 2 ^ (7 * (m + n + 1)) := Nat.pow_le_pow_right (by decide) (by omega)
  have hm := scanVarint_encodeVarint (hlt m (by omega)) (show 0 < 2 ^ 0 by decide) xs
  have hn := scanVarint_encodeVarint (hlt n (by omega)) (show 0 < 2 ^ 0 by decide) ys
  rw [h, hn] at hm
  simpa [eq_comm] using hm

/-! ## Fixed widths -/

/-- The bytes of a number, least significant first. -/
def littleEndian : (width : Nat) → Nat → Bytes
  | 0, _ => []
  | width + 1, n => UInt8.ofNat n :: littleEndian width (n / 256)

theorem length_littleEndian (width n : Nat) : (littleEndian width n).length = width := by
  induction width generalizing n with
  | zero => rfl
  | succ width ih => rw [littleEndian, length_cons, ih]

/-- A number that fits the width is determined by its bytes. -/
theorem littleEndian_inj {width : Nat} (hm : m < 256 ^ width) (hn : n < 256 ^ width)
    (h : littleEndian width m = littleEndian width n) : m = n := by
  induction width generalizing m n with
  | zero =>
    rw [pow_zero] at hm hn
    omega
  | succ width ih =>
    obtain ⟨hlow, hrest⟩ := List.cons.inj h
    rw [pow_succ] at hm hn
    have hhigh := ih ((div_lt_iff_lt_mul (by decide)).mpr hm)
      ((div_lt_iff_lt_mul (by decide)).mpr hn) hrest
    have hbyte := congrArg UInt8.toNat hlow
    rw [UInt8.toNat_ofNat', UInt8.toNat_ofNat'] at hbyte
    omega

/-! ## Fields -/

inductive WireValue where
  | varint (n : Nat)
  | fixed64 (bytes : Bytes)
  | bytes (bytes : Bytes)
  | fixed32 (bytes : Bytes)
  deriving DecidableEq

structure WireField where
  number : Nat
  value : WireValue
  deriving DecidableEq

namespace WireValue

def wire : WireValue → Nat
  | varint _ => 0
  | fixed64 _ => 1
  | bytes _ => 2
  | fixed32 _ => 5

/-- The bytes behind the key. -/
def encode : WireValue → Bytes
  | varint n => encodeVarint n
  | fixed64 b => b
  | bytes b => encodeVarint b.length ++ b
  | fixed32 b => b

def Sized : WireValue → Prop
  | varint _ => True
  | fixed64 b => b.length = 8
  | bytes _ => True
  | fixed32 b => b.length = 4

theorem wire_lt (v : WireValue) : v.wire < 8 := by
  cases v <;> simp [wire]

end WireValue

namespace WireField

/-- Number and wire type in one varint. -/
def key (f : WireField) : Nat := 8 * f.number + f.value.wire

/-- The key as it is computed from number and wire type. -/
theorem shiftLeft_or_wire (number : Nat) {wire : Nat} (h : wire < 8) :
    number <<< 3 ||| wire = 8 * number + wire := by
  rw [← shiftLeft_add_eq_or_of_lt h, shiftLeft_eq]
  omega

def encode (f : WireField) : Bytes := encodeVarint f.key ++ f.value.encode

theorem encode_ne_nil (f : WireField) : f.encode ≠ [] := by
  simp [encode, encodeVarint_ne_nil]

/-- No field is a proper prefix of another. -/
theorem encode_append_inj {f g : WireField} (hf : f.value.Sized) (hg : g.value.Sized)
    {xs ys : Bytes} (h : f.encode ++ xs = g.encode ++ ys) : f = g ∧ xs = ys := by
  obtain ⟨number, v⟩ := f
  obtain ⟨number', w⟩ := g
  rw [encode, encode, append_assoc, append_assoc] at h
  obtain ⟨hkey, hrest⟩ := encodeVarint_append_inj h
  have hv := v.wire_lt
  have hw := w.wire_lt
  simp only [key] at hkey
  obtain rfl : number = number' := by omega
  have hwire : v.wire = w.wire := by omega
  -- one wire type, so one shape of the value
  cases v <;> cases w <;> simp only [WireValue.wire] at hwire <;> try omega
  · obtain ⟨rfl, rfl⟩ := encodeVarint_append_inj hrest
    exact ⟨rfl, rfl⟩
  · obtain ⟨rfl, rfl⟩ := append_inj hrest (hf.trans hg.symm)
    exact ⟨rfl, rfl⟩
  · simp only [WireValue.encode, append_assoc] at hrest
    obtain ⟨hlen, hrest⟩ := encodeVarint_append_inj hrest
    obtain ⟨rfl, rfl⟩ := append_inj hrest hlen
    exact ⟨rfl, rfl⟩
  · obtain ⟨rfl, rfl⟩ := append_inj hrest (hf.trans hg.symm)
    exact ⟨rfl, rfl⟩

end WireField

def encodeFields (fields : List WireField) : Bytes := fields.flatMap WireField.encode

@[simp] theorem encodeFields_nil : encodeFields [] = [] := rfl

@[simp] theorem encodeFields_cons (f : WireField) (fields : List WireField) :
    encodeFields (f :: fields) = f.encode ++ encodeFields fields := rfl

theorem encodeFields_append (fields more : List WireField) :
    encodeFields (fields ++ more) = encodeFields fields ++ encodeFields more :=
  flatMap_append

/-- A message is determined by its bytes. -/
theorem encodeFields_inj {fields more : List WireField} (hf : ∀ f ∈ fields, f.value.Sized)
    (hm : ∀ f ∈ more, f.value.Sized) (h : encodeFields fields = encodeFields more) :
    fields = more := by
  induction fields generalizing more with
  | nil =>
    cases more with
    | nil => rfl
    | cons g more => simp [g.encode_ne_nil] at h
  | cons f fields ih =>
    cases more with
    | nil => simp [f.encode_ne_nil] at h
    | cons g more =>
      obtain ⟨rfl, hrest⟩ := WireField.encode_append_inj (hf f mem_cons_self)
        (hm g mem_cons_self) h
      rw [ih (fun x hx => hf x (mem_cons_of_mem _ hx))
        (fun x hx => hm x (mem_cons_of_mem _ hx)) hrest]

/-- Messages in a row are determined by their byte strings. -/
theorem map_encodeFields_inj {xs ys : List (List WireField)}
    (hx : ∀ fields ∈ xs, ∀ f ∈ fields, f.value.Sized)
    (hy : ∀ fields ∈ ys, ∀ f ∈ fields, f.value.Sized)
    (h : xs.map encodeFields = ys.map encodeFields) : xs = ys := by
  induction xs generalizing ys with
  | nil => exact (map_eq_nil_iff.mp h.symm).symm
  | cons x xs ih =>
    cases ys with
    | nil => cases h
    | cons y ys =>
      obtain ⟨hhead, htail⟩ := List.cons.inj h
      rw [encodeFields_inj (hx x mem_cons_self) (hy y mem_cons_self) hhead,
        ih (fun z hz => hx z (mem_cons_of_mem x hz))
          (fun z hz => hy z (mem_cons_of_mem y hz)) htail]

def fieldAt (number : Nat) (fields : List WireField) : Option WireValue :=
  (fields.find? (·.number == number)).map WireField.value

@[simp] theorem fieldAt_nil (number : Nat) : fieldAt number [] = none := rfl

@[simp] theorem fieldAt_cons_self (number : Nat) (value : WireValue) (fields : List WireField) :
    fieldAt number (⟨number, value⟩ :: fields) = some value := by
  simp [fieldAt]

end AidnSpec.Base
