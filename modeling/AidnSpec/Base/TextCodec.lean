import Mathlib.Data.Nat.Bits
import Mathlib.Tactic.Common

/-!
# Byte strings and their hexadecimal and base64 texts

Bytes are lists of `UInt8`. The decoders follow CPython 3.11: `bytes.fromhex` (ASCII whitespace
between pairs is skipped) and `base64.b64decode(value, validate=True)`, the strict
`binascii.a2b_base64` scanner, which never looks at the unused low bits of a padded group.
-/

namespace AidnSpec.Base

open List

/-- A Python `bytes` value. -/
abbrev Bytes := List UInt8

/-! ## Hexadecimal -/

/-- The sixteen digits, lower or upper case. -/
def hexDigit (upper : Bool) (v : Nat) : Char :=
  if v < 10 then Char.ofNat (48 + v) else Char.ofNat ((if upper then 55 else 87) + v)

/-- Value of one hexadecimal digit of either case. -/
def hexValue (c : Char) : Option Nat :=
  if '0' ≤ c ∧ c ≤ '9' then some (c.toNat - 48)
  else if 'a' ≤ c ∧ c ≤ 'f' then some (c.toNat - 87)
  else if 'A' ≤ c ∧ c ≤ 'F' then some (c.toNat - 55)
  else none

/-- ASCII whitespace, as `bytes.fromhex` skips it. -/
def isAsciiSpace (c : Char) : Bool := c.toNat == 32 || (9 ≤ c.toNat && c.toNat ≤ 13)

/-- Two digits per byte, high nibble first: `bytes.hex`, or its `.upper()`. -/
def hexChars (upper : Bool) : Bytes → List Char
  | [] => []
  | b :: bs => hexDigit upper (b.toNat / 16) :: hexDigit upper (b.toNat % 16) :: hexChars upper bs

def hexEncode (upper : Bool) (bs : Bytes) : String := String.ofList (hexChars upper bs)

/-- The scanner of `bytes.fromhex`. -/
def fromHexChars : List Char → Option Bytes
  | [] => some []
  | [c] => if isAsciiSpace c then some [] else none
  | c :: d :: rest =>
    if isAsciiSpace c then fromHexChars (d :: rest)
    else
      match hexValue c, hexValue d with
      | some hi, some lo => (fromHexChars rest).map (UInt8.ofNat (16 * hi + lo) :: ·)
      | _, _ => none

/-- `bytes.fromhex`; `none` stands for its `ValueError`. -/
def fromHex (s : String) : Option Bytes := fromHexChars s.toList

theorem hexValue_hexDigit (upper : Bool) (v : Nat) (hv : v < 16) :
    hexValue (hexDigit upper v) = some v := by
  have key : ∀ u : Bool, ∀ w : Fin 16, hexValue (hexDigit u w) = some w.val := by decide
  exact key upper ⟨v, hv⟩

private theorem isAsciiSpace_hexDigit (upper : Bool) (v : Nat) (hv : v < 16) :
    isAsciiSpace (hexDigit upper v) = false := by
  have key : ∀ u : Bool, ∀ w : Fin 16, isAsciiSpace (hexDigit u w) = false := by decide
  exact key upper ⟨v, hv⟩

private theorem ofNat_nibbles (b : UInt8) :
    UInt8.ofNat (16 * (b.toNat / 16) + b.toNat % 16) = b := by
  rw [Nat.div_add_mod]
  exact UInt8.ofNat_toNat

/-- A hexadecimal text has two characters per byte. -/
theorem length_hexChars (upper : Bool) (bs : Bytes) :
    (hexChars upper bs).length = 2 * bs.length := by
  induction bs with
  | nil => rfl
  | cons b bs ih => simp only [hexChars, length_cons, ih]; omega

/-- Scanning a hexadecimal text returns the bytes it was made from. -/
theorem fromHexChars_hexChars (upper : Bool) (bs : Bytes) :
    fromHexChars (hexChars upper bs) = some bs := by
  induction bs with
  | nil => rfl
  | cons b bs ih =>
    have hb : b.toNat < 256 := b.toNat_lt
    have hhi : b.toNat / 16 < 16 := by omega
    have hlo : b.toNat % 16 < 16 := Nat.mod_lt _ (by decide)
    simp only [hexChars, fromHexChars, isAsciiSpace_hexDigit upper _ hhi, Bool.false_eq_true,
      if_false, hexValue_hexDigit upper _ hhi, hexValue_hexDigit upper _ hlo, ih,
      ofNat_nibbles, Option.map_some]

/-- `bytes.fromhex` inverts the hexadecimal text of either case. -/
theorem fromHex_hexEncode (upper : Bool) (bs : Bytes) : fromHex (hexEncode upper bs) = some bs := by
  rw [fromHex, hexEncode, String.toList_ofList, fromHexChars_hexChars]

/-- A byte string is determined by its hexadecimal text. -/
theorem hexEncode_inj {upper : Bool} {bs bs' : Bytes}
    (h : hexEncode upper bs = hexEncode upper bs') :
    bs = bs' := by
  have hbs := fromHex_hexEncode upper bs
  rw [h, fromHex_hexEncode] at hbs
  exact (Option.some.inj hbs).symm

/-- Every character of a hexadecimal text is one of the digits of its case. -/
theorem mem_hexChars {upper : Bool} {bs : Bytes} {c : Char} (h : c ∈ hexChars upper bs) :
    ∃ v < 16, c = hexDigit upper v := by
  induction bs with
  | nil => cases h
  | cons b bs ih =>
    have hb : b.toNat < 256 := b.toNat_lt
    simp only [hexChars, mem_cons] at h
    rcases h with rfl | rfl | h
    · exact ⟨b.toNat / 16, by omega, rfl⟩
    · exact ⟨b.toNat % 16, Nat.mod_lt _ (by decide), rfl⟩
    · exact ih h

/-! ## Base64 -/

/-- The standard alphabet. -/
def b64Digit (v : Nat) : Char :=
  if v < 26 then Char.ofNat (65 + v)
  else if v < 52 then Char.ofNat (71 + v)
  else if v < 62 then Char.ofNat (v - 4)
  else if v = 62 then '+' else '/'

def b64Value (c : Char) : Option Nat :=
  if 'A' ≤ c ∧ c ≤ 'Z' then some (c.toNat - 65)
  else if 'a' ≤ c ∧ c ≤ 'z' then some (c.toNat - 71)
  else if '0' ≤ c ∧ c ≤ '9' then some (c.toNat + 4)
  else if c = '+' then some 62
  else if c = '/' then some 63
  else none

/-- `base64.b64encode`, three bytes at a time. -/
def b64Chars : Bytes → List Char
  | [] => []
  | [a] => [b64Digit (a.toNat / 4), b64Digit (a.toNat % 4 * 16), '=', '=']
  | [a, b] =>
    [b64Digit (a.toNat / 4), b64Digit (a.toNat % 4 * 16 + b.toNat / 16),
      b64Digit (b.toNat % 16 * 4), '=']
  | a :: b :: c :: rest =>
    b64Digit (a.toNat / 4) :: b64Digit (a.toNat % 4 * 16 + b.toNat / 16) ::
      b64Digit (b.toNat % 16 * 4 + c.toNat / 64) :: b64Digit (c.toNat % 64) :: b64Chars rest

def b64Encode (bs : Bytes) : String := String.ofList (b64Chars bs)

/-- The bytes a group of two, three or four digits stands for; low bits that do not fill
a byte are dropped unread. -/
def b64Group : List Nat → Bytes
  | [p, q] => [UInt8.ofNat (p * 4 + q / 16)]
  | [p, q, r] => [UInt8.ofNat (p * 4 + q / 16), UInt8.ofNat (q % 16 * 16 + r / 4)]
  | [p, q, r, s] =>
    [UInt8.ofNat (p * 4 + q / 16), UInt8.ofNat (q % 16 * 16 + r / 4), UInt8.ofNat (r % 4 * 64 + s)]
  | _ => []

/-- Strict `a2b_base64` from the middle of a text: `quad` holds the digits of the open
group, `pads` the padding seen inside it, `padded` whether any padding was seen. -/
def b64Scan (quad : List Nat) (pads : Nat) (padded : Bool) : List Char → Option Bytes
  | [] => if quad.isEmpty then some [] else none
  | c :: rest =>
    if c = '=' then
      if 2 ≤ quad.length then
        if 4 ≤ quad.length + (pads + 1) then
          -- the last pad of a group ends the text: anything after it is excess data
          if rest.isEmpty then some (b64Group quad) else none
        else b64Scan quad (pads + 1) true rest
      else b64Scan quad pads true rest
    else
      match b64Value c with
      | none => none
      | some v =>
        if padded then none
        else if quad.length = 3 then (b64Scan [] 0 padded rest).map (b64Group (quad ++ [v]) ++ ·)
        else b64Scan (quad ++ [v]) 0 padded rest

/-- `base64.b64decode(value, validate=True)`; `none` stands for `binascii.Error` and for
the `ValueError` of a text that is not ASCII. A leading pad is refused first. -/
def b64Decode (s : String) : Option Bytes :=
  match s.toList with
  | '=' :: _ => none
  | cs => b64Scan [] 0 false cs

private theorem b64Value_b64Digit (v : Nat) (hv : v < 64) : b64Value (b64Digit v) = some v := by
  have key : ∀ w : Fin 64, b64Value (b64Digit w) = some w.val := by decide
  exact key ⟨v, hv⟩

private theorem b64Digit_ne_pad (v : Nat) (hv : v < 64) : b64Digit v ≠ '=' := by
  have key : ∀ w : Fin 64, b64Digit w ≠ '=' := by decide
  exact key ⟨v, hv⟩

private theorem b64Scan_digit (quad : List Nat) (hq : quad.length < 3) (v : Nat) (hv : v < 64)
    (pads : Nat) (rest : List Char) :
    b64Scan quad pads false (b64Digit v :: rest) = b64Scan (quad ++ [v]) 0 false rest := by
  have h3 : quad.length ≠ 3 := by omega
  simp only [b64Scan, b64Digit_ne_pad v hv, if_false, b64Value_b64Digit v hv, Bool.false_eq_true,
    h3]

private theorem b64Scan_last (p q r v : Nat) (hv : v < 64) (pads : Nat) (rest : List Char) :
    b64Scan [p, q, r] pads false (b64Digit v :: rest) =
      (b64Scan [] 0 false rest).map (b64Group [p, q, r, v] ++ ·) := by
  simp [b64Scan, b64Digit_ne_pad v hv, b64Value_b64Digit v hv]

private theorem ofNat_of_eq {n : Nat} {b : UInt8} (h : n = b.toNat) : UInt8.ofNat n = b := by
  rw [h]
  exact UInt8.ofNat_toNat

/-- Scanning a base64 text returns the bytes it was made from. -/
theorem b64Scan_b64Chars (bs : Bytes) : b64Scan [] 0 false (b64Chars bs) = some bs := by
  induction bs using b64Chars.induct with
  | case1 => rfl
  | case2 a =>
    have ha : a.toNat < 256 := a.toNat_lt
    rw [b64Chars, b64Scan_digit [] (by decide) _ (by omega),
      b64Scan_digit _ (by simp) _ (by omega)]
    simp only [b64Scan, nil_append, cons_append, length_cons, length_nil,
      b64Group]
    simp only [Option.some.injEq, isEmpty_nil, if_true, reduceIte, Nat.reduceAdd,
      Nat.reduceLeDiff, List.cons.injEq, and_true]
    exact ofNat_of_eq (by omega)
  | case3 a b =>
    have ha : a.toNat < 256 := a.toNat_lt
    have hb : b.toNat < 256 := b.toNat_lt
    rw [b64Chars, b64Scan_digit [] (by decide) _ (by omega),
      b64Scan_digit _ (by simp) _ (by omega), b64Scan_digit _ (by simp) _ (by omega)]
    simp only [b64Scan, nil_append, cons_append, length_cons, length_nil,
      b64Group]
    simp only [Option.some.injEq, isEmpty_nil, if_true, Nat.reduceAdd,
      Nat.reduceLeDiff, List.cons.injEq, and_true]
    exact ⟨ofNat_of_eq (by omega), ofNat_of_eq (by omega)⟩
  | case4 a b c rest ih =>
    have ha : a.toNat < 256 := a.toNat_lt
    have hb : b.toNat < 256 := b.toNat_lt
    have hc : c.toNat < 256 := c.toNat_lt
    rw [b64Chars, b64Scan_digit [] (by decide) _ (by omega),
      b64Scan_digit _ (by simp) _ (by omega), b64Scan_digit _ (by simp) _ (by omega)]
    simp only [nil_append, cons_append]
    rw [b64Scan_last _ _ _ _ (by omega), ih]
    simp only [Option.map_some, b64Group, cons_append, nil_append, Option.some.injEq,
      List.cons.injEq, and_true]
    exact ⟨ofNat_of_eq (by omega), ofNat_of_eq (by omega), ofNat_of_eq (by omega)⟩

private theorem b64Chars_head (bs : Bytes) (cs : List Char) : b64Chars bs ≠ '=' :: cs := by
  intro h
  cases bs using b64Chars.fun_cases with
  | case1 => cases h
  | case2 a | case3 a b | case4 a b c rest =>
    have ha : a.toNat < 256 := a.toNat_lt
    exact b64Digit_ne_pad _ (by omega) (List.cons.inj h).1

/-- Strict base64 decoding inverts encoding. -/
theorem b64Decode_b64Encode (bs : Bytes) : b64Decode (b64Encode bs) = some bs := by
  rw [b64Decode, b64Encode, String.toList_ofList]
  split
  · next cs h => exact absurd h (b64Chars_head bs cs)
  · exact b64Scan_b64Chars bs

end AidnSpec.Base
