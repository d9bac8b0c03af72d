import AidnSpec.Base.PyValue
import AidnSpec.Base.Sha256

/-!
# Canonical JSON and its digest

`json.dumps(value, sort_keys=True, separators=(",", ":"), ensure_ascii=True)` and the SHA-256 digest
of its text. Nothing outside this module looks into a digest: it is an opaque text that is equal for
equal values.
-/

namespace AidnSpec.Base

/-- `\\uXXXX` of one UTF-16 unit. -/
def unicodeEscape (n : Nat) : List Char :=
  ['\\', 'u', hexDigit false (n / 4096 % 16), hexDigit false (n / 256 % 16),
    hexDigit false (n / 16 % 16), hexDigit false (n % 16)]

/-- One character of a JSON string; everything outside printable ASCII is escaped. -/
def escapeChar (c : Char) : List Char :=
  if c = '"' then ['\\', '"']
  else if c = '\\' then ['\\', '\\']
  else if c = '\n' then ['\\', 'n']
  else if c = '\r' then ['\\', 'r']
  else if c = '\t' then ['\\', 't']
  else if c.toNat = 8 then ['\\', 'b']
  else if c.toNat = 12 then ['\\', 'f']
  else if 32 ≤ c.toNat ∧ c.toNat ≤ 126 then [c]
  else if c.toNat < 65536 then unicodeEscape c.toNat
  else unicodeEscape (55296 + (c.toNat - 65536) / 1024) ++
    unicodeEscape (56320 + (c.toNat - 65536) % 1024)

def quoteText (s : String) : List Char := '"' :: s.toList.flatMap escapeChar ++ ['"']

theorem length_escapeChar_le (c : Char) : (escapeChar c).length ≤ 12 := by
  fun_cases escapeChar c <;> simp [unicodeEscape]

/-- Quoting adds the two quotation marks and at most eleven characters for each one. -/
theorem length_quoteText_le (s : String) : (quoteText s).length ≤ 12 * s.length + 2 := by
  have hescaped : ∀ cs : List Char, (cs.flatMap escapeChar).length ≤ 12 * cs.length := by
    intro cs
    induction cs with
    | nil => exact Nat.le_refl 0
    | cons c cs ih =>
      have hc := length_escapeChar_le c
      rw [List.flatMap_cons, List.length_append, List.length_cons]
      omega
  have h := hescaped s.toList
  rw [String.length_toList] at h
  simp only [quoteText, List.cons_append, List.length_cons, List.length_append, List.length_nil]
  omega

def joinTexts (texts : List (List Char)) : List Char := [','].intercalate texts

/-- Members in the order of their keys. -/
def sortMembers (members : List (String × List Char)) : List (String × List Char) :=
  members.mergeSort fun a b => a.1 ≤ b.1

mutual
def canonicalText : PyValue → List Char
  | .none => "null".toList
  | .bool b => (if b then "true" else "false").toList
  | .int n => (toString n).toList
  | .float repr _ => repr.toList
  | .nonFinite repr => repr.toList
  | .str s => quoteText s
  | .list items => '[' :: joinTexts (canonicalItems items) ++ [']']
  | .dict members =>
    '\x7b' :: joinTexts ((sortMembers (canonicalMembers members)).map
      fun m => quoteText m.1 ++ ':' :: m.2) ++ ['\x7d']
def canonicalItems : List PyValue → List (List Char)
  | [] => []
  | item :: items => canonicalText item :: canonicalItems items
def canonicalMembers : List (String × PyValue) → List (String × List Char)
  | [] => []
  | (key, value) :: members => (key, canonicalText value) :: canonicalMembers members
end

def asciiBytes (cs : List Char) : Bytes := cs.map fun c => UInt8.ofNat c.toNat

/-- Lower-case hexadecimal SHA-256 digest of the canonical JSON of a value. -/
@[irreducible] def jsonDigest (value : PyValue) : String :=
  hexEncode false (sha256 (asciiBytes (canonicalText value)))

/-- The digest with its algorithm in front. -/
@[irreducible] def canonicalHash (value : PyValue) : String := "sha256:" ++ jsonDigest value

/-- A canonical hash is never blank. -/
theorem isBlank_canonicalHash (value : PyValue) : isBlank (canonicalHash value) = false := by
  rw [canonicalHash, isBlank, String.toList_append]
  rfl

/-- A digest is never blank: it starts with a hexadecimal digit. -/
theorem isBlank_jsonDigest (value : PyValue) : isBlank (jsonDigest value) = false := by
  have hdigit : ∀ v < 16, isPySpace (hexDigit false v) = false := by decide
  rw [jsonDigest, hexEncode, isBlank, String.toList_ofList]
  cases hbytes : sha256 (asciiBytes (canonicalText value)) with
  | nil =>
    have hlength := length_sha256 (asciiBytes (canonicalText value))
    rw [hbytes] at hlength
    cases hlength
  | cons b bs =>
    have hfirst := hdigit (b.toNat / 16) (by have := b.toNat_lt; omega)
    rw [hexChars, List.all_cons, hfirst, Bool.false_and]

theorem length_digestText (message : Bytes) : (hexEncode false (sha256 message)).length = 64 := by
  rw [hexEncode, String.length_ofList, length_hexChars, length_sha256]

theorem length_jsonDigest (value : PyValue) : (jsonDigest value).length = 64 := by
  rw [jsonDigest, length_digestText]

theorem length_canonicalHash (value : PyValue) : (canonicalHash value).length = 71 := by
  rw [canonicalHash, String.length_append, length_jsonDigest]
  rfl

end AidnSpec.Base
