import AidnSpec.Base.CanonicalJson
import AidnSpec.Base.Dict
import Mathlib.Data.List.TakeWhile

/-!
# Reading JSON

`json.loads`: strings and their escapes, numbers, and values. A surrogate without its partner is no
character here; the conversion of a decimal text to a binary float and the reading of bytes that are
no plain ASCII text are parameters.
-/

namespace AidnSpec.Base

open List

/-- `float(text)` on the texts of JSON numbers. -/
class FloatReader where
  readFloat : String → PyValue

/-! ## Strings -/

/-- Whitespace between tokens. -/
def isJsonSpace (c : Char) : Bool := c = ' ' || c = '\t' || c = '\n' || c = '\r'

/-- The text behind the whitespace. -/
def skipSpace (cs : List Char) : List Char := cs.dropWhile isJsonSpace

/-- The four digits of `\\uXXXX`. -/
def hexUnit : List Char → Option (Nat × List Char)
  | a :: b :: c :: d :: rest => do
    let a ← hexValue a
    let b ← hexValue b
    let c ← hexValue c
    let d ← hexValue d
    return (4096 * a + 256 * b + 16 * c + d, rest)
  | _ => none

/-- The character of `\\uXXXX`, or of a pair of surrogates. -/
def unicodeChar (cs : List Char) : Option (Char × List Char) :=
  match hexUnit cs with
  | none => none
  | some (unit, rest) =>
    if 55296 ≤ unit ∧ unit < 56320 then
      match rest with
      | '\\' :: 'u' :: more =>
        match hexUnit more with
        | some (low, rest) =>
          if 56320 ≤ low ∧ low < 57344 then
            some (Char.ofNat (65536 + 1024 * (unit - 55296) + (low - 56320)), rest)
          else none
        | none => none
      | _ => none
    else if 56320 ≤ unit ∧ unit < 57344 then none
    else some (Char.ofNat unit, rest)

def simpleEscape (c : Char) : Option Char :=
  [('"', '"'), ('\\', '\\'), ('/', '/'), ('b', Char.ofNat 8), ('f', Char.ofNat 12), ('n', '\n'),
    ('r', '\r'), ('t', '\t')].lookup c

/-- One character of a string, behind a backslash. -/
def escapedChar : List Char → Option (Char × List Char)
  | 'u' :: rest => unicodeChar rest
  | c :: rest => (simpleEscape c).map fun d => (d, rest)
  | [] => none

/-- The characters of a string up to its closing quotation mark. -/
def stringBody : Nat → List Char → Option (List Char × List Char)
  | 0, _ => none
  | fuel + 1, cs =>
    match cs with
    | [] => none
    | '"' :: rest => some ([], rest)
    | '\\' :: rest => do
      let (c, rest) ← escapedChar rest
      let (body, rest) ← stringBody fuel rest
      return (c :: body, rest)
    | c :: rest =>
      if c.toNat < 32 then none
      else do
        let (body, rest) ← stringBody fuel rest
        return (c :: body, rest)

theorem hexUnit_digits {n : Nat} (hn : n < 65536) (rest : List Char) :
    hexUnit (hexDigit false (n / 4096 % 16) :: hexDigit false (n / 256 % 16) ::
      hexDigit false (n / 16 % 16) :: hexDigit false (n % 16) :: rest) = some (n, rest) := by
  have hsum : 4096 * (n / 4096 % 16) + 256 * (n / 256 % 16) + 16 * (n / 16 % 16) + n % 16 = n := by
    omega
  simp only [hexUnit, hexValue_hexDigit false _ (Nat.mod_lt _ (by decide : 0 < 16))]
  exact congrArg (fun m => some (m, rest)) hsum

/-- A character is no surrogate. -/
theorem toNat_not_surrogate (c : Char) : c.toNat < 55296 ∨ 57344 ≤ c.toNat ∧ c.toNat < 1114112 := by
  have h := c.valid
  rcases h with h | ⟨h, h'⟩
  · exact .inl h
  · exact .inr ⟨by show 57344 ≤ c.val.toNat; omega, h'⟩

theorem unicodeChar_of_low {c : Char} (hc : c.toNat < 65536) (rest : List Char) :
    unicodeChar ((unicodeEscape c.toNat).drop 2 ++ rest) = some (c, rest) := by
  have hunit := hexUnit_digits hc rest
  have hsurrogate := toNat_not_surrogate c
  simp only [unicodeEscape, drop_succ_cons, drop_zero, cons_append, nil_append]
  simp only [unicodeChar, hunit]
  rw [if_neg (by omega), if_neg (by omega), Char.ofNat_toNat]

/-- The two surrogates of a code point beyond the first plane. -/
theorem surrogate_bounds {n : Nat} (hlow : 65536 ≤ n) (hhigh : n < 1114112) :
    (55296 ≤ 55296 + (n - 65536) / 1024 ∧ 55296 + (n - 65536) / 1024 < 56320) ∧
      (56320 ≤ 56320 + (n - 65536) % 1024 ∧ 56320 + (n - 65536) % 1024 < 57344) ∧
      65536 + 1024 * (55296 + (n - 65536) / 1024 - 55296) +
        (56320 + (n - 65536) % 1024 - 56320) = n := by
  omega

theorem unicodeChar_of_units {high low : Nat} (hhigh : 55296 ≤ high ∧ high < 56320)
    (hlow : 56320 ≤ low ∧ low < 57344) (rest : List Char) :
    unicodeChar ((unicodeEscape high ++ unicodeEscape low).drop 2 ++ rest) =
      some (Char.ofNat (65536 + 1024 * (high - 55296) + (low - 56320)), rest) := by
  have hfirst : high < 65536 := by omega
  have hsecond : low < 65536 := by omega
  simp only [unicodeEscape, drop_succ_cons, drop_zero, cons_append, nil_append]
  simp only [unicodeChar, hexUnit_digits hfirst, hexUnit_digits hsecond]
  rw [if_pos hhigh, if_pos hlow]

theorem unicodeChar_of_high {c : Char} (hc : 65536 ≤ c.toNat) (rest : List Char) :
    unicodeChar ((unicodeEscape (55296 + (c.toNat - 65536) / 1024) ++
      unicodeEscape (56320 + (c.toNat - 65536) % 1024)).drop 2 ++ rest) = some (c, rest) := by
  have hbound : c.toNat < 1114112 := by
    rcases toNat_not_surrogate c with h | h
    · omega
    · exact h.2
  obtain ⟨hhigh, hlow, hsum⟩ := surrogate_bounds hc hbound
  rw [unicodeChar_of_units hhigh hlow, hsum, Char.ofNat_toNat]

theorem stringBody_escaped {fuel : Nat} {cs rest : List Char} {c : Char}
    (h : escapedChar cs = some (c, rest)) :
    stringBody (fuel + 1) ('\\' :: cs) = (stringBody fuel rest).map fun p => (c :: p.1, p.2) := by
  simp only [stringBody, h, Option.bind_eq_bind, Option.bind_some]
  cases stringBody fuel rest <;> rfl

theorem stringBody_unicode {fuel n : Nat} {cs rest : List Char} {c : Char}
    (h : unicodeChar ((unicodeEscape n ++ cs).drop 2) = some (c, rest)) :
    stringBody (fuel + 1) (unicodeEscape n ++ cs) =
      (stringBody fuel rest).map fun p => (c :: p.1, p.2) := by
  have hescape : escapedChar ((unicodeEscape n ++ cs).drop 1) = some (c, rest) := h
  exact stringBody_escaped hescape

theorem stringBody_plain {fuel : Nat} {c : Char} (hquote : c ≠ '"') (hslash : c ≠ '\\')
    (hprintable : 32 ≤ c.toNat) (rest : List Char) :
    stringBody (fuel + 1) (c :: rest) = (stringBody fuel rest).map fun p => (c :: p.1, p.2) := by
  have hcontrol : ¬ c.toNat < 32 := by omega
  rw [stringBody.eq_def]
  dsimp only
  split
  · next h => cases h
  · next h => exact absurd (List.cons.inj h).1 hquote
  · next h => exact absurd (List.cons.inj h).1 hslash
  · next h =>
    obtain ⟨rfl, rfl⟩ := List.cons.inj h
    rw [if_neg hcontrol]
    cases stringBody fuel rest <;> rfl

/-- An escaped character is read back. -/
theorem stringBody_escapeChar (fuel : Nat) (c : Char) (rest : List Char) :
    stringBody (fuel + 1) (escapeChar c ++ rest) =
      (stringBody fuel rest).map fun p => (c :: p.1, p.2) := by
  fun_cases escapeChar c with
  | case1 hquote => exact stringBody_escaped (by rw [hquote]; rfl)
  | case2 _ hslash => exact stringBody_escaped (by rw [hslash]; rfl)
  | case3 _ _ hnewline => exact stringBody_escaped (by rw [hnewline]; rfl)
  | case4 _ _ _ hreturn => exact stringBody_escaped (by rw [hreturn]; rfl)
  | case5 _ _ _ _ htab => exact stringBody_escaped (by rw [htab]; rfl)
  | case6 _ _ _ _ _ hback => exact stringBody_escaped (by rw [← Char.ofNat_toNat c, hback]; rfl)
  | case7 _ _ _ _ _ _ hfeed =>
    exact stringBody_escaped (by rw [← Char.ofNat_toNat c, hfeed]; rfl)
  | case8 hquote hslash _ _ _ _ _ hplain => exact stringBody_plain hquote hslash hplain.1 rest
  | case9 _ _ _ _ _ _ _ _ hlow => exact stringBody_unicode (unicodeChar_of_low hlow rest)
  | case10 _ _ _ _ _ _ _ _ hlow =>
    have hhigh := unicodeChar_of_high (Nat.le_of_not_lt hlow) rest
    rw [append_assoc]
    exact stringBody_unicode hhigh

/-! ## Numbers -/

/-- `0`, or digits that do not start with it, and the text behind them. -/
def integerPart : List Char → Option (List Char × List Char)
  | [] => none
  | c :: rest =>
    if c = '0' then some ([c], rest)
    else if c.isDigit then some (c :: rest.takeWhile Char.isDigit, rest.dropWhile Char.isDigit)
    else none

/-- `(\.[0-9]+)?` and the text behind it. -/
def fractionPart (cs : List Char) : List Char × List Char :=
  match cs with
  | c :: rest =>
    if c = '.' ∧ rest.head?.any Char.isDigit then
      (c :: rest.takeWhile Char.isDigit, rest.dropWhile Char.isDigit)
    else ([], cs)
  | [] => ([], [])

/-- `[-+]?` and the text behind it. -/
def signPart (cs : List Char) : List Char × List Char :=
  match cs with
  | c :: rest => if c = '-' ∨ c = '+' then ([c], rest) else ([], cs)
  | [] => ([], [])

/-- `([eE][-+]?[0-9]+)?` and the text behind it. -/
def exponentPart (cs : List Char) : List Char × List Char :=
  match cs with
  | c :: rest =>
    if (c = 'e' ∨ c = 'E') ∧ (signPart rest).2.head?.any Char.isDigit then
      (c :: (signPart rest).1 ++ (signPart rest).2.takeWhile Char.isDigit,
        (signPart rest).2.dropWhile Char.isDigit)
    else ([], cs)
  | [] => ([], [])

/-- `-?` and the text behind it. -/
def minusPart (cs : List Char) : List Char × List Char :=
  match cs with
  | c :: rest => if c = '-' then ([c], rest) else ([], cs)
  | [] => ([], [])

/-- The text of a number, whether it is a float, and the text behind it. -/
def numberText (cs : List Char) : Option ((List Char × Bool) × List Char) :=
  (integerPart (minusPart cs).2).map fun digits =>
    let fraction := fractionPart digits.2
    let exponent := exponentPart fraction.2
    (((minusPart cs).1 ++ digits.1 ++ fraction.1 ++ exponent.1,
      !(fraction.1 ++ exponent.1).isEmpty), exponent.2)

def readNumber [FloatReader] (cs : List Char) : Option (PyValue × List Char) :=
  (numberText cs).bind fun number =>
    if number.1.2 then some (FloatReader.readFloat (String.ofList number.1.1), number.2)
    else (intOfText (String.ofList number.1.1)).map fun n => (.int n, number.2)

def isNumberChar (c : Char) : Bool :=
  c.isDigit || c = '.' || c = 'e' || c = 'E' || c = '-' || c = '+'

/-- No number goes on into this text. -/
def NumberEnds (rest : List Char) : Prop := rest.head?.all fun c => !isNumberChar c

variable {rest : List Char}

theorem numberEnds_cons {c : Char} (h : NumberEnds (c :: rest)) :
    c.isDigit = false ∧ c ≠ '.' ∧ c ≠ 'e' ∧ c ≠ 'E' ∧ c ≠ '-' ∧ c ≠ '+' := by
  simpa [NumberEnds, isNumberChar, and_assoc] using h

theorem takeWhile_isDigit_append (h : NumberEnds rest) (cs : List Char) :
    (cs ++ rest).takeWhile Char.isDigit = cs.takeWhile Char.isDigit := by
  induction cs with
  | nil =>
    cases rest with
    | nil => rfl
    | cons c rest => simp [(numberEnds_cons h).1]
  | cons c cs ih => simp only [cons_append, takeWhile_cons, ih]

theorem dropWhile_isDigit_append (h : NumberEnds rest) (cs : List Char) :
    (cs ++ rest).dropWhile Char.isDigit = cs.dropWhile Char.isDigit ++ rest := by
  induction cs with
  | nil =>
    cases rest with
    | nil => rfl
    | cons c rest => simp [(numberEnds_cons h).1]
  | cons c cs ih =>
    simp only [cons_append, dropWhile_cons, ih]
    split <;> rfl

theorem any_head_append (h : NumberEnds rest) (cs : List Char) :
    (cs ++ rest).head?.any Char.isDigit = cs.head?.any Char.isDigit := by
  cases cs with
  | nil =>
    cases rest with
    | nil => rfl
    | cons c rest => exact (numberEnds_cons h).1
  | cons c cs => rfl

theorem integerPart_append (h : NumberEnds rest) (cs : List Char) :
    integerPart (cs ++ rest) = (integerPart cs).map fun p => (p.1, p.2 ++ rest) := by
  cases cs with
  | nil =>
    cases rest with
    | nil => rfl
    | cons c rest =>
      have hdigit := (numberEnds_cons h).1
      have hzero : c ≠ '0' := by
        rintro rfl
        cases hdigit
      simp [integerPart, hdigit, hzero]
  | cons c cs =>
    simp only [integerPart, cons_append, takeWhile_isDigit_append h,
      dropWhile_isDigit_append h]
    split_ifs <;> rfl

theorem fractionPart_append (h : NumberEnds rest) (cs : List Char) :
    fractionPart (cs ++ rest) = ((fractionPart cs).1, (fractionPart cs).2 ++ rest) := by
  cases cs with
  | nil =>
    cases rest with
    | nil => rfl
    | cons c rest => simp [fractionPart, (numberEnds_cons h).2.1]
  | cons c cs =>
    simp only [fractionPart, cons_append, takeWhile_isDigit_append h,
      dropWhile_isDigit_append h, any_head_append h]
    split_ifs <;> rfl

theorem signPart_append (h : NumberEnds rest) (cs : List Char) :
    signPart (cs ++ rest) = ((signPart cs).1, (signPart cs).2 ++ rest) := by
  cases cs with
  | nil =>
    cases rest with
    | nil => rfl
    | cons c rest => simp [signPart, numberEnds_cons h]
  | cons c cs =>
    simp only [signPart, cons_append]
    split_ifs <;> rfl

theorem exponentPart_append (h : NumberEnds rest) (cs : List Char) :
    exponentPart (cs ++ rest) = ((exponentPart cs).1, (exponentPart cs).2 ++ rest) := by
  cases cs with
  | nil =>
    cases rest with
    | nil => rfl
    | cons c rest => simp [exponentPart, numberEnds_cons h]
  | cons c cs =>
    simp only [exponentPart, cons_append, signPart_append h, takeWhile_isDigit_append h,
      dropWhile_isDigit_append h, any_head_append h]
    split_ifs <;> rfl

theorem minusPart_append (h : NumberEnds rest) (cs : List Char) :
    minusPart (cs ++ rest) = ((minusPart cs).1, (minusPart cs).2 ++ rest) := by
  cases cs with
  | nil =>
    cases rest with
    | nil => rfl
    | cons c rest => simp [minusPart, numberEnds_cons h]
  | cons c cs =>
    simp only [minusPart, cons_append]
    split_ifs <;> rfl

/-- What stands behind a number is not read as part of it. -/
theorem numberText_append (h : NumberEnds rest) (cs : List Char) :
    numberText (cs ++ rest) = (numberText cs).map fun p => (p.1, p.2 ++ rest) := by
  simp only [numberText, minusPart_append h, integerPart_append h, Option.map_map]
  congr 1
  funext digits
  simp only [Function.comp_apply, fractionPart_append h, exponentPart_append h]

/-- The decimal text of a positive number does not start with a zero. -/
theorem head_toDigits {n : Nat} (hn : 0 < n) : ∃ c ds, Nat.toDigits 10 n = c :: ds ∧ c ≠ '0' := by
  induction n using Nat.strong_induction_on with
  | h n ih =>
    by_cases hlt : n < 10
    · have hdigit : ∀ m : Fin 10, 0 < m.val → Nat.digitChar m ≠ '0' := by decide
      exact ⟨_, [], Nat.toDigits_of_lt_base hlt, hdigit ⟨n, hlt⟩ hn⟩
    · have hle : 10 ≤ n := Nat.le_of_not_lt hlt
      obtain ⟨c, ds, hds, hc⟩ := ih (n / 10) (by omega) (by omega)
      exact ⟨c, ds ++ [Nat.digitChar (n % 10)], by
        rw [Nat.toDigits_of_base_le (by decide) hle, hds, cons_append], hc⟩

theorem integerPart_toDigits (n : Nat) :
    integerPart (Nat.toDigits 10 n) = some (Nat.toDigits 10 n, []) := by
  rcases Nat.eq_zero_or_pos n with rfl | hn
  · rfl
  · obtain ⟨c, ds, hds, hc⟩ := head_toDigits hn
    have hdigits : ∀ d ∈ c :: ds, d.isDigit = true := by
      intro d hd
      exact Nat.isDigit_of_mem_toDigits (by decide) (by decide) (hds ▸ hd)
    have htail : ∀ d ∈ ds, d.isDigit = true := fun d hd => hdigits d (mem_cons_of_mem c hd)
    have hempty : ds.dropWhile Char.isDigit = [] := dropWhile_eq_nil_iff.mpr htail
    rw [hds, integerPart, if_neg hc, if_pos (hdigits c mem_cons_self),
      takeWhile_eq_self_iff.mpr htail, hempty]

theorem minusPart_toDigits (n : Nat) : minusPart (Nat.toDigits 10 n) = ([], Nat.toDigits 10 n) := by
  cases hds : Nat.toDigits 10 n with
  | nil => rfl
  | cons c ds =>
    have hdigit : c.isDigit = true :=
      Nat.isDigit_of_mem_toDigits (by decide) (by decide) (hds ▸ mem_cons_self)
    have hminus : c ≠ '-' := by
      rintro rfl
      cases hdigit
    simp [minusPart, hminus]

/-- The text of an integer, whatever its sign. -/
theorem toList_toString_int (n : Int) :
    (toString n).toList = (if n < 0 then ['-'] else []) ++ Nat.toDigits 10 n.natAbs := by
  cases n with
  | ofNat m =>
    have hneg : ¬ Int.ofNat m < 0 := by
      simp
    rw [if_neg hneg]
    exact Nat.toList_repr
  | negSucc m =>
    rw [if_pos (Int.negSucc_lt_zero m)]
    show ("-" ++ Nat.repr (m + 1)).toList = _
    rw [String.toList_append, Nat.toList_repr]
    rfl

theorem numberText_int (n : Int) :
    numberText (toString n).toList = some (((toString n).toList, false), []) := by
  rw [toList_toString_int]
  split
  · simp [numberText, minusPart, integerPart_toDigits, fractionPart, exponentPart]
  · simp [numberText, minusPart_toDigits, integerPart_toDigits, fractionPart, exponentPart]

/-! ## Values -/

/-- The words of JSON, as CPython reads it, and what they stand for. -/
def jsonWords : List (String × PyValue) :=
  [("null", .none), ("true", .bool true), ("false", .bool false), ("NaN", .nonFinite "NaN"),
    ("Infinity", .nonFinite "Infinity"), ("-Infinity", .nonFinite "-Infinity")]

def readWord (cs : List Char) : Option (PyValue × List Char) :=
  jsonWords.findSome? fun word =>
    if word.1.toList.isPrefixOf cs then some (word.2, cs.drop word.1.toList.length) else none

/-- A quoted string in a text. -/
def readString (cs : List Char) : Option (String × List Char) :=
  match cs with
  | c :: rest =>
    if c = '"' then
      (stringBody (rest.length + 1) rest).map fun body => (String.ofList body.1, body.2)
    else none
  | [] => none

/-- The text behind a punctuation mark, which whitespace may precede. -/
def readMark (mark : Char) (cs : List Char) : Option (List Char) :=
  match skipSpace cs with
  | c :: rest => if c = mark then some rest else none
  | [] => none

/-- `dict(pairs)`: the last value of a key, at the place of the first. -/
def pairsDict (pairs : List (String × PyValue)) : List (String × PyValue) :=
  pairs.foldl (fun members pair => Dict.put pair.1 pair.2 members) []

mutual
/-- One value at the start of a text, and the text behind it. -/
def parseValue [FloatReader] : Nat → List Char → Option (PyValue × List Char)
  | 0, _ => none
  | _ + 1, [] => none
  | fuel + 1, c :: rest =>
    if c = '"' then (readString (c :: rest)).map fun text => (.str text.1, text.2)
    else if c = '[' then
      match readMark ']' rest with
      | some rest => some (.list [], rest)
      | none => (parseItems fuel (skipSpace rest)).map fun items => (.list items.1, items.2)
    else if c = '\x7b' then
      match readMark '\x7d' rest with
      | some rest => some (.dict [], rest)
      | none =>
        (parseMembers fuel (skipSpace rest)).map fun pairs => (.dict (pairsDict pairs.1), pairs.2)
    else
      match readWord (c :: rest) with
      | some word => some word
      | none => readNumber (c :: rest)
/-- The items of a list up to its closing bracket. -/
def parseItems [FloatReader] : Nat → List Char → Option (List PyValue × List Char)
  | 0, _ => none
  | fuel + 1, cs =>
    match parseValue fuel cs with
    | none => none
    | some (item, rest) =>
      match readMark ']' rest with
      | some rest => some ([item], rest)
      | none =>
        match readMark ',' rest with
        | some rest =>
          (parseItems fuel (skipSpace rest)).map fun items => (item :: items.1, items.2)
        | none => none
/-- The members of a dictionary up to its closing brace. -/
def parseMembers [FloatReader] : Nat → List Char → Option (List (String × PyValue) × List Char)
  | 0, _ => none
  | fuel + 1, cs =>
    match readString cs with
    | none => none
    | some (key, rest) =>
      match readMark ':' rest with
      | none => none
      | some rest =>
        match parseValue fuel (skipSpace rest) with
        | none => none
        | some (value, rest) =>
          match readMark '\x7d' rest with
          | some rest => some ([(key, value)], rest)
          | none =>
            match readMark ',' rest with
            | some rest =>
              (parseMembers fuel (skipSpace rest)).map fun pairs =>
                ((key, value) :: pairs.1, pairs.2)
            | none => none
end

/-- `json.loads`; `none` stands for its `ValueError`. Every second call of the parser reads a
character, so the fuel never runs out. -/
def loads [FloatReader] (cs : List Char) : Option PyValue :=
  match parseValue (2 * cs.length + 1) (skipSpace cs) with
  | none => none
  | some (value, rest) => if (skipSpace rest).isEmpty then some value else none

/-! ## Bytes -/

/-- `json.loads` on bytes that are no plain ASCII text. -/
class JsonReader extends FloatReader where
  loadsForeign : Bytes → Option PyValue

def isPlainByte (b : UInt8) : Bool := 0 < b.toNat && b.toNat < 128

/-- `json.loads` on bytes. -/
def loadsBytes [JsonReader] (bs : Bytes) : Option PyValue :=
  if bs.all isPlainByte then loads (bs.map fun b => Char.ofNat b.toNat)
  else JsonReader.loadsForeign bs

end AidnSpec.Base
