import AidnSpec.Base.JsonRoundTrip
import Mathlib.Data.List.Sort
import Mathlib.Data.String.Basic

/-!
# What a JSON digest determines

Among messages without a collision of SHA-256, equal digests are digests of one value up to the
order of members, so the members with one key agree.
-/

namespace AidnSpec.Base

open List

/-- What `hashlib.sha256` is given: the canonical JSON of a value. -/
def canonicalBytes (value : PyValue) : Bytes := asciiBytes (canonicalText value)

/-- SHA-256 is injective on the canonical JSON of these values. -/
def DigestsApart (values : List PyValue) : Prop := CollisionFree (values.map canonicalBytes)

/-! ## Texts that reduce

Merge sort recurses on a measure and does not reduce. Insertion sort does. The characters of a text
are read from its bytes. -/

/-- A merge sort by a key is the insertion sort by it. -/
theorem mergeSort_eq_insertionSort_of_key {α K : Type} [LinearOrder K] (key : α → K) (l : List α) :
    l.mergeSort (fun a b => key a ≤ key b) = l.insertionSort fun a b => key a ≤ key b := by
  induction l with
  | nil => rw [mergeSort_nil, insertionSort_nil]
  | cons a l ih =>
    have trans : ∀ a b c, decide (key a ≤ key b) = true → decide (key b ≤ key c) = true →
        decide (key a ≤ key c) = true := by
      intro a b c hab hbc
      rw [decide_eq_true_eq] at hab hbc ⊢
      exact le_trans hab hbc
    have total : ∀ a b, (decide (key a ≤ key b) || decide (key b ≤ key a)) = true := by
      intro a b
      simpa using le_total (key a) (key b)
    obtain ⟨before, after, hsorted, hrest, hbefore⟩ := mergeSort_cons trans total a l
    have hpairs := pairwise_mergeSort trans total (a :: l)
    rw [hsorted] at hpairs ⊢
    rw [insertionSort_cons, ← ih, hrest]
    clear hsorted hrest ih
    induction before with
    | nil =>
      cases after with
      | nil => rfl
      | cons b after =>
        have hle := (pairwise_cons.mp hpairs).1 b mem_cons_self
        rw [decide_eq_true_eq] at hle
        exact (if_pos hle).symm
    | cons b before ihb =>
      have hlt : ¬ key a ≤ key b := by simpa using hbefore b mem_cons_self
      rw [cons_append, cons_append, orderedInsert_cons, if_neg hlt,
        ihb (fun c hc => hbefore c (mem_cons_of_mem b hc)) (pairwise_cons.mp hpairs).2]

theorem sortMembers_eq_insertionSort (members : List (String × List Char)) :
    sortMembers members = members.insertionSort fun a b => a.1 ≤ b.1 := by
  rw [sortMembers]
  convert mergeSort_eq_insertionSort_of_key Prod.fst members

/-- The characters of a text, read from its bytes when they are all ASCII. -/
def textChars (s : String) : List Char :=
  let bytes := s.toByteArray.data.toList
  if bytes.all (· < 128) then bytes.map fun b => Char.ofNat b.toNat else s.toList

/-- A character with ASCII bytes only is one byte. -/
theorem map_utf8EncodeChar {c : Char} (h : ∀ b ∈ String.utf8EncodeChar c, b < 128) :
    (String.utf8EncodeChar c).map (fun b => Char.ofNat b.toNat) = [c] := by
  have hascii : c.val.toNat ≤ 0x7f := by
    by_contra hlarge
    have hbyte : ∀ m : Nat, 128 ≤ m → m < 256 → UInt8.ofNat m ∉ String.utf8EncodeChar c := by
      intro m hm hbound hmem
      have hlt := h _ hmem
      rw [UInt8.lt_iff_toNat_lt, UInt8.toNat_ofNat_of_lt' (by simpa using hbound)] at hlt
      have : (128 : UInt8).toNat = 128 := rfl
      omega
    unfold String.utf8EncodeChar at hbyte
    simp only [hlarge, if_false] at hbyte
    split_ifs at hbyte
    · exact hbyte (c.val.toNat / 64 % 0x20 + 0xc0) (by omega) (by omega) mem_cons_self
    · exact hbyte (c.val.toNat / 4096 % 0x10 + 0xe0) (by omega) (by omega) mem_cons_self
    · exact hbyte (c.val.toNat / 262144 % 0x08 + 0xf0) (by omega) (by omega) mem_cons_self
  unfold String.utf8EncodeChar
  simp only [hascii, if_true, map_cons, map_nil]
  rw [UInt8.toNat_ofNat_of_lt' (show c.val.toNat < 256 by omega)]
  exact congrArg (· :: []) (Char.ofNat_toNat c)

theorem toList_toByteArray (s : String) :
    s.toByteArray.data.toList = s.toList.flatMap String.utf8EncodeChar := by
  rw [← String.utf8Encode_toList, List.utf8Encode, toList_data_toByteArray]

theorem textChars_eq (s : String) : textChars s = s.toList := by
  simp only [textChars, toList_toByteArray, all_eq_true, decide_eq_true_eq]
  split_ifs with hascii
  · generalize s.toList = cs at hascii ⊢
    induction cs with
    | nil => rfl
    | cons c cs ih =>
      simp only [flatMap_cons, mem_append] at hascii
      rw [flatMap_cons, map_append, map_utf8EncodeChar fun b hb => hascii b (.inl hb),
        ih fun b hb => hascii b (.inr hb), singleton_append]
  · rfl

mutual
/-- The canonical text, with the members put in order one by one. -/
def orderedText : PyValue → List Char
  | .none => "null".toList
  | .bool b => (if b then "true" else "false").toList
  | .int n => (toString n).toList
  | .float repr _ => repr.toList
  | .nonFinite repr => repr.toList
  | .str s => '"' :: (textChars s).flatMap escapeChar ++ ['"']
  | .list items => '[' :: joinTexts (orderedItems items) ++ [']']
  | .dict members =>
    '\x7b' :: joinTexts (((orderedMembers members).insertionSort fun a b => a.1 ≤ b.1).map
      fun m => '"' :: m.1.flatMap escapeChar ++ '"' :: ':' :: m.2) ++ ['\x7d']
def orderedItems : List PyValue → List (List Char)
  | [] => []
  | item :: items => orderedText item :: orderedItems items
def orderedMembers : List (String × PyValue) → List (List Char × List Char)
  | [] => []
  | (key, value) :: members => (textChars key, orderedText value) :: orderedMembers members
end

/-- The members of a dictionary are in the order of the characters of their keys. -/
theorem insertionSort_keyChars (members : List (String × List Char)) :
    (members.map fun m => (m.1.toList, m.2)).insertionSort (fun a b => a.1 ≤ b.1) =
      (members.insertionSort fun a b => a.1 ≤ b.1).map fun m => (m.1.toList, m.2) :=
  (map_insertionSort (fun a b => a.1 ≤ b.1) (fun a b => a.1 ≤ b.1) (fun m => (m.1.toList, m.2))
    members fun _ _ _ _ => String.le_iff_toList_le).symm

mutual
theorem orderedText_eq : ∀ value, orderedText value = canonicalText value
  | .none => rfl
  | .bool _ => rfl
  | .int _ => rfl
  | .float _ _ => rfl
  | .nonFinite _ => rfl
  | .str _ => by rw [orderedText, canonicalText, quoteText, textChars_eq]
  | .list items => by rw [orderedText, canonicalText, orderedItems_eq]
  | .dict members => by
    rw [orderedText, canonicalText, orderedMembers_eq, insertionSort_keyChars,
      sortMembers_eq_insertionSort, map_map]
    congr 2
    refine congrArg joinTexts (map_congr_left fun m _ => ?_)
    simp [quoteText]
theorem orderedItems_eq : ∀ items, orderedItems items = canonicalItems items
  | [] => rfl
  | item :: items => by rw [orderedItems, canonicalItems, orderedText_eq, orderedItems_eq]
theorem orderedMembers_eq : ∀ members,
    orderedMembers members = (canonicalMembers members).map fun m => (m.1.toList, m.2)
  | [] => rfl
  | (key, value) :: members => by
    rw [orderedMembers, canonicalMembers, orderedText_eq, orderedMembers_eq, textChars_eq,
      map_cons]
end

theorem canonicalBytes_eq_ordered (value : PyValue) :
    canonicalBytes value = asciiBytes (orderedText value) := by
  rw [canonicalBytes, orderedText_eq]

instance (values : List PyValue) : Decidable (DigestsApart values) :=
  decidable_of_iff (CollisionFree (values.map fun value => asciiBytes (orderedText value))) (by
    rw [DigestsApart, funext canonicalBytes_eq_ordered])

/-! ## Equal digests -/

/-- A digest is the hexadecimal SHA-256 of the canonical JSON. -/
theorem jsonDigest_eq (value : PyValue) :
    jsonDigest value = hexEncode false (sha256 (canonicalBytes value)) := by
  rw [jsonDigest, canonicalBytes]

theorem jsonDigest_eq_ordered (value : PyValue) :
    jsonDigest value = hexEncode false (forcedSha256 (asciiBytes (orderedText value))) := by
  rw [jsonDigest_eq, canonicalBytes_eq_ordered, forcedSha256_eq]

section
variable [JsonReader]

/-- Equal texts are texts of values that differ in the order of members at most. -/
theorem sorted_eq_of_canonicalBytes {v w : PyValue} (wellFormed : v.WellFormed ∧ w.WellFormed)
    (dumpable : v.dumpable = true ∧ w.dumpable = true)
    (hbytes : canonicalBytes v = canonicalBytes w) : v.sorted = w.sorted := by
  have hread := loadsBytes_canonicalText wellFormed.1 dumpable.1
  rw [← canonicalBytes, hbytes, canonicalBytes,
    loadsBytes_canonicalText wellFormed.2 dumpable.2] at hread
  exact (Option.some.inj hread).symm

end

/-! ## Values without floats -/

@[reducible] def floatlessReader : JsonReader where
  readFloat _ := .none
  loadsForeign _ := none

namespace PyValue

/-- A value without floats that can be written. -/
structure Plain (value : PyValue) : Prop where
  wellFormed : @WellFormed floatlessReader.toFloatReader value
  dumpable : value.dumpable = true

theorem plain_none : Plain .none := ⟨@WellFormed.none floatlessReader.toFloatReader, rfl⟩

theorem plain_str (s : String) : Plain (.str s) :=
  ⟨@WellFormed.str floatlessReader.toFloatReader s, rfl⟩

theorem plain_int {n : Int} (h : (PyValue.int n).dumpable = true) : Plain (.int n) :=
  ⟨@WellFormed.int floatlessReader.toFloatReader n, h⟩

theorem plain_dict {members : List (String × PyValue)} (hkeys : (members.map Prod.fst).Nodup)
    (h : ∀ member ∈ members, Plain member.2) : Plain (.dict members) := by
  refine ⟨@WellFormed.dict floatlessReader.toFloatReader _ hkeys
    fun member hmember => (h member hmember).wellFormed, ?_⟩
  clear hkeys
  rw [PyValue.dumpable]
  induction members with
  | nil => rfl
  | cons member members ih =>
    rw [dumpableMembers, (h member mem_cons_self).dumpable, Bool.true_and]
    exact ih fun i hi => h i (mem_cons_of_mem member hi)

/-- A dictionary without nested values can be written when `json.dumps` does not raise. -/
theorem plain_of_flat {members : List (String × PyValue)} (hkeys : (members.map Prod.fst).Nodup)
    (hflat : ∀ member ∈ members, member.2 = .none ∨ (∃ s, member.2 = .str s) ∨
      ∃ n, member.2 = .int n)
    (hdump : (PyValue.dict members).dumpable = true) : Plain (.dict members) := by
  apply plain_dict hkeys
  intro member hmember
  have hvalue := PyValue.dumpable_of_mem_members hdump hmember
  rcases hflat member hmember with h | ⟨s, h⟩ | ⟨n, h⟩
  · exact h ▸ plain_none
  · exact h ▸ plain_str s
  · rw [h] at hvalue ⊢
    exact plain_int hvalue

end PyValue

/-- Plain dictionaries with equal texts: the members with one key agree. -/
theorem lookup_eq_of_canonicalBytes {first second : List (String × PyValue)}
    (hfirst : (PyValue.dict first).Plain) (hsecond : (PyValue.dict second).Plain)
    (heq : canonicalBytes (.dict first) = canonicalBytes (.dict second)) (key : String) :
    (first.lookup key).map PyValue.sorted = (second.lookup key).map PyValue.sorted := by
  have hsorted := @sorted_eq_of_canonicalBytes floatlessReader _ _
    ⟨hfirst.wellFormed, hsecond.wellFormed⟩ ⟨hfirst.dumpable, hsecond.dumpable⟩ heq
  have hkeys : ∀ {members : List (String × PyValue)}, (PyValue.dict members).Plain →
      (members.map Prod.fst).Nodup := by
    intro members hplain
    cases hplain.wellFormed with
    | dict hkeys _ => exact hkeys
  rw [PyValue.sorted_dict, PyValue.sorted_dict, PyValue.dict.injEq] at hsorted
  rw [← lookup_sorted (hkeys hfirst), ← lookup_sorted (hkeys hsecond), hsorted]

/-- Equal digests of plain dictionaries: the members with one key agree. -/
theorem DigestsApart.lookup_eq {values : List PyValue} (h : DigestsApart values)
    {first second : List (String × PyValue)} (hfirst : .dict first ∈ values)
    (hsecond : .dict second ∈ values) (hfirstPlain : (PyValue.dict first).Plain)
    (hsecondPlain : (PyValue.dict second).Plain)
    (heq : jsonDigest (.dict first) = jsonDigest (.dict second)) (key : String) :
    (first.lookup key).map PyValue.sorted = (second.lookup key).map PyValue.sorted := by
  rw [jsonDigest_eq, jsonDigest_eq] at heq
  exact lookup_eq_of_canonicalBytes hfirstPlain hsecondPlain
    (h _ (mem_map_of_mem hfirst) _ (mem_map_of_mem hsecond) (hexEncode_inj heq)) key

end AidnSpec.Base
