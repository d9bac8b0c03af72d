import AidnSpec.Base.JsonText

/-!
# What JSON writes and reads back

`json.loads` reads back what `json.dumps(…, sort_keys=True)` wrote: the same value with the members
of every dictionary in the order of their keys, an order that `==` does not see.
-/

namespace AidnSpec.Base

open PyValue List

namespace PyValue

mutual
/-- The members of every dictionary in the order of their keys. -/
def sorted : PyValue → PyValue
  | .list items => .list (sortedItems items)
  | .dict members => .dict ((sortedMembers members).mergeSort fun a b => a.1 ≤ b.1)
  | .none => .none
  | .bool b => .bool b
  | .int n => .int n
  | .float repr value => .float repr value
  | .nonFinite repr => .nonFinite repr
  | .str s => .str s
def sortedItems : List PyValue → List PyValue
  | [] => []
  | item :: items => item.sorted :: sortedItems items
/-- The members of a dictionary, each with its own members in order. -/
def sortedMembers : List (String × PyValue) → List (String × PyValue)
  | [] => []
  | (key, value) :: members => (key, value.sorted) :: sortedMembers members
end

attribute [local simp] sorted sortedItems sortedMembers canonicalText canonicalItems
  canonicalMembers

theorem sortedItems_eq (items : List PyValue) : sortedItems items = items.map sorted := by
  induction items with
  | nil => rfl
  | cons item items ih => rw [sortedItems, ih, map_cons]

theorem sortedMembers_eq (members : List (String × PyValue)) :
    sortedMembers members = members.map fun m => (m.1, m.2.sorted) := by
  induction members with
  | nil => rfl
  | cons member members ih => rw [sortedMembers, ih, map_cons]

end PyValue

theorem canonicalItems_eq (items : List PyValue) :
    canonicalItems items = items.map canonicalText := by
  induction items with
  | nil => rfl
  | cons item items ih => rw [canonicalItems, ih, map_cons]

theorem canonicalMembers_eq (members : List (String × PyValue)) :
    canonicalMembers members = members.map fun m => (m.1, canonicalText m.2) := by
  induction members with
  | nil => rfl
  | cons member members ih => rw [canonicalMembers, ih, map_cons]

/-- The members of a dictionary in the order in which they are written. -/
theorem canonicalText_dict (members : List (String × PyValue)) :
    canonicalText (.dict members) =
      '\x7b' :: joinTexts ((members.mergeSort fun a b => a.1 ≤ b.1).map
        fun m => quoteText m.1 ++ ':' :: canonicalText m.2) ++ ['\x7d'] := by
  have hsort : sortMembers (canonicalMembers members) =
      (members.mergeSort fun a b => a.1 ≤ b.1).map fun m => (m.1, canonicalText m.2) := by
    rw [sortMembers, canonicalMembers_eq, map_mergeSort]
    intro a _ b _
    rfl
  rw [canonicalText, hsort, map_map]
  rfl

theorem PyValue.sorted_dict (members : List (String × PyValue)) :
    (PyValue.dict members).sorted =
      .dict ((members.mergeSort fun a b => a.1 ≤ b.1).map fun m => (m.1, m.2.sorted)) := by
  rw [PyValue.sorted, PyValue.sortedMembers_eq, map_mergeSort]
  intro a _ b _
  rfl

section
variable [FloatReader]

variable {v : PyValue} {members : List (String × PyValue)}

/-- The canonical text is the text of the value with its members in order. -/
theorem canonicalText_eq_jsonText (hv : v.WellFormed) :
    canonicalText v = jsonText escapeChar v.sorted := by
  induction hv with
  | none => rfl
  | bool b => cases b <;> rfl
  | int | float | nonFinite => rw [canonicalText, PyValue.sorted, jsonText]
  | str s => rfl
  | list _ ih =>
    rw [canonicalText, canonicalItems_eq, PyValue.sorted, PyValue.sortedItems_eq, jsonText,
      jsonItems_eq, map_map, map_congr_left ih]
    rfl
  | @dict members _ _ ih =>
    have hperm := mergeSort_perm members fun a b => decide (a.1 ≤ b.1)
    have htexts : ∀ m ∈ members.mergeSort fun a b => decide (a.1 ≤ b.1),
        quoteText m.1 ++ ':' :: canonicalText m.2 =
          quoteWith escapeChar m.1 ++ ':' :: jsonText escapeChar m.2.sorted := by
      intro m hm
      rw [ih m (hperm.mem_iff.mp hm)]
      rfl
    rw [canonicalText_dict, sorted_dict, jsonText, jsonMembers_eq, map_map,
      map_congr_left htexts]
    rfl

theorem PyValue.WellFormed.sorted (hv : v.WellFormed) : v.sorted.WellFormed := by
  induction hv with
  | none => exact .none
  | bool b => exact .bool b
  | int n => exact .int n
  | float htext hvalue => exact .float htext hvalue
  | nonFinite h => exact .nonFinite h
  | str s => exact .str s
  | list _ ih =>
    rw [PyValue.sorted, PyValue.sortedItems_eq]
    apply PyValue.WellFormed.list
    intro item hitem
    obtain ⟨item, hmem, rfl⟩ := mem_map.mp hitem
    exact ih item hmem
  | @dict members hkeys _ ih =>
    have hperm := mergeSort_perm members fun a b => decide (a.1 ≤ b.1)
    rw [sorted_dict]
    apply PyValue.WellFormed.dict
    · rw [map_map]
      exact (hperm.map Prod.fst).nodup_iff.mpr hkeys
    · intro member hmember
      obtain ⟨m, hm, rfl⟩ := mem_map.mp hmember
      exact ih m (hperm.mem_iff.mp hm)

/-- Sorting members adds no digits. -/
theorem PyValue.dumpable_sorted (hv : v.WellFormed) (hd : v.dumpable = true) :
    v.sorted.dumpable = true := by
  induction hv with
  | none | bool _ | float _ _ | nonFinite _ | str _ => rfl
  | int n => exact hd
  | list _ ih =>
    rw [dumpable] at hd
    rw [PyValue.sorted, PyValue.sortedItems_eq, dumpable]
    apply dumpableItems_of_mem
    intro item hitem
    obtain ⟨item, hmem, rfl⟩ := mem_map.mp hitem
    exact ih item hmem (dumpable_of_mem_items hd hmem)
  | @dict members _ _ ih =>
    have hperm := mergeSort_perm members fun a b => decide (a.1 ≤ b.1)
    rw [dumpable] at hd
    rw [sorted_dict, dumpable]
    apply dumpableMembers_of_mem
    intro member hmember
    obtain ⟨m, hm, rfl⟩ := mem_map.mp hmember
    have hmem := hperm.mem_iff.mp hm
    exact ih m hmem (dumpable_of_mem_members hd hmem)

omit [FloatReader] in
theorem pairwise_mergeSort_keys (members : List (String × PyValue)) :
    (members.mergeSort fun a b => a.1 ≤ b.1).Pairwise fun a b => decide (a.1 ≤ b.1) = true := by
  apply pairwise_mergeSort
  · intro a b c hab hbc
    rw [decide_eq_true_eq] at hab hbc ⊢
    exact String.le_trans hab hbc
  · intro a b
    simpa using String.le_total a.1 b.1

/-- Sorting twice is sorting once. -/
theorem PyValue.sorted_sorted (hv : v.WellFormed) : v.sorted.sorted = v.sorted := by
  induction hv with
  | none | bool _ | int _ | float _ _ | nonFinite _ | str _ => rfl
  | list _ ih =>
    rw [PyValue.sorted, PyValue.sortedItems_eq, PyValue.sorted, PyValue.sortedItems_eq,
      map_map, PyValue.list.injEq]
    exact map_congr_left ih
  | @dict members _ _ ih =>
    have hperm := mergeSort_perm members fun a b => decide (a.1 ≤ b.1)
    have hordered : ((members.mergeSort fun a b => a.1 ≤ b.1).map fun m =>
        (m.1, m.2.sorted)).mergeSort (fun a b => a.1 ≤ b.1) =
        (members.mergeSort fun a b => a.1 ≤ b.1).map fun m => (m.1, m.2.sorted) :=
      mergeSort_of_pairwise (pairwise_map.mpr (pairwise_mergeSort_keys members))
    rw [sorted_dict, sorted_dict, hordered, map_map, PyValue.dict.injEq]
    refine map_congr_left fun m hm => ?_
    exact congrArg (Prod.mk m.1) (ih m (hperm.mem_iff.mp hm))

/-- The text of a value is read back with what stands behind it left over. -/
structure ReadsBack (v : PyValue) : Prop where
  start : ∃ c rest, canonicalText v = c :: rest ∧ isJsonSpace c = false ∧ c ≠ ']'
  read : ∀ fuel rest, 2 * (canonicalText v).length ≤ fuel → NumberEnds rest →
    parseValue fuel (canonicalText v ++ rest) = some (v.sorted, rest)

/-- Every value of Python that can be written is read back. -/
theorem readsBack_of_wellFormed (hv : v.WellFormed) (hd : v.dumpable = true) : ReadsBack v := by
  obtain ⟨start, read⟩ := readsText_of_wellFormed readable_escapeChar hv.sorted
    (dumpable_sorted hv hd)
  rw [← canonicalText_eq_jsonText hv] at start read
  exact ⟨start, read⟩

/-- `json.loads(json.dumps(value, sort_keys=True, …))` is the value with its members sorted. -/
theorem loads_canonicalText (hv : v.WellFormed) (hd : v.dumpable = true) :
    loads (canonicalText v) = some v.sorted := by
  rw [canonicalText_eq_jsonText hv]
  exact loads_jsonText readable_escapeChar hv.sorted (dumpable_sorted hv hd)

omit [FloatReader] in
theorem lookup_of_mem (hkeys : (members.map Prod.fst).Nodup) {member : String × PyValue}
    (h : member ∈ members) : members.lookup member.1 = some member.2 := by
  induction members with
  | nil => cases h
  | cons first members ih =>
    rw [map_cons, nodup_cons] at hkeys
    rcases mem_cons.mp h with rfl | h
    · rw [lookup_cons_self]
    · have hne : member.1 ≠ first.1 := by
        intro heq
        exact hkeys.1 (heq ▸ mem_map_of_mem h)
      rw [lookup_cons, beq_eq_false_iff_ne.mpr hne]
      exact ih hkeys.2 h

omit [FloatReader] in
theorem eqvItems_map {items : List PyValue} (h : ∀ item ∈ items, item.sorted.eqv item = true) :
    eqvItems (items.map PyValue.sorted) items = true := by
  induction items with
  | nil => rfl
  | cons item items ih =>
    rw [map_cons, eqvItems, h item mem_cons_self,
      ih fun i hi => h i (mem_cons_of_mem item hi)]
    rfl

omit [FloatReader] in
theorem eqvMembers_map {ordered : List (String × PyValue)}
    (h : ∀ member ∈ ordered, members.lookup member.1 = some member.2 ∧
      member.2.sorted.eqv member.2 = true) :
    eqvMembers (ordered.map fun m => (m.1, m.2.sorted)) members = true := by
  induction ordered with
  | nil => rfl
  | cons member ordered ih =>
    obtain ⟨hlookup, heqv⟩ := h member mem_cons_self
    rw [map_cons, eqvMembers, hlookup, ih fun m hm => h m (mem_cons_of_mem member hm)]
    simp only [heqv, Bool.and_self]

/-- `==` does not see the order of members. -/
theorem PyValue.eqv_sorted (hv : v.WellFormed) : v.sorted.eqv v = true := by
  induction hv with
  | none => rfl
  | bool b => cases b <;> rfl
  | int | float => simp [PyValue.sorted, eqv, number?]
  | nonFinite _ => simp [PyValue.sorted, eqv]
  | str s => simp [PyValue.sorted, eqv]
  | list _ ih =>
    rw [PyValue.sorted, PyValue.sortedItems_eq, eqv]
    exact eqvItems_map ih
  | @dict members hkeys _ ih =>
    have hperm := mergeSort_perm members fun a b => decide (a.1 ≤ b.1)
    have hmembers := eqvMembers_map fun m hm =>
      ⟨lookup_of_mem hkeys (hperm.mem_iff.mp hm), ih m (hperm.mem_iff.mp hm)⟩
    rw [sorted_dict, eqv, length_map, hperm.length_eq, hmembers]
    simp

end

/-- Reading a member does not depend on the order of the members. -/
theorem lookup_of_perm {first second : List (String × PyValue)} (h : first.Perm second)
    (hkeys : (second.map Prod.fst).Nodup) (key : String) :
    first.lookup key = second.lookup key := by
  have hfirst : (first.map Prod.fst).Nodup := (h.map Prod.fst).nodup_iff.mpr hkeys
  have hsome : ∀ (members : List (String × PyValue)) (value : PyValue),
      members.lookup key = some value → (key, value) ∈ members := by
    intro members value hvalue
    induction members with
    | nil => cases hvalue
    | cons member members ih =>
      rw [lookup_cons] at hvalue
      split at hvalue
      · next heq =>
        rw [beq_iff_eq.mp heq, ← Option.some.inj hvalue]
        exact mem_cons_self
      · exact mem_cons_of_mem member (ih hvalue)
  ext value
  constructor
  · intro hvalue
    exact lookup_of_mem hkeys (h.mem_iff.mp (hsome first value hvalue))
  · intro hvalue
    exact lookup_of_mem hfirst (h.mem_iff.mpr (hsome second value hvalue))

/-- Reading a member of a sorted dictionary. -/
theorem lookup_sorted {members : List (String × PyValue)} (hkeys : (members.map Prod.fst).Nodup)
    (key : String) :
    ((members.mergeSort fun a b => a.1 ≤ b.1).map fun m => (m.1, m.2.sorted)).lookup key =
      (members.lookup key).map PyValue.sorted := by
  have hmap : ∀ ordered : List (String × PyValue),
      (ordered.map fun m => (m.1, m.2.sorted)).lookup key =
        (ordered.lookup key).map PyValue.sorted := by
    intro ordered
    induction ordered with
    | nil => rfl
    | cons member ordered ih =>
      rw [map_cons, lookup_cons, lookup_cons]
      split
      · rfl
      · exact ih
  rw [hmap, lookup_of_perm (mergeSort_perm members _) hkeys]

/-! ## Plain ASCII texts -/

def IsPlain (c : Char) : Prop := 0 < c.toNat ∧ c.toNat < 128

variable {c : Char} {n : Nat} {cs : List Char} {v : PyValue}

theorem isPlain_of_isDigit (h : c.isDigit = true) : IsPlain c := by
  have hd : 48 ≤ c.toNat ∧ c.toNat ≤ 57 := Char.isDigit_iff_toNat.mp h
  exact ⟨by omega, by omega⟩

theorem isPlain_hexDigit (h : n < 16) : IsPlain (hexDigit false n) := by
  have key : ∀ m : Fin 16, 0 < (hexDigit false m).toNat ∧ (hexDigit false m).toNat < 128 := by
    decide
  exact key ⟨n, h⟩

theorem isPlain_unicodeEscape (h : c ∈ unicodeEscape n) : IsPlain c := by
  have hlt : ∀ m, m % 16 < 16 := fun m => Nat.mod_lt m (by decide)
  simp only [unicodeEscape, mem_cons, not_mem_nil, or_false] at h
  rcases h with rfl | rfl | rfl | rfl | rfl | rfl
  · exact ⟨by decide, by decide⟩
  · exact ⟨by decide, by decide⟩
  · exact isPlain_hexDigit (hlt _)
  · exact isPlain_hexDigit (hlt _)
  · exact isPlain_hexDigit (hlt _)
  · exact isPlain_hexDigit (hlt _)

theorem isPlain_escapeChar {d : Char} (h : d ∈ escapeChar c) : IsPlain d := by
  have hpair : ∀ e : Char, IsPlain e → d ∈ ['\\', e] → IsPlain d := by
    intro e he hd
    rcases mem_cons.mp hd with rfl | hd
    · exact ⟨by decide, by decide⟩
    · rw [mem_singleton.mp hd]
      exact he
  revert h
  fun_cases escapeChar c with
  | case8 _ _ _ _ _ _ _ hplain =>
    intro h
    rw [mem_singleton.mp h]
    exact ⟨by omega, by omega⟩
  | case9 => exact isPlain_unicodeEscape
  | case10 =>
    intro h
    rcases mem_append.mp h with h | h
    · exact isPlain_unicodeEscape h
    · exact isPlain_unicodeEscape h
  | _ => exact hpair _ ⟨by decide, by decide⟩

theorem isPlain_quoteText {s : String} (h : c ∈ quoteText s) : IsPlain c := by
  simp only [quoteText, cons_append, mem_cons, mem_append, mem_flatMap,
    not_mem_nil, or_false] at h
  rcases h with rfl | ⟨d, -, h⟩ | rfl
  · exact ⟨by decide, by decide⟩
  · exact isPlain_escapeChar h
  · exact ⟨by decide, by decide⟩

theorem isPlain_joinTexts {texts : List (List Char)} (h : ∀ text ∈ texts, ∀ c ∈ text, IsPlain c)
    (hc : c ∈ joinTexts texts) : IsPlain c := by
  induction texts with
  | nil => cases hc
  | cons text texts ih =>
    cases texts with
    | nil =>
      rw [joinTexts_singleton] at hc
      exact h text mem_cons_self c hc
    | cons next texts =>
      rw [joinTexts_cons_cons] at hc
      rcases mem_append.mp hc with hc | hc
      · exact h text mem_cons_self c hc
      · rcases mem_cons.mp hc with rfl | hc
        · exact ⟨by decide, by decide⟩
        · exact ih (fun t ht => h t (mem_cons_of_mem text ht)) hc

theorem isPlain_takeWhile_isDigit (h : c ∈ cs.takeWhile Char.isDigit) : IsPlain c :=
  isPlain_of_isDigit (mem_takeWhile_imp h)

theorem isPlain_minusPart (h : c ∈ (minusPart cs).1) : IsPlain c := by
  unfold minusPart at h
  split at h
  · split_ifs at h with hminus
    · rw [mem_singleton.mp h, hminus]
      exact ⟨by decide, by decide⟩
    · cases h
  · cases h

theorem isPlain_signPart (h : c ∈ (signPart cs).1) : IsPlain c := by
  unfold signPart at h
  split at h
  · split_ifs at h with hsign
    · rw [mem_singleton.mp h]
      rcases hsign with rfl | rfl
      · exact ⟨by decide, by decide⟩
      · exact ⟨by decide, by decide⟩
    · cases h
  · cases h

theorem isPlain_integerPart {part : List Char × List Char} (hpart : integerPart cs = some part)
    (h : c ∈ part.1) : IsPlain c := by
  cases cs with
  | nil => cases hpart
  | cons d ds =>
    rw [integerPart] at hpart
    split_ifs at hpart with hzero hdigit
    · cases hpart
      rw [mem_singleton.mp h, hzero]
      exact ⟨by decide, by decide⟩
    · cases hpart
      rcases mem_cons.mp h with rfl | h
      · exact isPlain_of_isDigit hdigit
      · exact isPlain_takeWhile_isDigit h

theorem isPlain_fractionPart (h : c ∈ (fractionPart cs).1) : IsPlain c := by
  unfold fractionPart at h
  split at h
  · split_ifs at h with hdot
    · rcases mem_cons.mp h with rfl | h
      · rw [hdot.1]
        exact ⟨by decide, by decide⟩
      · exact isPlain_takeWhile_isDigit h
    · cases h
  · cases h

theorem isPlain_exponentPart (h : c ∈ (exponentPart cs).1) : IsPlain c := by
  unfold exponentPart at h
  split at h
  · split_ifs at h with hmark
    · rcases mem_append.mp h with h | h
      · rcases mem_cons.mp h with rfl | h
        · rcases hmark.1 with rfl | rfl
          · exact ⟨by decide, by decide⟩
          · exact ⟨by decide, by decide⟩
        · exact isPlain_signPart h
      · exact isPlain_takeWhile_isDigit h
    · cases h
  · cases h

theorem isPlain_numberText {number : (List Char × Bool) × List Char}
    (hnumber : numberText cs = some number) (h : c ∈ number.1.1) : IsPlain c := by
  obtain ⟨digits, hdigits, rfl⟩ := Option.map_eq_some_iff.mp hnumber
  simp only [mem_append] at h
  rcases h with ((h | h) | h) | h
  · exact isPlain_minusPart h
  · exact isPlain_integerPart hdigits h
  · exact isPlain_fractionPart h
  · exact isPlain_exponentPart h

/-- `ensure_ascii`: the text of a value is plain ASCII. -/
theorem isPlain_canonicalText [FloatReader] (hv : v.WellFormed) :
    ∀ c ∈ canonicalText v, IsPlain c := by
  have hword : ∀ word ∈ jsonWords, ∀ c ∈ word.1.toList, 0 < c.toNat ∧ c.toNat < 128 := by
    simp [jsonWords]
  induction hv with
  | none => exact hword ("null", .none) (by decide)
  | bool b =>
    cases b with
    | false => exact hword ("false", .bool false) (by decide)
    | true => exact hword ("true", .bool true) (by decide)
  | int n =>
    rw [canonicalText]
    exact fun c hc => isPlain_numberText (numberText_int n) hc
  | float htext _ =>
    rw [canonicalText]
    exact fun c hc => isPlain_numberText htext hc
  | nonFinite h =>
    rw [canonicalText]
    rcases h with rfl | rfl | rfl
    · exact hword ("NaN", .nonFinite "NaN") (by decide)
    · exact hword ("Infinity", .nonFinite "Infinity") (by decide)
    · exact hword ("-Infinity", .nonFinite "-Infinity") (by decide)
  | str s =>
    rw [canonicalText]
    exact fun c hc => isPlain_quoteText hc
  | @list items _ ih =>
    rw [canonicalText, canonicalItems_eq]
    intro c hc
    rcases mem_append.mp hc with hc | hc
    · rcases mem_cons.mp hc with rfl | hc
      · exact ⟨by decide, by decide⟩
      · refine isPlain_joinTexts (fun text htext d hd => ?_) hc
        obtain ⟨item, hitem, rfl⟩ := mem_map.mp htext
        exact ih item hitem d hd
    · rw [mem_singleton.mp hc]
      exact ⟨by decide, by decide⟩
  | @dict members _ _ ih =>
    rw [canonicalText_dict]
    intro c hc
    rcases mem_append.mp hc with hc | hc
    · rcases mem_cons.mp hc with rfl | hc
      · exact ⟨by decide, by decide⟩
      · refine isPlain_joinTexts (fun text htext d hd => ?_) hc
        obtain ⟨member, hmember, rfl⟩ := mem_map.mp htext
        rcases mem_append.mp hd with hd | hd
        · exact isPlain_quoteText hd
        · rcases mem_cons.mp hd with rfl | hd
          · exact ⟨by decide, by decide⟩
          · exact ih member (mem_mergeSort.mp hmember) d hd
    · rw [mem_singleton.mp hc]
      exact ⟨by decide, by decide⟩

/-- Plain characters survive `encode` and `decode`. -/
theorem loadsBytes_asciiBytes [JsonReader] (h : ∀ c ∈ cs, IsPlain c) :
    loadsBytes (asciiBytes cs) = loads cs := by
  have hbyte : ∀ c ∈ cs, (UInt8.ofNat c.toNat).toNat = c.toNat := by
    intro c hc
    rw [UInt8.toNat_ofNat']
    exact Nat.mod_eq_of_lt (Nat.lt_trans (h c hc).2 (by decide))
  have hplain : (asciiBytes cs).all isPlainByte = true := by
    rw [all_eq_true]
    intro b hb
    obtain ⟨c, hc, rfl⟩ := mem_map.mp hb
    rw [isPlainByte, hbyte c hc, Bool.and_eq_true, decide_eq_true_eq, decide_eq_true_eq]
    exact h c hc
  have hchars : (asciiBytes cs).map (fun b => Char.ofNat b.toNat) = cs := by
    rw [asciiBytes, map_map]
    conv_rhs => rw [← map_id cs]
    apply map_congr_left
    intro c hc
    simp only [Function.comp_apply, hbyte c hc, Char.ofNat_toNat, id_eq]
  rw [loadsBytes, if_pos hplain, hchars]

/-- What is written as bytes is read back. -/
theorem loadsBytes_canonicalText [JsonReader] (hv : v.WellFormed) (hd : v.dumpable = true) :
    loadsBytes (asciiBytes (canonicalText v)) = some v.sorted := by
  rw [loadsBytes_asciiBytes (isPlain_canonicalText hv), loads_canonicalText hv hd]

end AidnSpec.Base
