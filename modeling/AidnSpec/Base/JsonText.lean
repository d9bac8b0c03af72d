import AidnSpec.Base.JsonLoads

/-!
# JSON texts and what they read as

`json.dumps` with compact separators, over the escapes of a string, writes the members of a
dictionary in the order they stand in. `json.loads` reads the value back when it undoes the escapes.
-/

namespace AidnSpec.Base

namespace PyValue

mutual
/-- Every integer has at most 4300 digits: `json.dumps` raises `ValueError` on a longer one. -/
def dumpable : PyValue → Bool
  | .int n => (Nat.toDigits 10 n.natAbs).length ≤ 4300
  | .list items => dumpableItems items
  | .dict members => dumpableMembers members
  | .none | .bool _ | .float _ _ | .nonFinite _ | .str _ => true
def dumpableItems : List PyValue → Bool
  | [] => true
  | item :: items => item.dumpable && dumpableItems items
/-- Every member of a dictionary can be written. -/
def dumpableMembers : List (String × PyValue) → Bool
  | [] => true
  | (_, value) :: members => value.dumpable && dumpableMembers members
end

/-- A value of Python: a dictionary has every key once, and a float is the one `float` returns
for the text `repr` writes, which is never the text of an integer. -/
inductive WellFormed [FloatReader] : PyValue → Prop
  | none : WellFormed .none
  | bool (b : Bool) : WellFormed (.bool b)
  | int (n : Int) : WellFormed (.int n)
  | float {repr : String} {value : Rat}
      (htext : numberText repr.toList = some ((repr.toList, true), []))
      (hvalue : FloatReader.readFloat repr = .float repr value) : WellFormed (.float repr value)
  | nonFinite {repr : String} (h : repr = "NaN" ∨ repr = "Infinity" ∨ repr = "-Infinity") :
      WellFormed (.nonFinite repr)
  | str (s : String) : WellFormed (.str s)
  | list {items : List PyValue} (h : ∀ item ∈ items, WellFormed item) : WellFormed (.list items)
  | dict {members : List (String × PyValue)} (hkeys : (members.map Prod.fst).Nodup)
      (h : ∀ member ∈ members, WellFormed member.2) : WellFormed (.dict members)

theorem dumpable_of_mem_items {items : List PyValue} (h : dumpableItems items = true)
    {item : PyValue} (hitem : item ∈ items) : item.dumpable = true := by
  induction items with
  | nil => cases hitem
  | cons first items ih =>
    simp only [dumpableItems, Bool.and_eq_true] at h
    rcases List.mem_cons.mp hitem with rfl | hitem
    · exact h.1
    · exact ih h.2 hitem

theorem dumpable_of_mem_members {members : List (String × PyValue)}
    (h : dumpableMembers members = true) {member : String × PyValue} (hmember : member ∈ members) :
    member.2.dumpable = true := by
  induction members with
  | nil => cases hmember
  | cons first members ih =>
    simp only [dumpableMembers, Bool.and_eq_true] at h
    rcases List.mem_cons.mp hmember with rfl | hmember
    · exact h.1
    · exact ih h.2 hmember

theorem dumpableItems_of_mem {items : List PyValue} (h : ∀ item ∈ items, item.dumpable = true) :
    dumpableItems items = true := by
  induction items with
  | nil => rfl
  | cons item items ih =>
    rw [dumpableItems, h item List.mem_cons_self, ih fun i hi => h i (List.mem_cons_of_mem item hi)]
    rfl

theorem dumpableMembers_of_mem {members : List (String × PyValue)}
    (h : ∀ member ∈ members, member.2.dumpable = true) : dumpableMembers members = true := by
  induction members with
  | nil => rfl
  | cons member members ih =>
    rw [dumpableMembers, h member List.mem_cons_self,
      ih fun m hm => h m (List.mem_cons_of_mem member hm)]
    rfl

end PyValue

/-! ## Writing -/

def quoteWith (escape : Char → List Char) (s : String) : List Char :=
  '"' :: s.toList.flatMap escape ++ ['"']

mutual
/-- `json.dumps(value, separators=(",", ":"))`. -/
def jsonText (escape : Char → List Char) : PyValue → List Char
  | .none => "null".toList
  | .bool b => (if b then "true" else "false").toList
  | .int n => (toString n).toList
  | .float repr _ => repr.toList
  | .nonFinite repr => repr.toList
  | .str s => quoteWith escape s
  | .list items => '[' :: joinTexts (jsonItems escape items) ++ [']']
  | .dict members => '\x7b' :: joinTexts (jsonMembers escape members) ++ ['\x7d']
def jsonItems (escape : Char → List Char) : List PyValue → List (List Char)
  | [] => []
  | item :: items => jsonText escape item :: jsonItems escape items
def jsonMembers (escape : Char → List Char) : List (String × PyValue) → List (List Char)
  | [] => []
  | (key, value) :: members =>
    (quoteWith escape key ++ ':' :: jsonText escape value) :: jsonMembers escape members
end

/-- `json.loads` undoes the escapes. -/
structure Readable (escape : Char → List Char) : Prop where
  length_pos : ∀ c, 1 ≤ (escape c).length
  read : ∀ fuel c rest, stringBody (fuel + 1) (escape c ++ rest) =
    (stringBody fuel rest).map fun p => (c :: p.1, p.2)

/-- The escapes of plain ASCII texts. -/
theorem readable_escapeChar : Readable escapeChar where
  length_pos := by
    intro c
    fun_cases escapeChar c <;> simp [unicodeEscape]
  read := stringBody_escapeChar

section
variable {escape : Char → List Char}

theorem jsonItems_eq (items : List PyValue) :
    jsonItems escape items = items.map (jsonText escape) := by
  induction items with
  | nil => rfl
  | cons item items ih => rw [jsonItems, ih, List.map_cons]

theorem jsonMembers_eq (members : List (String × PyValue)) :
    jsonMembers escape members =
      members.map fun m => quoteWith escape m.1 ++ ':' :: jsonText escape m.2 := by
  induction members with
  | nil => rfl
  | cons member members ih => rw [jsonMembers, ih, List.map_cons]

theorem Readable.length_le (h : Readable escape) (cs : List Char) :
    cs.length ≤ (cs.flatMap escape).length := by
  induction cs with
  | nil => exact Nat.le_refl 0
  | cons c cs ih =>
    have hc := h.length_pos c
    rw [List.flatMap_cons, List.length_append, List.length_cons]
    omega

/-- The body of a quoted text. -/
theorem Readable.stringBody (h : Readable escape) {fuel : Nat} {cs : List Char}
    (hfuel : cs.length < fuel) (rest : List Char) :
    Base.stringBody fuel (cs.flatMap escape ++ '"' :: rest) = some (cs, rest) := by
  induction cs generalizing fuel with
  | nil =>
    obtain ⟨fuel, rfl⟩ := Nat.exists_eq_succ_of_ne_zero (Nat.ne_of_gt hfuel)
    rfl
  | cons c cs ih =>
    obtain ⟨fuel, rfl⟩ := Nat.exists_eq_succ_of_ne_zero (Nat.ne_of_gt (Nat.zero_lt_of_lt hfuel))
    rw [List.flatMap_cons, List.append_assoc, h.read, ih (Nat.lt_of_succ_lt_succ hfuel)]
    rfl

/-- A quoted text is read back, whatever stands behind it. -/
theorem Readable.readString (h : Readable escape) (s : String) (rest : List Char) :
    Base.readString (quoteWith escape s ++ rest) = some (s, rest) := by
  have hlength := h.length_le s.toList
  have htext : quoteWith escape s ++ rest = '"' :: (s.toList.flatMap escape ++ '"' :: rest) := by
    simp [quoteWith]
  have hfuel : s.toList.length < (s.toList.flatMap escape ++ '"' :: rest).length + 1 := by
    rw [List.length_append]
    omega
  rw [htext, Base.readString, if_pos rfl, h.stringBody hfuel]
  simp

end

/-! ## Reading -/

variable {mark c : Char} {cs : List Char} {v : PyValue} {items : List PyValue}
  {members : List (String × PyValue)} {fuel : Nat}

theorem skipSpace_cons (h : isJsonSpace c = false) (rest : List Char) :
    skipSpace (c :: rest) = c :: rest := by
  rw [skipSpace, List.dropWhile_cons_of_neg (by simp [h])]

theorem readMark_self (h : isJsonSpace mark = false) (rest : List Char) :
    readMark mark (mark :: rest) = some rest := by
  simp [readMark, skipSpace_cons h]

theorem readMark_of_ne (h : isJsonSpace c = false) (hne : c ≠ mark) (rest : List Char) :
    readMark mark (c :: rest) = none := by
  simp [readMark, skipSpace_cons h, hne]

/-- A number starts with a digit or a minus sign and a digit. -/
theorem numberText_start (h : (numberText cs).isSome = true) :
    ∃ c rest, (cs = c :: rest ∨ cs = '-' :: c :: rest) ∧ c.isDigit = true := by
  have hinteger : ∀ ds : List Char, (integerPart ds).isSome = true →
      ∃ c rest, ds = c :: rest ∧ c.isDigit = true := by
    intro ds hds
    cases ds with
    | nil => cases hds
    | cons c rest =>
      refine ⟨c, rest, rfl, ?_⟩
      by_cases hzero : c = '0'
      · rw [hzero]
        rfl
      · by_contra hdigit
        simp [integerPart, hzero, hdigit] at hds
  rw [numberText, Option.isSome_map] at h
  obtain ⟨c, rest, hrest, hc⟩ := hinteger _ h
  cases cs with
  | nil => cases hrest
  | cons d ds =>
    by_cases hminus : d = '-'
    · rw [minusPart, if_pos hminus] at hrest
      exact ⟨c, rest, .inr (by rw [hminus, ← hrest]), hc⟩
    · rw [minusPart, if_neg hminus] at hrest
      exact ⟨c, rest, .inl hrest, hc⟩

/-- No word of JSON starts as a number does. -/
theorem readWord_of_number (h : (numberText cs).isSome = true) :
    readWord cs = none := by
  obtain ⟨c, rest, hcs, hc⟩ := numberText_start h
  have hne : ∀ d : Char, d.isDigit = false → d ≠ c := by
    rintro d hd rfl
    rw [hd] at hc
    cases hc
  rcases hcs with rfl | rfl
  · simp [readWord, jsonWords, hne 'n' rfl, hne 't' rfl, hne 'f' rfl, hne 'N' rfl, hne 'I' rfl,
      hne '-' rfl]
  · simp [readWord, jsonWords, hne 'I' rfl]

section
variable [FloatReader]

theorem parseValue_number (h : (numberText cs).isSome = true) (fuel : Nat) :
    parseValue (fuel + 1) cs = readNumber cs := by
  obtain ⟨c, rest, hcs, hc⟩ := numberText_start h
  have hne : ∀ d : Char, d.isDigit = false → c ≠ d := by
    rintro d hd rfl
    rw [hd] at hc
    cases hc
  have hword := readWord_of_number h
  rcases hcs with rfl | rfl
  · rw [parseValue, if_neg (hne '"' rfl), if_neg (hne '[' rfl), if_neg (hne '\x7b' rfl), hword]
  · rw [parseValue, if_neg (by decide), if_neg (by decide), if_neg (by decide), hword]

section
variable {escape : Char → List Char}

/-- The text of a value is read back with what stands behind it left over. -/
structure ReadsText (escape : Char → List Char) (v : PyValue) : Prop where
  start : ∃ c rest, jsonText escape v = c :: rest ∧ isJsonSpace c = false ∧ c ≠ ']'
  read : ∀ fuel rest, 2 * (jsonText escape v).length ≤ fuel → NumberEnds rest →
    parseValue fuel (jsonText escape v ++ rest) = some (v, rest)

/-- Enough fuel for a text is at least one. -/
theorem ReadsText.of_step
    (start : ∃ c rest, jsonText escape v = c :: rest ∧ isJsonSpace c = false ∧ c ≠ ']')
    (read : ∀ fuel rest, 2 * (jsonText escape v).length ≤ fuel + 1 → NumberEnds rest →
      parseValue (fuel + 1) (jsonText escape v ++ rest) = some (v, rest)) : ReadsText escape v := by
  refine ⟨start, fun fuel rest hfuel hrest => ?_⟩
  obtain ⟨c, cs, htext, -⟩ := start
  cases fuel with
  | zero =>
    rw [htext, List.length_cons] at hfuel
    omega
  | succ fuel => exact read fuel rest hfuel hrest

theorem ReadsText.word (word : String) (hword : (word, v) ∈ jsonWords)
    (htext : jsonText escape v = word.toList) : ReadsText escape v := by
  simp only [jsonWords, List.mem_cons, List.not_mem_nil, or_false, Prod.mk.injEq] at hword
  apply ReadsText.of_step
  · rcases hword with h | h | h | h | h | h <;>
      · obtain ⟨rfl, rfl⟩ := h
        rw [htext]
        exact ⟨_, _, rfl, by decide, by decide⟩
  · intro fuel rest _ _
    rcases hword with h | h | h | h | h | h <;>
      · obtain ⟨rfl, rfl⟩ := h
        rw [htext]
        rfl

/-- A number is read back by what its text stands for. -/
theorem ReadsText.number {b : Bool} (htext : jsonText escape v = cs)
    (hnumber : numberText cs = some ((cs, b), [])) (hread : readNumber cs = some (v, [])) :
      ReadsText escape v := by
  have hsome : (numberText cs).isSome = true := by rw [hnumber]; rfl
  apply ReadsText.of_step
  · obtain ⟨c, rest, hcs, hc⟩ := numberText_start hsome
    rcases hcs with rfl | rfl
    · refine ⟨c, rest, htext, ?_, ?_⟩
      · have hne : ∀ d : Char, d.isDigit = false → c ≠ d := by
          rintro d hd rfl
          rw [hd] at hc
          cases hc
        simp [isJsonSpace, hne ' ' rfl, hne '\t' rfl, hne '\n' rfl, hne '\r' rfl]
      · rintro rfl
        cases hc
    · exact ⟨'-', c :: rest, htext, by decide, by decide⟩
  · intro fuel rest _ hrest
    have hlonger : numberText (cs ++ rest) = some ((cs, b), rest) := by
      rw [numberText_append hrest, hnumber]
      rfl
    rw [htext, parseValue_number (by rw [hlonger]; rfl)]
    rw [readNumber, hlonger, Option.bind_some]
    rw [readNumber, hnumber, Option.bind_some] at hread
    dsimp only at hread ⊢
    split at hread
    · next hfloat =>
      rw [if_pos hfloat]
      obtain ⟨hv, -⟩ := Prod.mk.inj (Option.some.inj hread)
      rw [hv]
    · next hint =>
      rw [if_neg hint]
      obtain ⟨n, hn, hv⟩ := Option.map_eq_some_iff.mp hread
      rw [hn, ← (Prod.mk.inj hv).1]
      rfl

section

omit [FloatReader]

theorem joinTexts_cons_cons (a b : List Char) (texts : List (List Char)) :
    joinTexts (a :: b :: texts) = a ++ ',' :: joinTexts (b :: texts) := by
  simp [joinTexts, List.intercalate]

theorem joinTexts_singleton (a : List Char) : joinTexts [a] = a := by
  simp [joinTexts, List.intercalate]

theorem numberEnds_mark (h : isNumberChar mark = false) (rest : List Char) :
    NumberEnds (mark :: rest) := by
  simp [NumberEnds, h]

/-- Joined texts start as the first of them does. -/
theorem joinTexts_start (c : Char) (text : List Char) (texts : List (List Char)) :
    ∃ rest, joinTexts ((c :: text) :: texts) = c :: rest := by
  cases texts with
  | nil => exact ⟨text, joinTexts_singleton _⟩
  | cons next texts => exact ⟨_, joinTexts_cons_cons _ _ _⟩

theorem skipSpace_joinTexts (h : isJsonSpace c = false) (text : List Char)
    (texts : List (List Char)) (rest : List Char) :
    skipSpace (joinTexts ((c :: text) :: texts) ++ rest) =
      joinTexts ((c :: text) :: texts) ++ rest := by
  obtain ⟨joined, hjoined⟩ := joinTexts_start c text texts
  rw [hjoined, List.cons_append, skipSpace_cons h]

end

/-- The items of a list are read back one by one. -/
theorem parseItems_joinTexts (hne : items ≠ []) (h : ∀ item ∈ items, ReadsText escape item)
    (hfuel : 2 * (joinTexts (items.map (jsonText escape))).length + 1 ≤ fuel) (rest : List Char) :
    parseItems fuel (joinTexts (items.map (jsonText escape)) ++ ']' :: rest) =
      some (items, rest) := by
  induction items generalizing fuel with
  | nil => exact absurd rfl hne
  | cons item items ih =>
    have hitem := h item List.mem_cons_self
    obtain ⟨fuel, rfl⟩ := Nat.exists_eq_add_of_lt (Nat.lt_of_lt_of_le (Nat.succ_pos _) hfuel)
    simp only [Nat.zero_add] at hfuel ⊢
    cases items with
    | nil =>
      simp only [List.map_cons, List.map_nil, joinTexts_singleton] at hfuel ⊢
      rw [parseItems, hitem.read fuel _ (by omega) (numberEnds_mark (by decide) rest)]
      simp only [readMark_self (show isJsonSpace ']' = false by decide)]
    | cons next items =>
      obtain ⟨c, text, htext, hspace, -⟩ := (h next (by simp)).start
      simp only [List.map_cons, joinTexts_cons_cons, List.length_append, List.length_cons] at hfuel
      have hrest := @ih fuel (by simp) (fun i hi => h i (List.mem_cons_of_mem item hi)) (by
        rw [List.map_cons]
        omega)
      have hskip := skipSpace_joinTexts hspace text (items.map (jsonText escape)) (']' :: rest)
      simp only [List.map_cons, ← htext] at hrest hskip
      simp only [List.map_cons, joinTexts_cons_cons, List.append_assoc, List.cons_append]
      rw [parseItems, hitem.read fuel _ (by omega) (numberEnds_mark (by decide) _)]
      simp only [readMark_self (show isJsonSpace ',' = false by decide),
        readMark_of_ne (show isJsonSpace ',' = false by decide) (show ',' ≠ ']' by decide), hskip,
        hrest, Option.map_some]

omit [FloatReader] in
theorem quoteWith_start (s : String) (more : List Char) :
    ∃ rest, quoteWith escape s ++ more = '"' :: rest := ⟨_, rfl⟩

/-- The members of a dictionary are read back one by one, in the order they stand in. -/
theorem parseMembers_joinTexts (readable : Readable escape) (hne : members ≠ [])
    (h : ∀ member ∈ members, ReadsText escape member.2)
    (hfuel : 2 * (joinTexts (members.map fun m =>
      quoteWith escape m.1 ++ ':' :: jsonText escape m.2)).length + 1 ≤ fuel) (rest : List Char) :
    parseMembers fuel
        (joinTexts (members.map fun m => quoteWith escape m.1 ++ ':' :: jsonText escape m.2) ++
          '\x7d' :: rest) =
      some (members, rest) := by
  induction members generalizing fuel with
  | nil => exact absurd rfl hne
  | cons member members ih =>
    have hmember := h member List.mem_cons_self
    obtain ⟨d, value, hvalue, hvalueSpace, -⟩ := hmember.start
    have hvalueSkip : ∀ more, skipSpace (jsonText escape member.2 ++ more) =
        jsonText escape member.2 ++ more := by
      intro more
      rw [hvalue, List.cons_append, skipSpace_cons hvalueSpace]
    obtain ⟨fuel, rfl⟩ := Nat.exists_eq_add_of_lt (Nat.lt_of_lt_of_le (Nat.succ_pos _) hfuel)
    simp only [Nat.zero_add] at hfuel ⊢
    cases members with
    | nil =>
      simp only [List.map_cons, List.map_nil, joinTexts_singleton, List.length_append,
        List.length_cons] at hfuel ⊢
      rw [List.append_assoc, List.cons_append, parseMembers, readable.readString]
      simp only [readMark_self (show isJsonSpace ':' = false by decide), hvalueSkip]
      rw [hmember.read fuel _ (by omega) (numberEnds_mark (by decide) rest)]
      simp only [readMark_self (show isJsonSpace '\x7d' = false by decide)]
    | cons next members =>
      simp only [List.map_cons, joinTexts_cons_cons, List.length_append, List.length_cons] at hfuel
      have hrest := @ih fuel (by simp) (fun i hi => h i (List.mem_cons_of_mem member hi)) (by
        rw [List.map_cons]
        omega)
      obtain ⟨text, htext⟩ := @quoteWith_start escape next.1 (':' :: jsonText escape next.2)
      have hskip := skipSpace_joinTexts (show isJsonSpace '"' = false by decide) text
        (members.map fun m => quoteWith escape m.1 ++ ':' :: jsonText escape m.2) ('\x7d' :: rest)
      simp only [List.map_cons, ← htext] at hrest hskip
      simp only [List.map_cons, joinTexts_cons_cons, List.append_assoc, List.cons_append]
      rw [parseMembers, readable.readString]
      simp only [readMark_self (show isJsonSpace ':' = false by decide), hvalueSkip]
      rw [hmember.read fuel _ (by omega) (numberEnds_mark (by decide) _)]
      simp only [readMark_self (show isJsonSpace ',' = false by decide),
        readMark_of_ne (show isJsonSpace ',' = false by decide) (show ',' ≠ '\x7d' by decide),
        hskip, hrest, Option.map_some]

omit [FloatReader] in
theorem put_of_not_mem {key : String} {value : PyValue} (h : key ∉ members.map Prod.fst) :
    Dict.put key value members = members ++ [(key, value)] := by
  induction members with
  | nil => rfl
  | cons member members ih =>
    obtain ⟨hne, hrest⟩ := not_or.mp (mt List.mem_cons.mpr h)
    rw [Dict.put, if_neg (Ne.symm hne), ih hrest, List.cons_append]

omit [FloatReader] in
/-- Pairs with distinct keys are the members of the dictionary they make. -/
theorem pairsDict_eq_self {pairs : List (String × PyValue)} (h : (pairs.map Prod.fst).Nodup) :
    pairsDict pairs = pairs := by
  have key : ∀ (pairs members : List (String × PyValue)),
      ((members ++ pairs).map Prod.fst).Nodup →
      pairs.foldl (fun members pair => Dict.put pair.1 pair.2 members) members =
        members ++ pairs := by
    intro pairs
    induction pairs with
    | nil =>
      intro members _
      rw [List.foldl_nil, List.append_nil]
    | cons pair pairs ih =>
      intro members hnodup
      have hnew : pair.1 ∉ members.map Prod.fst := by
        rw [List.map_append, List.map_cons] at hnodup
        intro hmem
        exact (List.nodup_append.mp hnodup).2.2 _ hmem _ List.mem_cons_self rfl
      rw [List.foldl_cons, put_of_not_mem hnew, ih _ (by rwa [List.append_assoc]),
        List.append_assoc]
      rfl
  exact key pairs [] h

theorem ReadsText.list (h : ∀ item ∈ items, ReadsText escape item) :
    ReadsText escape (.list items) := by
  have htext : jsonText escape (.list items) =
      '[' :: (joinTexts (items.map (jsonText escape)) ++ [']']) := by
    rw [jsonText, jsonItems_eq]
    rfl
  apply ReadsText.of_step
  · exact ⟨'[', _, htext, by decide, by decide⟩
  · intro fuel rest hfuel _
    rw [htext, List.length_cons, List.length_append, List.length_singleton] at hfuel
    rw [htext, List.cons_append, List.append_assoc, parseValue, if_neg (by decide), if_pos rfl]
    cases items with
    | nil =>
      have hclose := readMark_self (show isJsonSpace ']' = false by decide) rest
      simp only [List.map_nil, joinTexts, List.intercalate_nil, List.nil_append, List.cons_append,
        hclose]
    | cons item items =>
      obtain ⟨c, text, hitem, hspace, hbracket⟩ := (h item List.mem_cons_self).start
      have hread := parseItems_joinTexts (by simp) h (show _ ≤ fuel by omega) rest
      have hskip := skipSpace_joinTexts hspace text (items.map (jsonText escape)) (']' :: rest)
      have hopen : readMark ']' (joinTexts ((c :: text) :: items.map (jsonText escape)) ++
          ']' :: rest) = none := by
        obtain ⟨joined, hjoined⟩ := joinTexts_start c text (items.map (jsonText escape))
        rw [hjoined, List.cons_append, readMark_of_ne hspace hbracket]
      simp only [← hitem] at hskip hopen
      simp only [List.map_cons, List.cons_append, List.nil_append] at hread ⊢
      simp only [hopen, hskip, hread, Option.map_some]

theorem ReadsText.dict (readable : Readable escape) (hkeys : (members.map Prod.fst).Nodup)
    (h : ∀ member ∈ members, ReadsText escape member.2) :
    ReadsText escape (.dict members) := by
  have htext : jsonText escape (.dict members) =
      '\x7b' :: (joinTexts (members.map fun m =>
        quoteWith escape m.1 ++ ':' :: jsonText escape m.2) ++ ['\x7d']) := by
    rw [jsonText, jsonMembers_eq]
    rfl
  apply ReadsText.of_step
  · exact ⟨'\x7b', _, htext, by decide, by decide⟩
  · intro fuel rest hfuel _
    rw [htext, List.length_cons, List.length_append, List.length_singleton] at hfuel
    rw [htext, List.cons_append, List.append_assoc, parseValue, if_neg (by decide),
      if_neg (by decide), if_pos rfl]
    cases members with
    | nil =>
      have hclose := readMark_self (show isJsonSpace '\x7d' = false by decide) rest
      simp only [List.map_nil, joinTexts, List.intercalate_nil, List.nil_append, List.cons_append,
        hclose]
    | cons member members =>
      obtain ⟨text, hmember⟩ := @quoteWith_start escape member.1
        (':' :: jsonText escape member.2)
      have hread := parseMembers_joinTexts readable (by simp) h (show _ ≤ fuel by omega) rest
      have hskip := skipSpace_joinTexts (show isJsonSpace '"' = false by decide) text
        (members.map fun m => quoteWith escape m.1 ++ ':' :: jsonText escape m.2) ('\x7d' :: rest)
      have hopen : readMark '\x7d' (joinTexts (('"' :: text) ::
          members.map fun m => quoteWith escape m.1 ++ ':' :: jsonText escape m.2) ++
          '\x7d' :: rest) = none := by
        obtain ⟨joined, hjoined⟩ := joinTexts_start '"' text
          (members.map fun m => quoteWith escape m.1 ++ ':' :: jsonText escape m.2)
        rw [hjoined, List.cons_append, readMark_of_ne (by decide) (by decide)]
      simp only [← hmember] at hskip hopen
      simp only [List.map_cons, List.cons_append, List.nil_append] at hread ⊢
      simp only [hopen, hskip, hread, Option.map_some, pairsDict_eq_self hkeys]

open ReadsText

/-- Every value of Python that can be written is read back. -/
theorem readsText_of_wellFormed (readable : Readable escape) (hv : v.WellFormed)
    (hd : v.dumpable = true) : ReadsText escape v := by
  induction hv with
  | none => exact word "null" (by decide) rfl
  | bool b =>
    cases b with
    | false => exact word "false" (by decide) rfl
    | true => exact word "true" (by decide) rfl
  | int n =>
    have hfits : (Nat.toDigits 10 n.natAbs).length ≤ 4300 := by
      rw [PyValue.dumpable] at hd
      exact of_decide_eq_true hd
    have htext : jsonText escape (.int n) = (toString n).toList := by rw [jsonText]
    apply number htext (numberText_int n)
    have hread := intOfText_toString n hfits
    rw [readNumber, numberText_int, Option.bind_some, if_neg Bool.false_ne_true,
      String.ofList_toList, hread]
    rfl
  | @float repr value hnumber hvalue =>
    have htext : jsonText escape (.float repr value) = repr.toList := by rw [jsonText]
    apply number htext hnumber
    rw [readNumber, hnumber]
    simp [hvalue]
  | nonFinite h =>
    rcases h with rfl | rfl | rfl
    · exact word "NaN" (by decide) rfl
    · exact word "Infinity" (by decide) rfl
    · exact word "-Infinity" (by decide) rfl
  | str s =>
    apply of_step
    · exact ⟨'"', _, rfl, by decide, by decide⟩
    · intro fuel rest _ _
      obtain ⟨text, htext⟩ := @quoteWith_start escape s rest
      have hread := readable.readString s rest
      rw [jsonText]
      rw [htext] at hread ⊢
      rw [parseValue, if_pos rfl, hread]
      rfl
  | list _ ih =>
    rw [PyValue.dumpable] at hd
    exact ReadsText.list fun item hitem => ih item hitem (PyValue.dumpable_of_mem_items hd hitem)
  | dict hkeys _ ih =>
    rw [PyValue.dumpable] at hd
    exact ReadsText.dict readable hkeys fun member hmember =>
      ih member hmember (PyValue.dumpable_of_mem_members hd hmember)

/-- `json.loads` reads back what `json.dumps` wrote. -/
theorem loads_jsonText (readable : Readable escape) (hv : v.WellFormed) (hd : v.dumpable = true) :
    loads (jsonText escape v) = some v := by
  have h := readsText_of_wellFormed readable hv hd
  obtain ⟨c, rest, htext, hspace, -⟩ := h.start
  have hskip : skipSpace (jsonText escape v) = jsonText escape v := by
    rw [htext, skipSpace_cons hspace]
  have hread := h.read (2 * (jsonText escape v).length + 1) [] (by omega) rfl
  rw [List.append_nil] at hread
  rw [loads, hskip, hread]
  rfl

end
end

end AidnSpec.Base
