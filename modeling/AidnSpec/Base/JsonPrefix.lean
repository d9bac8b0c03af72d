import AidnSpec.Base.JsonRoundTrip

/-!
# JSON texts are no prefixes of each other

What the reader has read stays read when the text goes on, so a proper prefix of the text of a
dictionary is no JSON text.
-/

namespace AidnSpec.Base

open List Option

/-! ## Tokens -/

variable {cs rest : List Char} {c : Char} {number : (List Char × Bool) × List Char}

theorem hexUnit_extend {n : Nat} (h : hexUnit cs = some (n, rest)) (more : List Char) :
    hexUnit (cs ++ more) = some (n, rest ++ more) := by
  unfold hexUnit at h
  split at h
  · next a b c d rest' =>
    simp only [Option.bind_eq_bind, Option.bind_eq_some_iff, Option.pure_def, Option.some.injEq,
      Prod.mk.injEq] at h
    obtain ⟨a', ha, b', hb, c', hc, d', hd, hn, rfl⟩ := h
    simp [hexUnit, ha, hb, hc, hd, hn]
  · cases h

theorem unicodeChar_extend (h : unicodeChar cs = some (c, rest)) (more : List Char) :
    unicodeChar (cs ++ more) = some (c, rest ++ more) := by
  unfold unicodeChar at h
  split at h
  · cases h
  next n first hfirst =>
  have hfirst' := hexUnit_extend hfirst more
  split at h
  · next hhigh =>
    split at h
    · next tail =>
      split at h
      · next low last hlast =>
        have hlast' := hexUnit_extend hlast more
        split at h
        · next hlow =>
          obtain ⟨rfl, rfl⟩ := Prod.mk.inj (some.inj h)
          simp only [unicodeChar, hfirst', cons_append, hlast', if_pos hhigh, if_pos hlow]
        · cases h
      · cases h
    · cases h
  · next hhigh =>
    split at h
    · cases h
    · next hlow =>
      cases h
      simp only [unicodeChar, hfirst', if_neg hhigh, if_neg hlow]

theorem escapedChar_extend (h : escapedChar cs = some (c, rest)) (more : List Char) :
    escapedChar (cs ++ more) = some (c, rest ++ more) := by
  unfold escapedChar at h
  split at h
  · exact unicodeChar_extend h more
  · next d tail hd =>
    obtain ⟨e, he, heq⟩ := map_eq_some_iff.mp h
    obtain ⟨rfl, rfl⟩ := Prod.mk.inj heq
    rw [cons_append, escapedChar.eq_2 _ _ hd, he]
    rfl
  · cases h

/-- The body of a string ends where it ends, whatever follows. -/
theorem stringBody_extend {fuel fuel' : Nat} (hfuel : fuel ≤ fuel') {body : List Char}
    (h : stringBody fuel cs = some (body, rest)) (more : List Char) :
    stringBody fuel' (cs ++ more) = some (body, rest ++ more) := by
  induction fuel generalizing fuel' cs body with
  | zero => cases h
  | succ fuel ih =>
    obtain ⟨fuel', rfl⟩ := Nat.exists_eq_add_of_lt hfuel
    have hless : fuel ≤ fuel + fuel' := by omega
    unfold stringBody at h
    dsimp only at h
    split at h
    · cases h
    · cases h
      rfl
    · next tail =>
      simp only [Option.bind_eq_bind, Option.bind_eq_some_iff, Option.pure_def, Option.some.injEq,
        Prod.mk.injEq] at h
      obtain ⟨⟨c, tail'⟩, hescaped, ⟨body', rest'⟩, hbody, rfl, rfl⟩ := h
      rw [cons_append, stringBody_escaped (escapedChar_extend hescaped more), ih hless hbody]
      rfl
    · next c tail hquote hslash =>
      split at h
      · cases h
      · next hprintable =>
        simp only [Option.bind_eq_bind, Option.bind_eq_some_iff, Option.pure_def, Option.some.injEq,
          Prod.mk.injEq] at h
        obtain ⟨⟨body', rest'⟩, hbody, rfl, rfl⟩ := h
        rw [cons_append, stringBody_plain hquote hslash (Nat.le_of_not_lt hprintable),
          ih hless hbody]
        rfl

theorem readString_extend {s : String} (h : readString cs = some (s, rest)) (more : List Char) :
    readString (cs ++ more) = some (s, rest ++ more) := by
  unfold readString at h
  split at h
  · next c tail =>
    split at h
    · next hquote =>
      obtain ⟨⟨body, rest'⟩, hbody, heq⟩ := map_eq_some_iff.mp h
      obtain ⟨rfl, rfl⟩ := Prod.mk.inj heq
      have hlonger : tail.length + 1 ≤ (tail ++ more).length + 1 := by
        rw [length_append]
        omega
      rw [cons_append, readString, if_pos hquote, stringBody_extend hlonger hbody more]
      rfl
    · cases h
  · cases h

/-! ## Numbers -/

theorem minusPart_append_eq (cs : List Char) : (minusPart cs).1 ++ (minusPart cs).2 = cs := by
  unfold minusPart
  split
  · split_ifs <;> rfl
  · rfl

theorem signPart_append_eq (cs : List Char) : (signPart cs).1 ++ (signPart cs).2 = cs := by
  unfold signPart
  split
  · split_ifs <;> rfl
  · rfl

theorem integerPart_append_eq {part : List Char × List Char} (h : integerPart cs = some part) :
    part.1 ++ part.2 = cs := by
  cases cs with
  | nil => cases h
  | cons c cs =>
    rw [integerPart] at h
    split_ifs at h
    · cases h
      rfl
    · cases h
      rw [cons_append, takeWhile_append_dropWhile]

theorem fractionPart_append_eq (cs : List Char) :
    (fractionPart cs).1 ++ (fractionPart cs).2 = cs := by
  unfold fractionPart
  split
  · split_ifs
    · rw [cons_append, takeWhile_append_dropWhile]
    · rfl
  · rfl

theorem exponentPart_append_eq (cs : List Char) :
    (exponentPart cs).1 ++ (exponentPart cs).2 = cs := by
  unfold exponentPart
  split
  · next c rest =>
    split_ifs
    · rw [append_assoc, takeWhile_append_dropWhile, cons_append, signPart_append_eq]
    · rfl
  · rfl

/-- The text of a number and what stands behind it make up the text. -/
theorem numberText_append_eq (h : numberText cs = some number) : number.1.1 ++ number.2 = cs := by
  obtain ⟨digits, hdigits, rfl⟩ := map_eq_some_iff.mp h
  dsimp only
  rw [append_assoc, exponentPart_append_eq, append_assoc, fractionPart_append_eq,
    append_assoc, integerPart_append_eq hdigits, minusPart_append_eq]

/-- The text goes on, and no number does. -/
def Stops (rest : List Char) : Prop := rest ≠ [] ∧ NumberEnds rest

theorem Stops.append (h : Stops rest) (more : List Char) : NumberEnds (rest ++ more) := by
  cases rest with
  | nil => exact absurd rfl h.1
  | cons c rest => exact h.2

theorem numberText_extend (h : numberText cs = some number) (hstops : Stops number.2)
    (more : List Char) : numberText (cs ++ more) = some (number.1, number.2 ++ more) := by
  have hcs := numberText_append_eq h
  have hself : (numberText number.1.1).map (fun p => (p.1, p.2 ++ number.2)) = some number := by
    rw [← numberText_append hstops.2, hcs, h]
  obtain ⟨self, hnumber, hself⟩ := map_eq_some_iff.mp hself
  have hrest : self.2 = [] := by
    have hlength := congrArg (fun p : (List Char × Bool) × List Char => p.2.length) hself
    simp only [length_append] at hlength
    exact eq_nil_of_length_eq_zero (by omega)
  have hpair : self.1 = number.1 := by rw [← hself]
  rw [← hcs, append_assoc, numberText_append (hstops.append more), hnumber, map_some,
    hrest, hpair, nil_append]

section
variable [FloatReader]

variable {cs rest : List Char} {v : PyValue} {mark : Char} {fuel : Nat}

theorem readNumber_extend (h : readNumber cs = some (v, rest)) (hstops : Stops rest)
    (more : List Char) : readNumber (cs ++ more) = some (v, rest ++ more) := by
  obtain ⟨number, hnumber, hvalue⟩ := bind_eq_some_iff.mp h
  split at hvalue
  · next hfloat =>
    cases hvalue
    rw [readNumber, numberText_extend hnumber hstops more, bind_some, if_pos hfloat]
  · next hfloat =>
    obtain ⟨n, hn, heq⟩ := map_eq_some_iff.mp hvalue
    obtain ⟨rfl, rfl⟩ := Prod.mk.inj heq
    rw [readNumber, numberText_extend hnumber hstops more, bind_some, if_neg hfloat, hn]
    rfl

section

omit [FloatReader]

theorem readWord_extend {word : PyValue × List Char} (h : readWord cs = some word)
    (more : List Char) : readWord (cs ++ more) = some (word.1, word.2 ++ more) := by
  obtain ⟨entry, hentry, hword⟩ := exists_of_findSome?_eq_some h
  split at hword
  · next hpre =>
    obtain ⟨tail, rfl⟩ := isPrefixOf_iff_prefix.mp hpre
    cases hword
    simp only [jsonWords, mem_cons, not_mem_nil, or_false] at hentry
    rw [drop_left]
    rcases hentry with rfl | rfl | rfl | rfl | rfl | rfl <;> rfl
  · cases hword

theorem skipSpace_extend {c : Char} (h : skipSpace cs = c :: rest) (more : List Char) :
    skipSpace (cs ++ more) = c :: (rest ++ more) := by
  induction cs with
  | nil => cases h
  | cons d cs ih =>
    rw [skipSpace, dropWhile_cons] at h
    rw [skipSpace, cons_append, dropWhile_cons]
    split at h
    · next hspace =>
      rw [if_pos hspace]
      exact ih h
    · next hspace =>
      rw [if_neg hspace, ← cons_append, h, cons_append]

theorem readMark_eq_some (h : readMark mark cs = some rest) : skipSpace cs = mark :: rest := by
  unfold readMark at h
  split at h
  · next c tail hskip =>
    split at h
    · next hmark => rw [hskip, hmark, some.inj h]
    · cases h
  · cases h

theorem readMark_extend (h : readMark mark cs = some rest) (more : List Char) :
    readMark mark (cs ++ more) = some (rest ++ more) := by
  rw [readMark, skipSpace_extend (readMark_eq_some h) more]
  exact if_pos rfl

/-- Where one mark stands, another does not. -/
theorem readMark_extend_none {other : Char} (hne : other ≠ mark)
    (h : readMark other cs = some rest) (more : List Char) : readMark mark (cs ++ more) = none := by
  rw [readMark, skipSpace_extend (readMark_eq_some h) more]
  exact if_neg hne

theorem skipSpace_extend_of_ne (h : skipSpace cs ≠ []) (more : List Char) :
    skipSpace (cs ++ more) = skipSpace cs ++ more := by
  obtain ⟨c, rest, hcs⟩ := exists_cons_of_ne_nil h
  rw [skipSpace_extend hcs more, hcs, cons_append]

/-- A mark that is missing in front of another character stays missing. -/
theorem readMark_none_extend (h : readMark mark cs = none) (hstart : skipSpace cs ≠ [])
    (more : List Char) : readMark mark (cs ++ more) = none := by
  obtain ⟨c, rest, hskip⟩ := exists_cons_of_ne_nil hstart
  have hne : c ≠ mark := by
    intro heq
    rw [readMark, hskip, heq] at h
    simp at h
  rw [readMark, skipSpace_extend hskip more]
  exact if_neg hne

theorem stops_of_readMark (h : readMark mark cs = some rest) (hmark : isNumberChar mark = false) :
    Stops cs := by
  have h := readMark_eq_some h
  cases cs with
  | nil => cases h
  | cons d cs =>
    refine ⟨cons_ne_nil d cs, ?_⟩
    rw [skipSpace, dropWhile_cons] at h
    split at h
    · next hspace =>
      have hd : isNumberChar d = false := by
        simp only [isJsonSpace, Bool.or_eq_true, decide_eq_true_eq] at hspace
        rcases hspace with ((rfl | rfl) | rfl) | rfl <;> rfl
      exact numberEnds_mark hd cs
    · rw [(List.cons.inj h).1]
      exact numberEnds_mark hmark cs

end

/-! ## Values -/

/-- What the three parsers have read stays read: more text behind it is left over, and more fuel
changes nothing. A bare number must not touch the end of the text. -/
structure Extends (fuel : Nat) : Prop where
  value : ∀ {cs rest : List Char} {v : PyValue}, parseValue fuel cs = some (v, rest) →
    (Stops rest ∨ cs.head? = some '\x7b') → ∀ (fuel' : Nat) (more : List Char), fuel ≤ fuel' →
      parseValue fuel' (cs ++ more) = some (v, rest ++ more)
  items : ∀ {cs rest : List Char} {vs : List PyValue}, parseItems fuel cs = some (vs, rest) →
    ∀ (fuel' : Nat) (more : List Char), fuel ≤ fuel' →
      parseItems fuel' (cs ++ more) = some (vs, rest ++ more)
  members : ∀ {cs rest : List Char} {ms : List (String × PyValue)},
    parseMembers fuel cs = some (ms, rest) → ∀ (fuel' : Nat) (more : List Char), fuel ≤ fuel' →
      parseMembers fuel' (cs ++ more) = some (ms, rest ++ more)

theorem parseItems_nil (fuel : Nat) : parseItems fuel [] = none := by
  cases fuel with
  | zero => rfl
  | succ fuel => cases fuel <;> rfl

theorem parseMembers_nil (fuel : Nat) : parseMembers fuel [] = none := by
  cases fuel with
  | zero => rfl
  | succ fuel => rfl

theorem Extends.itemsStep (ih : Extends fuel) {vs : List PyValue}
    (h : parseItems (fuel + 1) cs = some (vs, rest)) (fuel' : Nat) (more : List Char)
    (hfuel : fuel ≤ fuel') : parseItems (fuel' + 1) (cs ++ more) = some (vs, rest ++ more) := by
  rw [parseItems] at h
  split at h
  · cases h
  next item tail hitem =>
  split at h
  · next last hmark =>
    cases h
    rw [parseItems, ih.value hitem (.inl (stops_of_readMark hmark rfl)) fuel' more hfuel]
    simp only [readMark_extend hmark more]
  · split at h
    · next last hmark =>
      obtain ⟨⟨items, last'⟩, hitems, heq⟩ := map_eq_some_iff.mp h
      obtain ⟨rfl, rfl⟩ := Prod.mk.inj heq
      have hnext : skipSpace last ≠ [] := by
        intro hlast
        rw [hlast, parseItems_nil] at hitems
        cases hitems
      rw [parseItems, ih.value hitem (.inl (stops_of_readMark hmark rfl)) fuel' more hfuel]
      simp only [readMark_extend hmark more,
        readMark_extend_none (show ',' ≠ ']' by decide) hmark more,
        skipSpace_extend_of_ne hnext more, ih.items hitems fuel' more hfuel, map_some]
    · cases h

theorem Extends.membersStep (ih : Extends fuel) {ms : List (String × PyValue)}
    (h : parseMembers (fuel + 1) cs = some (ms, rest)) (fuel' : Nat) (more : List Char)
    (hfuel : fuel ≤ fuel') : parseMembers (fuel' + 1) (cs ++ more) = some (ms, rest ++ more) := by
  rw [parseMembers] at h
  split at h
  · cases h
  next key afterKey hkey =>
  split at h
  · cases h
  next afterColon hcolon =>
  split at h
  · cases h
  next value tail hvalue =>
  have hstart : skipSpace afterColon ≠ [] := by
    intro hnil
    rw [hnil] at hvalue
    cases fuel <;> cases hvalue
  have hread : Stops tail → parseValue fuel' (skipSpace (afterColon ++ more)) =
      some (value, tail ++ more) := by
    intro hstops
    rw [skipSpace_extend_of_ne hstart more]
    exact ih.value hvalue (.inl hstops) fuel' more hfuel
  rw [parseMembers, readString_extend hkey more]
  simp only [readMark_extend hcolon more]
  split at h
  · next last hmark =>
    cases h
    simp only [hread (stops_of_readMark hmark rfl), readMark_extend hmark more]
  · split at h
    · next last hmark =>
      obtain ⟨⟨members, last'⟩, hmembers, heq⟩ := map_eq_some_iff.mp h
      obtain ⟨rfl, rfl⟩ := Prod.mk.inj heq
      have hnext : skipSpace last ≠ [] := by
        intro hlast
        rw [hlast, parseMembers_nil] at hmembers
        cases hmembers
      simp only [hread (stops_of_readMark hmark rfl), readMark_extend hmark more,
        readMark_extend_none (show ',' ≠ '\x7d' by decide) hmark more,
        skipSpace_extend_of_ne hnext more, ih.members hmembers fuel' more hfuel, map_some]
    · cases h

theorem Extends.valueStep (ih : Extends fuel) (h : parseValue (fuel + 1) cs = some (v, rest))
    (hend : Stops rest ∨ cs.head? = some '\x7b') (fuel' : Nat) (more : List Char)
    (hfuel : fuel ≤ fuel') : parseValue (fuel' + 1) (cs ++ more) = some (v, rest ++ more) := by
  cases cs with
  | nil => cases h
  | cons c cs =>
    rw [parseValue] at h
    rw [cons_append, parseValue]
    split_ifs at h ⊢ with hquote hbracket hbrace
    · obtain ⟨⟨s, last⟩, hs, heq⟩ := map_eq_some_iff.mp h
      obtain ⟨rfl, rfl⟩ := Prod.mk.inj heq
      rw [← cons_append, readString_extend hs more]
      rfl
    · split at h
      · next last hmark =>
        cases h
        simp only [readMark_extend hmark more]
      · next hopen =>
        obtain ⟨⟨items, last⟩, hitems, heq⟩ := map_eq_some_iff.mp h
        obtain ⟨rfl, rfl⟩ := Prod.mk.inj heq
        have hstart : skipSpace cs ≠ [] := by
          intro hnil
          rw [hnil, parseItems_nil] at hitems
          cases hitems
        have hopen' := readMark_none_extend hopen hstart more
        simp only [hopen', skipSpace_extend_of_ne hstart more, ih.items hitems fuel' more hfuel,
          map_some]
    · split at h
      · next last hmark =>
        cases h
        simp only [readMark_extend hmark more]
      · next hopen =>
        obtain ⟨⟨members, last⟩, hmembers, heq⟩ := map_eq_some_iff.mp h
        obtain ⟨rfl, rfl⟩ := Prod.mk.inj heq
        have hstart : skipSpace cs ≠ [] := by
          intro hnil
          rw [hnil, parseMembers_nil] at hmembers
          cases hmembers
        have hopen' := readMark_none_extend hopen hstart more
        simp only [hopen', skipSpace_extend_of_ne hstart more,
          ih.members hmembers fuel' more hfuel, map_some]
    · have hstops : Stops rest := by
        rcases hend with hstops | hbrace'
        · exact hstops
        · exact absurd (some.inj hbrace') hbrace
      split at h
      · next word hword =>
        cases h
        rw [← cons_append, readWord_extend hword more]
      · have hnumber := readNumber_extend h hstops more
        have hsome : (numberText (c :: cs ++ more)).isSome = true := by
          obtain ⟨number, hnumber, -⟩ := bind_eq_some_iff.mp hnumber
          rw [hnumber]
          rfl
        rw [← cons_append, readWord_of_number hsome]
        exact hnumber

theorem extends_all (fuel : Nat) : Extends fuel := by
  induction fuel with
  | zero =>
    refine ⟨fun h => ?_, fun h => ?_, fun h => ?_⟩
    · cases h
    · cases h
    · cases h
  | succ fuel ih =>
    refine ⟨fun h hend fuel' more hfuel => ?_, fun h fuel' more hfuel => ?_,
      fun h fuel' more hfuel => ?_⟩
    all_goals obtain ⟨fuel', rfl⟩ := Nat.exists_eq_add_of_lt hfuel
    · exact ih.valueStep h hend _ more (by omega)
    · exact ih.itemsStep h _ more (by omega)
    · exact ih.membersStep h _ more (by omega)

/-- No proper prefix of the text of a dictionary is a JSON text. -/
theorem loads_prefix {members : List (String × PyValue)} (hv : (PyValue.dict members).WellFormed)
    (hd : (PyValue.dict members).dumpable = true) {more : List Char}
    (htext : canonicalText (.dict members) = cs ++ more) (hmore : more ≠ []) : loads cs = none := by
  have hread := readsBack_of_wellFormed hv hd
  rw [eq_none_iff_forall_ne_some]
  intro v hloads
  unfold loads at hloads
  split at hloads
  · cases hloads
  next value rest hparse =>
  cases cs with
  | nil => cases hparse
  | cons c cs =>
    have hc : c = '\x7b' := by
      rw [canonicalText_dict, cons_append, cons_append] at htext
      exact (List.cons.inj htext).1.symm
    have hskip : skipSpace (c :: cs) = c :: cs := by
      rw [hc, skipSpace_cons (by decide)]
    rw [hskip] at hparse
    have hlonger := (extends_all _).value hparse (.inr (by rw [hc]; rfl))
      (2 * (canonicalText (.dict members)).length + (2 * (c :: cs).length + 1)) more (by omega)
    have hwhole := hread.read
      (2 * (canonicalText (.dict members)).length + (2 * (c :: cs).length + 1)) [] (by omega) rfl
    rw [append_nil, htext] at hwhole
    rw [htext, hwhole] at hlonger
    have hrest := (Prod.mk.inj (some.inj hlonger)).2
    exact hmore (append_eq_nil_iff.mp hrest.symm).2

end

end AidnSpec.Base
