import AidnSpec.Base.JsonText
import Mathlib.Tactic.Ring

/-!
# What a JSON text is read as

Every value that `json.loads` returns is a value of Python that `json.dumps` can write: a dictionary
has every key once, and an integer has no more digits than `int` reads.
-/

namespace AidnSpec.Base

open List Option

/-! ## Integers -/

theorem lt_of_decimalValue {c : Char} {v : ℕ} (h : decimalValue c = some v) : v < 10 := by
  obtain ⟨start, hstart, rfl⟩ := map_eq_some_iff.mp h
  have hrange := find?_some hstart
  rw [Bool.and_eq_true, decide_eq_true_eq, decide_eq_true_eq] at hrange
  omega

variable {cs rest : List Char} {ds : List ℕ} {v : PyValue}

theorem lt_of_mem_digitRun {before : Bool} (h : digitRun before cs = some ds) :
    ∀ d ∈ ds, d < 10 := by
  induction cs generalizing before ds with
  | nil =>
    rw [digitRun] at h
    split at h
    · cases h
      exact fun d hd => by cases hd
    · cases h
  | cons c cs ih =>
    rw [digitRun] at h
    split at h
    · split at h
      · exact ih h
      · cases h
    · obtain ⟨v, hv, hrest⟩ := bind_eq_some_iff.mp h
      obtain ⟨rest, hrun, rfl⟩ := map_eq_some_iff.mp hrest
      intro d hd
      rcases mem_cons.mp hd with rfl | hd
      · exact lt_of_decimalValue hv
      · exact ih hrun d hd

theorem foldl_digits_lt (h : ∀ d ∈ ds, d < 10) (acc : ℕ) :
    ds.foldl (fun acc d => 10 * acc + d) acc < (acc + 1) * 10 ^ ds.length := by
  induction ds generalizing acc with
  | nil => simp
  | cons d ds ih =>
    have hd := h d mem_cons_self
    have hrest := ih (fun e he => h e (mem_cons_of_mem d he)) (10 * acc + d)
    have hle : (10 * acc + d + 1) * 10 ^ ds.length ≤ (10 * acc + 10) * 10 ^ ds.length :=
      Nat.mul_le_mul_right _ (by omega)
    rw [foldl_cons, length_cons, Nat.pow_succ]
    calc ds.foldl (fun acc d => 10 * acc + d) (10 * acc + d)
        < (10 * acc + d + 1) * 10 ^ ds.length := hrest
      _ ≤ (10 * acc + 10) * 10 ^ ds.length := hle
      _ = (acc + 1) * (10 ^ ds.length * 10) := by ring

theorem unsignedInt_lt {n : ℕ} (h : unsignedInt cs = some n) : n < 10 ^ 4300 := by
  obtain ⟨ds, hrun, hds⟩ := bind_eq_some_iff.mp h
  split at hds
  · next hlength =>
    cases hds
    have hlt := foldl_digits_lt (lt_of_mem_digitRun hrun) 0
    rw [Nat.zero_add, Nat.one_mul] at hlt
    exact hlt.trans_le (Nat.pow_le_pow_right (by decide) hlength)
  · cases hds

/-- An integer that `int` reads can be written. -/
theorem dumpable_of_intOfText {text : String} {n : ℤ} (h : intOfText text = some n) :
    (PyValue.int n).dumpable = true := by
  have hlt : n.natAbs < 10 ^ 4300 := by
    unfold intOfText at h
    split at h
    · obtain ⟨m, hm, rfl⟩ := map_eq_some_iff.mp h
      obtain ⟨k, hk, hcast⟩ := bind_eq_some_iff.mp hm
      cases hcast
      rw [Int.natAbs_neg]
      exact unsignedInt_lt hk
    · obtain ⟨m, hm, rfl⟩ := map_eq_some_iff.mp h
      exact unsignedInt_lt hm
    · obtain ⟨m, hm, rfl⟩ := map_eq_some_iff.mp h
      exact unsignedInt_lt hm
  rw [PyValue.dumpable, decide_eq_true_eq]
  exact (Nat.length_toDigits_le_iff (by decide) (by decide)).mpr hlt

/-! ## Values -/

/-- A value that `json.dumps` can write and `json.loads` reads back. -/
structure PyValue.Writable [FloatReader] (v : PyValue) : Prop where
  wellFormed : v.WellFormed
  dumpable : v.dumpable = true

/-- `float(text)` returns a float, which is what `repr` writes of it. -/
def ReadsFloats [FloatReader] : Prop := ∀ text, (FloatReader.readFloat text).Writable

variable [FloatReader]

theorem PyValue.Writable.list {items : List PyValue} (h : ∀ item ∈ items, item.Writable) :
    (PyValue.list items).Writable where
  wellFormed := .list fun item hitem => (h item hitem).wellFormed
  dumpable := by
    rw [PyValue.dumpable]
    exact PyValue.dumpableItems_of_mem fun item hitem => (h item hitem).dumpable

theorem PyValue.Writable.dict {members : List (String × PyValue)}
    (hkeys : (members.map Prod.fst).Nodup) (h : ∀ member ∈ members, member.2.Writable) :
    (PyValue.dict members).Writable where
  wellFormed := .dict hkeys fun member hmember => (h member hmember).wellFormed
  dumpable := by
    rw [PyValue.dumpable]
    exact PyValue.dumpableMembers_of_mem fun member hmember => (h member hmember).dumpable

/-- The members of a dictionary that can be written are apart and can be written. -/
theorem PyValue.Writable.members {members : List (String × PyValue)}
    (h : (PyValue.dict members).Writable) :
    (members.map Prod.fst).Nodup ∧ ∀ member ∈ members, member.2.Writable := by
  obtain ⟨hwell, hdump⟩ := h
  rw [PyValue.dumpable] at hdump
  cases hwell with
  | dict hkeys hmembers =>
    exact ⟨hkeys, fun m hm => ⟨hmembers m hm, PyValue.dumpable_of_mem_members hdump hm⟩⟩

omit [FloatReader] in
/-- Assignments keep the keys apart and bring no other values. -/
theorem put_spec {P : PyValue → Prop} {members : List (String × PyValue)} {key : String}
    {value : PyValue} (hkeys : (members.map Prod.fst).Nodup) (h : ∀ m ∈ members, P m.2)
    (hvalue : P value) : ((Dict.put key value members).map Prod.fst).Nodup ∧
      ∀ m ∈ Dict.put key value members, P m.2 := by
  have hset := (Dict.set ⟨members, hkeys⟩ key value).nodup
  refine ⟨hset, fun m hm => ?_⟩
  have hget := Dict.get?_eq_some_iff.mpr (show m ∈ (Dict.set ⟨members, hkeys⟩ key value).entries
    from hm)
  rw [Dict.get?_set] at hget
  split at hget
  · rw [← some.inj hget]
    exact hvalue
  · exact h m (Dict.get?_eq_some_iff.mp hget)

omit [FloatReader] in
theorem pairsDict_spec {P : PyValue → Prop} {pairs : List (String × PyValue)}
    (h : ∀ p ∈ pairs, P p.2) :
    ((pairsDict pairs).map Prod.fst).Nodup ∧ ∀ m ∈ pairsDict pairs, P m.2 := by
  have key : ∀ (pairs members : List (String × PyValue)), (∀ p ∈ pairs, P p.2) →
      (members.map Prod.fst).Nodup → (∀ m ∈ members, P m.2) →
      ((pairs.foldl (fun members pair => Dict.put pair.1 pair.2 members) members).map
          Prod.fst).Nodup ∧
        ∀ m ∈ pairs.foldl (fun members pair => Dict.put pair.1 pair.2 members) members, P m.2 := by
    intro pairs
    induction pairs with
    | nil => exact fun members _ hkeys hmembers => ⟨hkeys, hmembers⟩
    | cons pair pairs ih =>
      intro members hpairs hkeys hmembers
      obtain ⟨hkeys', hmembers'⟩ := @put_spec P members pair.1 pair.2 hkeys hmembers
        (hpairs pair mem_cons_self)
      exact ih _ (fun p hp => hpairs p (mem_cons_of_mem pair hp)) hkeys' hmembers'
  exact key pairs [] h nodup_nil fun m hm => by cases hm

theorem writable_of_readWord (h : readWord cs = some (v, rest)) : v.Writable := by
  obtain ⟨word, hword, hv⟩ := exists_of_findSome?_eq_some h
  split at hv
  · obtain ⟨rfl, -⟩ := Prod.mk.inj (some.inj hv)
    simp only [jsonWords, mem_cons, not_mem_nil, or_false] at hword
    rcases hword with rfl | rfl | rfl | rfl | rfl | rfl
    · exact ⟨.none, rfl⟩
    · exact ⟨.bool true, rfl⟩
    · exact ⟨.bool false, rfl⟩
    · exact ⟨.nonFinite (.inl rfl), rfl⟩
    · exact ⟨.nonFinite (.inr (.inl rfl)), rfl⟩
    · exact ⟨.nonFinite (.inr (.inr rfl)), rfl⟩
  · cases hv

theorem writable_of_readNumber (floats : ReadsFloats) (h : readNumber cs = some (v, rest)) :
    v.Writable := by
  obtain ⟨number, -, hv⟩ := bind_eq_some_iff.mp h
  split at hv
  · obtain ⟨rfl, -⟩ := Prod.mk.inj (some.inj hv)
    exact floats _
  · obtain ⟨n, hn, hpair⟩ := map_eq_some_iff.mp hv
    obtain ⟨rfl, -⟩ := Prod.mk.inj hpair
    exact ⟨.int n, dumpable_of_intOfText hn⟩

/-- What the parser returns with some fuel can be written. -/
structure ParsesWritable (fuel : ℕ) : Prop where
  value : ∀ cs v rest, parseValue fuel cs = some (v, rest) → v.Writable
  items : ∀ cs items rest, parseItems fuel cs = some (items, rest) → ∀ i ∈ items, i.Writable
  members : ∀ cs pairs rest, parseMembers fuel cs = some (pairs, rest) →
    ∀ p ∈ pairs, p.2.Writable

theorem parsesWritable (floats : ReadsFloats) (fuel : ℕ) : ParsesWritable fuel := by
  induction fuel with
  | zero =>
    constructor <;> intro _ _ _ h <;> cases h
  | succ fuel ih =>
    constructor
    · intro cs v rest h
      cases cs with
      | nil => cases h
      | cons c cs =>
        rw [parseValue] at h
        split at h
        · obtain ⟨text, -, hpair⟩ := map_eq_some_iff.mp h
          obtain ⟨rfl, -⟩ := Prod.mk.inj hpair
          exact ⟨.str _, rfl⟩
        · split at h
          · split at h
            · obtain ⟨rfl, -⟩ := Prod.mk.inj (some.inj h)
              exact .list fun item hitem => by cases hitem
            · obtain ⟨items, hitems, hpair⟩ := map_eq_some_iff.mp h
              obtain ⟨rfl, -⟩ := Prod.mk.inj hpair
              exact .list (ih.items _ _ _ hitems)
          · split at h
            · split at h
              · obtain ⟨rfl, -⟩ := Prod.mk.inj (some.inj h)
                exact .dict nodup_nil fun member hmember => by cases hmember
              · obtain ⟨pairs, hpairs, hpair⟩ := map_eq_some_iff.mp h
                obtain ⟨rfl, -⟩ := Prod.mk.inj hpair
                obtain ⟨hkeys, hmembers⟩ := pairsDict_spec (ih.members _ _ _ hpairs)
                exact .dict hkeys hmembers
            · split at h
              · next word hword =>
                cases h
                exact writable_of_readWord hword
              · exact writable_of_readNumber floats h
    · intro cs items rest h
      rw [parseItems] at h
      split at h
      · cases h
      · next item rest' hitem =>
        have hhead := ih.value _ _ _ hitem
        split at h
        · obtain ⟨rfl, -⟩ := Prod.mk.inj (some.inj h)
          intro i hi
          obtain rfl := mem_singleton.mp hi
          exact hhead
        · split at h
          · obtain ⟨more, hmore, hpair⟩ := map_eq_some_iff.mp h
            obtain ⟨rfl, -⟩ := Prod.mk.inj hpair
            intro i hi
            rcases mem_cons.mp hi with rfl | hi
            · exact hhead
            · exact ih.items _ _ _ hmore i hi
          · cases h
    · intro cs pairs rest h
      rw [parseMembers] at h
      split at h
      · cases h
      · split at h
        · cases h
        · split at h
          · cases h
          · next value rest' hvalue =>
            have hhead := ih.value _ _ _ hvalue
            split at h
            · obtain ⟨rfl, -⟩ := Prod.mk.inj (some.inj h)
              intro p hp
              obtain rfl := mem_singleton.mp hp
              exact hhead
            · split at h
              · obtain ⟨more, hmore, hpair⟩ := map_eq_some_iff.mp h
                obtain ⟨rfl, -⟩ := Prod.mk.inj hpair
                intro p hp
                rcases mem_cons.mp hp with rfl | hp
                · exact hhead
                · exact ih.members _ _ _ hmore p hp
              · cases h

/-- What `json.loads` returns can be written. -/
theorem writable_of_loads (floats : ReadsFloats) (h : loads cs = some v) : v.Writable := by
  unfold loads at h
  split at h
  · cases h
  · next value rest hvalue =>
    split at h
    · cases h
      exact (parsesWritable floats _).value _ _ _ hvalue
    · cases h

end AidnSpec.Base
