import Mathlib.Algebra.Group.Nat.Defs
import Mathlib.Data.List.Basic
import Mathlib.Tactic.Common

/-!
# Python values that come from JSON

Exceptions, the values `json.loads` can return, dictionary reads, `==`, and the two text primitives
validators lean on: `str.strip` and `int(str)` with CPython's grammar (Unicode digits, single
underscores between digits, at most 4300 digits).
-/

namespace AidnSpec.Base

open List

universe u v

/-- The exception classes that a caller can tell apart. -/
inductive PyErrorKind where
  | value
  | type
  | key
  | overflow
  | attribute
  deriving DecidableEq

/-- A raised exception and its text. -/
structure PyError where
  kind : PyErrorKind
  message : String
  deriving DecidableEq

/-- `raise ValueError(message)`. -/
def raiseValue {α : Type u} (message : String) : Except PyError α := .error ⟨.value, message⟩

/-- `raise TypeError(message)`. -/
def raiseType {α : Type u} (message : String) : Except PyError α := .error ⟨.type, message⟩

/-- `if not condition: raise ValueError(message)`. -/
def require (condition : Bool) (message : String) : Except PyError Unit :=
  if condition then .ok () else raiseValue message

variable {condition : Bool} {message : String} {u : Unit} {ε : Type u} {α : Type v} {x : Except ε α}
  {β : Type} {c : Prop} {cs : List Char} {n : Nat}

@[simp] theorem require_eq_ok : require condition message = .ok u ↔ condition = true := by
  cases condition <;> simp [require, raiseValue]

@[simp] theorem require_eq_error {error : PyError} :
    require condition message = .error error ↔ condition = false ∧ ⟨.value, message⟩ = error := by
  cases condition <;> simp [require, raiseValue]

/-- A successful sequence has a successful first part, whose value the rest runs on. -/
theorem bind_eq_ok {β : Type v} {f : α → Except ε β} {b : β} :
    (x >>= f) = .ok b ↔ ∃ a, x = .ok a ∧ f a = .ok b := by
  cases x with
  | error e => simp [bind, Except.bind]
  | ok a => simp [bind, Except.bind]

theorem pure_eq_ok {a b : α} :
    (pure a : Except ε α) = .ok b ↔ a = b := Except.ok.injEq a b ▸ Iff.rfl

theorem exists_unit {p : Unit → Prop} : (∃ u, p u) ↔ p () := ⟨fun ⟨(), h⟩ => h, fun h => ⟨(), h⟩⟩

/-- A check that is made under a condition only. -/
theorem guarded_eq_ok [Decidable c] {x : Except ε Unit} {rest : Except ε β} {b : β} :
    (if c then (x >>= fun _ => rest) else rest) = .ok b ↔ (c → x = .ok ()) ∧ rest = .ok b := by
  by_cases hc : c
  · rw [if_pos hc, bind_eq_ok]
    exact ⟨fun ⟨(), hx, hrest⟩ => ⟨fun _ => hx, hrest⟩, fun h => ⟨(), h.1 hc, h.2⟩⟩
  · simp [hc]

/-- What follows a check that is made under a condition only. -/
theorem rest_of_guarded {β : Type v} [Decidable c] {y : α → Except ε PUnit} {rest : Except ε β}
    {b : β} (h : (if c then (x >>= fun a => y a >>= fun _ => rest) else rest) = .ok b) :
    rest = .ok b := by
  split at h
  · simp only [bind_eq_ok] at h
    obtain ⟨a, -, u, -, hrest⟩ := h
    exact hrest
  · exact h

/-- A pass over a list that raises nowhere did not raise at any item. -/
theorem forM_ok_of_mem {ε α : Type} {f : α → Except ε Unit} {xs : List α} (h : xs.forM f = .ok u)
    {x : α} (hx : x ∈ xs) : ∃ v, f x = .ok v := by
  induction xs with
  | nil => cases hx
  | cons y ys ih =>
    have hbind : (f y >>= fun _ => ys.forM f) = .ok u := h
    obtain ⟨v, hv, hrest⟩ := bind_eq_ok.mp hbind
    rcases mem_cons.mp hx with rfl | hx
    · exact ⟨v, hv⟩
    · exact ih hrest hx

/-- What a successful pass over a list returns comes from its items. -/
theorem exists_of_mem_mapM {ε α : Type} {f : α → Except ε β} {xs : List α} {ys : List β}
    (h : xs.mapM f = .ok ys) {y : β} (hy : y ∈ ys) : ∃ x ∈ xs, f x = .ok y := by
  induction xs generalizing ys with
  | nil =>
    cases h
    cases hy
  | cons x xs ih =>
    simp only [mapM_cons, bind_eq_ok, pure_eq_ok] at h
    obtain ⟨z, hz, zs, hzs, rfl⟩ := h
    rcases mem_cons.mp hy with rfl | hy
    · exact ⟨x, mem_cons_self, hz⟩
    · obtain ⟨x', hx', hfx⟩ := ih hzs hy
      exact ⟨x', mem_cons_of_mem x hx', hfx⟩

/-- A pass over a list whose every item succeeds succeeds. -/
theorem mapM_map_ok {ε α γ : Type} {f : β → Except ε γ} {g : α → β} {k : α → γ} {xs : List α}
    (h : ∀ x ∈ xs, f (g x) = .ok (k x)) : (xs.map g).mapM f = .ok (xs.map k) := by
  induction xs with
  | nil => rfl
  | cons x xs ih =>
    rw [map_cons, mapM_cons, h x mem_cons_self,
      ih fun y hy => h y (mem_cons_of_mem x hy)]
    rfl

/-! ## Values -/

/-- What `json.loads` returns. A finite float keeps the text `repr` writes and its exact
value; `nan` and the infinities keep their text. -/
inductive PyValue where
  | none
  | bool (b : Bool)
  | int (n : Int)
  | float (repr : String) (value : Rat)
  | nonFinite (repr : String)
  | str (s : String)
  | list (items : List PyValue)
  | dict (members : List (String × PyValue))

theorem mem_of_lookup {α β : Type*} [BEq α] [LawfulBEq α] {members : List (α × β)} {key : α}
    {value : β} (h : members.lookup key = some value) : (key, value) ∈ members := by
  obtain ⟨before, after, rfl, -⟩ := lookup_eq_some_iff.mp h
  exact mem_append_right before mem_cons_self

namespace PyValue

mutual
/-- Structural equality of values. -/
def decEq : (a b : PyValue) → Decidable (a = b)
  | .none, .none => isTrue rfl
  | .bool a, .bool b => decidable_of_iff (a = b) (by simp)
  | .int a, .int b => decidable_of_iff (a = b) (by simp)
  | .float r a, .float s b => decidable_of_iff (r = s ∧ a = b) (by simp)
  | .nonFinite a, .nonFinite b => decidable_of_iff (a = b) (by simp)
  | .str a, .str b => decidable_of_iff (a = b) (by simp)
  | .list a, .list b =>
    match decEqList a b with
    | isTrue h => isTrue (by rw [h])
    | isFalse h => isFalse (by simpa using h)
  | .dict a, .dict b =>
    match decEqMembers a b with
    | isTrue h => isTrue (by rw [h])
    | isFalse h => isFalse (by simpa using h)
  | .none, .bool _ | .none, .int _ | .none, .float _ _ | .none, .nonFinite _ | .none, .str _
  | .none, .list _ | .none, .dict _ | .bool _, .none | .bool _, .int _ | .bool _, .float _ _
  | .bool _, .nonFinite _ | .bool _, .str _ | .bool _, .list _ | .bool _, .dict _
  | .int _, .none | .int _, .bool _ | .int _, .float _ _ | .int _, .nonFinite _ | .int _, .str _
  | .int _, .list _ | .int _, .dict _ | .float _ _, .none | .float _ _, .bool _
  | .float _ _, .int _ | .float _ _, .nonFinite _ | .float _ _, .str _ | .float _ _, .list _
  | .float _ _, .dict _ | .nonFinite _, .none | .nonFinite _, .bool _ | .nonFinite _, .int _
  | .nonFinite _, .float _ _ | .nonFinite _, .str _ | .nonFinite _, .list _
  | .nonFinite _, .dict _ | .str _, .none | .str _, .bool _ | .str _, .int _
  | .str _, .float _ _ | .str _, .nonFinite _ | .str _, .list _ | .str _, .dict _
  | .list _, .none | .list _, .bool _ | .list _, .int _ | .list _, .float _ _
  | .list _, .nonFinite _ | .list _, .str _ | .list _, .dict _ | .dict _, .none
  | .dict _, .bool _ | .dict _, .int _ | .dict _, .float _ _ | .dict _, .nonFinite _
  | .dict _, .str _ | .dict _, .list _ => isFalse (by simp)
/-- Structural equality of item lists. -/
def decEqList : (a b : List PyValue) → Decidable (a = b)
  | [], [] => isTrue rfl
  | [], _ :: _ | _ :: _, [] => isFalse (by simp)
  | x :: xs, y :: ys =>
    match decEq x y, decEqList xs ys with
    | isTrue h, isTrue t => isTrue (by rw [h, t])
    | isFalse h, _ => isFalse (by simp [h])
    | _, isFalse t => isFalse (by simp [t])
def decEqMembers : (a b : List (String × PyValue)) → Decidable (a = b)
  | [], [] => isTrue rfl
  | [], _ :: _ | _ :: _, [] => isFalse (by simp)
  | (k, x) :: xs, (l, y) :: ys =>
    match decidable_of_iff (k = l) Iff.rfl, decEq x y, decEqMembers xs ys with
    | isTrue e, isTrue h, isTrue t => isTrue (by rw [e, h, t])
    | isFalse e, _, _ => isFalse (by simp [e])
    | _, isFalse h, _ => isFalse (by simp [h])
    | _, _, isFalse t => isFalse (by simp [t])
end

instance : DecidableEq PyValue := decEq

/-- `members.get(key)`. -/
def get (members : List (String × PyValue)) (key : String) : PyValue :=
  (members.lookup key).getD .none

theorem get_cons (k : String) (v : PyValue) (members : List (String × PyValue)) (key : String) :
    get ((k, v) :: members) key = if key = k then v else get members key := by
  rw [get, lookup_cons]
  by_cases h : key = k
  · rw [if_pos h, beq_iff_eq.mpr h]
    rfl
  · rw [if_neg h, beq_eq_false_iff_ne.mpr h]
    rfl

/-- The number a value stands for in a comparison. -/
def number? : PyValue → Option Rat
  | .bool b => some (if b then 1 else 0)
  | .int n => some n
  | .float _ q => some q
  | _ => Option.none

mutual
/-- `a == b`: numbers by value, dictionaries whatever the order of their members. NaN equals itself
here, as one object does inside Python's containers; two NaN objects are unequal in Python. -/
def eqv : PyValue → PyValue → Bool
  | .none, .none => true
  | .str a, .str b => a == b
  | .nonFinite a, .nonFinite b => a == b
  | .list a, .list b => eqvItems a b
  | .dict a, .dict b => a.length == b.length && eqvMembers a b
  | a, b =>
    match a.number?, b.number? with
    | some p, some q => p == q
    | _, _ => false
def eqvItems : List PyValue → List PyValue → Bool
  | [], [] => true
  | a :: as, b :: bs => eqv a b && eqvItems as bs
  | _, _ => false
/-- Every member of the first dictionary is a member of the second. -/
def eqvMembers : List (String × PyValue) → List (String × PyValue) → Bool
  | [], _ => true
  | (key, a) :: as, bs =>
    (match bs.lookup key with
      | some b => eqv a b
      | Option.none => false) && eqvMembers as bs
end

end PyValue

/-! ## Text -/

/-- `str.isspace` on one character. -/
def isPySpace (c : Char) : Bool :=
  let n := c.toNat
  (9 ≤ n && n ≤ 13) || (28 ≤ n && n ≤ 32) || n == 0x85 || n == 0xa0 || n == 0x1680 ||
    (0x2000 ≤ n && n ≤ 0x200a) || n == 0x2028 || n == 0x2029 || n == 0x202f || n == 0x205f ||
    n == 0x3000

/-- Characters of `text.strip()`. -/
def stripChars (cs : List Char) : List Char :=
  ((cs.dropWhile isPySpace).reverse.dropWhile isPySpace).reverse

/-- `not text.strip()`. -/
def isBlank (s : String) : Bool := s.toList.all isPySpace

/-- `text.removeprefix(pre)` on characters. -/
def removePre (pre cs : List Char) : List Char :=
  if pre.isPrefixOf cs then cs.drop pre.length else cs

/-- Code points of the zeros of the Unicode decimal digit blocks. -/
def decimalZeros : List Nat :=
  48 :: [1632, 1776, 1984, 2406, 2534, 2662, 2790, 2918, 3046, 3174, 3302, 3430, 3558, 3664, 3792,
    3872, 4160, 4240, 6112, 6160, 6470, 6608, 6784, 6800, 6992, 7088, 7232, 7248, 42528, 43216,
    43264, 43472, 43504, 43600, 44016, 65296, 66720, 68912, 69734, 69872, 69942, 70096, 70384,
    70736, 70864, 71248, 71360, 71472, 71904, 72016, 72784, 73040, 73120, 92768, 92864, 93008,
    120782, 120792, 120802, 120812, 120822, 123200, 123632, 125264, 130032]

/-- `unicodedata.decimal`. -/
def decimalValue (c : Char) : Option Nat :=
  (decimalZeros.find? (fun z => z ≤ c.toNat && c.toNat < z + 10)).map (c.toNat - ·)

/-- Digits with single underscores between them; `digitBefore` tells whether a
digit stands directly before. -/
def digitRun (digitBefore : Bool) : List Char → Option (List Nat)
  | [] => if digitBefore then some [] else none
  | c :: cs =>
    if c = '_' then if digitBefore then digitRun false cs else none
    else (decimalValue c).bind fun v => (digitRun true cs).map (v :: ·)

/-- `int` of an unsigned digit text, refused past 4300 digits. -/
def unsignedInt (cs : List Char) : Option Nat :=
  (digitRun false cs).bind fun ds =>
    if ds.length ≤ 4300 then some (ds.foldl (fun acc d => 10 * acc + d) 0) else none

/-- `int(text)`; `none` stands for its `ValueError`. -/
def intOfText (s : String) : Option Int :=
  match stripChars s.toList with
  | '-' :: cs => (unsignedInt cs).map fun n => -(n : Int)
  | '+' :: cs => (unsignedInt cs).map Int.ofNat
  | cs => (unsignedInt cs).map Int.ofNat

/-- `int(value)`. -/
def PyValue.toInt : PyValue → Except PyError Int
  | .int n => .ok n
  | .bool b => .ok (if b then 1 else 0)
  | .float _ q => .ok (q.num.tdiv q.den)
  | .nonFinite text =>
    if text = "NaN" then raiseValue "cannot convert float NaN to integer"
    else .error ⟨.overflow, "cannot convert float infinity to integer"⟩
  | .str s =>
    match intOfText s with
    | some n => .ok n
    | Option.none => raiseValue "invalid literal for int() with base 10"
  | .none | .list _ | .dict _ => raiseType "int() argument must be a string or a real number"

private theorem decimalValue_of_isDigit {c : Char} (hc : c.isDigit = true) :
    decimalValue c = some (c.toNat - 48) := by
  have h : 48 ≤ c.toNat ∧ c.toNat ≤ 57 := Char.isDigit_iff_toNat.mp hc
  rw [decimalValue, decimalZeros, find?_cons_of_pos, Option.map_some]
  simp only [Bool.and_eq_true, decide_eq_true_eq]
  omega

private theorem digitRun_of_isDigit (h : ∀ c ∈ cs, c.isDigit = true) :
    digitRun true cs = some (cs.map fun c => c.toNat - 48) := by
  induction cs with
  | nil => rfl
  | cons c cs ih =>
    have hc := h c (by simp)
    have hne : c ≠ '_' := by rintro rfl; simp [Char.isDigit] at hc
    rw [digitRun, if_neg hne, decimalValue_of_isDigit hc, Option.bind_some,
      ih (fun d hd => h d (by simp [hd])), Option.map_some, map_cons]

private theorem digitRun_false_eq (hne : cs ≠ []) (h : '_' ∉ cs) :
    digitRun false cs = digitRun true cs := by
  cases cs with
  | nil => exact absurd rfl hne
  | cons c cs =>
    have hc : c ≠ '_' := by rintro rfl; simp at h
    rw [digitRun, digitRun, if_neg hc, if_neg hc]

private theorem stripChars_of_not_space (h : ∀ c ∈ cs, isPySpace c = false) :
    stripChars cs = cs := by
  have drop : ∀ ds : List Char, (∀ c ∈ ds, isPySpace c = false) →
      ds.dropWhile isPySpace = ds := by
    intro ds hds
    cases ds with
    | nil => rfl
    | cons c cs => rw [dropWhile_cons_of_neg (by simp [hds c (by simp)])]
  rw [stripChars, drop cs h, drop _ (fun c hc => h c (by simpa using hc)), reverse_reverse]

private theorem isPySpace_of_isDigit {c : Char} (h : c.isDigit = true) : isPySpace c = false := by
  have hd : 48 ≤ c.toNat ∧ c.toNat ≤ 57 := Char.isDigit_iff_toNat.mp h
  simp only [isPySpace, Bool.or_eq_false_iff, Bool.and_eq_false_iff, decide_eq_false_iff_not,
    beq_eq_false_iff_ne]
  omega

private theorem isDigit_toDigits : ∀ c ∈ Nat.toDigits 10 n, c.isDigit = true :=
  fun _ hc => Nat.isDigit_of_mem_toDigits (by decide) (by decide) hc

private theorem unsignedInt_toDigits (hn : (Nat.toDigits 10 n).length ≤ 4300) :
    unsignedInt (Nat.toDigits 10 n) = some n := by
  rw [unsignedInt, digitRun_false_eq Nat.toDigits_ne_nil Nat.underscore_not_in_toDigits,
    digitRun_of_isDigit isDigit_toDigits, Option.bind_some, length_map, if_pos hn,
    foldl_map]
  exact congrArg some Nat.ofDigitChars_ten_toDigits

private theorem intOfText_of_length (hn : (Nat.toDigits 10 n).length ≤ 4300) :
    intOfText n.repr = some (n : Int) := by
  have hd := @isDigit_toDigits n
  rw [intOfText, Nat.toList_repr,
    stripChars_of_not_space fun c hc => isPySpace_of_isDigit (hd c hc)]
  split
  · next cs h => simp [h, Char.isDigit] at hd
  · next cs h => simp [h, Char.isDigit] at hd
  · rw [unsignedInt_toDigits hn]; rfl

/-- `int` reads a decimal text of at most 4300 digits back. -/
theorem intOfText_repr (n : Nat) (hn : n < 10 ^ 4300) : intOfText n.repr = some (n : Int) :=
  intOfText_of_length ((Nat.length_toDigits_le_iff (by decide) (by decide)).mpr hn)

/-- `int` reads the text of an integer of at most 4300 digits back, whatever its sign. -/
theorem intOfText_toString (n : Int) (hn : (Nat.toDigits 10 n.natAbs).length ≤ 4300) :
    intOfText (toString n) = some n := by
  cases n with
  | ofNat m => exact intOfText_of_length hn
  | negSucc m =>
    have htext : (toString (Int.negSucc m)).toList = '-' :: Nat.toDigits 10 (m + 1) := by
      show ("-" ++ Nat.repr (m + 1)).toList = _
      rw [String.toList_append, Nat.toList_repr]
      rfl
    have hspace : ∀ c ∈ '-' :: Nat.toDigits 10 (m + 1), isPySpace c = false := by
      intro c hc
      rcases mem_cons.mp hc with rfl | hc
      · decide
      · exact isPySpace_of_isDigit (isDigit_toDigits c hc)
    have hunsigned : unsignedInt (Nat.toDigits 10 (m + 1)) = some (m + 1) :=
      unsignedInt_toDigits hn
    rw [intOfText, htext, stripChars_of_not_space hspace]
    simp only [hunsigned]
    rfl

end AidnSpec.Base
