import AidnSpec.Base.PyValue
import AidnSpec.Base.TextCodec

/-!
# Reading records out of untyped values

Two kinds of reads. Hand-written validators test `isinstance` and raise; declared models
(`BaseModel.model_validate`) read declared fields, ignore the others and fail as a whole. What lies
outside the sources is a parameter, `Runtime`: how a declared integer field coerces a value that is
not an integer, `datetime.fromisoformat`, and Ed25519 verification.
-/

namespace AidnSpec.Base

/-- A point in time as `datetime.fromisoformat` returns it: whether it has a timezone, and
its value in microseconds. -/
structure Instant where
  aware : Bool
  micros : Int
  deriving DecidableEq

/-- Library behaviour that the sources call and do not contain. -/
class Runtime where
  /-- The integer a declared `int` field makes of a value that is not an `int`. -/
  coerceInt : PyValue → Option Int
  /-- `datetime.fromisoformat`; `none` stands for its `ValueError`. -/
  fromisoformat : String → Option Instant
  /-- Ed25519 verification of a signature by a public key over a message. -/
  ed25519Verify : Bytes → Bytes → Bytes → Bool

/-- The members of a JSON object. -/
abbrev Fields := List (String × PyValue)

namespace Fields

/-- `key in payload`. -/
def has (fields : Fields) (key : String) : Bool := (fields.lookup key).isSome

def text (fields : Fields) (key : String) : String :=
  match PyValue.get fields key with
  | .str s => s
  | _ => ""

/-- The integer of a member; zero when it is not an integer. -/
def int (fields : Fields) (key : String) : Int :=
  match PyValue.get fields key with
  | .int n => n
  | _ => 0

/-- `isinstance(value, str) and value.strip()`. -/
def hasText (fields : Fields) (key : String) : Bool :=
  match PyValue.get fields key with
  | .str s => !isBlank s
  | _ => false

end Fields

/-- Raise at the first of the named members that is not a non-blank text. -/
def requireTexts (fields : Fields) (complaint : String) : List String → Except PyError Unit
  | [] => .ok ()
  | key :: keys => do
    require (fields.hasText key) (complaint ++ key)
    requireTexts fields complaint keys

variable {fields : Fields} {complaint key text : String} {u : Unit} {n : Int}

/-- Every named member is a non-blank text, once the check has passed. -/
theorem requireTexts_eq_ok {keys : List String} :
    requireTexts fields complaint keys = .ok u ↔ ∀ key ∈ keys, fields.hasText key = true := by
  induction keys with
  | nil => simp [requireTexts]
  | cons key keys ih =>
    simp only [requireTexts, bind_eq_ok, require_eq_ok, exists_unit, ih,
      List.mem_cons, forall_eq_or_imp]

/-- A member that must be an object. -/
def requireDict (fields : Fields) (key complaint : String) : Except PyError Fields :=
  match PyValue.get fields key with
  | .dict members => .ok members
  | _ => raiseValue complaint

/-- A member that must be an integer in a range. -/
def requireInt (fields : Fields) (key : String) (inRange : Int → Bool) (complaint : String) :
    Except PyError Int :=
  match PyValue.get fields key with
  | .int n => if inRange n then .ok n else raiseValue complaint
  | _ => raiseValue complaint

/-- A read integer member is what `Fields.int` returns. -/
theorem Fields.int_of_get (h : PyValue.get fields key = .int n) : fields.int key = n := by
  rw [Fields.int, h]

theorem Fields.text_of_get (h : PyValue.get fields key = .str text) : fields.text key = text := by
  rw [Fields.text, h]

theorem Fields.hasText_of_get (h : PyValue.get fields key = .str text)
    (hblank : isBlank text = false) : fields.hasText key = true := by
  rw [Fields.hasText, h]
  exact congrArg (!·) hblank

theorem Fields.get_of_hasText (h : fields.hasText key = true) :
    PyValue.get fields key = .str (fields.text key) := by
  unfold Fields.hasText at h
  unfold Fields.text
  cases hget : PyValue.get fields key with
  | str s => rfl
  | _ => simp [hget] at h

/-- What a passed integer check tells. -/
theorem requireInt_eq_ok {inRange : Int → Bool} :
    requireInt fields key inRange complaint = .ok n ↔
      PyValue.get fields key = .int n ∧ inRange n = true := by
  unfold requireInt
  split
  · next m hm =>
    rw [hm]
    by_cases h : inRange m = true
    · simp only [h, if_true, Except.ok.injEq, PyValue.int.injEq]
      constructor
      · rintro rfl; exact ⟨rfl, h⟩
      · exact fun ⟨he, _⟩ => he
    · simp only [h, Bool.false_eq_true, if_false, raiseValue, reduceCtorEq, PyValue.int.injEq,
        false_iff, not_and]
      rintro rfl
      exact h
  · next hm =>
    simp only [raiseValue, reduceCtorEq, false_iff, not_and]
    intro he
    exact absurd he (hm n)

/-- `value in {...}`; a list or a dictionary has no hash. -/
def requireMember (value : PyValue) (texts : List String) (complaint : String) :
    Except PyError Unit :=
  match value with
  | .str s => require (texts.contains s) complaint
  | .list _ => raiseType "unhashable type: 'list'"
  | .dict _ => raiseType "unhashable type: 'dict'"
  | _ => raiseValue complaint

/-- Raise at the first named condition that fails; the complaint is made of its name. -/
def requireEach (complaint : String → String) : List (String × Bool) → Except PyError Unit
  | [] => .ok ()
  | (name, condition) :: rest => do
    require condition (complaint name)
    requireEach complaint rest

/-- Every named condition holds, once the check has passed. -/
theorem requireEach_eq_ok {complaint : String → String} {conditions : List (String × Bool)} :
    requireEach complaint conditions = .ok u ↔ ∀ c ∈ conditions, c.2 = true := by
  induction conditions with
  | nil => simp [requireEach]
  | cons c rest ih =>
    simp only [requireEach, bind_eq_ok, require_eq_ok, exists_unit, ih,
      List.mem_cons, forall_eq_or_imp]

/-- `except ValueError as error: raise ValueError(f"{complaint}{error}") from error`. -/
def rewrap {α : Type} (complaint : String) (x : Except PyError α) : Except PyError α :=
  match x with
  | .ok a => .ok a
  | .error e => raiseValue (complaint ++ e.message)

@[simp] theorem rewrap_eq_ok {α : Type} {x : Except PyError α} {a : α} :
    rewrap complaint x = .ok a ↔ x = .ok a := by
  cases x <;> simp [rewrap, raiseValue]

/-- Raise at the first text that is not among the evidence references. -/
def requireReferenced (references : List String) (complaint : String) :
    List String → Except PyError Unit
  | [] => .ok ()
  | reference :: rest => do
    require (references.contains reference) complaint
    requireReferenced references complaint rest

/-! ## Declared models -/

section Model

variable [Runtime]

/-- A declared `str` field, with or without `min_length=1`. -/
def fieldText (fields : Fields) (key : String) (nonEmpty : Bool) : Option String :=
  match fields.lookup key with
  | some (.str s) => if nonEmpty && s.isEmpty then none else some s
  | _ => none

/-- A declared `str` field with a default. -/
def fieldTextD (fields : Fields) (key default : String) : Option String :=
  match fields.lookup key with
  | none => some default
  | some (.str s) => some s
  | some _ => none

/-- A declared `str | None = None` field. -/
def fieldOptText (fields : Fields) (key : String) : Option (Option String) :=
  match fields.lookup key with
  | none => some none
  | some .none => some none
  | some (.str s) => some (some s)
  | some _ => none

/-- The integer a declared `int` field reads. -/
def laxInt : PyValue → Option Int
  | .int n => some n
  | value => Runtime.coerceInt value

/-- A declared `int` field. -/
def fieldInt (fields : Fields) (key : String) : Option Int :=
  (fields.lookup key).bind laxInt

/-- A declared `int` field with `ge=0`. -/
def fieldNat (fields : Fields) (key : String) : Option Nat :=
  (fieldInt fields key).bind fun n => if 0 ≤ n then some n.toNat else none

/-- A declared `int` field with a default. -/
def fieldIntD (fields : Fields) (key : String) (default : Int) : Option Int :=
  match fields.lookup key with
  | none => some default
  | some value => laxInt value

/-- A declared `int` field with `ge=0` and a default. -/
def fieldNatD (fields : Fields) (key : String) (default : Nat) : Option Nat :=
  (fieldIntD fields key default).bind fun n => if 0 ≤ n then some n.toNat else none

/-- A declared `Literal` field. -/
def fieldLiteral {α : Type} (fields : Fields) (key : String) (ofText : String → Option α) :
    Option α :=
  match fields.lookup key with
  | some (.str s) => ofText s
  | _ => none

/-- A declared `Literal` field with a default. -/
def fieldLiteralD {α : Type} (fields : Fields) (key : String) (ofText : String → Option α)
    (default : α) : Option α :=
  match fields.lookup key with
  | none => some default
  | some (.str s) => ofText s
  | _ => none

/-- The texts of a declared `list[str]` field. -/
def textItems : List PyValue → Option (List String)
  | [] => some []
  | .str s :: rest => (textItems rest).map (s :: ·)
  | _ => none

/-- A declared `list[str]` field with an empty default. -/
def fieldTexts (fields : Fields) (key : String) : Option (List String) :=
  match fields.lookup key with
  | none => some []
  | some (.list items) => textItems items
  | some _ => none

/-- A declared self-hash `str | None = None`: absent, or equal to the computed hash. -/
def hashMatches (fields : Fields) (key expected : String) : Bool :=
  match fieldOptText fields key with
  | some none => true
  | some (some given) => given == expected
  | none => false

end Model

def optText : Option String → PyValue
  | none => .none
  | some s => .str s

/-! ## Reading back what was dumped -/

variable [Runtime] {fields : Fields} {key text : String} {n : ℕ}

section

omit [Runtime]

theorem fieldText_of_lookup (h : fields.lookup key = some (.str text)) :
    fieldText fields key false = some text := by
  rw [fieldText, h]
  rfl

theorem fieldText_of_filled (h : fields.lookup key = some (.str text))
    (filled : text.isEmpty = false) : fieldText fields key true = some text := by
  rw [fieldText, h]
  simp [filled]

theorem fieldTextD_of_lookup {default : String} (h : fields.lookup key = some (.str text)) :
    fieldTextD fields key default = some text := by
  rw [fieldTextD, h]

theorem fieldOptText_of_lookup {text : Option String}
    (h : fields.lookup key = some (optText text)) :
    fieldOptText fields key = some text := by
  cases text <;> simp [fieldOptText, h, optText]

theorem textItems_map_str (texts : List String) : textItems (texts.map .str) = some texts := by
  induction texts with
  | nil => rfl
  | cons text texts ih => simp [textItems, ih]

theorem fieldTexts_of_lookup {texts : List String}
    (h : fields.lookup key = some (.list (texts.map .str))) :
    fieldTexts fields key = some texts := by
  rw [fieldTexts, h]
  exact textItems_map_str texts

theorem fieldLiteral_of_lookup {α : Type} {ofText : String → Option α} {x : α}
    (h : fields.lookup key = some (.str text)) (hx : ofText text = some x) :
    fieldLiteral fields key ofText = some x := by
  rw [fieldLiteral, h]
  exact hx

end

theorem fieldNat_of_lookup (h : fields.lookup key = some (.int n)) :
    fieldNat fields key = some n := by
  simp [fieldNat, fieldInt, h, laxInt]

theorem fieldNatD_of_lookup {default : ℕ} (h : fields.lookup key = some (.int n)) :
    fieldNatD fields key default = some n := by
  simp [fieldNatD, fieldIntD, h, laxInt]

omit [Runtime] in
/-- A declared model without its self-hash passes the comparison. -/
theorem hashMatches_of_absent {expected : String} (h : fields.lookup key = none) :
    hashMatches fields key expected = true := by
  simp [hashMatches, fieldOptText, h]

end AidnSpec.Base
