import AidnSpec.Base.Schema

/-!
# Floats of Python and of declared fields

A float is what JSON writes of it: a finite one with the text of `repr` and its exact value, an
infinity, or `nan`. Comparisons follow IEEE 754: nothing compares to `nan`. The rounding of a sum
and the conversions of declared fields from other types are parameters.
-/

namespace AidnSpec.Base

/-- A Python `float`. -/
inductive PyFloat where
  | finite (repr : String) (value : Rat)
  | infinity (negative : Bool)
  | nan
  deriving DecidableEq

/-- Library behaviour on floats and on fields of declared types. -/
class FloatRuntime where
  /-- `a + b`. -/
  add : PyFloat → PyFloat → PyFloat
  /-- The float that a declared `float` field makes of a value that is not a `float`. -/
  coerceFloat : PyValue → Option PyFloat
  /-- The truth value that a declared `bool` field makes of a value that is not a `bool`. -/
  coerceBool : PyValue → Option Bool

namespace PyFloat

/-- `a < b`. -/
def lt : PyFloat → PyFloat → Bool
  | .nan, _ | _, .nan => false
  | .finite _ a, .finite _ b => a < b
  | .finite _ _, .infinity negative => !negative
  | .infinity negative, .finite _ _ => negative
  | .infinity negative, .infinity other => negative && !other

/-- `a == b`. -/
def eq : PyFloat → PyFloat → Bool
  | .nan, _ | _, .nan => false
  | .finite _ a, .finite _ b => a == b
  | .infinity negative, .infinity other => negative == other
  | .finite _ _, .infinity _ | .infinity _, .finite _ _ => false

/-- `a <= b`. -/
def le (a b : PyFloat) : Bool := a.lt b || a.eq b

def toValue : PyFloat → PyValue
  | .finite repr value => .float repr value
  | .infinity negative => .nonFinite (if negative then "-Infinity" else "Infinity")
  | .nan => .nonFinite "NaN"

def ofValue : PyValue → Option PyFloat
  | .float repr value => some (.finite repr value)
  | .nonFinite "Infinity" => some (.infinity false)
  | .nonFinite "-Infinity" => some (.infinity true)
  | .nonFinite "NaN" => some .nan
  | _ => none

@[simp] theorem ofValue_toValue (x : PyFloat) : ofValue x.toValue = some x := by
  cases x with
  | finite repr value => rfl
  | infinity negative => cases negative <;> rfl
  | nan => rfl

end PyFloat

/-! ## Declared fields -/

abbrev FilledText := {text : String // text.isEmpty = false}

variable {fields : Fields} {key : String}

/-- A declared `str` field with `min_length=1`. -/
def fieldFilled (fields : Fields) (key : String) : Option FilledText :=
  match fields.lookup key with
  | some (.str text) => if h : text.isEmpty = false then some ⟨text, h⟩ else none
  | _ => none

/-- A declared `str` field with `min_length=1` and a default, which is not checked. -/
def fieldFilledD (fields : Fields) (key : String) (default : FilledText) : Option FilledText :=
  match fields.lookup key with
  | none => some default
  | some _ => fieldFilled fields key

theorem fieldFilled_of_lookup {text : FilledText} (h : fields.lookup key = some (.str text)) :
    fieldFilled fields key = some text := by
  rw [fieldFilled, h]
  dsimp only
  rw [dif_pos text.property]

theorem fieldFilledD_of_lookup {text default : FilledText}
    (h : fields.lookup key = some (.str text)) :
    fieldFilledD fields key default = some text := by
  rw [fieldFilledD, h]
  exact fieldFilled_of_lookup h

variable [FloatRuntime]

/-- A declared `float` field. -/
def fieldFloat (fields : Fields) (key : String) : Option PyFloat :=
  (fields.lookup key).bind fun value => match PyFloat.ofValue value with
    | some x => some x
    | none => FloatRuntime.coerceFloat value

/-- A declared `bool` field with a default. -/
def fieldBoolD (fields : Fields) (key : String) (default : Bool) : Option Bool :=
  match fields.lookup key with
  | none => some default
  | some (.bool b) => some b
  | some value => FloatRuntime.coerceBool value

theorem fieldFloat_of_lookup {x : PyFloat} (h : fields.lookup key = some x.toValue) :
    fieldFloat fields key = some x := by
  rw [fieldFloat, h, Option.bind_some, PyFloat.ofValue_toValue]

theorem fieldBoolD_of_lookup {b default : Bool} (h : fields.lookup key = some (.bool b)) :
    fieldBoolD fields key default = some b := by
  rw [fieldBoolD, h]

end AidnSpec.Base
