import AidnSpec.Base.Dict
import AidnSpec.Base.Schema

/-!
# Conversions of untyped values

Truth of a value and the `or` of values; the built-in conversions whose texts and grammars are not
in the sources are a parameter. A float that is read is its exact value.
-/

namespace AidnSpec.Base

/-- `bool(value)`. -/
def PyValue.truthy : PyValue → Bool
  | .none => false
  | .bool b => b
  | .int n => n ≠ 0
  | .float _ q => q ≠ 0
  | .nonFinite _ => true
  | .str s => !s.isEmpty
  | .list items => !items.isEmpty
  | .dict members => !members.isEmpty

/-- `a or b`. -/
def PyValue.orElse (a b : PyValue) : PyValue := if a.truthy then a else b

/-- `str(value)`, `float(value)` and `dict(value)`. -/
class Conversions where
  str : PyValue → String
  toFloat : PyValue → Except PyError Rat
  toDict : PyValue → Except PyError Fields

/-- `str.strip`. -/
def stripped (s : String) : String := String.ofList (stripChars s.toList)

/-- `members.get(key, default)`. -/
def Fields.getD (members : Fields) (key : String) (default : PyValue) : PyValue :=
  (members.lookup key).getD default

/-! ## Reading after an assignment -/

theorem lookup_put_of_ne {fields : Fields} {key other : String} {value : PyValue}
    (h : key ≠ other) : (Dict.put other value fields).lookup key = fields.lookup key := by
  induction fields with
  | nil => rw [Dict.put, List.lookup_cons, beq_eq_false_iff_ne.mpr h]
  | cons member rest ih =>
    obtain ⟨k, v⟩ := member
    rw [Dict.put]
    split
    · next hk =>
      subst hk
      rw [List.lookup_cons, List.lookup_cons, beq_eq_false_iff_ne.mpr h]
    · rw [List.lookup_cons, List.lookup_cons, ih]

theorem lookup_put_self (key : String) (value : PyValue) (fields : Fields) :
    (Dict.put key value fields).lookup key = some value := by
  induction fields with
  | nil => rw [Dict.put, List.lookup_cons, beq_self_eq_true]
  | cons member rest ih =>
    obtain ⟨k, v⟩ := member
    rw [Dict.put]
    split
    · rw [List.lookup_cons, beq_self_eq_true]
    · next hk => rw [List.lookup_cons, beq_eq_false_iff_ne.mpr (Ne.symm hk), ih]

theorem PyValue.get_put_self (key : String) (value : PyValue) (fields : Fields) :
    PyValue.get (Dict.put key value fields) key = value := by
  rw [PyValue.get, lookup_put_self]
  rfl

theorem PyValue.get_put_of_ne {key other : String} {value : PyValue} {fields : Fields}
    (h : key ≠ other) : PyValue.get (Dict.put other value fields) key = PyValue.get fields key := by
  rw [PyValue.get, lookup_put_of_ne h, PyValue.get]

end AidnSpec.Base
