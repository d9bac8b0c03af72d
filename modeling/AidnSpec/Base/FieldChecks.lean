import AidnSpec.Base.PyValue

/-!
# Bounds of declared fields

A pydantic model checks the bounds of its declared fields before its own validator runs; what it
raises names the field.
-/

namespace AidnSpec.Base

/-- The bound of a declared field. -/
structure FieldCheck where
  field : String
  met : Bool

namespace FieldCheck

/-- `Field(ge=bound)`. -/
def atLeast (bound : Int) (field : String) (n : Int) : FieldCheck := ⟨field, bound ≤ n⟩

/-- `Field(min_length=1)` of a text. -/
def nonEmpty (field text : String) : FieldCheck := ⟨field, !text.isEmpty⟩

@[simp] theorem met_atLeast {bound n : Int} {field : String} :
    (atLeast bound field n).met = true ↔ bound ≤ n := decide_eq_true_iff

@[simp] theorem met_nonEmpty {field text : String} :
    (nonEmpty field text).met = true ↔ text.isEmpty = false := by
  simp [nonEmpty]

end FieldCheck

/-- Raise for the first field that is out of its bound. -/
def checkFields (checks : List FieldCheck) : Except PyError Unit :=
  match checks.find? fun check => !check.met with
  | none => .ok ()
  | some check => raiseValue check.field

@[simp] theorem checkFields_eq_ok {checks : List FieldCheck} {u : Unit} :
    checkFields checks = .ok u ↔ ∀ check ∈ checks, check.met = true := by
  unfold checkFields
  cases h : checks.find? fun check => !check.met with
  | none => simpa using h
  | some check =>
    have hmem := List.mem_of_find?_eq_some h
    have hmet : check.met = false := by simpa using List.find?_some h
    simp only [raiseValue, reduceCtorEq, false_iff, not_forall]
    exact ⟨check, hmem, by simp [hmet]⟩

end AidnSpec.Base
