import AidnSpec.Base.Schema

/-!
# Postconditions of calls that may raise

What holds of every answer of a call, and of every exception, with one rule for each way to build
it.
-/

namespace AidnSpec.Base

variable {ε α β : Type} {x : Except ε α} {f : α → Except ε β} {g : α → β} {a : α} {e : ε}
  {P : β → Prop} {Q : α → Prop}

/-- Every answer of the call has the property. -/
def Ensures (x : Except ε α) (Q : α → Prop) : Prop := ∀ a, x = .ok a → Q a

theorem ensures_pure (h : Q a) : Ensures (pure a : Except ε α) Q := by
  rintro b ⟨⟩
  exact h

theorem ensures_error : Ensures (.error e) Q := nofun

/-- The rest of a call may use what its first part answered. -/
theorem ensures_bind (h : ∀ a, x = .ok a → Ensures (f a) P) : Ensures (x >>= f) P := by
  intro b hb
  obtain ⟨a, ha, hrest⟩ := bind_eq_ok.mp hb
  exact h a ha b hrest

/-- The rest of a call does not need its first part. -/
theorem ensures_then (h : ∀ a, Ensures (f a) P) : Ensures (x >>= f) P :=
  ensures_bind fun a _ => h a

theorem Ensures.map (h : Ensures x Q) (himp : ∀ a, Q a → P (g a)) : Ensures (g <$> x) P := by
  intro b hb
  cases hx : x with
  | error e =>
    rw [hx] at hb
    cases hb
  | ok a =>
    rw [hx] at hb
    cases hb
    exact himp a (h a hx)

/-! ## Exceptions -/

section Exceptions

variable {ε α β : Type} {P : ε → Prop}

/-- Every exception of a call satisfies a predicate. -/
def Raises (P : ε → Prop) (x : Except ε α) : Prop := ∀ e, x = .error e → P e

theorem raises_ok (v : α) : Raises P (.ok v) := by
  intro e h
  cases h

theorem raises_error {e : ε} (h : P e) : Raises P (.error e : Except ε α) := by
  intro e' heq
  cases heq
  exact h

variable {f : α → Except ε β} {xs : List α}

theorem Raises.bind {x : Except ε α} (hx : Raises P x) (hf : ∀ v, x = .ok v → Raises P (f v)) :
    Raises P (x >>= f) := by
  cases x with
  | error e => exact raises_error (hx e rfl)
  | ok v => exact hf v rfl

theorem raises_mapM (h : ∀ x ∈ xs, Raises P (f x)) : Raises P (xs.mapM f) := by
  induction xs with
  | nil => exact raises_ok []
  | cons x xs ih =>
    rw [List.mapM_cons]
    apply (h x List.mem_cons_self).bind
    intro y _
    apply (ih fun z hz => h z (List.mem_cons_of_mem x hz)).bind
    intro ys _
    exact raises_ok (y :: ys)

theorem raises_foldlM {f : β → α → Except ε β} (h : ∀ x ∈ xs, ∀ b, Raises P (f b x)) (b : β) :
    Raises P (xs.foldlM f b) := by
  induction xs generalizing b with
  | nil => exact raises_ok b
  | cons x xs ih =>
    rw [List.foldlM_cons]
    apply (h x List.mem_cons_self b).bind
    intro b' _
    exact ih (fun z hz => h z (List.mem_cons_of_mem x hz)) b'

end Exceptions

/-- The call raises no exception but `ValueError`. -/
abbrev RaisesValue {α : Type} (x : Except PyError α) : Prop := Raises (·.kind = .value) x

theorem raises_require {condition : Bool} {message : String} :
    RaisesValue (require condition message) := by
  cases condition with
  | true => exact raises_ok ()
  | false => exact raises_error rfl

theorem raises_requireTexts {fields : Fields} {complaint : String} (keys : List String) :
    RaisesValue (requireTexts fields complaint keys) := by
  induction keys with
  | nil => exact raises_ok ()
  | cons key keys ih => exact raises_require.bind fun _ _ => ih

theorem raises_requireInt {fields : Fields} {key complaint : String} {inRange : Int → Bool} :
    RaisesValue (requireInt fields key inRange complaint) := by
  unfold requireInt
  split
  · split
    · exact raises_ok _
    · exact raises_error rfl
  · exact raises_error rfl

end AidnSpec.Base
