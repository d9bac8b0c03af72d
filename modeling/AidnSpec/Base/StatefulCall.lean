import AidnSpec.Base.PyValue

/-!
# Calls that keep the state when they raise

A method of an object that is not transactional: what it has assigned before it raises stays
assigned. A relation between the states before and after a call is kept by a sequence when its parts
keep it.
-/

namespace AidnSpec.Base

/-- A call on a state, which returns or raises and leaves a state in both cases. -/
abbrev StatefulCall (σ α : Type) := ExceptT PyError (StateM σ) α

namespace StatefulCall

variable {σ α β : Type}

def outcome (x : StatefulCall σ α) (s : σ) : Except PyError α × σ := x s

def after (x : StatefulCall σ α) (s : σ) : σ := (x.outcome s).2

/-- A computation that raises without a state. -/
def lift (x : Except PyError α) : StatefulCall σ α := fun s => (x, s)

@[simp] theorem outcome_pure (a : α) (s : σ) :
    outcome (pure a : StatefulCall σ α) s = (.ok a, s) := rfl

@[simp] theorem outcome_get (s : σ) : outcome (get : StatefulCall σ σ) s = (.ok s, s) := rfl

@[simp] theorem outcome_modify (f : σ → σ) (s : σ) :
    outcome (modify f : StatefulCall σ PUnit) s = (.ok ⟨⟩, f s) := rfl

@[simp] theorem outcome_lift (x : Except PyError α) (s : σ) : outcome (lift x) s = (x, s) := rfl

/-- A sequence stops where its first part raises. -/
theorem outcome_bind (x : StatefulCall σ α) (f : α → StatefulCall σ β) (s : σ) :
    outcome (x >>= f) s =
      match x.outcome s with
      | (.ok a, t) => (f a).outcome t
      | (.error e, t) => (.error e, t) := by
  show (ExceptT.bindCont f (x s).1) (x s).2 = _
  unfold outcome
  cases x s with
  | mk answer t => cases answer <;> rfl

variable {x : StatefulCall σ α} {f : α → StatefulCall σ β} {s t : σ} {a : α} {e : PyError}

theorem outcome_bind_ok (h : x.outcome s = (.ok a, t)) : outcome (x >>= f) s = (f a).outcome t := by
  rw [outcome_bind, h]

theorem outcome_bind_error (h : x.outcome s = (.error e, t)) :
    outcome (x >>= f) s = (.error e, t) := by
  rw [outcome_bind, h]

theorem after_bind_ok (h : x.outcome s = (.ok a, t)) : after (x >>= f) s = (f a).after t := by
  rw [after, outcome_bind_ok h, after]

theorem after_bind_error (h : x.outcome s = (.error e, t)) : after (x >>= f) s = t := by
  rw [after, outcome_bind_error h]

/-- What is returned does not matter to the state. -/
theorem after_bind_pure (x : StatefulCall σ α) (f : α → β) (s : σ) :
    after (x >>= fun a => pure (f a)) s = x.after s := by
  rw [after, outcome_bind, after]
  cases x.outcome s with
  | mk answer t => cases answer <;> rfl

/-! ## Relations between the states before and after -/

/-- Whatever a call answers, the states before and after are related. -/
def Keeps (R : σ → σ → Prop) (x : StatefulCall σ α) : Prop := ∀ s, R s (x.after s)

section Keeps

variable {R : σ → σ → Prop}

variable {x : StatefulCall σ α}

theorem Keeps.mono {S : σ → σ → Prop} (h : Keeps R x) (hsub : ∀ s t, R s t → S s t) :
    Keeps S x := fun s => hsub s _ (h s)

theorem keeps_pure [Std.Refl R] (a : α) : Keeps R (pure a : StatefulCall σ α) :=
  fun s => Std.Refl.refl s

theorem keeps_lift [Std.Refl R] (x : Except PyError α) : Keeps R ((lift x : StatefulCall σ α)) :=
  fun s => Std.Refl.refl s

theorem keeps_get [Std.Refl R] : Keeps R (get : StatefulCall σ σ) := fun s => Std.Refl.refl s

theorem keeps_modify {f : σ → σ} (h : ∀ s, R s (f s)) :
    Keeps R (modify f : StatefulCall σ PUnit) := h

/-- A sequence keeps what its parts keep. -/
theorem keeps_bind [IsTrans σ R] {f : α → StatefulCall σ β} (hx : Keeps R x)
    (hf : ∀ a, Keeps R (f a)) : Keeps R (x >>= f) := by
  intro s
  have hfirst := hx s
  unfold after at hfirst ⊢
  rw [outcome_bind]
  cases h : x.outcome s with
  | mk answer t =>
    rw [h] at hfirst
    cases answer with
    | ok a => exact IsTrans.trans _ _ _ hfirst (hf a t)
    | error e => exact hfirst

end Keeps

end StatefulCall

end AidnSpec.Base
