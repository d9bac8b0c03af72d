import Mathlib.Data.List.Basic
import Mathlib.Tactic.Common
import Mathlib.Tactic.Tauto

/-!
# Runs of a machine

A machine answers a call by its next state; what is not determined by the state (readings of a
clock, answers of a partner, failures) is part of the call. A run is careful when every call meets a
condition in the state before it.
-/

namespace AidnSpec.Base

universe u v

variable {σ : Type u} {κ : Type v} {step : σ → κ → σ}

def run (step : σ → κ → σ) (s : σ) (calls : List κ) : σ := calls.foldl step s

@[simp] theorem run_nil (s : σ) : run step s [] = s := rfl

@[simp] theorem run_cons (s : σ) (c : κ) (calls : List κ) :
    run step s (c :: calls) = run step (step s c) calls := rfl

/-- Every call of a run meets the condition in the state before it. -/
def Careful (step : σ → κ → σ) (ok : σ → κ → Prop) : σ → List κ → Prop
  | _, [] => True
  | s, c :: calls => ok s c ∧ Careful step ok (step s c) calls

instance decidableCareful {ok : σ → κ → Prop} [∀ s c, Decidable (ok s c)] :
    ∀ (s : σ) (calls : List κ), Decidable (Careful step ok s calls)
  | _, [] => inferInstanceAs (Decidable True)
  | s, c :: calls =>
    have : Decidable (Careful step ok (step s c) calls) := decidableCareful (step s c) calls
    inferInstanceAs (Decidable (_ ∧ _))

variable {ok : σ → κ → Prop}

variable {ok' : σ → κ → Prop} {s : σ} {calls : List κ} {I : σ → Prop}

theorem careful_and :
    Careful step (fun s c => ok s c ∧ ok' s c) s calls ↔
      Careful step ok s calls ∧ Careful step ok' s calls := by
  induction calls generalizing s with
  | nil => simp only [Careful, and_self]
  | cons c calls ih =>
    simp only [Careful, ih]
    tauto

theorem careful_append {later : List κ} :
    Careful step ok s (calls ++ later) ↔
      Careful step ok s calls ∧ Careful step ok (run step s calls) later := by
  induction calls generalizing s with
  | nil => simp [Careful]
  | cons c calls ih => simp only [List.cons_append, Careful, ih, run_cons, and_assoc]

/-- What one careful step keeps holds after every careful run. -/
theorem run_keeps (hstep : ∀ s c, I s → ok s c → I (step s c)) (h : I s)
    (hcalls : Careful step ok s calls) : I (run step s calls) := by
  induction calls generalizing s with
  | nil => exact h
  | cons c calls ih =>
    rw [run_cons]
    apply ih (hstep s c h hcalls.1) hcalls.2

/-- A condition that gives another one under what every careful step keeps. -/
theorem careful_of_keeps (hstep : ∀ s c, I s → ok s c → I (step s c) ∧ ok' s c) (h : I s)
    (hcalls : Careful step ok s calls) : Careful step ok' s calls := by
  induction calls generalizing s with
  | nil => trivial
  | cons c calls ih =>
    have hfirst := hstep s c h hcalls.1
    exact ⟨hfirst.2, ih hfirst.1 hcalls.2⟩

/-- What every step keeps holds after every run. -/
theorem run_invariant (hstep : ∀ s c, I s → I (step s c)) (calls : List κ) (h : I s) :
    I (run step s calls) := by
  induction calls generalizing s with
  | nil => exact h
  | cons c calls ih =>
    rw [run_cons]
    apply ih (hstep s c h)

end AidnSpec.Base
