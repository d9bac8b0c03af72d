import Mathlib.Logic.Function.Basic
import Mathlib.Data.List.Nodup

/-!
# Maps under point updates

A partial map after a list of point updates, each of which sets or deletes one key. Updates that
name no key twice may come in any order.
-/

namespace AidnSpec.Base

variable {κ ν : Type} [DecidableEq κ]

/-- A partial map after some updates, one after the other. -/
def overlay (m : κ → Option ν) (us : List (κ × Option ν)) : κ → Option ν :=
  us.foldl (fun m u => Function.update m u.1 u.2) m

theorem overlay_append (m : κ → Option ν) (us vs : List (κ × Option ν)) :
    overlay m (us ++ vs) = overlay (overlay m us) vs := by
  rw [overlay, List.foldl_append]
  rfl

/-- A key that no update names keeps its value. -/
theorem overlay_of_notMem {m : κ → Option ν} {us : List (κ × Option ν)} {k : κ}
    (h : k ∉ us.map Prod.fst) : overlay m us k = m k := by
  induction us generalizing m with
  | nil => rfl
  | cons u us ih =>
    rw [List.map_cons, List.mem_cons, not_or] at h
    show overlay (Function.update m u.1 u.2) us k = m k
    rw [ih h.2, Function.update_of_ne h.1]

/-- A key that one update names has the value of the update. -/
theorem overlay_of_mem {m : κ → Option ν} {us : List (κ × Option ν)} {u : κ × Option ν}
    (distinct : (us.map Prod.fst).Nodup) (h : u ∈ us) : overlay m us u.1 = u.2 := by
  induction us generalizing m with
  | nil => cases h
  | cons v us ih =>
    rw [List.map_cons, List.nodup_cons] at distinct
    show overlay (Function.update m v.1 v.2) us u.1 = u.2
    rcases List.mem_cons.mp h with rfl | h
    · rw [overlay_of_notMem distinct.1, Function.update_self]
    · exact ih distinct.2 h

end AidnSpec.Base
