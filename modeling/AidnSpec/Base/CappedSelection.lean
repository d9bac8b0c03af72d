import Mathlib.Algebra.BigOperators.Group.Finset.Basic
import Mathlib.Algebra.Order.BigOperators.Group.Finset
import Mathlib.Data.List.Perm.Subperm

/-!
# Selections within group caps

Items are grouped by a key, and a selection takes a capped number of each group. A selection is as
long as the caps allow exactly when no further item has room.
-/

namespace AidnSpec.Base

open List

variable {α κ : Type} [DecidableEq κ] {key : α → κ} {cap : ℕ} {selected xs : List α}

/-- How many of the items have room when every group is capped. -/
def capacity (key : α → κ) (cap : ℕ) (xs : List α) : ℕ :=
  ∑ k ∈ (xs.map key).toFinset, min cap ((xs.map key).count k)

/-- Distinct items of a list, with a capped number of each group. -/
structure Within (key : α → κ) (cap : ℕ) (selected xs : List α) : Prop where
  nodup : selected.Nodup
  subset : selected ⊆ xs
  capped : ∀ k, (selected.map key).count k ≤ cap

/-- Every item that is not selected is in a full group. -/
def Maximal (key : α → κ) (cap : ℕ) (selected xs : List α) : Prop :=
  ∀ x ∈ xs, x ∉ selected → cap ≤ (selected.map key).count (key x)

theorem capacity_le_length (key : α → κ) (cap : ℕ) (xs : List α) :
    capacity key cap xs ≤ xs.length := by
  calc capacity key cap xs ≤ ∑ k ∈ (xs.map key).toFinset, (xs.map key).count k :=
        Finset.sum_le_sum fun _ _ => min_le_right _ _
    _ = (xs.map key).length := sum_toFinset_count_eq_length _
    _ = xs.length := length_map key

theorem capacity_perm {ys : List α} (h : xs.Perm ys) :
    capacity key cap xs = capacity key cap ys := by
  unfold capacity
  rw [toFinset_eq_of_perm _ _ (h.map key)]
  exact Finset.sum_congr rfl fun k _ => by rw [(h.map key).count_eq k]

theorem count_le_of_subset (key : α → κ) (nodup : selected.Nodup) (subset : selected ⊆ xs) (k : κ) :
    (selected.map key).count k ≤ (xs.map key).count k := by
  rw [count_eq_countP, count_eq_countP, countP_map, countP_map]
  exact (subperm_of_subset nodup subset).countP_le _

/-- A group is counted below its size exactly when an item of it is not selected. -/
theorem exists_of_count_lt (nodup : xs.Nodup) {k : κ}
    (hlt : (selected.map key).count k < (xs.map key).count k) :
    ∃ x ∈ xs, x ∉ selected ∧ key x = k := by
  by_contra hnone
  apply absurd hlt
  rw [not_lt, count_eq_countP, count_eq_countP, countP_map, countP_map,
    countP_eq_length_filter, countP_eq_length_filter]
  apply List.Subperm.length_le
  apply subperm_of_subset (nodup.filter _)
  intro x hx
  rw [mem_filter] at hx ⊢
  refine ⟨?_, hx.2⟩
  by_contra hout
  exact hnone ⟨x, hx.1, hout, beq_iff_eq.mp hx.2⟩

/-- As long as fewer items of a group are taken than listed, one is free. -/
theorem exists_free {taken listed : List α} {x : α} (nodup : xs.Nodup)
    (perm : (taken.map key).Perm (listed.map key)) (distinct : (x :: listed).Nodup)
    (subset : x :: listed ⊆ xs) : ∃ y ∈ xs, y ∉ taken ∧ key y = key x := by
  have hcount := count_le_of_subset key distinct subset (key x)
  rw [map_cons, count_cons_self, ← perm.count_eq] at hcount
  exact exists_of_count_lt nodup (Nat.lt_of_succ_le hcount)

namespace Within

variable (h : Within key cap selected xs)

include h

/-- The length of a selection is counted group by group. -/
theorem length_eq : selected.length = ∑ k ∈ (xs.map key).toFinset, (selected.map key).count k := by
  have hcount := Multiset.sum_count_eq_card (s := (xs.map key).toFinset)
    (m := (selected.map key : Multiset κ)) fun k hk =>
      mem_toFinset.mpr (map_subset key h.subset hk)
  simpa using hcount.symm

theorem count_le (k : κ) : (selected.map key).count k ≤ min cap ((xs.map key).count k) :=
  le_min (h.capped k) (count_le_of_subset key h.nodup h.subset k)

theorem length_le : selected.length ≤ capacity key cap xs := by
  rw [h.length_eq]
  exact Finset.sum_le_sum fun k _ => h.count_le k

theorem filter (p : α → Bool) : Within key cap (selected.filter p) (xs.filter p) where
  nodup := h.nodup.filter p
  subset := filter_subset p h.subset
  capped k := ((filter_sublist.map key).count_le k).trans (h.capped k)

/-- A selection fills the capacity exactly when it is maximal. -/
theorem length_eq_iff (nodup : xs.Nodup) :
    selected.length = capacity key cap xs ↔ Maximal key cap selected xs := by
  rw [h.length_eq, capacity, Finset.sum_eq_sum_iff_of_le fun k _ => h.count_le k]
  constructor
  · intro hfull x hx hout
    have hk := hfull (key x) (mem_toFinset.mpr (mem_map_of_mem hx))
    have hmore := count_le_of_subset key (nodup_cons.mpr ⟨hout, h.nodup⟩)
      (cons_subset.mpr ⟨hx, h.subset⟩) (key x)
    rw [map_cons, count_cons_self] at hmore
    omega
  · intro hmaximal k _
    apply le_antisymm (h.count_le k)
    by_cases hlt : (selected.map key).count k < (xs.map key).count k
    · obtain ⟨x, hx, hout, rfl⟩ := exists_of_count_lt nodup hlt
      exact (min_le_left _ _).trans (hmaximal x hx hout)
    · exact (min_le_right _ _).trans (not_lt.mp hlt)

/-- A selection of at most a number of items that is maximal below it has the smaller of the
number and the capacity. -/
theorem length_eq_min (nodup : xs.Nodup) {target : ℕ} (atMost : selected.length ≤ target)
    (maximal : selected.length < target → Maximal key cap selected xs) :
    selected.length = min target (capacity key cap xs) := by
  have hle := h.length_le
  by_cases hlt : selected.length < target
  · have hfull := (h.length_eq_iff nodup).mpr (maximal hlt)
    omega
  · omega

end Within

end AidnSpec.Base
