import Mathlib.Algebra.BigOperators.Group.List.Basic
import Mathlib.Algebra.Order.BigOperators.Group.List
import Mathlib.Data.List.Nodup
import Mathlib.Data.List.Perm.Subperm
import Mathlib.Order.Defs.LinearOrder
import Mathlib.Tactic.Abel
import Mathlib.Tactic.Common

/-!
# Insertion-ordered dictionaries

A Python `dict`: entries in insertion order, one per key. Assignment replaces the value of a present
key in place and appends a new key.
-/

namespace AidnSpec.Base

open List

universe u v w

/-- A dictionary lists every key once. -/
structure Dict (K : Type u) (V : Type v) where
  entries : List (K × V)
  nodup : (entries.map Prod.fst).Nodup

/-- Sorting by a key forgets the order of a list in which no key occurs twice. -/
theorem mergeSort_eq_of_perm {α : Type u} {K : Type v} [LinearOrder K] {key : α → K}
    {l l' : List α} (h : l.Perm l') (distinct : (l.map key).Nodup) :
    l.mergeSort (fun a b => key a ≤ key b) = l'.mergeSort fun a b => key a ≤ key b := by
  have sorted : ∀ m : List α, (m.mergeSort fun a b => key a ≤ key b).Pairwise
      fun a b => decide (key a ≤ key b) = true := by
    intro m
    apply pairwise_mergeSort
    · intro a b c hab hbc
      rw [decide_eq_true_eq] at hab hbc ⊢
      exact le_trans hab hbc
    · intro a b
      simpa using le_total (key a) (key b)
  apply List.Perm.eq_of_pairwise _ (sorted l) (sorted l')
  · exact ((mergeSort_perm l _).trans h).trans (mergeSort_perm l' _).symm
  · intro a b ha hb hab hba
    rw [mem_mergeSort] at ha hb
    have hkey : key a = key b := le_antisymm (by simpa using hab) (by simpa using hba)
    exact inj_on_of_nodup_map distinct ha (h.mem_iff.mpr hb) hkey

namespace Dict

variable {K : Type u} {V : Type v}

/-- Dictionaries with the same entries are equal. -/
@[ext] theorem ext {d e : Dict K V} (h : d.entries = e.entries) : d = e := by
  cases d
  cases e
  congr

instance [DecidableEq K] [DecidableEq V] : DecidableEq (Dict K V) := fun d e =>
  decidable_of_iff (d.entries = e.entries) ⟨ext, fun h => congrArg entries h⟩

/-- `{}`. -/
def empty : Dict K V := ⟨[], nodup_nil⟩

instance : Inhabited (Dict K V) := ⟨empty⟩

def keys (d : Dict K V) : List K := d.entries.map Prod.fst

def values (d : Dict K V) : List V := d.entries.map Prod.snd

variable {M : Type w} [AddCommMonoid M]

/-- Total weight of the entries. -/
def sum (f : K → V → M) (d : Dict K V) : M := (d.entries.map fun e => f e.1 e.2).sum

variable [DecidableEq K]

/-- First value of a key in an entry list. -/
def find (k : K) : List (K × V) → Option V
  | [] => none
  | (k', v) :: rest => if k' = k then some v else find k rest

/-- `d.get(k)`. -/
def get? (d : Dict K V) (k : K) : Option V := find k d.entries

/-- `k in d`. -/
def contains (d : Dict K V) (k : K) : Bool := (d.get? k).isSome

/-- Assignment on an entry list. -/
def put (k : K) (v : V) : List (K × V) → List (K × V)
  | [] => [(k, v)]
  | (k', w) :: rest => if k' = k then (k, v) :: rest else (k', w) :: put k v rest

variable {k j : K} {v : V} {l : List (K × V)} {d e : Dict K V}

private theorem mem_keys_put :
    j ∈ (put k v l).map Prod.fst ↔ j = k ∨ j ∈ l.map Prod.fst := by
  induction l with
  | nil => simp [put]
  | cons e l ih =>
    obtain ⟨k', w⟩ := e
    rw [put]
    split
    · next h => subst h; simp
    · simp only [map_cons, mem_cons, ih]
      tauto

private theorem nodup_put (h : (l.map Prod.fst).Nodup) :
    ((put k v l).map Prod.fst).Nodup := by
  induction l with
  | nil => simp [put]
  | cons e l ih =>
    obtain ⟨k', w⟩ := e
    rw [map_cons, nodup_cons] at h
    rw [put]
    split
    · next hk =>
      subst hk
      rw [map_cons, nodup_cons]
      exact h
    · next hk =>
      rw [map_cons, nodup_cons, mem_keys_put]
      refine ⟨?_, ih h.2⟩
      rintro (rfl | hm)
      · exact hk rfl
      · exact h.1 hm

/-- `d[k] = v`. -/
def set (d : Dict K V) (k : K) (v : V) : Dict K V := ⟨put k v d.entries, nodup_put d.nodup⟩

private theorem find_put :
    find j (put k v l) = if j = k then some v else find j l := by
  induction l with
  | nil =>
    simp only [put, find, eq_comm]
  | cons e l ih =>
    obtain ⟨k', w⟩ := e
    rw [put]
    by_cases hk : k' = k
    · subst hk
      rw [if_pos rfl, find, find]
      by_cases hj : k' = j
      · subst hj; simp
      · rw [if_neg hj, if_neg hj, if_neg (Ne.symm hj)]
    · rw [if_neg hk, find, find, ih]
      by_cases hj : k' = j
      · subst hj; simp [hk]
      · rw [if_neg hj, if_neg hj]

@[simp] theorem get?_empty (k : K) : (empty : Dict K V).get? k = none := rfl

/-- Reading after an assignment. -/
theorem get?_set (d : Dict K V) (k : K) (v : V) (j : K) :
    (d.set k v).get? j = if j = k then some v else d.get? j := find_put

@[simp] theorem get?_set_self (d : Dict K V) (k : K) (v : V) : (d.set k v).get? k = some v := by
  rw [get?_set, if_pos rfl]

/-- Reading another key after an assignment. -/
theorem get?_set_of_ne (d : Dict K V) (v : V) (h : j ≠ k) :
    (d.set k v).get? j = d.get? j := by
  rw [get?_set, if_neg h]

/-- `del d[k]`; an absent key changes nothing. -/
def erase (d : Dict K V) (k : K) : Dict K V :=
  ⟨d.entries.filter fun e => e.1 ≠ k, d.nodup.sublist (filter_sublist.map Prod.fst)⟩

/-- The entries in the order of a relation on keys: `dict(sorted(d.items()))`. -/
def sortKeys (le : K → K → Bool) (d : Dict K V) : Dict K V :=
  ⟨d.entries.mergeSort fun a b => le a.1 b.1,
    ((mergeSort_perm d.entries _).map Prod.fst).nodup_iff.mpr d.nodup⟩

/-- A key read back is a key of an entry. -/
theorem mem_entries_of_get? (h : d.get? k = some v) :
    (k, v) ∈ d.entries := by
  rw [get?] at h
  revert h
  induction d.entries with
  | nil => intro h; cases h
  | cons e l ih =>
    obtain ⟨k', w⟩ := e
    intro h
    rw [find] at h
    split at h
    · next hk =>
      subst hk
      cases h
      exact mem_cons_self
    · exact mem_cons_of_mem _ (ih h)

private theorem find_of_mem (hl : (l.map Prod.fst).Nodup) (h : (k, v) ∈ l) : find k l = some v := by
  induction l with
  | nil => cases h
  | cons e l ih =>
    obtain ⟨k', w⟩ := e
    rw [map_cons, nodup_cons] at hl
    rw [find]
    rcases mem_cons.mp h with h | h
    · cases h
      rw [if_pos rfl]
    · have hne : k' ≠ k := by
        rintro rfl
        exact hl.1 (mem_map.mpr ⟨_, h, rfl⟩)
      rw [if_neg hne, ih hl.2 h]

/-- A dictionary reads back exactly its entries. -/
theorem get?_eq_some_iff : d.get? k = some v ↔ (k, v) ∈ d.entries :=
  ⟨mem_entries_of_get?, find_of_mem d.nodup⟩

theorem mem_values : v ∈ d.values ↔ ∃ k, d.get? k = some v := by
  simp only [values, mem_map, get?_eq_some_iff, Prod.exists, exists_eq_right]

theorem not_contains : (!d.contains k) = true ↔ d.get? k = none := by
  simp [contains]

theorem mem_keys : k ∈ d.keys ↔ (d.get? k).isSome = true := by
  simp only [keys, mem_map, Prod.exists, exists_and_right, exists_eq_right,
    Option.isSome_iff_exists, get?_eq_some_iff]

/-- Assigning a new key adds its value. -/
theorem mem_values_set (h : d.get? k = none) (v w : V) :
    w ∈ (d.set k v).values ↔ w = v ∨ w ∈ d.values := by
  simp only [mem_values, get?_set]
  constructor
  · rintro ⟨j, hj⟩
    split at hj
    · cases hj
      exact .inl rfl
    · exact .inr ⟨j, hj⟩
  · rintro (rfl | ⟨j, hj⟩)
    · exact ⟨k, if_pos rfl⟩
    · refine ⟨j, ?_⟩
      rw [if_neg, hj]
      rintro rfl
      rw [h] at hj
      cases hj

/-- A new value comes last. -/
theorem values_set (h : d.get? k = none) (v : V) :
    (d.set k v).values = d.values ++ [v] := by
  unfold get? at h
  show (put k v d.entries).map Prod.snd = d.entries.map Prod.snd ++ [v]
  revert h
  induction d.entries with
  | nil => exact fun _ => rfl
  | cons e l ih =>
    obtain ⟨k', w⟩ := e
    rw [find, put]
    by_cases hk : k' = k
    · simp [hk]
    · simpa [hk] using ih

/-- A new key comes last. -/
theorem keys_set (h : d.get? k = none) (v : V) :
    (d.set k v).keys = d.keys ++ [k] := by
  unfold get? at h
  show (put k v d.entries).map Prod.fst = d.entries.map Prod.fst ++ [k]
  revert h
  induction d.entries with
  | nil => exact fun _ => rfl
  | cons e l ih =>
    obtain ⟨k', w⟩ := e
    rw [find, put]
    by_cases hk : k' = k
    · simp [hk]
    · simpa [hk] using ih

/-- Reading after a deletion. -/
theorem get?_erase (d : Dict K V) (k j : K) :
    (d.erase k).get? j = if j = k then none else d.get? j := by
  ext v
  by_cases h : j = k
  · subst h
    simp [get?_eq_some_iff, erase]
  · rw [if_neg h, get?_eq_some_iff, get?_eq_some_iff, erase, mem_filter]
    simp [h]

/-- Deleting an absent key changes nothing. -/
theorem erase_of_none (h : d.get? k = none) : d.erase k = d := by
  ext1
  refine filter_eq_self.mpr fun e he => ?_
  have hne : e.1 ≠ k := by
    rintro rfl
    rw [get?_eq_some_iff.mpr he] at h
    cases h
  simpa using hne

/-- Sorting changes no value. -/
@[simp] theorem get?_sortKeys (le : K → K → Bool) (d : Dict K V) (k : K) :
    (d.sortKeys le).get? k = d.get? k := by
  ext v
  rw [get?_eq_some_iff, get?_eq_some_iff, sortKeys, mem_mergeSort]

/-- Dictionaries that read the same have the same entries, in some order. -/
theorem perm_of_get? (h : ∀ k, d.get? k = e.get? k) :
    d.entries.Perm e.entries := by
  apply (perm_ext_iff_of_nodup d.nodup.of_map e.nodup.of_map).mpr
  rintro ⟨k, v⟩
  rw [← get?_eq_some_iff, ← get?_eq_some_iff, h]

/-- The same keys with changed values. -/
def mapValues {W : Type w} (f : V → W) (d : Dict K V) : Dict K W :=
  ⟨d.entries.map fun e => (e.1, f e.2), by
    rw [map_map]
    exact d.nodup⟩

theorem get?_mapValues {W : Type w} (f : V → W) (d : Dict K V) (k : K) :
    (d.mapValues f).get? k = (d.get? k).map f := by
  simp only [get?, mapValues]
  induction d.entries with
  | nil => rfl
  | cons e l ih =>
    rw [map_cons, find, find]
    split
    · rfl
    · exact ih

/-- `{k: v for k, v in d.items() if keep(v)}`. -/
def filterValues (keep : V → Bool) (d : Dict K V) : Dict K V :=
  ⟨d.entries.filter fun e => keep e.2, d.nodup.sublist (filter_sublist.map Prod.fst)⟩

theorem get?_filterValues (keep : V → Bool) (d : Dict K V) (k : K) :
    (d.filterValues keep).get? k = (d.get? k).filter keep := by
  ext v
  rw [get?_eq_some_iff, Option.filter_eq_some_iff, get?_eq_some_iff]
  simp [filterValues]

/-- Values that agree key by key agree as lists, up to order. -/
theorem values_perm {W : Type w} {f : V → W} (h : ∀ k, (d.get? k).map f = (e.get? k).map f) :
    (d.values.map f).Perm (e.values.map f) := by
  have hperm : (d.mapValues f).entries.Perm (e.mapValues f).entries :=
    perm_of_get? fun k => by rw [get?_mapValues, get?_mapValues, h]
  have hmap := hperm.map Prod.snd
  simpa only [mapValues, values, map_map, Function.comp_def] using hmap

/-- Weight of one key; absent keys weigh nothing. -/
def weight (f : K → V → M) (d : Dict K V) (k : K) : M := (d.get? k).elim 0 (f k)

theorem weight_of_get? {f : K → V → M} (h : d.get? k = some v) : d.weight f k = f k v := by
  rw [weight, h]
  rfl

theorem weight_of_get?_none {f : K → V → M} (h : d.get? k = none) : d.weight f k = 0 := by
  rw [weight, h]
  rfl

/-- An assignment exchanges the weight of its key. -/
theorem sum_set (f : K → V → M) (d : Dict K V) (k : K) (v : V) :
    (d.set k v).sum f + d.weight f k = d.sum f + f k v := by
  simp only [sum, weight, set, get?]
  induction d.entries with
  | nil => simp [put, find]
  | cons e l ih =>
    obtain ⟨k', w⟩ := e
    rw [put, find]
    by_cases hk : k' = k
    · subst hk
      simp only [if_pos, map_cons, sum_cons, Option.elim_some]
      abel
    · simp only [if_neg hk, map_cons, sum_cons]
      rw [add_assoc, ih, add_assoc]

/-- A new key adds its weight. -/
theorem sum_set_of_none (f : K → V → M) (h : d.get? k = none) (v : V) :
    (d.set k v).sum f = d.sum f + f k v := by
  rw [← sum_set f d k v, weight_of_get?_none h, add_zero]

omit [DecidableEq K] in
theorem sum_add (f g : K → V → M) (d : Dict K V) :
    d.sum (fun k v => f k v + g k v) = d.sum f + d.sum g := sum_map_add

omit [DecidableEq K] in
theorem sum_eq_zero {f : K → V → M} (h : ∀ k, ∀ v ∈ d.values, f k v = 0) :
    d.sum f = 0 := by
  unfold sum
  apply List.sum_eq_zero
  intro x hx
  obtain ⟨e, he, rfl⟩ := mem_map.mp hx
  exact h e.1 e.2 (mem_map_of_mem he)

theorem sum_congr {f g : K → V → M} (h : ∀ k v, d.get? k = some v → f k v = g k v) :
    d.sum f = d.sum g := by
  unfold sum
  congr 1
  exact map_congr_left fun e he => h e.1 e.2 (get?_eq_some_iff.mpr he)

theorem sum_le_sum {N : Type w} [AddCommMonoid N] [PartialOrder N] [IsOrderedAddMonoid N]
    {f g : K → V → N} (h : ∀ k v, d.get? k = some v → f k v ≤ g k v) :
    d.sum f ≤ d.sum g :=
  List.sum_le_sum fun e he => h e.1 e.2 (get?_eq_some_iff.mpr he)

/-- A part of a dictionary has at most its total, when no summand is negative. -/
theorem sum_le_of_sub {N : Type w} [AddCommMonoid N] [PartialOrder N] [IsOrderedAddMonoid N]
    {f : K → V → N} (hf : ∀ k v, e.get? k = some v → 0 ≤ f k v)
    (hsub : ∀ k v, d.get? k = some v → e.get? k = some v) : d.sum f ≤ e.sum f := by
  have hmem : ∀ x ∈ d.entries, x ∈ e.entries := fun x hx =>
    get?_eq_some_iff.mp (hsub x.1 x.2 (get?_eq_some_iff.mpr hx))
  obtain ⟨l, hperm, hl⟩ := d.nodup.of_map.subperm hmem
  unfold sum
  rw [← (hperm.map fun x => f x.1 x.2).sum_eq]
  refine (hl.map fun x => f x.1 x.2).sum_le_sum fun y hy => ?_
  obtain ⟨x, hx, rfl⟩ := mem_map.mp hy
  exact hf x.1 x.2 (get?_eq_some_iff.mpr hx)

omit [DecidableEq K] in
theorem sum_nonneg {N : Type w} [AddCommMonoid N] [PartialOrder N] [IsOrderedAddMonoid N]
    {f : K → V → N} (h : ∀ k v, 0 ≤ f k v) : 0 ≤ d.sum f := by
  unfold sum
  apply List.sum_nonneg
  intro x hx
  obtain ⟨e, -, rfl⟩ := mem_map.mp hx
  exact h e.1 e.2

/-- The total is the total of the weights of the keys. -/
theorem sum_eq_sum_keys (f : K → V → M) (d : Dict K V) :
    d.sum f = (d.keys.map (d.weight f)).sum := by
  rw [sum, keys, map_map]
  congr 1
  refine map_congr_left fun e he => ?_
  exact (weight_of_get? (get?_eq_some_iff.mpr he)).symm

/-- Different keys weigh at most the total. -/
theorem sum_weight_le {N : Type w} [AddCommMonoid N] [PartialOrder N] [IsOrderedAddMonoid N]
    {f : K → V → N} (hf : ∀ k v, 0 ≤ f k v) {ks : List K} (hks : ks.Nodup)
    (hmem : ∀ k ∈ ks, k ∈ d.keys) : (ks.map (d.weight f)).sum ≤ d.sum f := by
  rw [sum_eq_sum_keys]
  obtain ⟨js, hperm, hsub⟩ := hks.subperm hmem
  rw [← (hperm.map (d.weight f)).sum_eq]
  refine (hsub.map (d.weight f)).sum_le_sum fun x hx => ?_
  obtain ⟨k, -, rfl⟩ := mem_map.mp hx
  unfold weight
  cases d.get? k with
  | none => exact le_refl 0
  | some v => exact hf k v

/-- One key of a duplicate-free list selects one summand. -/
private theorem sum_select {J : Type u} [DecidableEq J] {js : List J} (hjs : js.Nodup) {a : J}
    (ha : a ∈ js) (c : M) : (js.map fun j => if a = j then c else 0).sum = c := by
  induction js with
  | nil => cases ha
  | cons j js ih =>
    rw [nodup_cons] at hjs
    rw [map_cons, sum_cons]
    by_cases h : a = j
    · subst h
      have hzero : (js.map fun j => if a = j then c else 0).sum = 0 := by
        apply List.sum_eq_zero
        intro x hx
        obtain ⟨j, hj, rfl⟩ := mem_map.mp hx
        refine if_neg ?_
        rintro rfl
        exact hjs.1 hj
      rw [if_pos rfl, hzero, add_zero]
    · rw [if_neg h, zero_add]
      exact ih hjs.2 ((mem_cons.mp ha).resolve_left h)

omit [DecidableEq K] in
/-- The total, grouped by a key of another dictionary. -/
theorem sum_fibers {J W : Type} [DecidableEq J] (f : K → V → M) (d : Dict K V) (e : Dict J W)
    (group : V → J) (hgroup : ∀ v ∈ d.values, group v ∈ e.keys) :
    e.sum (fun j _ => d.sum fun k v => if group v = j then f k v else 0) = d.sum f := by
  unfold sum
  have hmem : ∀ x ∈ d.entries, group x.2 ∈ e.keys := fun x hx =>
    hgroup x.2 (mem_map_of_mem hx)
  revert hmem
  -- the induction is on the entries that are grouped
  induction d.entries with
  | nil =>
    intro _
    apply List.sum_eq_zero
    intro x hx
    obtain ⟨j, -, rfl⟩ := mem_map.mp hx
    rfl
  | cons x l ih =>
    intro hmem
    simp only [map_cons, sum_cons, sum_map_add]
    rw [ih fun y hy => hmem y (mem_cons_of_mem x hy)]
    have hone := sum_select e.nodup (hmem x (mem_cons_self ..)) (f x.1 x.2)
    rw [map_map] at hone
    exact congrArg (· + _) hone

end Dict

end AidnSpec.Base
