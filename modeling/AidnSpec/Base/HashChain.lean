import Mathlib.Data.List.Nodup
import Mathlib.Data.List.Range
import Mathlib.Tactic.Common

/-!
# Hash chains

Items that number themselves from one and name the hash of their predecessor; the first one names
none.
-/

namespace AidnSpec.Base

open List

universe u v

variable {α : Type u} {H : Type v} {number : α → ℕ} {previous : α → Option H} {hash : α → H}

/-- Items in the order of a chain. -/
structure Chained (number : α → ℕ) (previous : α → Option H) (hash : α → H) (items : List α) :
    Prop where
  numbered : items.map number = List.range' 1 items.length
  linked : items.map previous = (none :: items.map fun item => some (hash item)).take items.length

theorem chained_nil : Chained number previous hash [] := ⟨rfl, rfl⟩

/-- The item that a chain takes next has the next number and names the hash of the last item. -/
theorem Chained.append {items : List α} (h : Chained number previous hash items) {item : α}
    (hnumber : number item = items.length + 1)
    (hprevious : previous item = items.getLast?.map hash) :
    Chained number previous hash (items ++ [item]) where
  numbered := by
    rw [map_append, h.numbered, length_append, length_singleton,
      range'_1_concat, map_singleton, hnumber, Nat.add_comm 1]
  linked := by
    rcases eq_nil_or_concat items with rfl | ⟨init, last, rfl⟩
    · simpa using hprevious
    · have hinit : (init.map fun item => some (hash item)).length = init.length := by simp
      rw [concat_eq_append] at h hprevious ⊢
      rw [map_append, h.linked, map_singleton, hprevious]
      simp only [map_append, map_singleton, length_append, length_singleton,
        take_succ_cons, getLast?_append, getLast?_singleton, Option.some_or,
        Option.map_some, cons_append]
      rw [take_left' hinit, take_left' (by simp)]

/-- The items of a chain stand by their numbers. -/
theorem Chained.pairwise {items : List α} (h : Chained number previous hash items) :
    items.Pairwise fun a b => number a < number b := by
  have hrange := pairwise_lt_range' (s := 1) (n := items.length) 1
  rw [← h.numbered, pairwise_map] at hrange
  exact hrange

theorem Chained.mergeSort_eq {items : List α} (h : Chained number previous hash items) :
    (items.mergeSort fun a b => number a ≤ number b) = items := by
  apply mergeSort_of_pairwise
  apply h.pairwise.imp
  intro a b hab
  simpa using hab.le

/-- Sorting the items of a chain by their numbers restores it. -/
theorem Chained.mergeSort_of_perm {items shuffled : List α} (h : Chained number previous hash items)
    (hperm : shuffled.Perm items) :
    (shuffled.mergeSort fun a b => number a ≤ number b) = items := by
  have hnodup : (items.map number).Nodup := h.numbered ▸ nodup_range'
  have hsorted : (shuffled.mergeSort fun a b => number a ≤ number b).Pairwise
      fun a b => number a ≤ number b := by
    apply (pairwise_mergeSort _ _ shuffled).imp
    · intro a b hab
      simpa using hab
    · intro a b c hab hbc
      simp only [decide_eq_true_eq] at hab hbc ⊢
      omega
    · intro a b
      simpa using Nat.le_total (number a) (number b)
  apply ((mergeSort_perm _ _).trans hperm).eq_of_pairwise _ hsorted
    (h.pairwise.imp fun hab => Nat.le_of_lt hab)
  intro a b ha hb hab hba
  have hmem := hperm.mem_iff.mp ((mergeSort_perm _ _).mem_iff.mp ha)
  exact inj_on_of_nodup_map hnodup hmem hb (by omega)

/-- No item of a chain has a number above its length. -/
theorem Chained.number_le {items : List α} (h : Chained number previous hash items) {item : α}
    (hitem : item ∈ items) : number item ≤ items.length := by
  have hmem := mem_map_of_mem (f := number) hitem
  rw [h.numbered, mem_range'_1] at hmem
  omega

end AidnSpec.Base
