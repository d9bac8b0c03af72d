import Mathlib.Data.Nat.Size
import Mathlib.Tactic.Common

/-!
# Binary hash trees over lists

A tree is given by its leaf and inner hashes and by the place where a list of two or more leaves is
split. Audit paths are ordered from the leaf to the root. A verifier recombines a path from its root
end and may use a split function of its own: completeness needs the two to agree on the sizes the
path visits, and the length of an accepted path is fixed by the verifier's splits alone.
-/

namespace AidnSpec.Base

open List

universe u v

/-- Hash functions of a tree and the size of its left part. -/
structure HashTree (α : Type u) (H : Type v) where
  empty : H
  leaf : α → H
  inner : H → H → H
  split : Nat → Nat
  split_pos : ∀ n, 2 ≤ n → 0 < split n
  split_lt : ∀ n, 2 ≤ n → split n < n

namespace HashTree

variable {α : Type u} {H : Type v} (T : HashTree α H)

def root (xs : List α) : H :=
  match xs with
  | [] => T.empty
  | [x] => T.leaf x
  | x :: y :: rest =>
    T.inner (root ((x :: y :: rest).take (T.split (rest.length + 2))))
      (root ((x :: y :: rest).drop (T.split (rest.length + 2))))
termination_by xs.length
decreasing_by
  · have h := T.split_lt (rest.length + 2) (by omega)
    simp only [length_take, length_cons]; omega
  · have h := T.split_pos (rest.length + 2) (by omega)
    simp only [length_drop, length_cons]; omega

/-- Sibling hashes of leaf `i`, from the leaf to the root. -/
def auditPath (xs : List α) (i : Nat) : List H :=
  match xs with
  | [] => []
  | [_] => []
  | x :: y :: rest =>
    let k := T.split (rest.length + 2)
    if i < k then
      auditPath ((x :: y :: rest).take k) i ++ [T.root ((x :: y :: rest).drop k)]
    else auditPath ((x :: y :: rest).drop k) (i - k) ++ [T.root ((x :: y :: rest).take k)]
termination_by xs.length
decreasing_by
  · have h := T.split_lt (rest.length + 2) (by omega)
    simp only [length_take, length_cons]; omega
  · have h := T.split_pos (rest.length + 2) (by omega)
    simp only [length_drop, length_cons]; omega

/-- A list of one leaf is its leaf hash. -/
theorem root_singleton (x : α) : T.root [x] = T.leaf x := by rw [root]

variable {xs : List α} {i total index : Nat} {split : Nat → Nat} {leafHash : H} {path : List H}

/-- A longer list is split once. -/
theorem root_of_two_le (h : 2 ≤ xs.length) :
    T.root xs =
      T.inner (T.root (xs.take (T.split xs.length))) (T.root (xs.drop (T.split xs.length))) := by
  match xs, h with
  | x :: y :: rest, _ => rw [root]; rfl

/-- A single leaf has no siblings. -/
theorem auditPath_singleton (x : α) (i : Nat) : T.auditPath [x] i = [] := by rw [auditPath]

/-- The path of a leaf in the left part ends with the root of the right part. -/
theorem auditPath_left (h : 2 ≤ xs.length) (hi : i < T.split xs.length) :
    T.auditPath xs i =
      T.auditPath (xs.take (T.split xs.length)) i ++ [T.root (xs.drop (T.split xs.length))] := by
  match xs, h with
  | x :: y :: rest, _ => rw [auditPath]; exact if_pos hi

/-- The path of a leaf in the right part ends with the root of the left part. -/
theorem auditPath_right (h : 2 ≤ xs.length) (hi : T.split xs.length ≤ i) :
    T.auditPath xs i = T.auditPath (xs.drop (T.split xs.length)) (i - T.split xs.length) ++
      [T.root (xs.take (T.split xs.length))] := by
  match xs, h with
  | x :: y :: rest, _ => rw [auditPath]; exact if_neg (Nat.not_lt.mpr hi)

/-- Every sibling on an audit path is the root of some sublist. -/
theorem exists_root_of_mem_auditPath {h : H} (hm : h ∈ T.auditPath xs i) : ∃ ys, h = T.root ys := by
  induction hn : xs.length using Nat.strongRecOn generalizing xs i with
  | ind n ih =>
    subst hn
    by_cases h2 : 2 ≤ xs.length
    · have hpos := T.split_pos _ h2
      have hlt := T.split_lt _ h2
      by_cases hc : i < T.split xs.length
      · rw [T.auditPath_left h2 hc, mem_append, mem_singleton] at hm
        rcases hm with hm | rfl
        · exact ih _ (by rw [length_take]; omega) hm rfl
        · exact ⟨_, rfl⟩
      · rw [T.auditPath_right h2 (Nat.not_lt.mp hc), mem_append, mem_singleton] at hm
        rcases hm with hm | rfl
        · exact ih _ (by rw [length_drop]; omega) hm rfl
        · exact ⟨_, rfl⟩
    · match xs, h2 with
      | [], _ => rw [auditPath] at hm; cases hm
      | [x], _ => rw [auditPath_singleton] at hm; cases hm
      | x :: y :: rest, h2 => exact absurd (by simp) h2

/-- Rebuild the root over `total` leaves from leaf `index` and its siblings, listed from
the root to the leaf. The left part has `split total` leaves; `none` marks a path whose
length does not fit. -/
def recombine (inner : H → H → H) (split : Nat → Nat) (leafHash : H) :
    Nat → Nat → List H → Option H
  | total, index, [] => if total = 1 ∧ index = 0 then some leafHash else none
  | total, index, aunt :: rest =>
    if total = 1 then none
    else if index < split total then
      (recombine inner split leafHash (split total) index rest).map (inner · aunt)
    else
      (recombine inner split leafHash (total - split total) (index - split total) rest).map
        (inner aunt ·)

/-- Recombining an audit path gives the root, when the verifier splits every size the
path can visit as the tree does. -/
theorem recombine_auditPath {visited : Nat → Prop}
    (hv : ∀ n, 2 ≤ n → visited n → split n = T.split n ∧ visited (T.split n) ∧
      visited (n - T.split n))
    (xs : List α) (i : Nat) (hi : i < xs.length) (hx : visited xs.length) :
    recombine T.inner split (T.leaf xs[i]) xs.length i (T.auditPath xs i).reverse =
      some (T.root xs) := by
  -- induction on the number of leaves: both functions descend into the same part
  induction hn : xs.length using Nat.strongRecOn generalizing xs i with
  | ind n ih =>
    subst hn
    by_cases h2 : 2 ≤ xs.length
    · obtain ⟨hs, hl, hr⟩ := hv _ h2 hx
      have hpos := T.split_pos _ h2
      have hlt := T.split_lt _ h2
      have hlenl : (xs.take (T.split xs.length)).length = T.split xs.length := by
        rw [length_take, Nat.min_eq_left (Nat.le_of_lt hlt)]
      have hlenr : (xs.drop (T.split xs.length)).length = xs.length - T.split xs.length :=
        length_drop
      by_cases hc : i < T.split xs.length
      · have := ih _ hlt (xs.take (T.split xs.length)) i (by omega) (by rwa [hlenl]) hlenl
        rw [getElem_take] at this
        rw [T.auditPath_left h2 hc, reverse_append, reverse_singleton,
          singleton_append, recombine, if_neg (by omega), hs,
          if_pos hc, this, Option.map_some, ← T.root_of_two_le h2]
      · have hc' : T.split xs.length ≤ i := Nat.not_lt.mp hc
        have := ih _ (by omega) (xs.drop (T.split xs.length)) (i - T.split xs.length) (by omega)
          (by rwa [hlenr]) hlenr
        rw [getElem_drop] at this
        simp only [Nat.add_sub_cancel' hc'] at this
        rw [T.auditPath_right h2 hc', reverse_append, reverse_singleton,
          singleton_append, recombine, if_neg (by omega), hs,
          if_neg hc, this, Option.map_some, ← T.root_of_two_le h2]
    · obtain ⟨x, rfl⟩ := length_eq_one_iff.mp (show xs.length = 1 by omega)
      obtain rfl : i = 0 := by simpa using hi
      rw [auditPath_singleton, root_singleton]
      rfl

/-! ## Soundness -/

/-- The pairs of hashes that are joined while the root of a list is built. -/
def joined (xs : List α) : List (H × H) :=
  match xs with
  | [] => []
  | [_] => []
  | x :: y :: rest =>
    let k := T.split (rest.length + 2)
    (T.root ((x :: y :: rest).take k), T.root ((x :: y :: rest).drop k)) ::
      (joined ((x :: y :: rest).take k) ++ joined ((x :: y :: rest).drop k))
termination_by xs.length
decreasing_by
  · have h := T.split_lt (rest.length + 2) (by omega)
    simp only [length_take, length_cons]; omega
  · have h := T.split_pos (rest.length + 2) (by omega)
    simp only [length_drop, length_cons]; omega

/-- One leaf joins nothing. -/
theorem joined_singleton (x : α) : T.joined [x] = [] := by rw [joined]

/-- A longer list joins the roots of its two parts. -/
theorem joined_of_two_le (h : 2 ≤ xs.length) :
    T.joined xs =
      (T.root (xs.take (T.split xs.length)), T.root (xs.drop (T.split xs.length))) ::
        (T.joined (xs.take (T.split xs.length)) ++ T.joined (xs.drop (T.split xs.length))) := by
  match xs, h with
  | x :: y :: rest, _ => rw [joined]; rfl

/-- The pairs of hashes that are joined while a path is recombined. -/
def rejoined (inner : H → H → H) (split : Nat → Nat) (leafHash : H) :
    Nat → Nat → List H → List (H × H)
  | _, _, [] => []
  | total, index, aunt :: rest =>
    if total = 1 then []
    else if index < split total then
      ((recombine inner split leafHash (split total) index rest).map (·, aunt)).toList ++
        rejoined inner split leafHash (split total) index rest
    else
      ((recombine inner split leafHash (total - split total) (index - split total) rest).map
        (aunt, ·)).toList ++
        rejoined inner split leafHash (total - split total) (index - split total) rest

/-- A recombined root is the leaf hash itself or joins one of the pairs. -/
theorem recombine_cases {inner : H → H → H} {r : H}
    (h : recombine inner split leafHash total index path = some r) :
    r = leafHash ∨ ∃ q ∈ rejoined inner split leafHash total index path, r = inner q.1 q.2 := by
  cases path with
  | nil =>
    rw [recombine] at h
    split at h
    · exact .inl (Option.some.inj h).symm
    · cases h
  | cons aunt rest =>
    rw [recombine] at h
    rw [rejoined]
    split at h
    · cases h
    · next h1 =>
      rw [if_neg h1]
      split at h <;> rw [Option.map_eq_some_iff] at h <;> obtain ⟨part, hpart, rfl⟩ := h
      · next hi =>
        rw [if_pos hi, hpart]
        exact .inr ⟨(part, aunt), by simp, rfl⟩
      · next hi =>
        rw [if_neg hi, hpart]
        exact .inr ⟨(aunt, part), by simp, rfl⟩

/-- A path that recombines to the root of a list starts at one of its leaves, whatever
split, total and index the path is read with: this needs no more than that the two
computations have no collision with each other. -/
theorem exists_leaf_of_recombine (hne : xs ≠ [])
    (hpairs : ∀ p ∈ T.joined xs, ∀ q ∈ rejoined T.inner split leafHash total index path,
      T.inner p.1 p.2 = T.inner q.1 q.2 → p = q)
    (hjoined : ∀ p ∈ T.joined xs, T.inner p.1 p.2 ≠ leafHash)
    (hleaves : ∀ x ∈ xs, ∀ q ∈ rejoined T.inner split leafHash total index path,
      T.leaf x ≠ T.inner q.1 q.2)
    (h : recombine T.inner split leafHash total index path = some (T.root xs)) :
    ∃ x ∈ xs, T.leaf x = leafHash := by
  -- induction on the path: while it lasts the list still has two parts, and the pair it
  -- joins last is the pair of their roots
  induction path generalizing xs total index with
  | nil =>
    obtain hroot | ⟨q, hq, -⟩ := recombine_cases h
    · by_cases h2 : 2 ≤ xs.length
      · rw [T.root_of_two_le h2] at hroot
        refine absurd hroot (hjoined (_, _) ?_)
        rw [T.joined_of_two_le h2]
        exact mem_cons_self
      · have hpos := length_pos_iff.mpr hne
        obtain ⟨x, rfl⟩ := length_eq_one_iff.mp (show xs.length = 1 by omega)
        rw [T.root_singleton] at hroot
        exact ⟨x, mem_singleton_self x, hroot⟩
    · cases hq
  | cons aunt rest ih =>
    rw [recombine] at h
    split at h
    · cases h
    · next h1 =>
      rw [rejoined, if_neg h1] at hpairs hleaves
      by_cases h2 : 2 ≤ xs.length
      · have hpos := T.split_pos _ h2
        have hlt := T.split_lt _ h2
        rw [T.joined_of_two_le h2] at hpairs hjoined
        rw [T.root_of_two_le h2] at h
        split at h <;> rw [Option.map_eq_some_iff] at h <;> obtain ⟨part, hpart, hroot⟩ := h
        · next hi =>
          rw [if_pos hi, hpart] at hpairs hleaves
          have hpair := hpairs _ mem_cons_self (part, aunt) (by simp) hroot.symm
          obtain ⟨rfl, -⟩ := Prod.mk.inj hpair
          obtain ⟨x, hx, hleaf⟩ : ∃ x ∈ xs.take (T.split xs.length), T.leaf x = leafHash := ih
            (length_pos_iff.mp (by rw [length_take]; omega))
            (fun p hp q hq => hpairs p (by simp [hp]) q (by simp [hq]))
            (fun p hp => hjoined p (by simp [hp]))
            (fun x hx q hq => hleaves x (mem_of_mem_take hx) q (by simp [hq])) hpart
          exact ⟨x, mem_of_mem_take hx, hleaf⟩
        · next hi =>
          rw [if_neg hi, hpart] at hpairs hleaves
          have hpair := hpairs _ mem_cons_self (aunt, part) (by simp) hroot.symm
          obtain ⟨-, rfl⟩ := Prod.mk.inj hpair
          obtain ⟨x, hx, hleaf⟩ : ∃ x ∈ xs.drop (T.split xs.length), T.leaf x = leafHash := ih
            (length_pos_iff.mp (by rw [length_drop]; omega))
            (fun p hp q hq => hpairs p (by simp [hp]) q (by simp [hq]))
            (fun p hp => hjoined p (by simp [hp]))
            (fun x hx q hq => hleaves x (mem_of_mem_drop hx) q (by simp [hq])) hpart
          exact ⟨x, mem_of_mem_drop hx, hleaf⟩
      · have hlen := length_pos_iff.mpr hne
        obtain ⟨x, rfl⟩ := length_eq_one_iff.mp (show xs.length = 1 by omega)
        rw [T.root_singleton] at h
        split at h <;> rw [Option.map_eq_some_iff] at h <;> obtain ⟨part, hpart, hroot⟩ := h
        · next hi =>
          rw [if_pos hi, hpart] at hleaves
          exact absurd hroot.symm (hleaves x (mem_singleton_self x) (part, aunt) (by simp))
        · next hi =>
          rw [if_neg hi, hpart] at hleaves
          exact absurd hroot.symm (hleaves x (mem_singleton_self x) (aunt, part) (by simp))

/-- A tree joins one pair less than it has leaves. -/
theorem length_joined (xs : List α) : (T.joined xs).length = xs.length - 1 := by
  induction hn : xs.length using Nat.strongRecOn generalizing xs with
  | ind n ih =>
    subst hn
    by_cases h2 : 2 ≤ xs.length
    · have hpos := T.split_pos _ h2
      have hlt := T.split_lt _ h2
      rw [T.joined_of_two_le h2, length_cons, length_append,
        ih _ (by rw [length_take]; omega) _ rfl, ih _ (by rw [length_drop]; omega) _ rfl,
        length_take, length_drop]
      omega
    · match xs, h2 with
      | [], _ => rw [joined]; rfl
      | [x], _ => rw [joined_singleton]; rfl
      | x :: y :: rest, h2 => exact absurd (by simp) h2

/-- Lists of one length with one root are equal, when the two computations have no collision
at one place. -/
theorem root_inj {ys : List α} (hlen : xs.length = ys.length)
    (hleaves : ∀ p ∈ xs.zip ys, T.leaf p.1 = T.leaf p.2 → p.1 = p.2)
    (hpairs : ∀ p ∈ (T.joined xs).zip (T.joined ys), T.inner p.1.1 p.1.2 = T.inner p.2.1 p.2.2 →
      p.1 = p.2)
    (h : T.root xs = T.root ys) : xs = ys := by
  induction hn : xs.length using Nat.strongRecOn generalizing xs ys with
  | ind n ih =>
    subst hn
    by_cases h2 : 2 ≤ xs.length
    · have hpos := T.split_pos _ h2
      have hlt := T.split_lt _ h2
      have h2' : 2 ≤ ys.length := hlen ▸ h2
      have hjoined := T.joined_of_two_le h2'
      have hroot := T.root_of_two_le h2'
      rw [← hlen] at hjoined hroot
      -- both trees split at one place, so their pairs fall into the same three groups
      have hltake : (xs.take (T.split xs.length)).length =
          (ys.take (T.split xs.length)).length := by
        rw [length_take, length_take, hlen]
      have hldrop : (xs.drop (T.split xs.length)).length =
          (ys.drop (T.split xs.length)).length := by
        rw [length_drop, length_drop, hlen]
      rw [T.joined_of_two_le h2, hjoined, zip_cons_cons, zip_append
        (by rw [length_joined, length_joined, hltake])] at hpairs
      rw [T.root_of_two_le h2, hroot] at h
      obtain ⟨hl, hr⟩ := Prod.mk.inj (hpairs _ mem_cons_self h)
      have hx := take_append_drop (T.split xs.length) xs
      have hy := take_append_drop (T.split xs.length) ys
      rw [← hx, ← hy, zip_append hltake] at hleaves
      rw [← hx, ← hy]
      congr 1
      · exact ih (T.split xs.length) hlt hltake
          (fun p hp => hleaves p (mem_append_left _ hp))
          (fun p hp => hpairs p (mem_cons_of_mem _ (mem_append_left _ hp))) hl
          (by rw [length_take]; omega)
      · exact ih (xs.length - T.split xs.length) (by omega) hldrop
          (fun p hp => hleaves p (mem_append_right _ hp))
          (fun p hp => hpairs p (mem_cons_of_mem _ (mem_append_right _ hp))) hr
          length_drop
    · match xs, ys, hlen, h2 with
      | [], [], _, _ => rfl
      | [x], [y], _, _ =>
        rw [T.root_singleton, T.root_singleton] at h
        have hxy : x = y := hleaves (x, y) mem_cons_self h
        rw [hxy]
      | x :: y :: rest, _, _, h2 => exact absurd (by simp) h2

end HashTree

end AidnSpec.Base
