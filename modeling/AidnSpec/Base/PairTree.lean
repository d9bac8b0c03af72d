import Mathlib.Data.List.Induction
import Mathlib.Logic.Function.Iterate
import Mathlib.Tactic.Common

/-!
# Hash trees that pair neighbours

A level of nodes is joined two by two, the last node of an odd level with itself, until one node is
left. A path lists the sibling of a node on every level and the side it stands on. A verifier
follows the sides of the path it is given: nothing ties them to the index of a leaf, so what an
accepted path proves rests on the join alone.
-/

namespace AidnSpec.Base

open List

universe u

/-- The side on which a sibling stands. -/
inductive Side where
  | left
  | right

namespace PairTree

variable {H : Type u}

/-- The pairs of neighbours of a level; the last node of an odd level is paired with itself. -/
def pairs : List H → List (H × H)
  | [] => []
  | [a] => [(a, a)]
  | a :: b :: rest => (a, b) :: pairs rest

attribute [elab_as_elim] pairs.induct

/-- The number of times a width above one is halved, rounding up. The fuel bounds the loop. -/
def halvings : ℕ → ℕ → ℕ
  | 0, _ => 0
  | fuel + 1, width => if 1 < width then halvings fuel ((width + 1) / 2) + 1 else 0

theorem length_pairs (level : List H) : (pairs level).length = (level.length + 1) / 2 := by
  induction level using pairs.induct with
  | case1 => simp [pairs]
  | case2 a => simp [pairs]
  | case3 a b rest ih =>
    rw [pairs, length_cons, ih, length_cons, length_cons]
    omega

/-- The pair at an index. -/
theorem getElem?_pairs (level : List H) (i : ℕ) :
    (pairs level)[i]? = level[2 * i]?.map fun a => (a, level[2 * i + 1]?.getD a) := by
  induction level using pairs.induct generalizing i with
  | case1 => rfl
  | case2 a =>
    cases i with
    | zero => rfl
    | succ i => simp [pairs, Nat.mul_add]
  | case3 a b rest ih =>
    cases i with
    | zero => rfl
    | succ i =>
      rw [pairs, getElem?_cons_succ, ih, show 2 * (i + 1) = 2 * i + 1 + 1 by omega]
      rfl

variable {level : List H}

/-- The nodes of a pair stand in the level. -/
theorem mem_of_mem_pairs {p : H × H} (h : p ∈ pairs level) : p.1 ∈ level ∧ p.2 ∈ level := by
  induction level using pairs.induct with
  | case1 => cases h
  | case2 a =>
    rw [pairs, mem_singleton] at h
    subst h
    exact ⟨mem_cons_self, mem_cons_self⟩
  | case3 a b rest ih =>
    rcases mem_cons.mp h with rfl | h
    · exact ⟨mem_cons_self, mem_cons_of_mem a mem_cons_self⟩
    · obtain ⟨hfirst, hsecond⟩ := ih h
      exact ⟨mem_cons_of_mem a (mem_cons_of_mem b hfirst),
        mem_cons_of_mem a (mem_cons_of_mem b hsecond)⟩

/-- Every node of a level stands in a pair. -/
theorem exists_pair_of_mem {a : H} (h : a ∈ level) : ∃ p ∈ pairs level, a = p.1 ∨ a = p.2 := by
  induction level using pairs.induct with
  | case1 => cases h
  | case2 b => exact ⟨(b, b), mem_cons_self, .inl (mem_singleton.mp h)⟩
  | case3 b c rest ih =>
    rcases mem_cons.mp h with rfl | h
    · exact ⟨(a, c), mem_cons_self, .inl rfl⟩
    · rcases mem_cons.mp h with rfl | h
      · exact ⟨(b, a), mem_cons_self, .inr rfl⟩
      · obtain ⟨p, hp, ha⟩ := ih h
        exact ⟨p, mem_cons_of_mem _ hp, ha⟩

/-- The pairs and the number of nodes determine a level. -/
theorem pairs_inj {other : List H} (hlength : level.length = other.length)
    (h : pairs level = pairs other) : level = other := by
  induction level using pairs.induct generalizing other with
  | case1 => exact (length_eq_zero_iff.mp hlength.symm).symm
  | case2 a =>
    obtain ⟨b, rfl⟩ := length_eq_one_iff.mp hlength.symm
    rw [pairs, pairs, List.cons.injEq, Prod.mk.injEq] at h
    rw [h.1.1]
  | case3 a b rest ih =>
    match other, hlength with
    | c :: d :: more, hlength =>
      rw [pairs, pairs, List.cons.injEq, Prod.mk.injEq] at h
      simp only [length_cons, Nat.add_right_cancel_iff] at hlength
      rw [h.1.1, h.1.2, ih hlength h.2]

section Tree

variable (join : H → H → H)

def nextLevel (level : List H) : List H := (pairs level).map fun p => join p.1 p.2

/-- The level that is left after halving the number of nodes until it is at most one. -/
def apex : ℕ → List H → List H
  | 0, level => level
  | fuel + 1, level => if 1 < level.length then apex fuel (nextLevel join level) else level

def stepPair (current : H) : Side × H → H × H
  | (.left, sibling) => (sibling, current)
  | (.right, sibling) => (current, sibling)

def step (current : H) (sibling : Side × H) : H :=
  join (stepPair current sibling).1 (stepPair current sibling).2

/-- The node that a path leads to. -/
def walk (path : List (Side × H)) (leaf : H) : H := path.foldl (step join) leaf

def walked : List (Side × H) → H → List (H × H)
  | [], _ => []
  | sibling :: path, current => stepPair current sibling :: walked path (step join current sibling)

def joined (level : List H) : ℕ → List (H × H)
  | 0 => []
  | n + 1 => joined level n ++ pairs ((nextLevel join)^[n] level)

def sibling (level : List H) (i : ℕ) (node : H) : Side × H :=
  if i % 2 = 1 then (.left, level[i - 1]?.getD node) else (.right, level[i + 1]?.getD node)

/-- The siblings of a node on every level up to the root. -/
def siblings : ℕ → List H → ℕ → List (Side × H)
  | 0, _, _ => []
  | fuel + 1, level, i =>
    match level[i]? with
    | some node =>
      if 1 < level.length then
        sibling level i node :: siblings fuel (nextLevel join level) (i / 2)
      else []
    | none => []

theorem length_nextLevel (level : List H) :
    (nextLevel join level).length = (level.length + 1) / 2 := by
  rw [nextLevel, length_map, length_pairs]

/-- The apex is reached by halving as often as the width allows. -/
theorem apex_eq_iterate (fuel : ℕ) (level : List H) :
    apex join fuel level = (nextLevel join)^[halvings fuel level.length] level := by
  induction fuel generalizing level with
  | zero => rfl
  | succ fuel ih =>
    by_cases h : 1 < level.length
    · rw [apex, if_pos h, halvings, if_pos h, Function.iterate_succ_apply, ih, length_nextLevel]
    · rw [apex, if_neg h, halvings, if_neg h]
      rfl

variable {fuel i n : ℕ} {level : List H} {node leaf : H}

/-- One node is left. -/
theorem length_apex (hpos : 0 < level.length) (hfuel : level.length ≤ fuel) :
    (apex join fuel level).length = 1 := by
  induction fuel generalizing level with
  | zero => omega
  | succ fuel ih =>
    by_cases h : 1 < level.length
    · have hlength := length_nextLevel join level
      rw [apex, if_pos h]
      exact ih (by omega) (by omega)
    · rw [apex, if_neg h]
      omega

/-- Joining a node with its sibling gives its parent. -/
theorem step_sibling (hnode : level[i]? = some node) :
    (nextLevel join level)[i / 2]? = some (step join node (sibling level i node)) := by
  rw [nextLevel, List.getElem?_map, getElem?_pairs]
  have hlt := (List.getElem?_eq_some_iff.mp hnode).1
  by_cases hodd : i % 2 = 1
  · obtain ⟨left, hleft⟩ : ∃ left, level[i - 1]? = some left :=
      ⟨_, getElem?_eq_getElem (by omega)⟩
    have hindex : 2 * (i / 2) = i - 1 := by omega
    have hback : i - 1 + 1 = i := by omega
    simp only [sibling, if_pos hodd, hindex, hback, hleft, hnode, Option.map_some, Option.getD_some,
      step, stepPair]
  · have hindex : 2 * (i / 2) = i := by omega
    simp only [sibling, if_neg hodd, hindex, hnode, Option.map_some, step, stepPair]

/-- The path of a leaf leads to the root. -/
theorem apex_eq_walk (hleaf : level[i]? = some leaf) (hfuel : level.length ≤ fuel) :
    apex join fuel level = [walk join (siblings join fuel level i) leaf] := by
  induction fuel generalizing level i leaf with
  | zero =>
    have hlt := (List.getElem?_eq_some_iff.mp hleaf).1
    omega
  | succ fuel ih =>
    have hlt := (List.getElem?_eq_some_iff.mp hleaf).1
    simp only [apex, siblings, hleaf]
    by_cases h : 1 < level.length
    · have hlength := length_nextLevel join level
      rw [if_pos h, if_pos h, ih (step_sibling join hleaf) (by omega)]
      rfl
    · obtain ⟨a, rfl⟩ := length_eq_one_iff.mp (show level.length = 1 by omega)
      have hi : i = 0 := by
        rw [length_singleton] at hlt
        omega
      subst hi
      rw [if_neg h, if_neg h, Option.some.inj hleaf]
      rfl

/-- A path has a step for every level below the root. -/
theorem length_siblings (hi : i < level.length) :
    (siblings join fuel level i).length = halvings fuel level.length := by
  induction fuel generalizing level i with
  | zero => rfl
  | succ fuel ih =>
    have hlength := length_nextLevel join level
    simp only [siblings, getElem?_eq_getElem hi, halvings]
    by_cases h : 1 < level.length
    · rw [if_pos h, if_pos h, length_cons, ih (by omega), hlength]
    · rw [if_neg h, if_neg h]
      rfl

/-- A node above the leaves joins a pair of the level below. -/
theorem exists_pair_of_mem_iterate (h : node ∈ (nextLevel join)^[n + 1] level) :
    ∃ p ∈ joined join level (n + 1), p.1 ∈ (nextLevel join)^[n] level ∧
      p.2 ∈ (nextLevel join)^[n] level ∧ node = join p.1 p.2 := by
  rw [Function.iterate_succ_apply', nextLevel] at h
  obtain ⟨p, hp, rfl⟩ := mem_map.mp h
  obtain ⟨hfirst, hsecond⟩ := mem_of_mem_pairs hp
  exact ⟨p, mem_append_right _ hp, hfirst, hsecond, rfl⟩

theorem walked_concat (path : List (Side × H)) (sibling : Side × H) (leaf : H) :
    walked join (path ++ [sibling]) leaf =
      walked join path leaf ++ [stepPair (walk join path leaf) sibling] := by
  induction path generalizing leaf with
  | nil => rfl
  | cons first path ih =>
    rw [cons_append, walked, ih]
    rfl

/-- A walk ends in its leaf or in a join. -/
theorem walk_cases (path : List (Side × H)) (leaf : H) :
    walk join path leaf = leaf ∨
      ∃ p ∈ walked join path leaf, walk join path leaf = join p.1 p.2 := by
  induction path using List.reverseRecOn with
  | nil => exact .inl rfl
  | append_singleton path last _ =>
    refine .inr ⟨stepPair (walk join path leaf) last, ?_, ?_⟩
    · rw [walked_concat]
      exact mem_append_right _ mem_cons_self
    · rw [walk, foldl_append, foldl_cons, foldl_nil]
      rfl

variable {join}

section Nodes

variable {P : H → Prop} (joins : ∀ a b, P (join a b))

include joins

variable {level : List H}

/-- What holds of the leaves and of every join holds of every node. -/
theorem forall_mem_iterate (leaves : ∀ a ∈ level, P a) (n : ℕ) :
    ∀ a ∈ (nextLevel join)^[n] level, P a := by
  intro a ha
  cases n with
  | zero => exact leaves a ha
  | succ n =>
    obtain ⟨p, -, -, -, rfl⟩ := exists_pair_of_mem_iterate join ha
    exact joins p.1 p.2

theorem forall_mem_joined (leaves : ∀ a ∈ level, P a) (n : ℕ) :
    ∀ p ∈ joined join level n, P p.1 ∧ P p.2 := by
  induction n with
  | zero => exact fun p hp => by cases hp
  | succ n ih =>
    intro p hp
    rcases mem_append.mp hp with hp | hp
    · exact ih p hp
    · obtain ⟨hfirst, hsecond⟩ := mem_of_mem_pairs hp
      exact ⟨forall_mem_iterate joins leaves n _ hfirst,
        forall_mem_iterate joins leaves n _ hsecond⟩

theorem forall_mem_walked {path : List (Side × H)} {leaf : H} (siblings : ∀ s ∈ path, P s.2)
    (start : P leaf) : ∀ p ∈ walked join path leaf, P p.1 ∧ P p.2 := by
  induction path generalizing leaf with
  | nil => exact fun p hp => by cases hp
  | cons first path ih =>
    intro p hp
    have hfirst := siblings first mem_cons_self
    rcases mem_cons.mp hp with rfl | hp
    · obtain ⟨side, sibling⟩ := first
      cases side with
      | left => exact ⟨hfirst, start⟩
      | right => exact ⟨start, hfirst⟩
    · exact ih (fun s hs => siblings s (mem_cons_of_mem _ hs)) (joins _ _) p hp

theorem forall_mem_siblings (leaves : ∀ a ∈ level, P a) (fuel i : ℕ) :
    ∀ s ∈ siblings join fuel level i, P s.2 := by
  induction fuel generalizing level i with
  | zero => exact fun s hs => by cases hs
  | succ fuel ih =>
    intro s hs
    rw [PairTree.siblings] at hs
    split at hs
    · next node hnode =>
      have hgetD : ∀ j : ℕ, P (level[j]?.getD node) := by
        intro j
        cases hj : level[j]? with
        | none => exact leaves node (mem_of_getElem? hnode)
        | some other => exact leaves other (mem_of_getElem? hj)
      split at hs
      · rcases mem_cons.mp hs with rfl | hs
        · rw [sibling]
          split
          · exact hgetD _
          · exact hgetD _
        · exact ih (forall_mem_iterate joins leaves 1) _ s hs
      · cases hs
    · cases hs

end Nodes

/-- What an accepted path proves, whatever its siblings and sides are: when equal joins of the
walk and of the tree join the same pair and neither leaf is a join, the leaf is one of the leaves
of the tree and the path is as long as the tree is high. -/
theorem mem_of_walk_mem {path : List (Side × H)}
    (inj : ∀ p ∈ walked join path leaf, ∀ q ∈ joined join level n, join p.1 p.2 = join q.1 q.2 → p =
      q)
    (leaves : ∀ node ∈ level, ∀ p ∈ walked join path leaf, node ≠ join p.1 p.2)
    (apart : ∀ q ∈ joined join level n, leaf ≠ join q.1 q.2)
    (h : walk join path leaf ∈ (nextLevel join)^[n] level) : leaf ∈ level ∧ path.length = n := by
  -- induction from the end of the path: its last step joins two nodes of the level below
  induction path using List.reverseRecOn generalizing n with
  | nil =>
    cases n with
    | zero => exact ⟨h, rfl⟩
    | succ n =>
      obtain ⟨p, hp, -, -, heq⟩ := exists_pair_of_mem_iterate join h
      exact absurd heq (apart p hp)
  | append_singleton path last ih =>
    rw [walked_concat] at inj leaves
    have hlast : stepPair (walk join path leaf) last ∈
        walked join path leaf ++ [stepPair (walk join path leaf) last] :=
      mem_append_right _ mem_cons_self
    rw [walk, foldl_append, foldl_cons, foldl_nil] at h
    cases n with
    | zero => exact absurd rfl (leaves _ h _ hlast)
    | succ n =>
      obtain ⟨p, hp, hfirst, hsecond, heq⟩ := exists_pair_of_mem_iterate join h
      have hpair := inj _ hlast p hp heq
      have hbelow : walk join path leaf ∈ (nextLevel join)^[n] level := by
        obtain ⟨side, sibling⟩ := last
        cases side with
        | left =>
          have hcurrent : walk join path leaf = p.2 := congrArg Prod.snd hpair
          exact hcurrent ▸ hsecond
        | right =>
          have hcurrent : walk join path leaf = p.1 := congrArg Prod.fst hpair
          exact hcurrent ▸ hfirst
      obtain ⟨hmem, hlength⟩ := ih
        (fun p hp q hq => inj p (mem_append_left _ hp) q (mem_append_left _ hq))
        (fun node hnode p hp => leaves node hnode p (mem_append_left _ hp))
        (fun q hq => apart q (mem_append_left _ hq)) hbelow
      exact ⟨hmem, by rw [length_append, hlength]; rfl⟩

/-- Trees of one width with the same level above have the same leaves. -/
theorem iterate_inj {other : List H} (hlength : level.length = other.length)
    (inj : ∀ p ∈ joined join level n, ∀ q ∈ joined join other n, join p.1 p.2 = join q.1 q.2 → p =
      q)
    (h : (nextLevel join)^[n] level = (nextLevel join)^[n] other) : level = other := by
  have hlengths : ∀ m,
      ((nextLevel join)^[m] level).length = ((nextLevel join)^[m] other).length := by
    intro m
    induction m with
    | zero => exact hlength
    | succ m ih =>
      rw [Function.iterate_succ_apply', Function.iterate_succ_apply', length_nextLevel,
        length_nextLevel, ih]
  induction n with
  | zero => exact h
  | succ n ih =>
    rw [Function.iterate_succ_apply', Function.iterate_succ_apply', nextLevel, nextLevel] at h
    refine ih (fun p hp q hq => inj p (mem_append_left _ hp) q (mem_append_left _ hq))
      (pairs_inj (hlengths n) ?_)
    have hmap : ∀ (ps qs : List (H × H)),
        (∀ p ∈ ps, ∀ q ∈ qs, join p.1 p.2 = join q.1 q.2 → p = q) →
        (ps.map fun p => join p.1 p.2) = (qs.map fun q => join q.1 q.2) → ps = qs := by
      intro ps
      induction ps with
      | nil =>
        intro qs _ heq
        exact (map_eq_nil_iff.mp heq.symm).symm
      | cons p ps ihps =>
        intro qs hpairs heq
        cases qs with
        | nil => cases heq
        | cons q qs =>
          rw [map_cons, map_cons, List.cons.injEq] at heq
          rw [hpairs p mem_cons_self q mem_cons_self heq.1,
            ihps qs (fun p hp q hq => hpairs p (mem_cons_of_mem _ hp) q
              (mem_cons_of_mem _ hq)) heq.2]
    exact hmap _ _ (fun p hp q hq => inj p (mem_append_right _ hp) q
      (mem_append_right _ hq)) h

end Tree

section Map

variable {K : Type u} {join : H → H → H} {other : K → K → K} {f : H → K}

theorem pairs_map (level : List H) :
    pairs (level.map f) = (pairs level).map fun p => (f p.1, f p.2) := by
  induction level using pairs.induct with
  | case1 => rfl
  | case2 a => rfl
  | case3 a b rest ih =>
    rw [map_cons, map_cons, pairs, ih, pairs]
    rfl

/-- A map that commutes with the joins maps the levels of a tree. -/
theorem iterate_map (commutes : ∀ a b, f (join a b) = other (f a) (f b)) (level : List H) (n : ℕ) :
    (nextLevel other)^[n] (level.map f) = ((nextLevel join)^[n] level).map f := by
  induction n with
  | zero => rfl
  | succ n ih =>
    rw [Function.iterate_succ_apply', Function.iterate_succ_apply', ih, nextLevel, nextLevel,
      pairs_map, map_map, map_map]
    apply map_congr_left
    intro p _
    exact (commutes p.1 p.2).symm

end Map

end PairTree

end AidnSpec.Base
