import Mathlib.Data.List.Pairwise
import Mathlib.Data.String.Basic
import AidnSpec.Base.Postconditions
import AidnSpec.Ledger.ValidatorSet

/-!
# Membership changes

What the three loops over a membership change do to an active set, and when they raise: the set
after a change is a function of the set before it, node by node. The hash of a set depends on six
members of each entry and not on the order of the entries.
-/

namespace AidnSpec.Ledger

open Base List

def keyOf (active : Dict String Fields) (nodeId : String) : String :=
  ((active.get? nodeId).map consensusKey).getD ""

variable {active : Dict String Fields} {nodeId n hash : String} {entry e e' : Fields} {p p' : Patch}
  {a : String × Fields} {additions : List (String × Fields)} {removals keys : List String}
  {update : String × Int} {updates : List (String × Int)} {v : ValidatorIdentity}
  {seen vs : List ValidatorIdentity} {entries : List Fields}

theorem keyOf_of_get? (h : active.get? nodeId = some entry) :
    keyOf active nodeId = consensusKey entry := by
  rw [keyOf, h]
  rfl

theorem keyOf_congr {active' : Dict String Fields} (h : active'.get? nodeId = active.get? nodeId) :
    keyOf active' nodeId = keyOf active nodeId := by
  rw [keyOf, keyOf, h]

def withPower (entry : Fields) (power : Int) : Fields := setMember entry "voting_power" (.int power)

def addEntry (active : Dict String Fields) (addition : String × Fields) : Dict String Fields :=
  active.set addition.1 addition.2

def setPower (active : Dict String Fields) (update : String × Int) : Dict String Fields :=
  match active.get? update.1 with
  | some entry => active.set update.1 (withPower entry update.2)
  | none => active

/-! ## The three loops -/

theorem addValidator_eq_ok :
    addValidator p a = .ok p' ↔
      p.active.get? a.1 = none ∧ (∀ e ∈ p.active.values, consensusKey e ≠ consensusKey a.2) ∧
      p' = ⟨addEntry p.active a, p.updates ++ [⟨consensusKey a.2, a.2.int "voting_power"⟩]⟩ := by
  simp only [addValidator, checks_eq_ok, exists_unit, Dict.contains, Bool.not_eq_true',
    Option.isSome_eq_false_iff, Option.isNone_iff_eq_none, any_eq_false, beq_iff_eq, ne_eq]
  rw [eq_comm (a := p')]
  rfl

/-- The loop over the additions returns when the nodes and the keys are new. -/
theorem foldlM_addValidator (distinct : (additions.map Prod.fst).Nodup) :
    additions.foldlM addValidator p = .ok p' ↔
      (∀ a ∈ additions, p.active.get? a.1 = none) ∧
      (∀ a ∈ additions, ∀ e ∈ p.active.values, consensusKey e ≠ consensusKey a.2) ∧
      (additions.map fun a => consensusKey a.2).Nodup ∧
      p' = ⟨additions.foldl addEntry p.active,
        p.updates ++ additions.map fun a => ⟨consensusKey a.2, a.2.int "voting_power"⟩⟩ := by
  induction additions generalizing p with
  | nil =>
    simp only [foldlM_nil, pure_eq_ok, not_mem_nil, false_implies, implies_true,
      map_nil, nodup_nil, foldl_nil, append_nil, true_and]
    exact eq_comm
  | cons a additions ih =>
    rw [map_cons, nodup_cons] at distinct
    obtain ⟨hnew, hdistinct⟩ := distinct
    have hother : ∀ b ∈ additions, b.1 ≠ a.1 := fun b hb h =>
      hnew (mem_map.mpr ⟨b, hb, h⟩)
    have hget : ∀ b ∈ additions, (addEntry p.active a).get? b.1 = p.active.get? b.1 :=
      fun b hb => Dict.get?_set_of_ne _ _ (hother b hb)
    simp only [foldlM_cons, bind_eq_ok, addValidator_eq_ok, ih hdistinct]
    simp only [forall_mem_cons, map_cons, nodup_cons, foldl_cons]
    constructor
    · rintro ⟨_, ⟨habsent, hfresh, rfl⟩, hrest, hkeys, hnodup, rfl⟩
      have hvalues := Dict.mem_values_set habsent a.2
      refine ⟨⟨habsent, fun b hb => (hget b hb).symm.trans (hrest b hb)⟩,
        ⟨hfresh, fun b hb e he => hkeys b hb e ((hvalues e).mpr (.inr he))⟩, ⟨?_, hnodup⟩, ?_⟩
      · rintro hmem
        obtain ⟨b, hb, hkey⟩ := mem_map.mp hmem
        exact hkeys b hb a.2 ((hvalues a.2).mpr (.inl rfl)) hkey.symm
      · simp only [append_assoc, singleton_append]
    · rintro ⟨⟨habsent, hrest⟩, ⟨hfresh, hkeys⟩, ⟨hkey, hnodup⟩, rfl⟩
      have hvalues := Dict.mem_values_set habsent a.2
      refine ⟨_, ⟨habsent, hfresh, rfl⟩, fun b hb => (hget b hb).trans (hrest b hb), ?_, hnodup, ?_⟩
      · intro b hb e he
        rcases (hvalues e).mp he with rfl | he
        · exact fun h => hkey (mem_map.mpr ⟨b, hb, h.symm⟩)
        · exact hkeys b hb e he
      · simp only [append_assoc, singleton_append]

section Active

variable {α : Type} (key : α → String) {power : α → Int} {items : List α}
  {step : Patch → α → Except PyError Patch}
  {change : Dict String Fields → α → Dict String Fields}

/-- A loop that changes the entry of one active node at each step returns when every node is
active. -/
theorem foldlM_active
    (hstep : ∀ p p' x, step p x = .ok p' ↔ (p.active.get? (key x)).isSome ∧
      p' = ⟨change p.active x, p.updates ++ [⟨keyOf p.active (key x), power x⟩]⟩)
    (hchange : ∀ active x n, n ≠ key x → (change active x).get? n = active.get? n)
    (distinct : (items.map key).Nodup) :
    items.foldlM step p = .ok p' ↔ (∀ x ∈ items, (p.active.get? (key x)).isSome) ∧
      p' = ⟨items.foldl change p.active,
        p.updates ++ items.map fun x => ⟨keyOf p.active (key x), power x⟩⟩ := by
  induction items generalizing p with
  | nil =>
    simp only [foldlM_nil, pure_eq_ok, not_mem_nil, false_implies, implies_true,
      map_nil, foldl_nil, append_nil, true_and]
    exact eq_comm
  | cons x items ih =>
    rw [map_cons, nodup_cons] at distinct
    obtain ⟨hnew, hdistinct⟩ := distinct
    have hget : ∀ y ∈ items, (change p.active x).get? (key y) = p.active.get? (key y) :=
      fun y hy => hchange _ _ _ fun h => hnew (mem_map.mpr ⟨y, hy, h⟩)
    have hmap : (items.map fun y =>
        (⟨keyOf (change p.active x) (key y), power y⟩ : ValidatorUpdate)) =
          items.map fun y => ⟨keyOf p.active (key y), power y⟩ :=
      map_congr_left fun y hy => by rw [keyOf_congr (hget y hy)]
    have hactive : (∀ y ∈ items, ((change p.active x).get? (key y)).isSome) ↔
        ∀ y ∈ items, (p.active.get? (key y)).isSome :=
      forall₂_congr fun y hy => by rw [hget y hy]
    simp only [foldlM_cons, bind_eq_ok, hstep, ih hdistinct, forall_mem_cons,
      map_cons, foldl_cons, and_assoc, exists_and_left, exists_eq_left, hactive, hmap,
      append_assoc, singleton_append]

end Active

/-- The loop over the removals returns when every node is active. -/
theorem foldlM_removeValidator (distinct : removals.Nodup) :
    removals.foldlM removeValidator p = .ok p' ↔
      (∀ n ∈ removals, (p.active.get? n).isSome) ∧
      p' = ⟨removals.foldl Dict.erase p.active,
        p.updates ++ removals.map fun n => ⟨keyOf p.active n, 0⟩⟩ := by
  refine foldlM_active (fun n => n) (fun p p' n => ?_) (fun active m n hne => ?_) ?_
  · simp only [removeValidator, checks_eq_ok]
    cases h : p.active.get? n <;> simp [keyOf, h, eq_comm]
  · rw [Dict.get?_erase, if_neg hne]
  · rwa [map_id']

/-- The loop over the voting-power updates returns when every node is active. -/
theorem foldlM_updatePower (distinct : (updates.map Prod.fst).Nodup) :
    updates.foldlM updatePower p = .ok p' ↔
      (∀ u ∈ updates, (p.active.get? u.1).isSome) ∧
      p' = ⟨updates.foldl setPower p.active,
        p.updates ++ updates.map fun u => ⟨keyOf p.active u.1, u.2⟩⟩ := by
  refine foldlM_active Prod.fst (fun p p' u => ?_) (fun active u n hne => ?_) distinct
  · simp only [updatePower, checks_eq_ok]
    cases h : p.active.get? u.1 <;> simp [keyOf, setPower, withPower, h, eq_comm]
  · unfold setPower
    split
    · exact Dict.get?_set_of_ne _ _ hne
    · rfl

/-! ## The set after a change -/

theorem get?_foldl_addEntry_of_notMem (h : n ∉ additions.map Prod.fst) :
    (additions.foldl addEntry active).get? n = active.get? n := by
  induction additions generalizing active with
  | nil => rfl
  | cons a additions ih =>
    rw [map_cons, mem_cons, not_or] at h
    rw [foldl_cons, ih h.2, addEntry, Dict.get?_set_of_ne _ _ h.1]

theorem get?_foldl_addEntry_of_mem (distinct : (additions.map Prod.fst).Nodup) (h : a ∈ additions) :
    (additions.foldl addEntry active).get? a.1 = some a.2 := by
  induction additions generalizing active with
  | nil => cases h
  | cons b additions ih =>
    rw [map_cons, nodup_cons] at distinct
    rw [foldl_cons]
    rcases mem_cons.mp h with rfl | h
    · rw [get?_foldl_addEntry_of_notMem distinct.1, addEntry, Dict.get?_set_self]
    · exact ih distinct.2 h

theorem get?_foldl_erase :
    (removals.foldl Dict.erase active).get? n =
      if n ∈ removals then none else active.get? n := by
  induction removals generalizing active with
  | nil => rfl
  | cons m removals ih =>
    rw [foldl_cons, ih, Dict.get?_erase]
    by_cases hm : n ∈ removals
    · rw [if_pos hm, if_pos (mem_cons_of_mem m hm)]
    · by_cases hn : n = m
      · rw [if_neg hm, if_pos hn, if_pos (mem_cons.mpr (.inl hn))]
      · rw [if_neg hm, if_neg hn, if_neg]
        simp [hn, hm]

theorem get?_setPower :
    (setPower active update).get? n =
      if n = update.1 then (active.get? n).map (withPower · update.2) else active.get? n := by
  rw [setPower]
  split
  · next entry hentry =>
    rw [Dict.get?_set]
    by_cases hn : n = update.1
    · rw [if_pos hn, if_pos hn, hn, hentry, Option.map_some]
    · rw [if_neg hn, if_neg hn]
  · next hentry =>
    by_cases hn : n = update.1
    · rw [if_pos hn, hn, hentry, Option.map_none]
    · rw [if_neg hn]

theorem get?_foldl_setPower_of_notMem (h : n ∉ updates.map Prod.fst) :
    (updates.foldl setPower active).get? n = active.get? n := by
  induction updates generalizing active with
  | nil => rfl
  | cons u updates ih =>
    rw [map_cons, mem_cons, not_or] at h
    rw [foldl_cons, ih h.2, get?_setPower, if_neg h.1]

theorem get?_foldl_setPower_of_mem {u : String × Int} (distinct : (updates.map Prod.fst).Nodup)
    (h : u ∈ updates) :
    (updates.foldl setPower active).get? u.1 = (active.get? u.1).map (withPower · u.2) := by
  induction updates generalizing active with
  | nil => cases h
  | cons v updates ih =>
    rw [map_cons, nodup_cons] at distinct
    rw [foldl_cons]
    rcases mem_cons.mp h with rfl | h
    · rw [get?_foldl_setPower_of_notMem distinct.1, get?_setPower, if_pos rfl]
    · rw [ih distinct.2 h, get?_setPower, if_neg]
      intro heq
      exact distinct.1 (mem_map.mpr ⟨u, h, heq⟩)

namespace MembershipChange

variable {c : MembershipChange} {active : Dict String Fields}

def names (c : MembershipChange) : List String :=
  c.additions.map Prod.fst ++ c.removals ++ c.powerUpdates.map Prod.fst

def applyTo (c : MembershipChange) (active : Dict String Fields) : Dict String Fields :=
  c.powerUpdates.foldl setPower
    (c.removals.foldl Dict.erase (c.additions.foldl addEntry active))

/-- The updates that a change makes for CometBFT. -/
def updatesOn (c : MembershipChange) (active : Dict String Fields) : List ValidatorUpdate :=
  (c.additions.map fun a => ⟨consensusKey a.2, a.2.int "voting_power"⟩) ++
    (c.removals.map fun n => ⟨keyOf active n, 0⟩) ++
    c.powerUpdates.map fun u => ⟨keyOf active u.1, u.2⟩

/-- A change that fits a set: what it adds is new, what it names otherwise is there. -/
structure Fits (c : MembershipChange) (active : Dict String Fields) : Prop where
  absent : ∀ a ∈ c.additions, active.get? a.1 = none
  fresh : ∀ a ∈ c.additions, ∀ e ∈ active.values, consensusKey e ≠ consensusKey a.2
  distinct : (c.additions.map fun a => consensusKey a.2).Nodup
  removable : ∀ n ∈ c.removals, (active.get? n).isSome
  powered : ∀ u ∈ c.powerUpdates, (active.get? u.1).isSome

/-- The three kinds of names are distinct and disjoint. -/
structure Separate (c : MembershipChange) : Prop where
  additions : (c.additions.map Prod.fst).Nodup
  removals : c.removals.Nodup
  powerUpdates : (c.powerUpdates.map Prod.fst).Nodup
  removed_not_added : ∀ n ∈ c.removals, n ∉ c.additions.map Prod.fst
  powered_not_added : ∀ n ∈ c.powerUpdates.map Prod.fst, n ∉ c.additions.map Prod.fst
  powered_not_removed : ∀ n ∈ c.powerUpdates.map Prod.fst, n ∉ c.removals

theorem separate_of_nodup (h : c.names.Nodup) : c.Separate := by
  rw [names, nodup_append, nodup_append] at h
  obtain ⟨⟨hadd, hrem, hdisj⟩, hpow, hdisj'⟩ := h
  refine ⟨hadd, hrem, hpow, ?_, ?_, ?_⟩
  · intro n hn hmem
    exact hdisj n hmem n hn rfl
  · intro n hn hmem
    exact hdisj' n (mem_append_left _ hmem) n hn rfl
  · intro n hn hmem
    exact hdisj' n (mem_append_right _ hmem) n hn rfl

theorem Separate.nodup (s : c.Separate) : c.names.Nodup := by
  rw [names, nodup_append, nodup_append]
  refine ⟨⟨s.additions, s.removals, ?_⟩, s.powerUpdates, ?_⟩
  · rintro a ha b hb rfl
    exact s.removed_not_added a hb ha
  · rintro a ha b hb rfl
    rcases mem_append.mp ha with ha | ha
    · exact s.powered_not_added a hb ha
    · exact s.powered_not_removed a hb ha

/-- The loops return exactly for a change that fits. -/
theorem Separate.patchActive_eq_ok (s : c.Separate) {p : Patch} :
    patchActive active c = .ok p ↔ c.Fits active ∧ p = ⟨c.applyTo active, c.updatesOn active⟩ := by
  have hrem : ∀ n ∈ c.removals,
      (c.additions.foldl addEntry active).get? n = active.get? n := fun n hn =>
    get?_foldl_addEntry_of_notMem (s.removed_not_added n hn)
  have hpow : ∀ u ∈ c.powerUpdates,
      (c.removals.foldl Dict.erase (c.additions.foldl addEntry active)).get? u.1 =
        active.get? u.1 := by
    intro u hu
    have hmem : u.1 ∈ c.powerUpdates.map Prod.fst := mem_map.mpr ⟨u, hu, rfl⟩
    rw [get?_foldl_erase, if_neg (s.powered_not_removed _ hmem),
      get?_foldl_addEntry_of_notMem (s.powered_not_added _ hmem)]
  have hremoved : (c.removals.map fun n =>
        (⟨keyOf (c.additions.foldl addEntry active) n, 0⟩ : ValidatorUpdate)) =
      c.removals.map fun n => ⟨keyOf active n, 0⟩ :=
    map_congr_left fun n hn => by rw [keyOf_congr (hrem n hn)]
  have hpowered : (c.powerUpdates.map fun u => (⟨keyOf (c.removals.foldl Dict.erase
        (c.additions.foldl addEntry active)) u.1, u.2⟩ : ValidatorUpdate)) =
      c.powerUpdates.map fun u => ⟨keyOf active u.1, u.2⟩ :=
    map_congr_left fun u hu => by rw [keyOf_congr (hpow u hu)]
  simp only [patchActive, bind_eq_ok, foldlM_addValidator s.additions,
    foldlM_removeValidator s.removals, foldlM_updatePower s.powerUpdates]
  constructor
  · rintro ⟨_, ⟨habsent, hfresh, hdistinct, rfl⟩, _, ⟨hremovable, rfl⟩, hpowerable, rfl⟩
    refine ⟨⟨habsent, hfresh, hdistinct, ?_, ?_⟩, ?_⟩
    · exact fun n hn => hrem n hn ▸ hremovable n hn
    · exact fun u hu => hpow u hu ▸ hpowerable u hu
    · rw [hremoved, hpowered, nil_append]
      rfl
  · rintro ⟨hfits, rfl⟩
    refine ⟨_, ⟨hfits.absent, hfits.fresh, hfits.distinct, rfl⟩, _, ⟨?_, rfl⟩, ?_, ?_⟩
    · exact fun n hn => by rw [hrem n hn]; exact hfits.removable n hn
    · exact fun u hu => by rw [hpow u hu]; exact hfits.powered u hu
    · rw [hremoved, hpowered, nil_append]
      rfl

/-! What a node holds after a change: one lemma for each way a change can name it. -/

theorem Separate.get?_applyTo_of_added (s : c.Separate) {a : String × Fields}
    (h : a ∈ c.additions) : (c.applyTo active).get? a.1 = some a.2 := by
  have hmem : a.1 ∈ c.additions.map Prod.fst := mem_map.mpr ⟨a, h, rfl⟩
  rw [applyTo, get?_foldl_setPower_of_notMem fun hp => s.powered_not_added _ hp hmem,
    get?_foldl_erase, if_neg fun hr => s.removed_not_added _ hr hmem,
    get?_foldl_addEntry_of_mem s.additions h]

variable {n : String}

theorem Separate.get?_applyTo_of_removed (s : c.Separate) (h : n ∈ c.removals) :
    (c.applyTo active).get? n = none := by
  rw [applyTo, get?_foldl_setPower_of_notMem fun hp => s.powered_not_removed _ hp h,
    get?_foldl_erase, if_pos h]

theorem Separate.get?_applyTo_of_powered (s : c.Separate) {u : String × Int}
    (h : u ∈ c.powerUpdates) :
    (c.applyTo active).get? u.1 = (active.get? u.1).map (withPower · u.2) := by
  have hmem : u.1 ∈ c.powerUpdates.map Prod.fst := mem_map.mpr ⟨u, h, rfl⟩
  rw [applyTo, get?_foldl_setPower_of_mem s.powerUpdates h, get?_foldl_erase,
    if_neg (s.powered_not_removed _ hmem),
    get?_foldl_addEntry_of_notMem (s.powered_not_added _ hmem)]

theorem get?_applyTo_of_unnamed (h : n ∉ c.names) : (c.applyTo active).get? n = active.get? n := by
  simp only [names, mem_append, not_or] at h
  obtain ⟨⟨hadd, hrem⟩, hpow⟩ := h
  rw [applyTo, get?_foldl_setPower_of_notMem hpow, get?_foldl_erase, if_neg hrem,
    get?_foldl_addEntry_of_notMem hadd]

end MembershipChange

/-! ## The hash of a set -/

/-- What the set hash reads off one entry. -/
def readIdentity (entry : Fields) : Except PyError ValidatorIdentity := do
  requireTexts entry "validator set field is invalid: "
    ["node_id", "operator_id", "consensus_address", "consensus_public_key"]
  validateEd25519PublicKey (PyValue.get entry "consensus_public_key")
  let stake ← requireInt entry "stake" (0 < ·) "validator set field is invalid: stake"
  let votingPower ← requireInt entry "voting_power" (0 < ·)
    "validator set field is invalid: voting_power"
  return ⟨entry.text "node_id", entry.text "operator_id", entry.text "consensus_address",
    consensusKey entry, stake, votingPower⟩

/-- Two identities share neither the node id nor the key. -/
def Apart (v w : ValidatorIdentity) : Prop :=
  v.nodeId ≠ w.nodeId ∧ v.consensusPublicKey ≠ w.consensusPublicKey

theorem Apart.symm {w : ValidatorIdentity} (h : Apart v w) : Apart w v := ⟨h.1.symm, h.2.symm⟩

theorem readIdentity_eq_ok :
    readIdentity entry = .ok v ↔
      (∀ key ∈ ["node_id", "operator_id", "consensus_address", "consensus_public_key"],
        entry.hasText key = true) ∧
      validateEd25519PublicKey (PyValue.get entry "consensus_public_key") = .ok () ∧
      PyValue.get entry "stake" = .int v.stake ∧ 0 < v.stake ∧
      PyValue.get entry "voting_power" = .int v.votingPower ∧ 0 < v.votingPower ∧
      v.nodeId = entry.text "node_id" ∧ v.operatorId = entry.text "operator_id" ∧
      v.consensusAddress = entry.text "consensus_address" ∧
      v.consensusPublicKey = consensusKey entry := by
  simp only [readIdentity, checks_eq_ok, decide_eq_true_eq, exists_and_left, exists_const]
  constructor
  · rintro ⟨htexts, u, hkey, stake, ⟨hstake, hpos⟩, power, ⟨hpower, hpos'⟩, rfl⟩
    exact ⟨htexts, hkey, hstake, hpos, hpower, hpos', rfl, rfl, rfl, rfl⟩
  · obtain ⟨nodeId, operatorId, consensusAddress, consensusPublicKey, stake, votingPower⟩ := v
    rintro ⟨htexts, hkey, hstake, hpos, hpower, hpos', rfl, rfl, rfl, rfl⟩
    exact ⟨htexts, (), hkey, stake, ⟨hstake, hpos⟩, votingPower, ⟨hpower, hpos'⟩, rfl⟩

theorem readIdentities_cons :
    readIdentities seen (entry :: entries) = .ok vs ↔
      ∃ w, readIdentity entry = .ok w ∧ (∀ v ∈ seen, Apart v w) ∧
        readIdentities (w :: seen) entries = .ok vs := by
  simp only [readIdentities, checks_eq_ok, decide_eq_true_eq, exists_and_left, exists_const,
    Bool.not_eq_true', any_eq_false, Bool.or_eq_true, beq_iff_eq, not_or, readIdentity_eq_ok]
  constructor
  · rintro ⟨htexts, u, hkey, hseen, stake, ⟨hstake, hpos⟩, power, ⟨hpower, hpos'⟩, hrest⟩
    exact ⟨_, ⟨htexts, hkey, hstake, hpos, hpower, hpos', rfl, rfl, rfl, rfl⟩,
      fun v hv => ⟨(hseen v hv).1, (hseen v hv).2⟩, hrest⟩
  · rintro ⟨⟨nodeId, operatorId, consensusAddress, consensusPublicKey, stake, votingPower⟩,
      ⟨htexts, hkey, hstake, hpos, hpower, hpos', rfl, rfl, rfl, rfl⟩, hseen, hrest⟩
    exact ⟨htexts, (), hkey, hseen, stake, ⟨hstake, hpos⟩, votingPower, ⟨hpower, hpos'⟩, hrest⟩

instance : Std.Symm Apart := ⟨fun _ _ => Apart.symm⟩

/-- The loop over the entries reads each of them and finds them apart. -/
theorem readIdentities_eq_ok :
    readIdentities seen entries = .ok vs ↔
      ∃ ws, entries.map readIdentity = ws.map .ok ∧ (∀ w ∈ ws, ∀ v ∈ seen, Apart v w) ∧
        ws.Pairwise Apart ∧ vs = seen.reverse ++ ws := by
  induction entries generalizing seen with
  | nil =>
    simp only [readIdentities, Except.ok.injEq, map_nil]
    constructor
    · rintro rfl
      exact ⟨[], rfl, by simp, .nil, by simp⟩
    · rintro ⟨ws, hws, -, -, rfl⟩
      rw [map_eq_nil_iff.mp hws.symm, append_nil]
  | cons entry entries ih =>
    rw [readIdentities_cons]
    constructor
    · rintro ⟨w, hw, hseen, hrest⟩
      obtain ⟨ws, hws, hapart, hpairwise, rfl⟩ := ih.mp hrest
      refine ⟨w :: ws, ?_, ?_, ?_, ?_⟩
      · rw [map_cons, map_cons, hw, hws]
      · intro x hx v hv
        rcases mem_cons.mp hx with rfl | hx
        · exact hseen v hv
        · exact hapart x hx v (mem_cons_of_mem w hv)
      · exact pairwise_cons.mpr ⟨fun x hx => hapart x hx w mem_cons_self, hpairwise⟩
      · rw [reverse_cons, append_assoc, singleton_append]
    · rintro ⟨ws, hws, hapart, hpairwise, rfl⟩
      cases ws with
      | nil => cases hws
      | cons w ws =>
        rw [map_cons, map_cons, List.cons.injEq] at hws
        rw [pairwise_cons] at hpairwise
        refine ⟨w, hws.1, hapart w mem_cons_self, ih.mpr ⟨ws, hws.2, ?_, hpairwise.2, ?_⟩⟩
        · intro x hx v hv
          rcases mem_cons.mp hv with rfl | hv
          · exact hpairwise.1 x hx
          · exact hapart x (mem_cons_of_mem w hx) v hv
        · rw [reverse_cons, append_assoc, singleton_append]

/-- A hash is computed of entries that can be read and are apart. -/
theorem computeValidatorSetHash_eq_ok :
    computeValidatorSetHash entries = .ok hash ↔
      ∃ vs, entries.map readIdentity = vs.map .ok ∧ vs.Pairwise Apart ∧
        hash = identitiesHash vs := by
  simp only [computeValidatorSetHash, checks_eq_ok, readIdentities_eq_ok]
  constructor
  · rintro ⟨vs, ⟨ws, hws, -, hapart, hvs⟩, rfl⟩
    rw [reverse_nil, nil_append] at hvs
    exact ⟨ws, hws, hapart, by rw [hvs]⟩
  · rintro ⟨vs, hvs, hapart, rfl⟩
    exact ⟨vs, ⟨vs, hvs, by simp, hapart, rfl⟩, rfl⟩

/-- The hash of apart identities does not depend on their order. -/
theorem identitiesHash_perm {ws : List ValidatorIdentity} (h : vs.Perm ws)
    (apart : vs.Pairwise Apart) : identitiesHash vs = identitiesHash ws := by
  have hnodup : (vs.map ValidatorIdentity.nodeId).Nodup :=
    pairwise_map.mpr (apart.imp fun hvw => hvw.1)
  rw [identitiesHash, identitiesHash, mergeSort_eq_of_perm h hnodup]

/-- What is left of a list of successes by reordering it is a list of successes. -/
theorem exists_perm_of_map_ok {α : Type} {l : List (Except PyError α)} {vs : List α}
    (h : (vs.map Except.ok).Perm l) : ∃ ws, vs.Perm ws ∧ l = ws.map .ok := by
  have hok : ∀ x ∈ l, ∃ v, x = .ok v := by
    intro x hx
    obtain ⟨v, -, rfl⟩ := mem_map.mp (h.mem_iff.mpr hx)
    exact ⟨v, rfl⟩
  refine ⟨l.filterMap Except.toOption, ?_, ?_⟩
  · have hperm := h.filterMap Except.toOption
    rw [filterMap_map] at hperm
    simpa [Function.comp_def, Except.toOption] using hperm
  · clear h
    induction l with
    | nil => rfl
    | cons x l ih =>
      obtain ⟨v, rfl⟩ := hok x mem_cons_self
      rw [filterMap_cons_some (f := Except.toOption) (b := v) rfl, map_cons,
        ← ih fun y hy => hok y (mem_cons_of_mem _ hy)]

/-- The hash of a set does not depend on the order of its entries, nor on members that it
does not read. -/
theorem computeValidatorSetHash_perm {entries' : List Fields}
    (h : (entries.map readIdentity).Perm (entries'.map readIdentity))
    (hash_eq : computeValidatorSetHash entries = .ok hash) :
    computeValidatorSetHash entries' = .ok hash := by
  obtain ⟨vs, hvs, hapart, rfl⟩ := computeValidatorSetHash_eq_ok.mp hash_eq
  rw [hvs] at h
  obtain ⟨ws, hperm, hws⟩ := exists_perm_of_map_ok h
  refine computeValidatorSetHash_eq_ok.mpr ⟨ws, hws, ?_, identitiesHash_perm hperm hapart⟩
  exact hapart.perm hperm Apart.symm

/-! ## Sets that agree outside a change -/

def members (keys : List String) (entry : Fields) : List PyValue := keys.map (PyValue.get entry)

/-- The members that the set hash reads, the voting power apart. -/
def identityKeys : List String :=
  ["node_id", "operator_id", "consensus_address", "consensus_public_key", "stake"]

/-- The members that the set hash reads. -/
def hashedKeys : List String := "voting_power" :: identityKeys

theorem get_of_members_eq (h : members keys e = members keys e') {key : String} (hk : key ∈ keys) :
    PyValue.get e key = PyValue.get e' key :=
  map_inj_left.mp h key hk

theorem get_setMember (fields : Fields) (key : String) (value : PyValue) (other : String) :
    PyValue.get (setMember fields key value) other =
      if other = key then value else PyValue.get fields other := by
  rw [setMember]
  induction fields with
  | nil => exact PyValue.get_cons key value [] other
  | cons member fields ih =>
    obtain ⟨k, v⟩ := member
    rw [Dict.put]
    by_cases hk : k = key
    · subst hk
      rw [if_pos rfl, PyValue.get_cons, PyValue.get_cons]
      by_cases h : other = k
      · rw [if_pos h, if_pos h]
      · rw [if_neg h, if_neg h, if_neg h]
    · rw [if_neg hk, PyValue.get_cons, PyValue.get_cons, ih]
      by_cases h : other = k
      · have hne : other ≠ key := fun heq => hk (h.symm.trans heq)
        rw [if_pos h, if_neg hne, if_pos h]
      · rw [if_neg h, if_neg h]

/-- What the set hash reads off an entry depends on its hashed members only. -/
theorem readIdentity_congr (h : members hashedKeys e = members hashedKeys e') :
    readIdentity e = readIdentity e' := by
  have hget : ∀ key ∈ hashedKeys, PyValue.get e key = PyValue.get e' key := fun key hk =>
    get_of_members_eq h hk
  have hnode := hget "node_id" (by decide)
  have hoperator := hget "operator_id" (by decide)
  have haddress := hget "consensus_address" (by decide)
  have hkey := hget "consensus_public_key" (by decide)
  have hstake := hget "stake" (by decide)
  have hpower := hget "voting_power" (by decide)
  simp only [readIdentity, requireTexts, Fields.hasText, Fields.text, consensusKey, requireInt,
    hnode, hoperator, haddress, hkey, hstake, hpower]

/-- A changed power hides the power before it. -/
theorem members_withPower (h : members identityKeys e = members identityKeys e') (power : Int) :
    members hashedKeys (withPower e power) = members hashedKeys (withPower e' power) := by
  refine map_inj_left.mpr fun key hk => ?_
  rw [withPower, withPower, get_setMember, get_setMember]
  by_cases hp : key = "voting_power"
  · rw [if_pos hp, if_pos hp]
  · rw [if_neg hp, if_neg hp]
    exact get_of_members_eq h ((mem_cons.mp hk).resolve_left hp)

/-- Functions of an entry that depend on some members agree where these do. -/
theorem map_congr_of_members {β : Type} {f g : Fields → β} {o o' : Option Fields}
    (hf : ∀ e e', members keys e = members keys e' → f e = g e')
    (h : o.map (members keys) = o'.map (members keys)) : o.map f = o'.map g := by
  cases o with
  | none =>
    cases o' with
    | none => rfl
    | some e' => cases h
  | some e =>
    cases o' with
    | none => cases h
    | some e' =>
      rw [Option.map_some, Option.map_some, Option.some.injEq] at h ⊢
      exact hf e e' h

namespace MembershipChange

variable {c : MembershipChange} {active active' : Dict String Fields}

/-- A set that differs from another only where a change does not look: outside the nodes it
names the hashed members are the same; the nodes it adds are missing; the nodes it removes
are there, under keys that it does not add; the nodes it gives a power are the same up to
their power. -/
structure Agrees (c : MembershipChange) (active active' : Dict String Fields) : Prop where
  absent : ∀ a ∈ c.additions, active'.get? a.1 = none
  removable : ∀ n ∈ c.removals, ∃ e, active'.get? n = some e ∧
    ∀ a ∈ c.additions, consensusKey e ≠ consensusKey a.2
  powered : ∀ u ∈ c.powerUpdates,
    (active.get? u.1).map (members identityKeys) = (active'.get? u.1).map (members identityKeys)
  unnamed : ∀ n, n ∉ c.names →
    (active.get? n).map (members hashedKeys) = (active'.get? n).map (members hashedKeys)

/-- How a change can name a node. -/
theorem names_cases (c : MembershipChange) (n : String) :
    (∃ a ∈ c.additions, a.1 = n) ∨ n ∈ c.removals ∨ (∃ u ∈ c.powerUpdates, u.1 = n) ∨
      n ∉ c.names := by
  by_cases h : n ∈ c.names
  · simp only [names, mem_append, mem_map] at h
    rcases h with (h | h) | h
    · exact .inl h
    · exact .inr (.inl h)
    · exact .inr (.inr (.inl h))
  · exact .inr (.inr (.inr h))

/-- A change that fits a set fits every set that agrees with it. -/
theorem Agrees.fits (h : c.Agrees active active') (fits : c.Fits active) : c.Fits active' := by
  refine ⟨h.absent, ?_, fits.distinct, ?_, ?_⟩
  · intro a ha e he
    obtain ⟨n, hn⟩ := Dict.mem_values.mp he
    have hkept : ∀ {keys : List String}, "consensus_public_key" ∈ keys →
        (active.get? n).map (members keys) = (active'.get? n).map (members keys) →
        consensusKey e ≠ consensusKey a.2 := by
      intro keys hkeys hmap
      rw [hn] at hmap
      obtain ⟨e₀, hget, hmembers⟩ := Option.map_eq_some_iff.mp hmap
      have hkey : consensusKey e₀ = consensusKey e := by
        rw [consensusKey, consensusKey, Fields.text, Fields.text, get_of_members_eq hmembers hkeys]
      rw [← hkey]
      exact fits.fresh a ha e₀ (Dict.mem_values.mpr ⟨n, hget⟩)
    rcases c.names_cases n with ⟨b, hb, rfl⟩ | hr | ⟨u, hu, rfl⟩ | hn'
    · rw [h.absent b hb] at hn
      cases hn
    · obtain ⟨e', he', hne⟩ := h.removable n hr
      rw [hn] at he'
      cases he'
      exact hne a ha
    · exact hkept (by decide) (h.powered u hu)
    · exact hkept (by decide) (h.unnamed n hn')
  · intro n hn
    obtain ⟨e, he, -⟩ := h.removable n hn
    rw [he]
    rfl
  · intro u hu
    have hsome := fits.powered u hu
    rw [← Option.isSome_map (f := members identityKeys), h.powered u hu, Option.isSome_map] at hsome
    exact hsome

/-- The sets after a change have the same hash when the sets before it agree. -/
theorem Separate.hash_applyTo (s : c.Separate) (h : c.Agrees active active') {hash : String}
    (hash_eq : computeValidatorSetHash (c.applyTo active).values = .ok hash) :
    computeValidatorSetHash (c.applyTo active').values = .ok hash := by
  refine computeValidatorSetHash_perm (Dict.values_perm fun n => ?_) hash_eq
  rcases c.names_cases n with ⟨a, ha, rfl⟩ | hr | ⟨u, hu, rfl⟩ | hn
  · rw [s.get?_applyTo_of_added ha, s.get?_applyTo_of_added ha]
  · rw [s.get?_applyTo_of_removed hr, s.get?_applyTo_of_removed hr]
  · rw [s.get?_applyTo_of_powered hu, s.get?_applyTo_of_powered hu, Option.map_map, Option.map_map]
    refine map_congr_of_members (fun e e' he => ?_) (h.powered u hu)
    exact readIdentity_congr (members_withPower he u.2)
  · rw [get?_applyTo_of_unnamed hn, get?_applyTo_of_unnamed hn]
    exact map_congr_of_members (fun e e' => readIdentity_congr) (h.unnamed n hn)

/-- A change leaves a validator when it adds one or keeps an active one. -/
def LeavesMember (c : MembershipChange) (active : Dict String Fields) : Prop :=
  c.additions ≠ [] ∨ ∃ n, (active.get? n).isSome ∧ n ∉ c.removals

theorem Separate.exists_applyTo_iff (s : c.Separate) (fits : c.Fits active) :
    (∃ n, ((c.applyTo active).get? n).isSome) ↔ c.LeavesMember active := by
  constructor
  · rintro ⟨n, hn⟩
    rcases c.names_cases n with ⟨a, ha, rfl⟩ | hr | ⟨u, hu, rfl⟩ | hn'
    · exact .inl (ne_nil_of_mem ha)
    · rw [s.get?_applyTo_of_removed hr] at hn
      cases hn
    · refine .inr ⟨u.1, fits.powered u hu, ?_⟩
      exact s.powered_not_removed _ (mem_map.mpr ⟨u, hu, rfl⟩)
    · rw [get?_applyTo_of_unnamed hn'] at hn
      refine .inr ⟨n, hn, fun hr => hn' ?_⟩
      exact mem_append_left _ (mem_append_right _ hr)
  · rintro (hadd | ⟨n, hn, hr⟩)
    · obtain ⟨a, ha⟩ := exists_mem_of_ne_nil _ hadd
      exact ⟨a.1, by rw [s.get?_applyTo_of_added ha]; rfl⟩
    · refine ⟨n, ?_⟩
      rcases c.names_cases n with ⟨a, ha, rfl⟩ | hr' | ⟨u, hu, rfl⟩ | hn'
      · rw [s.get?_applyTo_of_added ha]
        rfl
      · exact absurd hr' hr
      · rw [s.get?_applyTo_of_powered hu, Option.isSome_map]
        exact hn
      · rw [get?_applyTo_of_unnamed hn']
        exact hn

end MembershipChange

/-! ## Exceptions -/

section Exceptions

theorem raises_decodeEd25519PublicKey {subject : String} {value : PyValue} :
    RaisesValue (decodeEd25519PublicKey subject value) := by
  unfold decodeEd25519PublicKey
  repeat' split
  all_goals first | exact raises_ok _ | exact raises_error rfl

theorem raises_entryNode {label : String} {entry : PyValue} :
    RaisesValue (entryNode label entry) := by
  cases entry with
  | dict fields => exact raises_require.bind fun _ _ => raises_ok _
  | _ => exact raises_error rfl

theorem raises_readChange {payload : Fields} : RaisesValue (readChange payload) := by
  have hlist : ∀ key complaint, RaisesValue (requireList payload key complaint) := by
    intro key complaint
    unfold requireList
    split
    · exact raises_ok _
    · exact raises_error rfl
  have haddition : ∀ entry, RaisesValue (readAddition entry) := fun _ =>
    raises_entryNode.bind fun _ _ => (raises_requireTexts _).bind fun _ _ =>
      raises_decodeEd25519PublicKey.bind fun _ _ => raises_requireInt.bind fun _ _ =>
        raises_requireInt.bind fun _ _ => raises_ok _
  have hremoval : ∀ entry, RaisesValue (readRemoval entry) := fun _ =>
    raises_entryNode.bind fun _ _ => raises_ok _
  have hpower : ∀ entry, RaisesValue (readPowerUpdate entry) := fun _ =>
    raises_entryNode.bind fun _ _ => raises_requireInt.bind fun _ _ => raises_ok _
  exact (hlist _ _).bind fun _ _ => (hlist _ _).bind fun _ _ => (hlist _ _).bind fun _ _ =>
    raises_require.bind fun _ _ => (raises_mapM fun _ _ => haddition _).bind fun _ _ =>
      (raises_mapM fun _ _ => hremoval _).bind fun _ _ =>
        (raises_mapM fun _ _ => hpower _).bind fun _ _ => raises_require.bind fun _ _ => raises_ok _

theorem raises_patchActive {change : MembershipChange} :
    RaisesValue (patchActive active change) := by
  have hstored : ∀ (stored : Option Fields) complaint,
      RaisesValue (requireStored stored complaint) := by
    intro stored complaint
    cases stored with
    | none => exact raises_error rfl
    | some entry => exact raises_ok entry
  have hadd : ∀ addition p, RaisesValue (addValidator p addition) := fun _ _ =>
    raises_require.bind fun _ _ => raises_require.bind fun _ _ => raises_ok _
  have hremove : ∀ nodeId p, RaisesValue (removeValidator p nodeId) := fun _ _ =>
    (hstored _ _).bind fun _ _ => raises_ok _
  have hpower : ∀ update p, RaisesValue (updatePower p update) := fun _ _ =>
    (hstored _ _).bind fun _ _ => raises_ok _
  exact (raises_foldlM (fun _ _ => hadd _) _).bind fun _ _ =>
    (raises_foldlM (fun _ _ => hremove _) _).bind fun _ _ => raises_foldlM (fun _ _ => hpower _) _

theorem raises_readIdentities : RaisesValue (readIdentities seen entries) := by
  induction entries generalizing seen with
  | nil => exact raises_ok _
  | cons entry entries ih =>
    have hkey : RaisesValue (validateEd25519PublicKey (PyValue.get entry "consensus_public_key")) :=
      raises_decodeEd25519PublicKey.bind fun _ _ => raises_ok _
    exact (raises_requireTexts _).bind fun _ _ => hkey.bind fun _ _ => raises_require.bind
      fun _ _ => raises_requireInt.bind fun _ _ => raises_requireInt.bind fun _ _ => ih

/-- Whatever a schedule holds, its activation raises nothing but `ValueError`. -/
theorem raises_activateValidatorSetUpdate {epoch : Int} {finalized : List String}
    {L : LedgerState} : RaisesValue (activateValidatorSetUpdate epoch finalized L) := by
  have hschedule : ∀ env, RaisesValue (readSchedule env) := fun _ =>
    raises_require.bind fun _ _ => raises_require.bind fun _ _ => raises_requireInt.bind fun _ _ =>
      raises_require.bind fun _ _ => (raises_requireTexts _).bind fun _ _ =>
        raises_readChange.bind fun _ _ => raises_ok _
  have hhash : ∀ entries, RaisesValue (computeValidatorSetHash entries) := fun _ =>
    raises_readIdentities.bind fun _ _ => raises_ok _
  have hvalid : ∀ env, RaisesValue (validateValidatorSetUpdate env false L) := fun _ =>
    (hschedule _).bind fun _ _ => raises_require.bind fun _ _ => raises_patchActive.bind fun _ _ =>
      (hhash _).bind fun _ _ => raises_require.bind fun _ _ => raises_ok _
  refine raises_require.bind fun _ _ => ?_
  split
  · exact raises_ok _
  · split
    · exact raises_ok _
    · exact raises_require.bind fun _ _ => (hvalid _).bind fun _ _ =>
        raises_patchActive.bind fun _ _ => raises_ok _

end Exceptions

end AidnSpec.Ledger
