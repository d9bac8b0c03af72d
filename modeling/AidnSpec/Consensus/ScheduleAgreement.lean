import AidnSpec.Consensus.ValidatorSchedule
import AidnSpec.Ledger.Applicability

/-!
# Built schedules on the ledger

What a built schedule does to the ledger it was built for. The builder computes the set hash from
the candidates, the ledger from its own entries changed by the schedule: the two agree when every
selected incumbent is in the candidate list as it is in the active set.
-/

namespace AidnSpec.Consensus

open Base Ledger List

/-! ## The selection -/

section Selection

variable {limit target maxPerGroup : Nat} {s : Selection} {c : ValidatorCandidate}
  {l : List ValidatorCandidate}

/-- Taking a candidate adds it at the end or changes nothing. -/
theorem Selection.take_cases (s : Selection) (maxPerGroup : Nat) (c : ValidatorCandidate) :
    (s.take maxPerGroup c).selected = s.selected ∨
      (s.take maxPerGroup c).selected = s.selected ++ [c] := by
  simp only [Selection.take]
  split_ifs
  · exact .inl rfl
  · exact .inr rfl

/-- The retained incumbents are some of the incumbents, in their order. -/
theorem retainIncumbents_sublist : (retainIncumbents limit maxPerGroup l).selected.Sublist l := by
  suffices h : ∀ s : Selection, (l.foldl (fun s c => if limit ≤ s.selected.length then s
      else s.take maxPerGroup c) s).selected.Sublist (s.selected ++ l) from h {}
  induction l with
  | nil => simp
  | cons c l ih =>
    intro s
    rw [foldl_cons]
    refine (ih _).trans ?_
    have hskip : (s.selected ++ l).Sublist (s.selected ++ c :: l) :=
      (List.Sublist.refl _).append (sublist_cons_self c l)
    split_ifs
    · exact hskip
    · rcases s.take_cases maxPerGroup c with htake | htake
      · rw [htake]
        exact hskip
      · rw [htake, append_assoc, singleton_append]

theorem fillSelection_mem {x : ValidatorCandidate}
    (h : x ∈ (fillSelection target maxPerGroup s l).selected) : x ∈ s.selected ∨ x ∈ l := by
  unfold fillSelection at h
  induction l generalizing s with
  | nil => exact .inl h
  | cons c l ih =>
    rw [foldl_cons] at h
    rcases ih h with hs | hl
    · split_ifs at hs
      · exact .inl hs
      · exact .inl hs
      · rcases s.take_cases maxPerGroup c with htake | htake
        · rw [htake] at hs
          exact .inl hs
        · rw [htake, mem_append, mem_singleton] at hs
          rcases hs with hs | rfl
          · exact .inl hs
          · exact .inr mem_cons_self
    · exact .inr (mem_cons_of_mem c hl)

theorem fillSelection_nodup (h : s.selected.Nodup) :
    (fillSelection target maxPerGroup s l).selected.Nodup := by
  unfold fillSelection
  induction l generalizing s with
  | nil => exact h
  | cons c l ih =>
    rw [foldl_cons]
    apply ih
    split_ifs with _ hmem
    · exact h
    · exact h
    · rcases s.take_cases maxPerGroup c with htake | htake
      · rw [htake]
        exact h
      · rw [htake, nodup_append]
        refine ⟨h, nodup_singleton c, ?_⟩
        intro a ha b hb
        rw [mem_singleton.mp hb]
        rintro rfl
        exact hmem ha

end Selection

section Select

variable {config : ValidatorScheduleConfig} {candidates : List ValidatorCandidate}
  {active : Dict String Fields} {activationEpoch : Int} {selectionSeed : String}
  {suspensions : Dict String PyValue}

theorem mem_of_selectCandidates {c : ValidatorCandidate}
    (h : c ∈ selectCandidates config candidates active activationEpoch selectionSeed suspensions) :
    c ∈ candidates := by
  rw [selectCandidates, mem_mergeSort] at h
  rcases fillSelection_mem h with h | h
  · have hmem := retainIncumbents_sublist.mem h
    rw [mem_filter, mem_mergeSort, mem_filter] at hmem
    exact hmem.1.1
  · rw [mem_mergeSort, mem_filter] at h
    exact h.1

/-- What distinguishes the candidates distinguishes the selected ones. -/
theorem selectCandidates_nodup {f : ValidatorCandidate → String} (h : (candidates.map f).Nodup) :
    ((selectCandidates config candidates active activationEpoch selectionSeed suspensions).map
      f).Nodup := by
  have hselected : (selectCandidates config candidates active activationEpoch selectionSeed
      suspensions).Nodup := by
    rw [selectCandidates, (mergeSort_perm _ _).nodup_iff]
    apply fillSelection_nodup
    refine retainIncumbents_sublist.nodup (List.Nodup.filter _ ?_)
    rw [(mergeSort_perm _ _).nodup_iff]
    exact h.of_map.filter _
  refine List.Nodup.map_on ?_ hselected
  intro a ha b hb hab
  exact inj_on_of_nodup_map h (mem_of_selectCandidates ha) (mem_of_selectCandidates hb) hab

end Select

variable {u : Unit} {votingPower stake : Int} {active : Dict String Fields} {L : LedgerState}

/-- The candidates passed the loop exactly when node ids and keys occur once. -/
theorem requireDistinct_eq_ok {seen candidates : List ValidatorCandidate} :
    requireDistinct seen candidates = .ok u ↔
      (∀ c ∈ candidates, ∀ d ∈ seen,
        d.nodeId ≠ c.nodeId ∧ d.consensusPublicKey ≠ c.consensusPublicKey) ∧
      (candidates.map (·.nodeId)).Nodup ∧ (candidates.map (·.consensusPublicKey)).Nodup := by
  induction candidates generalizing seen with
  | nil => simp [requireDistinct]
  | cons c candidates ih =>
    simp only [requireDistinct, checks_eq_ok, exists_unit, Bool.not_eq_true', any_eq_false,
      beq_iff_eq, ih, map_cons, nodup_cons, forall_mem_cons, mem_map,
      not_exists, not_and]
    constructor
    · rintro ⟨hnode, hkey, hrest, hnodes, hkeys⟩
      refine ⟨⟨fun d hd => ⟨hnode d hd, hkey d hd⟩, fun x hx => (hrest x hx).2⟩, ⟨?_, hnodes⟩, ?_,
        hkeys⟩
      · exact fun x hx h => (hrest x hx).1.1 h.symm
      · exact fun x hx h => (hrest x hx).1.2 h.symm
    · rintro ⟨⟨hc, hrest⟩, ⟨hnode, hnodes⟩, hkey, hkeys⟩
      refine ⟨fun d hd => (hc d hd).1, fun d hd => (hc d hd).2, fun x hx => ⟨⟨?_, ?_⟩, hrest x hx⟩,
        hnodes, hkeys⟩
      · exact fun h => hnode x hx h.symm
      · exact fun h => hkey x hx h.symm

/-! ## The difference to the active set -/

def committedSet (votingPower : Int) (selected : List ValidatorCandidate)
    (distinct : (selected.map (·.nodeId)).Nodup) : Dict String Fields :=
  ⟨selected.map fun c => (c.nodeId, c.entry votingPower), by
    rw [map_map]
    exact distinct⟩

section Difference

variable {config : ValidatorScheduleConfig} {selected : List ValidatorCandidate}
  {active : Dict String Fields}

variable {votingPower : Int} {distinct : (selected.map (·.nodeId)).Nodup} {c : ValidatorCandidate}
  {n : String} {e : Fields}

theorem get?_committedSet_of_mem (h : c ∈ selected) :
    (committedSet votingPower selected distinct).get? c.nodeId = some (c.entry votingPower) :=
  Dict.get?_eq_some_iff.mpr (mem_map.mpr ⟨c, h, rfl⟩)

theorem get?_committedSet_of_notMem (h : ∀ c ∈ selected, c.nodeId ≠ n) :
    (committedSet votingPower selected distinct).get? n = none := by
  rw [Option.eq_none_iff_forall_ne_some]
  intro e he
  obtain ⟨c, hc, heq⟩ := mem_map.mp (Dict.get?_eq_some_iff.mp he)
  cases heq
  exact h c hc rfl

def scheduleChange (config : ValidatorScheduleConfig) (selected : List ValidatorCandidate)
    (active : Dict String Fields) : MembershipChange where
  additions := (addedCandidates selected active).map fun c =>
    (c.nodeId, c.entry config.equalVotingPower)
  removals := removedNodes selected active
  powerUpdates := (repoweredCandidates config selected active).map fun c =>
    (c.nodeId, config.equalVotingPower)

theorem mem_addedCandidates :
    c ∈ addedCandidates selected active ↔ c ∈ selected ∧ active.get? c.nodeId = none := by
  simp [addedCandidates, Dict.contains]

theorem mem_removedNodes :
    n ∈ removedNodes selected active ↔
      (active.get? n).isSome ∧ ∀ c ∈ selected, c.nodeId ≠ n := by
  simp only [removedNodes, mem_mergeSort, mem_filter, Dict.mem_keys, Bool.not_eq_true',
    any_eq_false, beq_iff_eq, ne_eq]

theorem mem_repoweredCandidates :
    c ∈ repoweredCandidates config selected active ↔
      c ∈ selected ∧ ∃ e, active.get? c.nodeId = some e ∧
        e.int "voting_power" ≠ config.equalVotingPower := by
  rw [repoweredCandidates, mem_filter]
  refine and_congr_right fun _ => ?_
  cases active.get? c.nodeId with
  | none => simp
  | some e => simp

/-- The nodes that the change of a schedule names. -/
theorem mem_names_scheduleChange :
    n ∈ (scheduleChange config selected active).names ↔
      (∃ c ∈ selected, c.nodeId = n ∧ active.get? n = none) ∨
      ((active.get? n).isSome ∧ ∀ c ∈ selected, c.nodeId ≠ n) ∨
      ∃ c ∈ selected, c.nodeId = n ∧
        ∃ e, active.get? n = some e ∧ e.int "voting_power" ≠ config.equalVotingPower := by
  simp only [MembershipChange.names, scheduleChange, mem_append, map_map, mem_map,
    Function.comp_apply, mem_addedCandidates, mem_removedNodes, mem_repoweredCandidates, or_assoc]
  refine or_congr ?_ (or_congr Iff.rfl ?_)
  · constructor
    · rintro ⟨c, ⟨hc, hnone⟩, rfl⟩
      exact ⟨c, hc, rfl, hnone⟩
    · rintro ⟨c, hc, rfl, hnone⟩
      exact ⟨c, ⟨hc, hnone⟩, rfl⟩
  · constructor
    · rintro ⟨c, ⟨hc, hpower⟩, rfl⟩
      exact ⟨c, hc, rfl, hpower⟩
    · rintro ⟨c, hc, rfl, hpower⟩
      exact ⟨c, ⟨hc, hpower⟩, rfl⟩

theorem separate_scheduleChange (config : ValidatorScheduleConfig) (active : Dict String Fields)
    (distinct : (selected.map (·.nodeId)).Nodup) :
    (scheduleChange config selected active).Separate := by
  have hnames : ∀ p : ValidatorCandidate → Bool,
      ((selected.filter p).map (·.nodeId)).Nodup := fun p =>
    distinct.sublist (filter_sublist.map _)
  have hadded : ∀ n, n ∈ (scheduleChange config selected active).additions.map Prod.fst →
      ∃ c ∈ selected, c.nodeId = n ∧ active.get? n = none := by
    intro n hn
    simp only [scheduleChange, map_map, mem_map, Function.comp_apply] at hn
    obtain ⟨c, hc, rfl⟩ := hn
    rw [mem_addedCandidates] at hc
    exact ⟨c, hc.1, rfl, hc.2⟩
  have hpowered : ∀ n, n ∈ (scheduleChange config selected active).powerUpdates.map Prod.fst →
      ∃ c ∈ selected, c.nodeId = n ∧ (active.get? n).isSome := by
    intro n hn
    simp only [scheduleChange, map_map, mem_map, Function.comp_apply] at hn
    obtain ⟨c, hc, rfl⟩ := hn
    obtain ⟨hsel, e, he, -⟩ := mem_repoweredCandidates.mp hc
    exact ⟨c, hsel, rfl, by rw [he]; rfl⟩
  constructor
  · rw [scheduleChange, map_map]
    exact hnames _
  · rw [scheduleChange, removedNodes, (mergeSort_perm _ _).nodup_iff]
    exact active.nodup.filter _
  · rw [scheduleChange, map_map]
    exact hnames _
  · intro n hn hadd
    obtain ⟨c, hc, hid, -⟩ := hadded n hadd
    exact (mem_removedNodes.mp hn).2 c hc hid
  · intro n hn hadd
    obtain ⟨-, -, -, hsome⟩ := hpowered n hn
    obtain ⟨-, -, -, hnone⟩ := hadded n hadd
    rw [hnone] at hsome
    cases hsome
  · intro n hn hrem
    obtain ⟨c, hc, hid, -⟩ := hpowered n hn
    exact (mem_removedNodes.mp hrem).2 c hc hid

/-- A node that is not selected is not in the set after the change. -/
theorem get?_applyTo_of_unselected (distinct : (selected.map (·.nodeId)).Nodup)
    (h : ∀ c ∈ selected, c.nodeId ≠ n) :
    ((scheduleChange config selected active).applyTo active).get? n = none := by
  by_cases hactive : (active.get? n).isSome
  · exact (separate_scheduleChange config active distinct).get?_applyTo_of_removed
      (mem_removedNodes.mpr ⟨hactive, h⟩)
  · rw [MembershipChange.get?_applyTo_of_unnamed]
    · simpa using hactive
    · rw [mem_names_scheduleChange]
      rintro (⟨c, hc, hid, -⟩ | ⟨hsome, -⟩ | ⟨c, hc, hid, -⟩)
      · exact h c hc hid
      · exact hactive hsome
      · exact h c hc hid

/-- A selected node that was not active has the entry of its candidate. -/
theorem get?_applyTo_of_new (distinct : (selected.map (·.nodeId)).Nodup) (h : c ∈ selected)
    (new : active.get? c.nodeId = none) :
    ((scheduleChange config selected active).applyTo active).get? c.nodeId =
      some (c.entry config.equalVotingPower) :=
  (separate_scheduleChange config active distinct).get?_applyTo_of_added
    (a := (c.nodeId, c.entry config.equalVotingPower))
    (mem_map.mpr ⟨c, mem_addedCandidates.mpr ⟨h, new⟩, rfl⟩)

/-- A selected node that was active keeps its entry, with the common voting power. -/
theorem get?_applyTo_of_incumbent (config : ValidatorScheduleConfig)
    (distinct : (selected.map (·.nodeId)).Nodup) (h : c ∈ selected)
    (active_eq : active.get? c.nodeId = some e)
    (valued : ∃ power, PyValue.get e "voting_power" = .int power) :
    ∃ e', ((scheduleChange config selected active).applyTo active).get? c.nodeId = some e' ∧
      members identityKeys e' = members identityKeys e ∧
      PyValue.get e' "voting_power" = .int config.equalVotingPower := by
  by_cases hpower : e.int "voting_power" = config.equalVotingPower
  · refine ⟨e, ?_, rfl, ?_⟩
    · rw [MembershipChange.get?_applyTo_of_unnamed, active_eq]
      rw [mem_names_scheduleChange]
      rintro (⟨-, -, -, hnone⟩ | ⟨-, hne⟩ | ⟨-, -, -, e₁, he₁, hne⟩)
      · rw [active_eq] at hnone
        cases hnone
      · exact hne c h rfl
      · rw [active_eq] at he₁
        cases he₁
        exact hne hpower
    · obtain ⟨power, hget⟩ := valued
      rw [← hpower, Fields.int_of_get hget, hget]
  · refine ⟨withPower e config.equalVotingPower, ?_, ?_, ?_⟩
    · have hmem : (c.nodeId, config.equalVotingPower) ∈
          (scheduleChange config selected active).powerUpdates :=
        mem_map.mpr ⟨c, mem_repoweredCandidates.mpr ⟨h, e, active_eq, hpower⟩, rfl⟩
      rw [(separate_scheduleChange config active distinct).get?_applyTo_of_powered hmem,
        active_eq, Option.map_some]
    · refine map_inj_left.mpr fun key hk => ?_
      rw [withPower, get_setMember, if_neg]
      rintro rfl
      exact absurd hk (by decide)
    · rw [withPower, get_setMember, if_pos rfl]

/-- A set holds exactly the candidates: every candidate with the members that the schedule
commits to, and no other node. -/
structure HoldsExactly (active : Dict String Fields) (votingPower : Int)
    (selected : List ValidatorCandidate) : Prop where
  holds : ∀ c ∈ selected, ∃ e, active.get? c.nodeId = some e ∧
    members hashedKeys e = members hashedKeys (c.entry votingPower)
  others : ∀ n, (active.get? n).isSome → ∃ c ∈ selected, c.nodeId = n

/-- An active entry has the operator, address, key and stake of a candidate. -/
def SameRecord (c : ValidatorCandidate) (e : Fields) : Prop :=
  PyValue.get e "operator_id" = .str c.operatorId ∧
    PyValue.get e "consensus_address" = .str c.consensusAddress ∧
    PyValue.get e "consensus_public_key" = .str c.consensusPublicKey ∧
    PyValue.get e "stake" = .int c.stake

theorem members_identityKeys_eq_iff :
    members identityKeys e = members identityKeys (c.entry votingPower) ↔
      PyValue.get e "node_id" = .str c.nodeId ∧ SameRecord c e := by
  have hentry : members identityKeys (c.entry votingPower) =
      [.str c.nodeId, .str c.operatorId, .str c.consensusAddress, .str c.consensusPublicKey,
        .int c.stake] := rfl
  rw [hentry]
  simp only [members, identityKeys, map_cons, map_nil, List.cons.injEq, and_true,
    SameRecord]

theorem members_hashedKeys_eq_iff {e' : Fields} :
    members hashedKeys e = members hashedKeys e' ↔
      PyValue.get e "voting_power" = PyValue.get e' "voting_power" ∧
        members identityKeys e = members identityKeys e' := by
  simp only [members, hashedKeys, map_cons, List.cons.injEq]

/-- The set after the change holds exactly the selected candidates when every selected
incumbent has the record of its candidate, and only then. -/
theorem holdsExactly_applyTo_iff (distinct : (selected.map (·.nodeId)).Nodup)
    (keyed : ∀ {n e}, active.get? n = some e → PyValue.get e "node_id" = .str n)
    (valued : ∀ {n e}, active.get? n = some e → ∃ power,
      PyValue.get e "voting_power" = .int power) :
    HoldsExactly ((scheduleChange config selected active).applyTo active) config.equalVotingPower
        selected ↔
      ∀ c ∈ selected, ∀ e, active.get? c.nodeId = some e → SameRecord c e := by
  constructor
  · intro h c hc e he
    obtain ⟨e₁, he₁, hmembers, -⟩ := get?_applyTo_of_incumbent config distinct hc he (valued he)
    obtain ⟨e₂, he₂, hhashed⟩ := h.holds c hc
    rw [he₁] at he₂
    cases he₂
    have hidentity := (members_hashedKeys_eq_iff.mp hhashed).2
    rw [hmembers] at hidentity
    exact (members_identityKeys_eq_iff.mp hidentity).2
  · intro h
    constructor
    · intro c hc
      cases hactive : active.get? c.nodeId with
      | none => exact ⟨_, get?_applyTo_of_new distinct hc hactive, rfl⟩
      | some e =>
        obtain ⟨e₁, he₁, hmembers, hpower⟩ := get?_applyTo_of_incumbent config distinct hc
          hactive (valued hactive)
        refine ⟨e₁, he₁, members_hashedKeys_eq_iff.mpr ⟨hpower, ?_⟩⟩
        rw [hmembers]
        exact members_identityKeys_eq_iff.mpr ⟨keyed hactive, h c hc e hactive⟩
    · intro n hn
      by_contra hnone
      rw [get?_applyTo_of_unselected distinct fun c hc hid => hnone ⟨c, hc, hid⟩] at hn
      cases hn

/-- A set that holds exactly the candidates has the hash that the builder computed. -/
theorem HoldsExactly.hash {hash : String} (h : HoldsExactly active votingPower selected)
    (distinct : (selected.map (·.nodeId)).Nodup)
    (hash_eq : computeValidatorSetHash (selected.map (·.entry votingPower)) = .ok hash) :
    computeValidatorSetHash active.values = .ok hash := by
  have hvalues : (committedSet votingPower selected distinct).values =
      selected.map (·.entry votingPower) := by
    rw [committedSet, Dict.values, map_map]
    rfl
  rw [← hvalues] at hash_eq
  refine computeValidatorSetHash_perm (Dict.values_perm fun n => ?_) hash_eq
  by_cases hn : ∃ c ∈ selected, c.nodeId = n
  · obtain ⟨c, hc, rfl⟩ := hn
    obtain ⟨e, he, hmembers⟩ := h.holds c hc
    rw [get?_committedSet_of_mem hc, he, Option.map_some, Option.map_some,
      readIdentity_congr hmembers]
  · have hnone : active.get? n = none := by
      by_contra hsome
      exact hn (h.others n (Option.isSome_iff_ne_none.mpr hsome))
    rw [get?_committedSet_of_notMem fun c hc hid => hn ⟨c, hc, hid⟩, hnone]

/-- The change of a schedule fits the active set it was built for. -/
theorem fits_scheduleChange (keys : (selected.map (·.consensusPublicKey)).Nodup)
    (free : ∀ c ∈ selected, ∀ n e, active.get? n = some e →
      consensusKey e = c.consensusPublicKey → n = c.nodeId) :
    (scheduleChange config selected active).Fits active := by
  constructor
  · intro a ha
    obtain ⟨c, hc, rfl⟩ := mem_map.mp ha
    exact (mem_addedCandidates.mp hc).2
  · intro a ha e he hkey
    obtain ⟨c, hc, rfl⟩ := mem_map.mp ha
    obtain ⟨hsel, hnone⟩ := mem_addedCandidates.mp hc
    obtain ⟨n, hn⟩ := Dict.mem_values.mp he
    rw [free c hsel n e hn hkey, hnone] at hn
    cases hn
  · rw [scheduleChange, map_map]
    exact keys.sublist (filter_sublist.map _)
  · intro n hn
    exact (mem_removedNodes.mp hn).1
  · intro u hu
    obtain ⟨c, hc, rfl⟩ := mem_map.mp hu
    obtain ⟨-, e, he, -⟩ := mem_repoweredCandidates.mp hc
    rw [he]
    rfl

/-- The change of a schedule depends on what the active set reads back. -/
theorem scheduleChange_congr {active' : Dict String Fields}
    (h : ∀ n, active.get? n = active'.get? n) :
    scheduleChange config selected active = scheduleChange config selected active' := by
  have hadded : addedCandidates selected active = addedCandidates selected active' := by
    simp only [addedCandidates, Dict.contains, h]
  have hrepowered : repoweredCandidates config selected active =
      repoweredCandidates config selected active' := by
    simp only [repoweredCandidates, h]
  have hremoved : removedNodes selected active = removedNodes selected active' := by
    have hperm := ((Dict.perm_of_get? h).map Prod.fst).filter
      fun n => !selected.any (·.nodeId == n)
    have hnodup : ((active.keys.filter fun n => !selected.any (·.nodeId == n)).map id).Nodup := by
      rw [map_id]
      exact active.nodup.filter _
    exact mergeSort_eq_of_perm hperm hnodup
  rw [scheduleChange, scheduleChange, hadded, hrepowered, hremoved]

end Difference

/-! ## The built schedule -/

/-- The builder and the ledger accept the same keys. -/
theorem decodeConsensusPublicKey_of_valid {value : PyValue}
    (h : validateEd25519PublicKey value = .ok u) :
    ∃ key, decodeConsensusPublicKey value = .ok key := by
  rw [validateEd25519PublicKey, bind_eq_ok] at h
  obtain ⟨key, hkey, -⟩ := h
  refine ⟨key, ?_⟩
  revert hkey
  rw [decodeConsensusPublicKey]
  unfold decodeEd25519PublicKey
  cases value with
  | str s =>
    dsimp only
    split_ifs
    · cases b64Decode (String.ofList (removePre "ed25519:".toList s.toList)) with
      | none => exact fun h => nomatch h
      | some decoded =>
        dsimp only
        split_ifs
        · exact id
        · exact fun h => nomatch h
    · exact fun h => nomatch h
  | _ => exact fun h => nomatch h

theorem ValidatorCandidate.hasText_of_mem (c : ValidatorCandidate) : ∀ t ∈ [c.nodeId, c.operatorId,
    c.consensusAddress, c.consensusPublicKey], (!isBlank t) = true := by
  intro t ht
  rw [c.texts t ht]
  rfl

/-- The ledger reads the entry of a candidate as an addition. -/
theorem readAddition_entry (c : ValidatorCandidate) (positive : 0 < votingPower) :
    readAddition (.dict (c.entry votingPower)) = .ok (c.nodeId, c.entry votingPower) := by
  have htext := c.hasText_of_mem
  obtain ⟨key, hkey⟩ := decodeConsensusPublicKey_of_valid c.validKey
  have hnode : entryNode "validator addition" (.dict (c.entry votingPower)) =
      .ok (c.nodeId, c.entry votingPower) := by
    simp only [entryNode, checks_eq_ok, exists_unit]
    exact ⟨htext c.nodeId (by simp), rfl⟩
  simp only [readAddition, checks_eq_ok, exists_unit, forall_mem_cons]
  refine ⟨(c.nodeId, c.entry votingPower), hnode, ⟨?_, ?_, ?_, ?_⟩, key, hkey, c.stake, ⟨rfl, ?_⟩,
    votingPower, ⟨rfl, decide_eq_true positive⟩, rfl⟩
  · exact htext c.operatorId (by simp)
  · exact htext c.consensusAddress (by simp)
  · exact htext c.consensusPublicKey (by simp)
  · exact forall_mem_nil _
  · exact decide_eq_true c.staked

/-- The set hash reads the entry of a candidate. -/
theorem readIdentity_entry (c : ValidatorCandidate) (positive : 0 < votingPower) :
    readIdentity (c.entry votingPower) = .ok ⟨c.nodeId, c.operatorId, c.consensusAddress,
      c.consensusPublicKey, c.stake, votingPower⟩ := by
  refine readIdentity_eq_ok.mpr
    ⟨?_, c.validKey, rfl, c.staked, rfl, positive, rfl, rfl, rfl, rfl⟩
  simp only [forall_mem_cons]
  have htext := c.hasText_of_mem
  exact ⟨htext c.nodeId (by simp), htext c.operatorId (by simp),
    htext c.consensusAddress (by simp), htext c.consensusPublicKey (by simp), fun _ h => nomatch h⟩

theorem computeValidatorSetHash_single (c : ValidatorCandidate) (positive : 0 < votingPower) :
    computeValidatorSetHash [c.entry votingPower] = .ok (identitiesHash [⟨c.nodeId, c.operatorId,
      c.consensusAddress, c.consensusPublicKey, c.stake, votingPower⟩]) := by
  refine computeValidatorSetHash_eq_ok.mpr ⟨_, ?_, pairwise_singleton _ _, rfl⟩
  exact congrArg (fun x => [x]) (readIdentity_entry c positive)

theorem computeParticipantSuspensionRoot_empty :
    computeParticipantSuspensionRoot .empty = .ok (canonicalHash (.list [])) := by
  rw [computeParticipantSuspensionRoot, Dict.sortKeys]
  simp only [Dict.empty, mergeSort_nil]
  rfl

section Build

variable {config : ValidatorScheduleConfig} {candidates : List ValidatorCandidate}
  {active : Dict String Fields} {activationEpoch : Int}
  {selectionSeed eligibilityEvidenceRoot : String} {suspensions : Dict String PyValue}
  {schedule : ValidatorSchedule}

/-- What a returned schedule is made of. -/
theorem buildSchedule_spec (h : buildSchedule config candidates active activationEpoch selectionSeed
      eligibilityEvidenceRoot suspensions = .ok schedule) :
    ∃ selected hash suspensionRoot,
      selected = selectCandidates config candidates active activationEpoch selectionSeed
        suspensions ∧
      0 ≤ activationEpoch ∧ isBlank eligibilityEvidenceRoot = false ∧
      (candidates.map (·.nodeId)).Nodup ∧ (candidates.map (·.consensusPublicKey)).Nodup ∧
      (∀ c ∈ selected, ∀ n e, active.get? n = some e →
        consensusKey e = c.consensusPublicKey → n = c.nodeId) ∧
      computeValidatorSetHash (selected.map (·.entry config.equalVotingPower)) = .ok hash ∧
      schedule.activationEpoch = activationEpoch ∧ schedule.selectedCandidates = selected ∧
      schedule.payload =
        [("activation_epoch", .int activationEpoch),
          ("candidate_selection_seed", .str selectionSeed),
          ("validator_additions", .list ((addedCandidates selected active).map fun c =>
            .dict (c.entry config.equalVotingPower))),
          ("validator_removals", .list ((removedNodes selected active).map fun n =>
            .dict [("node_id", .str n)])),
          ("voting_power_updates", .list ((repoweredCandidates config selected active).map fun c =>
            .dict [("node_id", .str c.nodeId), ("voting_power", .int config.equalVotingPower)])),
          ("validator_set_hash", .str hash),
          ("eligibility_evidence_root", .str eligibilityEvidenceRoot),
          ("participant_suspension_root", .str suspensionRoot)] := by
  simp only [buildSchedule, checks_eq_ok, exists_and_left, exists_const, decide_eq_true_eq,
    Bool.not_eq_true'] at h
  obtain ⟨hepoch, -, hroot, u, hdistinct, suspensionRoot, -, v, -, hfree, hash, hhash, rfl⟩ := h
  obtain ⟨-, hnodes, hkeys⟩ := requireDistinct_eq_ok.mp hdistinct
  refine ⟨_, hash, suspensionRoot, rfl, hepoch, hroot, hnodes, hkeys, ?_, hhash, rfl, rfl, rfl⟩
  intro c hc n e he hkey
  simp only [any_eq_false, Bool.not_eq_true, Bool.and_eq_false_iff, beq_eq_false_iff_ne,
    bne_eq_false_iff_eq] at hfree
  exact (hfree c hc (n, e) (Dict.get?_eq_some_iff.mp he)).resolve_left fun hne => hne hkey

/-- A schedule that changes the set is read back as its change. -/
theorem readSchedule_toEnvelope {selected : List ValidatorCandidate}
    (h : buildSchedule config candidates active activationEpoch selectionSeed
      eligibilityEvidenceRoot suspensions = .ok schedule)
    (selected_eq : schedule.selectedCandidates = selected)
    (named : ∀ {n}, (active.get? n).isSome → isBlank n = false)
    (changes : ∃ key ∈ ["validator_additions", "validator_removals", "voting_power_updates"],
      PyValue.get schedule.payload key ≠ .list [])
    (createdAt : String) (expiresAt : Option String) (initiatorId protocolVersion : String)
    (evidenceReferences signatures : List String) :
    readSchedule (schedule.toEnvelope createdAt expiresAt initiatorId protocolVersion
        evidenceReferences signatures) =
      .ok (activationEpoch, scheduleChange config selected active) := by
  obtain ⟨selected', hash, suspensionRoot, hselected, hepoch, hroot, hnodes, -, -, hhash,
    hactivation, hschedule, hpayload⟩ := buildSchedule_spec h
  rw [selected_eq] at hschedule
  subst hschedule
  have hdistinct : (selected.map (·.nodeId)).Nodup := by
    rw [hselected]
    exact selectCandidates_nodup hnodes
  obtain ⟨vs, -, -, hash_eq⟩ := computeValidatorSetHash_eq_ok.mp hhash
  have hremovals : ((removedNodes selected active).map fun n =>
      PyValue.dict [("node_id", .str n)]).mapM readRemoval = .ok
        (removedNodes selected active) := by
    rw [mapM_map_ok (k := id), map_id]
    intro n hn
    simp only [readRemoval, entryNode, checks_eq_ok, exists_unit]
    refine ⟨(n, [("node_id", .str n)]), ⟨?_, rfl⟩, rfl⟩
    show (!isBlank n) = true
    rw [named (mem_removedNodes.mp hn).1]
    rfl
  have hupdates : ((repoweredCandidates config selected active).map fun c =>
      PyValue.dict [("node_id", .str c.nodeId),
        ("voting_power", .int config.equalVotingPower)]).mapM
        readPowerUpdate =
      .ok ((repoweredCandidates config selected active).map fun c =>
        (c.nodeId, config.equalVotingPower)) := by
    apply mapM_map_ok
    intro c hc
    simp only [readPowerUpdate, entryNode, checks_eq_ok, exists_unit]
    refine ⟨(c.nodeId, _), ⟨?_, rfl⟩, config.equalVotingPower,
      ⟨rfl, decide_eq_true config.power_pos⟩, rfl⟩
    show (!isBlank c.nodeId) = true
    rw [c.texts c.nodeId mem_cons_self]
    rfl
  have hchange : Ledger.readChange schedule.payload = .ok
      (scheduleChange config selected active) := by
    simp only [Ledger.readChange, checks_eq_ok, exists_unit]
    rw [hpayload] at changes ⊢
    refine ⟨_, rfl, _, rfl, _, rfl, ?_, _, mapM_map_ok fun c _ =>
      readAddition_entry c config.power_pos,
      _, hremovals, _, hupdates,
      decide_eq_true (separate_scheduleChange config active hdistinct).nodup, rfl⟩
    by_contra hempty
    simp only [Bool.not_eq_true', Bool.not_eq_false, Bool.and_eq_true, List.isEmpty_iff] at hempty
    obtain ⟨key, hkey, hne⟩ := changes
    simp only [mem_cons, not_mem_nil, or_false] at hkey
    rcases hkey with rfl | rfl | rfl
    · exact hne (congrArg PyValue.list hempty.1.1)
    · exact hne (congrArg PyValue.list hempty.1.2)
    · exact hne (congrArg PyValue.list hempty.2)
  simp only [readSchedule, checks_eq_ok, exists_unit, List.forall_mem_cons]
  refine ⟨rfl, rfl, activationEpoch, ⟨?_, decide_eq_true hepoch⟩, ?_, ⟨?_, ?_, ?_⟩, _, hchange, rfl⟩
  · rw [ValidatorSchedule.toEnvelope, hpayload]
    rfl
  · show (toString schedule.activationEpoch == toString activationEpoch) = true
    rw [hactivation]
    exact beq_self_eq_true _
  · rw [ValidatorSchedule.toEnvelope, hpayload]
    show (!isBlank hash) = true
    rw [hash_eq, isBlank_identitiesHash]
    rfl
  · rw [ValidatorSchedule.toEnvelope, hpayload]
    show (!isBlank eligibilityEvidenceRoot) = true
    rw [hroot]
    rfl
  · exact forall_mem_nil _

end Build

/-! ## Landing on the selected candidates -/

/-- The ledger accepts the envelope of a schedule, and its activation leaves exactly the
selected candidates. -/
def LandsOn (config : ValidatorScheduleConfig) (schedule : ValidatorSchedule) (env : Envelope)
    (L : LedgerState) : Prop :=
  (∃ v, validateValidatorSetUpdate env true L = .ok v) ∧
    ∃ updates L', activateValidatorSetUpdate schedule.activationEpoch [env.operationId]
        (L.admitted env ["ValidatorSetUpdateScheduled"] none) = .ok (updates, L') ∧
      HoldsExactly L'.activeValidatorSet config.equalVotingPower schedule.selectedCandidates

theorem holdsExactly_sortKeys {selected : List ValidatorCandidate} :
    HoldsExactly (active.sortKeys (· ≤ ·)) votingPower selected ↔
      HoldsExactly active votingPower selected := by
  constructor
  · intro h
    exact ⟨by simpa using h.holds, by simpa using h.others⟩
  · intro h
    exact ⟨by simpa using h.holds, by simpa using h.others⟩

/-- An entry that can be read has a name and a voting power. -/
theorem named_and_valued (h : ValidatorsWellFormed L) {n : String} {e : Fields}
    (he : L.activeValidatorSet.get? n = some e) :
    isBlank n = false ∧ ∃ power, PyValue.get e "voting_power" = .int power := by
  obtain ⟨v, hv⟩ := h.readable he
  obtain ⟨htexts, -, -, -, hpower, -⟩ := readIdentity_eq_ok.mp hv
  refine ⟨?_, v.votingPower, hpower⟩
  have hnode := htexts "node_id" mem_cons_self
  rw [Fields.hasText, h.keyed he] at hnode
  simpa using hnode

/-- An accepted schedule is the one that is activated for its epoch. -/
theorem activate_admitted (h : ValidatorsWellFormed L) {env : Envelope} {epoch : Int}
    {c : MembershipChange} (read : readSchedule env = .ok (epoch, c))
    (new : validatorSetUpdateCommitment L epoch = none) (fits : c.Fits L.activeValidatorSet)
    (hash_eq : computeValidatorSetHash (c.applyTo L.activeValidatorSet).values =
      .ok (env.payload.text "validator_set_hash")) :
    activateValidatorSetUpdate epoch [env.operationId]
        (L.admitted env ["ValidatorSetUpdateScheduled"] none) =
      .ok (c.returnedUpdates L.activeValidatorSet,
        (L.admitted env ["ValidatorSetUpdateScheduled"] none).activated epoch c) := by
  obtain ⟨htype, hget, hpos, -⟩ := readSchedule_spec read
  have hpending : epoch ∉ L.activatedValidatorSetEpochs := by
    intro hmem
    have hsome := h.committed hmem
    rw [new] at hsome
    cases hsome
  have hcommitted : validatorSetUpdateCommitment
      (L.admitted env ["ValidatorSetUpdateScheduled"] none) epoch =
        some (admittedRecord L env ["ValidatorSetUpdateScheduled"] none) := by
    rw [validatorSetUpdateCommitment_append rfl, if_pos]
    simp only [LedgerOperationRecord.schedules, admittedRecord, htype, hget, valueEqInt,
      beq_self_eq_true, Bool.and_self]
  refine activateValidatorSetUpdate_eq_ok.mpr ⟨hpos, .inr ⟨_, epoch, c, hpending, hcommitted,
    mem_singleton.mpr rfl, ?_, rfl, rfl⟩⟩
  exact validateValidatorSetUpdate_eq_ok.mpr ⟨read, by simp, fits, hash_eq⟩

section Landing

variable {config : ValidatorScheduleConfig} {candidates : List ValidatorCandidate}
  {L : LedgerState} {activationEpoch : Int}
  {selectionSeed eligibilityEvidenceRoot : String} {suspensions : Dict String PyValue}
  {schedule : ValidatorSchedule}

/-- When a built schedule lands on the selected candidates, on a well-formed active set. -/
theorem landsOn_iff (wellFormed : ValidatorsWellFormed L)
    (built : buildSchedule config candidates (L.activeValidatorSet.sortKeys (· ≤ ·)) activationEpoch
      selectionSeed eligibilityEvidenceRoot suspensions = .ok schedule)
    (changes : ∃ key ∈ ["validator_additions", "validator_removals", "voting_power_updates"],
      PyValue.get schedule.payload key ≠ .list [])
    (createdAt : String) (expiresAt : Option String) (initiatorId protocolVersion : String)
    (evidenceReferences signatures : List String) :
    LandsOn config schedule (schedule.toEnvelope createdAt expiresAt initiatorId protocolVersion
        evidenceReferences signatures) L ↔
      validatorSetUpdateCommitment L activationEpoch = none ∧
        ∀ c ∈ selectCandidates config candidates (L.activeValidatorSet.sortKeys (· ≤ ·))
          activationEpoch selectionSeed suspensions,
          ∀ e, L.activeValidatorSet.get? c.nodeId = some e → SameRecord c e := by
  obtain ⟨selected, hash, _, hselected, -, -, hnodes, hkeys, hfree, hhash, hactivation, hschedule,
    hpayload⟩ := buildSchedule_spec built
  rw [← hselected]
  have hdistinct : (selected.map (·.nodeId)).Nodup := by
    rw [hselected]
    exact selectCandidates_nodup hnodes
  have hread := readSchedule_toEnvelope built hschedule
    (fun {n} hn => by
      rw [Dict.get?_sortKeys] at hn
      obtain ⟨e, he⟩ := Option.isSome_iff_exists.mp hn
      exact (named_and_valued wellFormed he).1)
    changes createdAt expiresAt initiatorId protocolVersion evidenceReferences signatures
  have hsorted : ∀ n, (L.activeValidatorSet.sortKeys (· ≤ ·)).get? n =
      L.activeValidatorSet.get? n := fun n => Dict.get?_sortKeys ..
  rw [scheduleChange_congr hsorted] at hread
  have hfits : (scheduleChange config selected L.activeValidatorSet).Fits L.activeValidatorSet := by
    refine fits_scheduleChange ?_ fun c hc n e he => hfree c hc n e ((hsorted n).trans he)
    rw [hselected]
    exact selectCandidates_nodup hkeys
  have hexact : HoldsExactly ((scheduleChange config selected L.activeValidatorSet).applyTo
        L.activeValidatorSet) config.equalVotingPower selected ↔ _ :=
    holdsExactly_applyTo_iff hdistinct wellFormed.keyed
      fun he => (named_and_valued wellFormed he).2
  rw [LandsOn, hactivation, hschedule]
  constructor
  · rintro ⟨⟨⟨epoch, c⟩, hvalid⟩, updates, L', hactivate, hholds⟩
    obtain ⟨hread', hnew, -, hdeclared⟩ := validateValidatorSetUpdate_eq_ok.mp hvalid
    rw [hread] at hread'
    cases hread'
    refine ⟨hnew rfl, hexact.mp ?_⟩
    rw [activate_admitted wellFormed hread (hnew rfl) hfits hdeclared] at hactivate
    cases hactivate
    exact holdsExactly_sortKeys.mp hholds
  · rintro ⟨hnew, hsame⟩
    have hholds := hexact.mpr hsame
    have hdeclared : computeValidatorSetHash ((scheduleChange config selected
        L.activeValidatorSet).applyTo L.activeValidatorSet).values =
          .ok ((schedule.toEnvelope createdAt expiresAt initiatorId protocolVersion
            evidenceReferences signatures).payload.text "validator_set_hash") := by
      rw [hholds.hash hdistinct hhash, ValidatorSchedule.toEnvelope, hpayload]
      rfl
    exact ⟨⟨_, validateValidatorSetUpdate_eq_ok.mpr ⟨hread, fun _ => hnew, hfits, hdeclared⟩⟩, _, _,
      activate_admitted wellFormed hread hnew hfits hdeclared, holdsExactly_sortKeys.mpr hholds⟩

/-- In every state of a chain, a built schedule that changes the set lands on the selected
candidates exactly when its epoch has no schedule yet and every selected incumbent is in the
candidate list as it is in the active set. -/
theorem built_schedule_lands_iff [Runtime] [LedgerRules] (reachable : ChainReachable L)
    (built : buildSchedule config candidates (L.activeValidatorSet.sortKeys (· ≤ ·)) activationEpoch
      selectionSeed eligibilityEvidenceRoot suspensions = .ok schedule)
    (changes : ∃ key ∈ ["validator_additions", "validator_removals", "voting_power_updates"],
      PyValue.get schedule.payload key ≠ .list [])
    (createdAt : String) (expiresAt : Option String) (initiatorId protocolVersion : String)
    (evidenceReferences signatures : List String) :
    LandsOn config schedule (schedule.toEnvelope createdAt expiresAt initiatorId protocolVersion
        evidenceReferences signatures) L ↔
      validatorSetUpdateCommitment L activationEpoch = none ∧
        ∀ c ∈ selectCandidates config candidates (L.activeValidatorSet.sortKeys (· ≤ ·))
          activationEpoch selectionSeed suspensions,
          ∀ e, L.activeValidatorSet.get? c.nodeId = some e → SameRecord c e :=
  landsOn_iff reachable.validatorsWellFormed built changes createdAt expiresAt initiatorId
    protocolVersion evidenceReferences signatures

end Landing

/-! ## An incumbent whose stake grew -/

def singleConfig : ValidatorScheduleConfig where
  targetValidatorCount := 1
  minimumStake := 100
  maxValidatorsPerKcg := 1
  retainedActiveFractionNumerator := 1
  retainedActiveFractionDenominator := 1
  equalVotingPower := 1
  target_pos := Nat.one_pos
  stake_pos := by decide
  group_pos := Nat.one_pos
  denominator_pos := Nat.one_pos
  power_pos := by decide
  fraction_le := Nat.one_pos

theorem named_none : ∀ p, none = some p → isBlank p = false := by
  simp

def firstCandidate (stake : Int) (enough : 100 ≤ stake) : ValidatorCandidate where
  nodeId := "node-1"
  operatorId := "operator-1"
  consensusAddress := "address-1"
  consensusPublicKey := Ledger.zeroKey
  stake := stake
  texts := by decide
  validKey := rfl
  staked := by omega
  validParticipant := named_none

theorem select_firstCandidate (enough : 100 ≤ stake) (incumbent : active.contains "node-1" = true) :
    selectCandidates singleConfig [firstCandidate stake enough] active 5 "seed" .empty =
      [firstCandidate stake enough] := by
  have heligible : [firstCandidate stake enough].filter (fun c => c.eligible &&
      singleConfig.minimumStake ≤ c.stake &&
        !(suspendedParticipants .empty 5).contains c.participant) =
      [firstCandidate stake enough] := by
    have henough :
        decide (singleConfig.minimumStake ≤ (firstCandidate stake enough).stake) = true :=
      decide_eq_true enough
    rw [filter_cons, henough]
    rfl
  have hincumbent : [firstCandidate stake enough].filter (fun c => active.contains c.nodeId) =
      [firstCandidate stake enough] := by
    rw [filter_cons, firstCandidate, incumbent]
    rfl
  rw [selectCandidates, heligible, mergeSort_singleton, hincumbent]
  exact mergeSort_singleton _

def singleActive : Dict String Fields := Dict.empty.set "node-1" firstValidator

theorem firstOpened_sorted : firstOpened.activeValidatorSet.sortKeys (· ≤ ·) = singleActive := by
  rw [firstOpened_active]
  apply Dict.ext
  exact mergeSort_singleton _

/-- The candidate gets a schedule that changes the voting power. -/
theorem build_firstCandidate (enough : 100 ≤ stake) :
    ∃ schedule, buildSchedule singleConfig [firstCandidate stake enough] singleActive 5 "seed"
        "sha256:root" .empty = .ok schedule ∧
      PyValue.get schedule.payload "voting_power_updates" ≠ .list [] := by
  have hselected := select_firstCandidate enough
    (show singleActive.contains "node-1" = true from rfl)
  have hdistinct : requireDistinct [] [firstCandidate stake enough] = .ok () := rfl
  have hsnapshot : validateActiveSnapshot [] singleActive.entries = .ok () := rfl
  have hhash := computeValidatorSetHash_single (firstCandidate stake enough) singleConfig.power_pos
  simp only [buildSchedule, checks_eq_ok, exists_and_left, exists_const, hselected]
  exact ⟨_, ⟨rfl, rfl, rfl, (), hdistinct, _, computeParticipantSuspensionRoot_empty, (), hsnapshot,
    rfl, _, hhash, rfl⟩, by rintro ⟨⟩⟩

/-- The active validator is a candidate with a larger stake: the schedule is built and does
not land on it. -/
theorem restaked_incumbent_misses :
    letI := sampleRuntime
    letI := noRules
    ChainReachable firstOpened ∧
      ∃ schedule, buildSchedule singleConfig [firstCandidate 200 (by decide)]
          (firstOpened.activeValidatorSet.sortKeys (· ≤ ·)) 5 "seed" "sha256:root" .empty =
            .ok schedule ∧
        PyValue.get schedule.payload "voting_power_updates" ≠ .list [] ∧
        ¬ LandsOn singleConfig schedule (schedule.toEnvelope "2026-01-01T00:00:00Z" none
          "epoch-engine" "0.1" [] []) firstOpened := by
  let _ := sampleRuntime
  let _ := noRules
  have hreachable : ChainReachable firstOpened :=
    ⟨.empty, none, openedRun, runEvents_openedRun.symm⟩
  obtain ⟨schedule, hbuilt, hchanges⟩ := build_firstCandidate (show (100 : Int) ≤ 200 by decide)
  rw [← firstOpened_sorted] at hbuilt
  refine ⟨hreachable, schedule, hbuilt, hchanges, ?_⟩
  rw [landsOn_iff hreachable.validatorsWellFormed hbuilt ⟨_, by simp, hchanges⟩]
  rintro ⟨-, hsame⟩
  rw [firstOpened_sorted, select_firstCandidate _ rfl, firstOpened_active] at hsame
  obtain ⟨-, -, -, hstake⟩ := hsame _ List.mem_cons_self firstValidator rfl
  exact absurd hstake (by decide)

/-- The active validator is a candidate as it is: the schedule lands on it. -/
theorem unchanged_incumbent_lands :
    letI := sampleRuntime
    letI := noRules
    ∃ schedule, buildSchedule singleConfig [firstCandidate 100 (by decide)]
        (firstOpened.activeValidatorSet.sortKeys (· ≤ ·)) 5 "seed" "sha256:root" .empty =
          .ok schedule ∧
      LandsOn singleConfig schedule (schedule.toEnvelope "2026-01-01T00:00:00Z" none
        "epoch-engine" "0.1" [] []) firstOpened := by
  let _ := sampleRuntime
  let _ := noRules
  obtain ⟨schedule, hbuilt, hchanges⟩ := build_firstCandidate (show (100 : Int) ≤ 100 by decide)
  rw [← firstOpened_sorted] at hbuilt
  refine ⟨schedule, hbuilt, ?_⟩
  rw [built_schedule_lands_iff ⟨.empty, none, openedRun, runEvents_openedRun.symm⟩ hbuilt
    ⟨_, by simp, hchanges⟩]
  refine ⟨rfl, ?_⟩
  rw [firstOpened_sorted, select_firstCandidate _ rfl, firstOpened_active]
  intro c hc e he
  rw [List.mem_singleton.mp hc] at he ⊢
  cases he
  exact ⟨rfl, rfl, rfl, rfl⟩

end AidnSpec.Consensus
