import AidnSpec.Base.CappedSelection
import AidnSpec.Consensus.ScheduleAgreement

/-!
# The law of the selection

What `build_schedule` (`consensus/validator_schedule.py:356–514`) selects. An ungrouped candidate
counts under the key `independent:<node id>`, which a named group can bear as well. The selection is
the one of the groups exactly when this costs no place.
-/

namespace AidnSpec.Consensus

open Base Ledger List

/-! ## The loops -/

/-- The counts of a selection are those of its candidates, and no key is above the cap. -/
structure Tallied (cap : ℕ) (s : Selection) : Prop where
  counted : ∀ k, (s.groupCounts.get? k).getD 0 = (s.selected.map (·.groupKey)).count k
  capped : ∀ k, (s.selected.map (·.groupKey)).count k ≤ cap

section Loops

variable {cap limit : ℕ} {s : Selection} {c : ValidatorCandidate} {l : List ValidatorCandidate}

theorem tallied_empty (cap : ℕ) : Tallied cap {} := ⟨fun _ => rfl, fun _ => Nat.zero_le cap⟩

/-- A candidate is taken unless its key is full. -/
theorem take_spec (h : Tallied cap s) (c : ValidatorCandidate) :
    Tallied cap (s.take cap c) ∧
      ((s.take cap c).selected = s.selected ++ [c] ∨
        (s.take cap c).selected = s.selected ∧
          cap ≤ (s.selected.map (·.groupKey)).count c.groupKey) := by
  have hcount := h.counted c.groupKey
  unfold Selection.take
  dsimp only
  split_ifs with hfull
  · exact ⟨h, .inr ⟨rfl, hcount ▸ hfull⟩⟩
  · refine ⟨⟨fun k => ?_, fun k => ?_⟩, .inl rfl⟩
    · have hk := h.counted k
      rw [map_append, count_append, map_singleton, count_singleton]
      by_cases heq : c.groupKey = k
      · subst heq
        rw [Dict.get?_set_self, hcount]
        simp
      · rw [Dict.get?_set_of_ne _ _ (Ne.symm heq), hk]
        simp [heq]
    · have hk := h.capped k
      rw [map_append, count_append, map_singleton, count_singleton]
      by_cases heq : c.groupKey = k
      · subst heq
        simp only [beq_self_eq_true, if_true]
        omega
      · simpa [heq] using hk

/-- What the loop over the ordered candidates keeps, and that it leaves room only in full groups. -/
structure Filled (cap limit : ℕ) (s t : Selection) (l : List ValidatorCandidate) : Prop where
  tallied : Tallied cap t
  keeps : s.selected.Sublist t.selected
  atMost : s.selected.length ≤ limit → t.selected.length ≤ limit
  full : t.selected.length < limit → Maximal (·.groupKey) cap t.selected l

theorem filled_fillSelection (h : Tallied cap s) (limit : ℕ) (l : List ValidatorCandidate) :
    Filled cap limit s (fillSelection limit cap s l) l := by
  unfold fillSelection
  induction l generalizing s with
  | nil => exact ⟨h, List.Sublist.refl _, id, fun _ _ hx => absurd hx not_mem_nil⟩
  | cons c l ih =>
    rw [foldl_cons]
    by_cases hlimit : limit ≤ s.selected.length
    · have hrest := ih h
      rw [if_pos hlimit]
      exact ⟨hrest.tallied, hrest.keeps, hrest.atMost, fun hlt =>
        absurd (hrest.keeps.length_le.trans_lt hlt) (not_lt.mpr hlimit)⟩
    rw [if_neg hlimit]
    by_cases hmem : c ∈ s.selected
    · have hrest := ih h
      rw [if_pos hmem]
      refine ⟨hrest.tallied, hrest.keeps, hrest.atMost, fun hlt x hx hout => ?_⟩
      rcases mem_cons.mp hx with rfl | hx
      · exact absurd (hrest.keeps.mem hmem) hout
      · exact hrest.full hlt x hx hout
    · rw [if_neg hmem]
      obtain ⟨htallied, htake | ⟨htake, hfull⟩⟩ := take_spec h c
      · have hrest := ih htallied
        have hextends := hrest.keeps
        have hatMost := hrest.atMost
        rw [htake] at hextends hatMost
        refine ⟨hrest.tallied, (sublist_append_left _ _).trans hextends, fun _ => hatMost ?_,
          fun hlt x hx hout => ?_⟩
        · rw [length_append, length_singleton]
          omega
        · rcases mem_cons.mp hx with rfl | hx
          · exact absurd (hextends.mem (mem_append_right _ (mem_singleton_self x))) hout
          · exact hrest.full hlt x hx hout
      · have hrest := ih htallied
        have hextends := hrest.keeps
        have hatMost := hrest.atMost
        rw [htake] at hextends hatMost
        refine ⟨hrest.tallied, hextends, hatMost, fun hlt x hx hout => ?_⟩
        rcases mem_cons.mp hx with rfl | hx
        · exact hfull.trans ((hextends.map _).count_le _)
        · exact hrest.full hlt x hx hout

/-- The loop over distinct incumbents meets no candidate twice. -/
theorem retainIncumbents_eq (limit cap : ℕ) (nodup : l.Nodup) :
    retainIncumbents limit cap l = fillSelection limit cap {} l := by
  suffices h : ∀ s : Selection, (∀ c ∈ s.selected, c ∉ l) →
      l.foldl (fun s c => if limit ≤ s.selected.length then s else s.take cap c) s =
        fillSelection limit cap s l from h {} fun _ hc => absurd hc not_mem_nil
  unfold fillSelection
  induction l with
  | nil => exact fun _ _ => rfl
  | cons c l ih =>
    intro s hapart
    rw [nodup_cons] at nodup
    have hc : c ∉ s.selected := fun hc => hapart c hc mem_cons_self
    rw [foldl_cons, foldl_cons, if_neg hc]
    apply ih nodup.2
    intro d hd hdl
    split_ifs at hd
    · exact hapart d hd (mem_cons_of_mem c hdl)
    · rcases s.take_cases cap c with htake | htake
      · rw [htake] at hd
        exact hapart d hd (mem_cons_of_mem c hdl)
      · rw [htake, mem_append, mem_singleton] at hd
        rcases hd with hd | rfl
        · exact hapart d hd (mem_cons_of_mem c hdl)
        · exact nodup.1 hdl

theorem within_fillSelection (h : Tallied cap s) (nodup : s.selected.Nodup)
    (subset : s.selected ⊆ l) (limit : ℕ) :
    Within (·.groupKey) cap (fillSelection limit cap s l).selected l where
  nodup := fillSelection_nodup nodup
  subset _ hx := (fillSelection_mem hx).elim (fun h => subset h) id
  capped := (filled_fillSelection h limit l).tallied.capped

/-- The loop selects as many candidates as the limit and the caps allow. -/
theorem length_fillSelection (h : Tallied cap s) (nodup : s.selected.Nodup)
    (subset : s.selected ⊆ l) (atMost : s.selected.length ≤ limit) (distinct : l.Nodup) :
    (fillSelection limit cap s l).selected.length = min limit (capacity (·.groupKey) cap l) :=
  have hfilled := filled_fillSelection h limit l
  (within_fillSelection h nodup subset limit).length_eq_min distinct (hfilled.atMost atMost)
    hfilled.full

end Loops

/-! ## The order of the candidates -/

section Order

variable {selectionSeed : String} {a b c : ValidatorCandidate}

theorem rankLe_iff : rankLe selectionSeed a b = true ↔
    selectionRank selectionSeed a.nodeId < selectionRank selectionSeed b.nodeId ∨
      selectionRank selectionSeed a.nodeId = selectionRank selectionSeed b.nodeId ∧
        a.nodeId ≤ b.nodeId := by
  simp [rankLe]

theorem rankLe_trans (hab : rankLe selectionSeed a b = true)
    (hbc : rankLe selectionSeed b c = true) : rankLe selectionSeed a c = true := by
  rw [rankLe_iff] at hab hbc ⊢
  rcases hab with hab | ⟨hab, hnode⟩
  · rcases hbc with hbc | ⟨hbc, -⟩
    · exact .inl (List.lt_trans hab hbc)
    · exact .inl (hbc ▸ hab)
  · rw [hab]
    exact hbc.imp_right fun h => ⟨h.1, hnode.trans h.2⟩

theorem rankLe_total : rankLe selectionSeed a b = true ∨ rankLe selectionSeed b a = true := by
  rw [rankLe_iff, rankLe_iff]
  by_cases hab : selectionRank selectionSeed a.nodeId < selectionRank selectionSeed b.nodeId
  · exact .inl (.inl hab)
  by_cases hba : selectionRank selectionSeed b.nodeId < selectionRank selectionSeed a.nodeId
  · exact .inr (.inl hba)
  have heq := List.le_antisymm (List.not_lt.mp hba) (List.not_lt.mp hab)
  rcases le_total a.nodeId b.nodeId with hnode | hnode
  · exact .inl (.inr ⟨heq, hnode⟩)
  · exact .inr (.inr ⟨heq.symm, hnode⟩)

theorem nodeId_of_rankLe (hab : rankLe selectionSeed a b = true)
    (hba : rankLe selectionSeed b a = true) : a.nodeId = b.nodeId := by
  rw [rankLe_iff] at hab hba
  rcases hab with hab | ⟨heq, hnode⟩
  · rcases hba with hba | ⟨heq, -⟩
    · exact absurd hba (List.lt_asymm hab)
    · exact absurd hab (heq ▸ List.lt_irrefl _)
  · rcases hba with hba | ⟨-, hnode'⟩
    · exact absurd hba (heq ▸ List.lt_irrefl _)
    · exact le_antisymm hnode hnode'

/-- Candidates with distinct node ids have one order. -/
theorem mergeSort_rankLe_perm {xs ys : List ValidatorCandidate} (h : xs.Perm ys)
    (nodup : (xs.map (·.nodeId)).Nodup) :
    xs.mergeSort (rankLe selectionSeed) = ys.mergeSort (rankLe selectionSeed) := by
  have hsorted : ∀ l : List ValidatorCandidate,
      (l.mergeSort (rankLe selectionSeed)).Pairwise fun a b => rankLe selectionSeed a b = true :=
    pairwise_mergeSort (fun _ _ _ => rankLe_trans)
      fun _ _ => (Bool.or_eq_true _ _).mpr rankLe_total
  apply List.Perm.eq_of_pairwise _ (hsorted xs) (hsorted ys)
    (((mergeSort_perm xs _).trans h).trans (mergeSort_perm ys _).symm)
  intro a b ha hb hab hba
  exact inj_on_of_nodup_map nodup (mem_mergeSort.mp ha)
    (h.mem_iff.mpr (mem_mergeSort.mp hb)) (nodeId_of_rankLe hab hba)

end Order

/-! ## The law -/

/-- A control group: a named one, or a candidate alone. -/
inductive ControlGroup where
  | alone (nodeId : String)
  | named (group : String)
  deriving DecidableEq

def ValidatorCandidate.group (c : ValidatorCandidate) : ControlGroup :=
  match c.kcgId with
  | some group => if group.isEmpty then .alone c.nodeId else .named group
  | none => .alone c.nodeId

def ControlGroup.key : ControlGroup → String
  | alone nodeId => "independent:" ++ nodeId
  | named group => group

theorem groupKey_eq (c : ValidatorCandidate) : c.groupKey = c.group.key := by
  unfold ValidatorCandidate.groupKey ValidatorCandidate.group
  cases c.kcgId with
  | none => rfl
  | some group =>
    dsimp only
    split_ifs <;> rfl

/-- Candidates of one group have one key, so a cap of the keys is one of the groups. -/
theorem within_group {cap : ℕ} {selected xs : List ValidatorCandidate}
    (h : Within (·.groupKey) cap selected xs) : Within (·.group) cap selected xs where
  nodup := h.nodup
  subset := h.subset
  capped g := by
    have hkeys : selected.map (·.groupKey) = (selected.map (·.group)).map ControlGroup.key := by
      rw [map_map]
      exact map_congr_left fun c _ => groupKey_eq c
    apply le_trans _ (h.capped g.key)
    rw [hkeys]
    exact count_le_count_map

section Law

variable (config : ValidatorScheduleConfig) (candidates : List ValidatorCandidate)
  (active : Dict String Fields) (activationEpoch : Int) (selectionSeed : String)
  (suspensions : Dict String PyValue)

def eligibleCandidates : List ValidatorCandidate :=
  candidates.filter fun c => c.eligible && config.minimumStake ≤ c.stake &&
    !(suspendedParticipants suspensions activationEpoch).contains c.participant

/-- The active ones of them. -/
def incumbentCandidates : List ValidatorCandidate :=
  (eligibleCandidates config candidates activationEpoch suspensions).filter
    fun c => active.contains c.nodeId

/-- The law of a selection that `build_schedule` returns. -/
structure SelectionLaw (eligibilityEvidenceRoot : String) (schedule : ValidatorSchedule) :
    Prop where
  admissible : ∀ c ∈ schedule.selectedCandidates, c ∈ candidates ∧ c.eligible = true ∧
    config.minimumStake ≤ c.stake ∧
    c.participant ∉ suspendedParticipants suspensions activationEpoch
  atMost : schedule.selectedCandidates.length ≤ config.targetValidatorCount
  capped : ∀ g, (schedule.selectedCandidates.map (·.group)).count g ≤ config.maxValidatorsPerKcg
  retained :
    let incumbents := incumbentCandidates config candidates active activationEpoch suspensions
    min (retentionLimit config incumbents.length)
        (capacity (·.group) config.maxValidatorsPerKcg incumbents) ≤
      (schedule.selectedCandidates.filter fun c => active.contains c.nodeId).length
  maximal : schedule.selectedCandidates.length < config.targetValidatorCount →
    Maximal (·.group) config.maxValidatorsPerKcg schedule.selectedCandidates
      (eligibleCandidates config candidates activationEpoch suspensions)
  unordered : ∀ permuted, candidates.Perm permuted → buildSchedule config permuted active
    activationEpoch selectionSeed eligibilityEvidenceRoot suspensions = .ok schedule

/-- Counted by keys, the candidates and the incumbents have as many places as by groups. -/
def KeysCostNoPlace : Prop :=
  let cap := config.maxValidatorsPerKcg
  let eligible := eligibleCandidates config candidates activationEpoch suspensions
  let incumbents := incumbentCandidates config candidates active activationEpoch suspensions
  let quota := retentionLimit config incumbents.length
  min config.targetValidatorCount (capacity (·.groupKey) cap eligible) =
      min config.targetValidatorCount (capacity (·.group) cap eligible) ∧
    min quota (capacity (·.groupKey) cap incumbents) = min quota (capacity (·.group) cap incumbents)

end Law

section Selected

variable {config : ValidatorScheduleConfig} {candidates : List ValidatorCandidate}
  {active : Dict String Fields} {activationEpoch : Int} {selectionSeed : String}
  {suspensions : Dict String PyValue}

theorem capacity_groupKey_le (cap : ℕ) {xs : List ValidatorCandidate} (nodup : xs.Nodup) :
    capacity (·.groupKey) cap xs ≤ capacity (·.group) cap xs := by
  have hlength := length_fillSelection (tallied_empty cap) nodup_nil (nil_subset xs)
    (Nat.zero_le xs.length) nodup
  have hwithin := within_fillSelection (tallied_empty cap) nodup_nil (nil_subset xs)
    xs.length
  have hle := (within_group hwithin).length_le
  have hcapacity := capacity_le_length (·.groupKey) cap xs
  omega

theorem retentionLimit_le (config : ValidatorScheduleConfig) (incumbents : ℕ) :
    retentionLimit config incumbents ≤ config.targetValidatorCount := by
  have htarget := config.target_pos
  have hfraction : config.targetValidatorCount * config.retainedActiveFractionNumerator /
      config.retainedActiveFractionDenominator ≤ config.targetValidatorCount :=
    Nat.div_le_of_le_mul ((Nat.mul_le_mul_left _ config.fraction_le).trans (Nat.mul_comm _ _).le)
  unfold retentionLimit
  dsimp only
  split_ifs <;> omega

/-- The two loops over candidates in any order. -/
theorem length_picks (config : ValidatorScheduleConfig) (active : Dict String Fields)
    {ordered : List ValidatorCandidate} (distinct : ordered.Nodup) :
    let incumbents := ordered.filter fun c => active.contains c.nodeId
    let quota := retentionLimit config incumbents.length
    let picks := (fillSelection config.targetValidatorCount config.maxValidatorsPerKcg
      (retainIncumbents quota config.maxValidatorsPerKcg incumbents) ordered).selected
    Within (·.groupKey) config.maxValidatorsPerKcg picks ordered ∧
      picks.length = min config.targetValidatorCount
        (capacity (·.groupKey) config.maxValidatorsPerKcg ordered) ∧
      min quota (capacity (·.groupKey) config.maxValidatorsPerKcg incumbents) ≤
        (picks.filter fun c => active.contains c.nodeId).length := by
  intro incumbents quota picks
  have htarget : quota ≤ config.targetValidatorCount := retentionLimit_le config _
  have hincumbents : incumbents.Nodup := distinct.filter _
  have hstart := tallied_empty config.maxValidatorsPerKcg
  have hretained := retainIncumbents_eq quota config.maxValidatorsPerKcg hincumbents
  have hfilled := filled_fillSelection hstart quota incumbents
  have hwithin := within_fillSelection hstart nodup_nil (nil_subset incumbents) quota
  have hkept := length_fillSelection hstart nodup_nil (nil_subset incumbents)
    (Nat.zero_le quota) hincumbents
  rw [← hretained] at hfilled hwithin hkept
  have hsubset := List.Subset.trans hwithin.subset (filter_subset_self ordered)
  have hkeeps := (filled_fillSelection hfilled.tallied config.targetValidatorCount ordered).keeps
  refine ⟨within_fillSelection hfilled.tallied hwithin.nodup hsubset _,
    length_fillSelection hfilled.tallied hwithin.nodup hsubset (by omega) distinct, ?_⟩
  rw [← hkept]
  apply List.Sublist.length_le
  rw [← filter_eq_self.mpr fun c hc => (mem_filter.mp (hwithin.subset hc)).2]
  exact hkeeps.filter _

/-- What is selected, counted by keys. -/
structure SelectsByKey (config : ValidatorScheduleConfig) (candidates : List ValidatorCandidate)
    (active : Dict String Fields) (activationEpoch : Int) (suspensions : Dict String PyValue)
    (selected : List ValidatorCandidate) : Prop where
  within : Within (·.groupKey) config.maxValidatorsPerKcg selected
    (eligibleCandidates config candidates activationEpoch suspensions)
  length : selected.length = min config.targetValidatorCount
    (capacity (·.groupKey) config.maxValidatorsPerKcg
      (eligibleCandidates config candidates activationEpoch suspensions))
  retained :
    let incumbents := incumbentCandidates config candidates active activationEpoch suspensions
    min (retentionLimit config incumbents.length)
        (capacity (·.groupKey) config.maxValidatorsPerKcg incumbents) ≤
      (selected.filter fun c => active.contains c.nodeId).length

theorem selectsByKey (nodup : candidates.Nodup) :
    SelectsByKey config candidates active activationEpoch suspensions
      (selectCandidates config candidates active activationEpoch selectionSeed suspensions) := by
  have hperm := mergeSort_perm
    (eligibleCandidates config candidates activationEpoch suspensions) (rankLe selectionSeed)
  have hincumbents := hperm.filter fun c => active.contains c.nodeId
  obtain ⟨hwithin, hlength, hretained⟩ := length_picks config active
    (hperm.nodup_iff.mpr (nodup.filter _))
  have hsorted : (selectCandidates config candidates active activationEpoch selectionSeed
      suspensions).Perm _ := mergeSort_perm _ _
  refine ⟨⟨hsorted.nodup_iff.mpr hwithin.nodup,
    fun _ hc => hperm.subset (hwithin.subset (hsorted.subset hc)), fun k => ?_⟩, ?_, ?_⟩
  · rw [(hsorted.map _).count_eq]
    exact hwithin.capped k
  · rw [hsorted.length_eq, ← capacity_perm hperm]
    exact hlength
  · dsimp only
    rw [(hsorted.filter _).length_eq, incumbentCandidates, ← hincumbents.length_eq,
      ← capacity_perm hincumbents]
    exact hretained

/-- The candidates in another order are selected alike. -/
theorem selectCandidates_perm {permuted : List ValidatorCandidate} (perm : candidates.Perm permuted)
    (nodup : (candidates.map (·.nodeId)).Nodup) :
    selectCandidates config candidates active activationEpoch selectionSeed suspensions =
      selectCandidates config permuted active activationEpoch selectionSeed suspensions := by
  have heligible := perm.filter fun c => c.eligible && config.minimumStake ≤ c.stake &&
    !(suspendedParticipants suspensions activationEpoch).contains c.participant
  unfold selectCandidates
  dsimp only
  rw [mergeSort_rankLe_perm heligible (nodup.sublist (filter_sublist.map _))]

variable {eligibilityEvidenceRoot : String} {schedule : ValidatorSchedule}

theorem buildSchedule_perm {permuted : List ValidatorCandidate} (perm : candidates.Perm permuted)
    (built : buildSchedule config candidates active activationEpoch selectionSeed
      eligibilityEvidenceRoot suspensions = .ok schedule) :
    buildSchedule config permuted active activationEpoch selectionSeed
      eligibilityEvidenceRoot suspensions = .ok schedule := by
  obtain ⟨_, _, _, -, -, -, hnodes, hkeys, -⟩ := buildSchedule_spec built
  have hdistinct : ∀ l : List ValidatorCandidate, candidates.Perm l →
      requireDistinct [] l = .ok () := by
    intro l hl
    refine requireDistinct_eq_ok.mpr ⟨fun _ _ _ hd => absurd hd not_mem_nil, ?_, ?_⟩
    · exact (hl.map _).nodup_iff.mp hnodes
    · exact (hl.map _).nodup_iff.mp hkeys
  rw [buildSchedule, hdistinct _ perm, ← selectCandidates_perm perm hnodes]
  rwa [buildSchedule, hdistinct _ (.refl _)] at built

/-- The schedules that are built obey the law exactly when the keys cost no place. -/
theorem selectionLaw_iff (built : buildSchedule config candidates active activationEpoch
      selectionSeed eligibilityEvidenceRoot suspensions = .ok schedule) :
    SelectionLaw config candidates active activationEpoch selectionSeed suspensions
        eligibilityEvidenceRoot schedule ↔
      KeysCostNoPlace config candidates active activationEpoch suspensions := by
  obtain ⟨_, _, _, rfl, -, -, hnodes, -, -, -, -, hselected, -⟩ := buildSchedule_spec built
  have hdistinct : candidates.Nodup := hnodes.of_map
  have heligible := hdistinct.filter fun c => c.eligible && config.minimumStake ≤ c.stake &&
    !(suspendedParticipants suspensions activationEpoch).contains c.participant
  obtain ⟨hwithin, hlength, hretained⟩ := hselected ▸ selectsByKey hdistinct
  have hgroups := within_group hwithin
  have hfills := hgroups.length_eq_iff heligible
  have hplaces := capacity_groupKey_le config.maxValidatorsPerKcg heligible
  have hincumbent := heligible.filter fun c => active.contains c.nodeId
  have hplaces' := capacity_groupKey_le config.maxValidatorsPerKcg hincumbent
  have hkept := (hwithin.filter fun c => active.contains c.nodeId).length_le
  constructor
  · intro h
    have hincumbents := h.retained
    dsimp only [incumbentCandidates, eligibleCandidates, KeysCostNoPlace] at *
    refine ⟨?_, by omega⟩
    by_cases hlt : schedule.selectedCandidates.length < config.targetValidatorCount
    · have hfull := hfills.mpr (h.maximal hlt)
      omega
    · omega
  · rintro ⟨hcandidates, hincumbents⟩
    dsimp only at hcandidates hincumbents hretained
    refine ⟨fun c hc => ?_, by omega, hgroups.capped, by dsimp only; omega, fun hlt => ?_,
      fun _ perm => buildSchedule_perm perm built⟩
    · have hc := hwithin.subset hc
      simpa [eligibleCandidates, and_assoc] using hc
    · apply hfills.mp
      dsimp only [eligibleCandidates] at *
      omega

end Selected

/-! ## A group with the key of a candidate without one -/

def pairConfig : ValidatorScheduleConfig where
  targetValidatorCount := 2
  minimumStake := 100
  maxValidatorsPerKcg := 1
  retainedActiveFractionNumerator := 1
  retainedActiveFractionDenominator := 1
  equalVotingPower := 1
  target_pos := by decide
  stake_pos := singleConfig.stake_pos
  group_pos := Nat.one_pos
  denominator_pos := Nat.one_pos
  power_pos := singleConfig.power_pos
  fraction_le := Nat.one_pos

def groupedCandidate : ValidatorCandidate where
  nodeId := "node-2"
  operatorId := "operator-2"
  consensusAddress := "address-2"
  consensusPublicKey := "ed25519:AQAAAAAAAAAAAAAAAAAAAAAAAAAAAAAAAAAAAAAAAAA="
  stake := 100
  kcgId := some "independent:node-1"
  texts := by decide
  validKey := rfl
  staked := singleConfig.stake_pos
  validParticipant := named_none

def sharedKeyCandidates : List ValidatorCandidate :=
  [firstCandidate 100 (by decide), groupedCandidate]

/-- A schedule with one of the two is built. -/
theorem build_sharedKey {config : ValidatorScheduleConfig}
    (heligible : eligibleCandidates config sharedKeyCandidates 5 .empty = sharedKeyCandidates)
    (hone : min config.targetValidatorCount
      (capacity (·.groupKey) config.maxValidatorsPerKcg sharedKeyCandidates) = 1) :
    ∃ schedule c, buildSchedule config sharedKeyCandidates .empty 5 "seed" "sha256:root" .empty =
        .ok schedule ∧ schedule.selectedCandidates = [c] ∧
      selectCandidates config sharedKeyCandidates .empty 5 "seed" .empty = [c] := by
  have hselects : SelectsByKey config sharedKeyCandidates .empty 5 .empty
      (selectCandidates config sharedKeyCandidates .empty 5 "seed" .empty) :=
    selectsByKey (by decide)
  have hlength : (selectCandidates config sharedKeyCandidates .empty 5 "seed" .empty).length =
      1 := by
    rw [hselects.length, heligible]
    exact hone
  obtain ⟨c, hc⟩ := List.length_eq_one_iff.mp hlength
  have hdistinct : requireDistinct [] sharedKeyCandidates = .ok () := rfl
  have hhash := computeValidatorSetHash_single c config.power_pos
  have hbuilt : ∃ schedule, buildSchedule config sharedKeyCandidates .empty 5 "seed"
      "sha256:root" .empty = .ok schedule ∧ schedule.selectedCandidates = [c] := by
    simp only [buildSchedule, checks_eq_ok, exists_and_left, exists_const, hc]
    exact ⟨_, ⟨rfl, rfl, rfl, (), hdistinct, _, computeParticipantSuspensionRoot_empty, (), rfl,
      by simp [Dict.empty], _, hhash, rfl⟩, rfl⟩
  obtain ⟨schedule, hschedule, hselected⟩ := hbuilt
  exact ⟨schedule, c, hschedule, hselected, hc⟩

/-- Where one place is to be filled, the shared key costs none. -/
theorem selectionLaw_one_place :
    ∃ schedule, buildSchedule singleConfig sharedKeyCandidates .empty 5 "seed" "sha256:root"
        .empty = .ok schedule ∧
      SelectionLaw singleConfig sharedKeyCandidates .empty 5 "seed" .empty "sha256:root"
        schedule := by
  obtain ⟨schedule, c, built, -, -⟩ := @build_sharedKey singleConfig rfl (by decide)
  exact ⟨schedule, built, (selectionLaw_iff built).mpr ⟨by decide, rfl⟩⟩

/-- One of two candidates of two groups is left out, with a place free. -/
theorem sharedKey_leaves_place :
    ∃ schedule, buildSchedule pairConfig sharedKeyCandidates .empty 5 "seed" "sha256:root" .empty =
        .ok schedule ∧
      ¬ SelectionLaw pairConfig sharedKeyCandidates .empty 5 "seed" .empty "sha256:root"
        schedule := by
  have hnodup : sharedKeyCandidates.Nodup := by decide
  have heligible : eligibleCandidates pairConfig sharedKeyCandidates 5 .empty =
      sharedKeyCandidates := rfl
  have htwo : capacity (·.group) 1 sharedKeyCandidates = 2 := by decide
  obtain ⟨schedule, c, hschedule, hselected, hc⟩ := build_sharedKey heligible (by decide)
  refine ⟨schedule, hschedule, fun hlaw => ?_⟩
  have hmaximal := hlaw.maximal
  rw [hselected, heligible] at hmaximal
  have hselects : SelectsByKey pairConfig sharedKeyCandidates .empty 5 .empty _ :=
    @selectsByKey _ _ _ _ "seed" _ hnodup
  have hwithin := within_group hselects.within
  rw [hc, heligible] at hwithin
  -- a maximal selection has one candidate of each group
  have hfull := (hwithin.length_eq_iff hnodup).mpr (hmaximal (show 1 < 2 by decide))
  exact absurd (hfull.trans htwo) (show ¬ 1 = 2 by decide)

end AidnSpec.Consensus
