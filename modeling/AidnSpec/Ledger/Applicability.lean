import AidnSpec.Ledger.Schedules
import AidnSpec.Ledger.Supply

/-!
# Applicable schedules

When an admitted schedule can be activated at the transition that opens its epoch. The set of a
schedule's admission is what its hash was computed from, so the schedule is applicable as long as
the active set agrees with it outside the schedule's own change; it leaves a validator exactly when
it adds one or keeps one.
-/

namespace AidnSpec.Ledger

open Base List

variable {active : Dict String Fields} {epoch : Int} {additions removals : List PyValue}
  {setHash operationId : String} {rejectExisting : Bool} {L : LedgerState}

theorem hash_sortKeys {hash : String} (h : computeValidatorSetHash active.values = .ok hash) :
    computeValidatorSetHash (active.sortKeys (· ≤ ·)).values = .ok hash := by
  refine computeValidatorSetHash_perm (Dict.values_perm fun n => ?_) h
  rw [Dict.get?_sortKeys]

/-- A set has a key exactly when some node reads back. -/
theorem keys_ne_nil_iff : active.keys ≠ [] ↔ ∃ n, (active.get? n).isSome := by
  rw [ne_eq, eq_nil_iff_forall_not_mem, not_forall_not]
  simp only [Dict.mem_keys]

/-- In every run, a schedule that was applied for an epoch activates when the epoch opens,
provided the active set then agrees with the active set of its admission; it leaves the set
whose hash it declared, and a validator exactly when it adds or keeps one. -/
theorem applied_schedule_activates [Runtime] [LedgerRules] {balances : Dict String Int}
    {manifest : Option Fields} {before later : List ChainEvent} {env : Envelope} {epoch : Int}
    {change : MembershipChange} {finalized : List String} {record : LedgerOperationRecord}
    {L₁ : LedgerState}
    (applied : applyValidatorSetUpdate env (runEvents (genesis balances manifest) before) =
      .ok record L₁)
    (schedule : readSchedule env = .ok (epoch, change))
    (pending : epoch ∉ (runEvents L₁ later).activatedValidatorSetEpochs)
    (earlier : env.operationId ∈ finalized)
    (agrees : change.Agrees (runEvents (genesis balances manifest) before).activeValidatorSet
      (runEvents L₁ later).activeValidatorSet) :
    ∃ updates L₃,
      activateValidatorSetUpdate epoch finalized (runEvents L₁ later) = .ok (updates, L₃) ∧
      computeValidatorSetHash L₃.activeValidatorSet.values =
        .ok (env.payload.text "validator_set_hash") ∧
      (L₃.activeValidatorSet.keys ≠ [] ↔
        change.LeavesMember (runEvents L₁ later).activeValidatorSet) := by
  obtain ⟨e, c, r, hvalid, henv, hcommitted⟩ := commitment_of_apply applied
  obtain ⟨hread, -, hfits, hdeclared⟩ := validateValidatorSetUpdate_eq_ok.mp hvalid
  rw [schedule] at hread
  cases hread
  subst henv
  have hscheduled : ScheduledOn r epoch change
      (runEvents (genesis balances manifest) before).activeValidatorSet :=
    ⟨schedule, hfits, hdeclared⟩
  have hmet := hscheduled.of_agrees agrees
  refine ⟨_, _, hmet.activate (commitment_runEvents hcommitted) pending earlier,
    hash_sortKeys hmet.declared, ?_⟩
  rw [keys_ne_nil_iff, ← hmet.separate.exists_applyTo_iff hmet.fits]
  simp only [LedgerState.activated, Dict.get?_sortKeys]

/-! ## Two pending schedules -/

def zeroKey : String := "ed25519:AAAAAAAAAAAAAAAAAAAAAAAAAAAAAAAAAAAAAAAAAAA="

def firstValidator : Fields :=
  [("node_id", .str "node-1"), ("operator_id", .str "operator-1"),
    ("consensus_address", .str "address-1"), ("consensus_public_key", .str zeroKey),
    ("stake", .int 100), ("voting_power", .int 10)]

/-- What the set hash reads off the validator. -/
def firstIdentity : ValidatorIdentity :=
  ⟨"node-1", "operator-1", "address-1", zeroKey, 100, 10⟩

def scheduleEnvelope (epoch : Int) (additions removals : List PyValue) (setHash : String)
    (operationId : String) : Envelope where
  operationType := "CONSENSUS_VALIDATOR_SET_UPDATE"
  originType := .protocol
  createdAt := "2026-01-01T00:00:00Z"
  payload :=
    [("activation_epoch", .int epoch), ("validator_additions", .list additions),
      ("validator_removals", .list removals), ("voting_power_updates", .list []),
      ("validator_set_hash", .str setHash), ("eligibility_evidence_root",
      .str "sha256:eligibility")]
  operationId := operationId

/-- Reading such a schedule. -/
theorem readSchedule_scheduleEnvelope {c : MembershipChange} (positive : 0 ≤ epoch)
    (declared : isBlank setHash = false) (changes : additions ≠ [] ∨ removals ≠ [])
    (added : additions.mapM readAddition = .ok c.additions)
    (removed : removals.mapM readRemoval = .ok c.removals) (powered : c.powerUpdates = [])
    (distinct : c.names.Nodup) :
    readSchedule (scheduleEnvelope epoch additions removals setHash operationId) =
      .ok (epoch, c) := by
  obtain ⟨cAdditions, cRemovals, cUpdates⟩ := c
  cases powered
  have hchange : readChange
      (scheduleEnvelope epoch additions removals setHash operationId).payload =
        .ok ⟨cAdditions, cRemovals, []⟩ := by
    simp only [readChange, checks_eq_ok, exists_unit]
    refine ⟨additions, rfl, removals, rfl, [], rfl, ?_, cAdditions, added, cRemovals, removed, [],
      rfl, decide_eq_true distinct, rfl⟩
    simpa using changes
  simp only [readSchedule, checks_eq_ok, exists_unit]
  refine ⟨rfl, rfl, epoch, ⟨rfl, decide_eq_true positive⟩, rfl, ?_, _, hchange, rfl⟩
  intro key hkey
  rcases mem_cons.mp hkey with rfl | hkey
  · show (!isBlank setHash) = true
    rw [declared]
    rfl
  · rw [mem_singleton.mp hkey]
    show (!isBlank "sha256:eligibility") = true
    decide

def addFirst : MembershipChange := ⟨[("node-1", firstValidator)], [], []⟩

def removeFirst : MembershipChange := ⟨[], ["node-1"], []⟩

theorem isBlank_identitiesHash (vs : List ValidatorIdentity) :
    isBlank (identitiesHash vs) = false :=
  isBlank_canonicalHash _

theorem readIdentity_firstValidator : readIdentity firstValidator = .ok firstIdentity := by
  rfl

theorem readSchedule_addFirst (positive : 0 ≤ epoch) :
    readSchedule (scheduleEnvelope epoch [.dict firstValidator] []
      (identitiesHash [firstIdentity]) operationId) = .ok (epoch, addFirst) :=
  readSchedule_scheduleEnvelope positive (isBlank_identitiesHash _) (.inl (by simp)) rfl rfl rfl
    (by decide)

/-- The schedule that adds the validator is valid while no validator is active. -/
theorem validate_addFirst (positive : 0 ≤ epoch)
    (new : rejectExisting = true → validatorSetUpdateCommitment L epoch = none)
    (empty : L.activeValidatorSet = .empty) :
    validateValidatorSetUpdate (scheduleEnvelope epoch [.dict firstValidator] []
      (identitiesHash [firstIdentity]) operationId) rejectExisting L = .ok (epoch, addFirst) := by
  refine validateValidatorSetUpdate_eq_ok.mpr ⟨readSchedule_addFirst positive, new, ?_, ?_⟩
  · rw [empty]
    constructor
    · intro a ha
      rfl
    · intro a ha e he
      cases he
    · decide
    · intro n hn
      cases hn
    · intro u hu
      cases hu
  · rw [empty]
    refine computeValidatorSetHash_eq_ok.mpr ⟨[firstIdentity], ?_, pairwise_singleton _ _, rfl⟩
    show [readIdentity firstValidator] = [.ok firstIdentity]
    rw [readIdentity_firstValidator]

/-- The schedule for epoch 1 and its identity. -/
def firstSchedule : Envelope :=
  scheduleEnvelope 1 [.dict firstValidator] [] (identitiesHash [firstIdentity])
    "94a43cbe9fd44c93f192f97b60eae28bec2aec4d3dd2703364b68908e92614c2"

def secondSchedule : Envelope :=
  scheduleEnvelope 2 [.dict firstValidator] [] (identitiesHash [firstIdentity])
    "bba64cc462a16c71e1f157fa539862995217a2db784e49963665e05fedd75cfd"

/-- The schedule for epoch 3 removes the validator again. -/
def thirdSchedule : Envelope :=
  scheduleEnvelope 3 [] [.dict [("node_id", .str "node-1")]] (identitiesHash [])
    "cfd4e5d4cf358d0f6560ec5317ab0ad614ccfb826fb57cb3500d2205ac7ffe73"

def onceScheduled : LedgerState :=
  (genesis .empty none).admitted firstSchedule ["ValidatorSetUpdateScheduled"] none

def twiceScheduled : LedgerState :=
  onceScheduled.admitted secondSchedule ["ValidatorSetUpdateScheduled"] none

def firstOpened : LedgerState := twiceScheduled.activated 1 addFirst

def thriceScheduled : LedgerState :=
  firstOpened.admitted thirdSchedule ["ValidatorSetUpdateScheduled"] none

/-- The operations that the blocks before an opening finalized. -/
def finalizedSchedules : List String :=
  [firstSchedule.operationId, secondSchedule.operationId, thirdSchedule.operationId]

theorem apply_firstSchedule :
    applyValidatorSetUpdate firstSchedule (genesis .empty none) =
      .ok (admittedRecord (genesis .empty none) firstSchedule ["ValidatorSetUpdateScheduled"] none)
        onceScheduled :=
  applyConsensus_eq_ok.mpr ⟨_, _, validate_addFirst (by decide) (fun _ => rfl) rfl,
    (show Admits _ _ none by decide).admitEnvelope _, rfl⟩

theorem apply_secondSchedule :
    applyValidatorSetUpdate secondSchedule onceScheduled =
      .ok (admittedRecord onceScheduled secondSchedule ["ValidatorSetUpdateScheduled"] none)
        twiceScheduled :=
  applyConsensus_eq_ok.mpr ⟨_, _, validate_addFirst (by decide) (fun _ => rfl) rfl,
    (show Admits _ _ none by decide).admitEnvelope _, rfl⟩

theorem activate_firstSchedule :
    activateValidatorSetUpdate 1 finalizedSchedules twiceScheduled =
      .ok (addFirst.returnedUpdates .empty, firstOpened) :=
  activateValidatorSetUpdate_eq_ok.mpr ⟨by decide, .inr
    ⟨admittedRecord (genesis .empty none) firstSchedule ["ValidatorSetUpdateScheduled"] none, 1,
      addFirst, not_mem_nil, rfl, mem_cons_self,
      validate_addFirst (by decide) (fun h => nomatch h) rfl, rfl, rfl⟩⟩

theorem firstOpened_active :
    firstOpened.activeValidatorSet = Dict.empty.set "node-1" firstValidator := by
  apply Dict.ext
  exact mergeSort_singleton _

/-- The second schedule meets the validator that the first one added. -/
theorem activate_secondSchedule :
    activateValidatorSetUpdate 2 finalizedSchedules firstOpened =
      .error ⟨.value, "validator addition already exists in active set"⟩ := by
  have hcommitted : validatorSetUpdateCommitment firstOpened 2 =
      some (admittedRecord onceScheduled secondSchedule ["ValidatorSetUpdateScheduled"] none) := rfl
  have hcontains : firstOpened.activeValidatorSet.contains "node-1" = true := by
    rw [firstOpened_active]
    rfl
  have hpatch : patchActive firstOpened.activeValidatorSet addFirst =
      .error ⟨.value, "validator addition already exists in active set"⟩ := by
    simp only [patchActive, addFirst, foldlM_cons, addValidator, hcontains]
    rfl
  have hvalid : validateValidatorSetUpdate secondSchedule false firstOpened =
      .error ⟨.value, "validator addition already exists in active set"⟩ := by
    rw [validateValidatorSetUpdate, secondSchedule, readSchedule_addFirst (by decide)]
    simp only [bind, Except.bind, hpatch, Bool.false_and, Bool.not_false, require, if_true]
  exact activate_of_invalid (by decide) (by decide) hcommitted
    (mem_cons_of_mem _ mem_cons_self) hvalid

/-- The removal is valid while the validator is the only one. -/
theorem validate_thirdSchedule
    (new : rejectExisting = true → validatorSetUpdateCommitment L 3 = none)
    (active : L.activeValidatorSet = Dict.empty.set "node-1" firstValidator) :
    validateValidatorSetUpdate thirdSchedule rejectExisting L = .ok (3, removeFirst) := by
  have hread : readSchedule thirdSchedule = .ok (3, removeFirst) :=
    readSchedule_scheduleEnvelope (by decide) (isBlank_identitiesHash _) (.inr (by simp)) rfl rfl
      rfl (by decide)
  refine validateValidatorSetUpdate_eq_ok.mpr ⟨hread, new, ?_, ?_⟩
  · rw [active]
    constructor
    · intro a ha
      cases ha
    · intro a ha
      cases ha
    · exact nodup_nil
    · intro n hn
      rw [mem_singleton.mp hn]
      rfl
    · intro u hu
      cases hu
  · rw [active]
    exact computeValidatorSetHash_eq_ok.mpr ⟨[], rfl, .nil, rfl⟩

theorem apply_thirdSchedule :
    applyValidatorSetUpdate thirdSchedule firstOpened =
      .ok (admittedRecord firstOpened thirdSchedule ["ValidatorSetUpdateScheduled"] none)
        thriceScheduled :=
  applyConsensus_eq_ok.mpr ⟨_, _, validate_thirdSchedule (fun _ => rfl) firstOpened_active,
    (show Admits _ _ none by decide).admitEnvelope _, rfl⟩

theorem activate_thirdSchedule :
    activateValidatorSetUpdate 3 finalizedSchedules thriceScheduled =
      .ok (removeFirst.returnedUpdates thriceScheduled.activeValidatorSet,
        thriceScheduled.activated 3 removeFirst) :=
  activateValidatorSetUpdate_eq_ok.mpr ⟨by decide, .inr
    ⟨admittedRecord firstOpened thirdSchedule ["ValidatorSetUpdateScheduled"] none, 3,
      removeFirst, by decide, rfl, mem_cons_of_mem _ (mem_cons_of_mem _
        mem_cons_self),
      validate_thirdSchedule (fun h => nomatch h) firstOpened_active, rfl, rfl⟩⟩

def openedRun : List ChainEvent :=
  [.operation (.validatorSetUpdate firstSchedule), .operation (.validatorSetUpdate secondSchedule),
    .activation 1 finalizedSchedules]

section Run

variable [Runtime] [LedgerRules]

theorem after_firstSchedule :
    (ConsensusOp.validatorSetUpdate firstSchedule).after (genesis .empty none) = onceScheduled :=
  ConsensusOp.after_of_ok apply_firstSchedule

theorem after_secondSchedule :
    (ConsensusOp.validatorSetUpdate secondSchedule).after onceScheduled = twiceScheduled :=
  ConsensusOp.after_of_ok apply_secondSchedule

theorem runEvents_openedRun : runEvents (genesis .empty none) openedRun = firstOpened := by
  simp only [openedRun, runEvents, ChainEvent.after, after_firstSchedule, after_secondSchedule,
    activate_firstSchedule]

end Run

/-- The schedule for epoch 2 was applied and is finalized, and raises when epoch 2 opens; the
schedule for epoch 3 was applied and leaves no validator. -/
theorem applied_schedules_fail :
    letI := sampleRuntime
    letI := noRules
    (∃ record, applyValidatorSetUpdate secondSchedule (runEvents (genesis .empty none)
        [.operation (.validatorSetUpdate firstSchedule)]) = .ok record twiceScheduled) ∧
      secondSchedule.operationId ∈ finalizedSchedules ∧
      activateValidatorSetUpdate 2 finalizedSchedules
          (runEvents twiceScheduled [.activation 1 finalizedSchedules]) =
        .error ⟨.value, "validator addition already exists in active set"⟩ ∧
      (∃ record, applyValidatorSetUpdate thirdSchedule (runEvents (genesis .empty none) openedRun) =
        .ok record thriceScheduled) ∧
      thirdSchedule.operationId ∈ finalizedSchedules ∧
      ∃ updates L₃, activateValidatorSetUpdate 3 finalizedSchedules thriceScheduled =
        .ok (updates, L₃) ∧ L₃.activeValidatorSet.keys = [] := by
  let _ := sampleRuntime
  let _ := noRules
  refine ⟨?_, List.mem_cons_of_mem _ List.mem_cons_self, ?_, ?_,
    List.mem_cons_of_mem _ (List.mem_cons_of_mem _ List.mem_cons_self), _, _,
    activate_thirdSchedule, ?_⟩
  · simp only [runEvents, ChainEvent.after, after_firstSchedule]
    exact ⟨_, apply_secondSchedule⟩
  · simp only [runEvents, ChainEvent.after, activate_firstSchedule]
    exact activate_secondSchedule
  · rw [runEvents_openedRun]
    exact ⟨_, apply_thirdSchedule⟩
  · rw [LedgerState.activated, thriceScheduled, LedgerState.admitted, firstOpened_active]
    exact congrArg (List.map Prod.fst) List.mergeSort_nil

/-- The schedule for epoch 1 activates with the other one pending. -/
theorem first_schedule_activates :
    letI := sampleRuntime
    letI := noRules
    let L := runEvents onceScheduled [.operation (.validatorSetUpdate secondSchedule)]
    addFirst.Agrees (genesis .empty none).activeValidatorSet L.activeValidatorSet ∧
      ∃ updates L₃, activateValidatorSetUpdate 1 finalizedSchedules L = .ok (updates, L₃) ∧
        computeValidatorSetHash L₃.activeValidatorSet.values =
          .ok (identitiesHash [firstIdentity]) ∧
        (L₃.activeValidatorSet.keys ≠ [] ↔ addFirst.LeavesMember L.activeValidatorSet) := by
  let _ := sampleRuntime
  let _ := noRules
  have hrun : runEvents onceScheduled [.operation (.validatorSetUpdate secondSchedule)] =
      twiceScheduled := after_secondSchedule
  have hagrees : addFirst.Agrees (genesis .empty none).activeValidatorSet
      (runEvents onceScheduled
        [.operation (.validatorSetUpdate secondSchedule)]).activeValidatorSet := by
    rw [hrun]
    exact ⟨fun _ _ => rfl, fun _ hn => absurd hn List.not_mem_nil, fun _ _ => rfl, fun _ _ => rfl⟩
  refine ⟨hagrees, ?_⟩
  have happlied : applyValidatorSetUpdate firstSchedule (runEvents (genesis .empty none) []) =
      .ok _ onceScheduled := apply_firstSchedule
  refine applied_schedule_activates happlied (readSchedule_addFirst (by decide)) ?_
    List.mem_cons_self hagrees
  rw [hrun]
  exact List.not_mem_nil

end AidnSpec.Ledger
