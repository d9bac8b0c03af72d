import AidnSpec.Ledger.Membership
import AidnSpec.Ledger.OperationLog

/-!
# Scheduled validator sets over runs

A schedule is checked when it is admitted and again when its epoch opens. Between the two the ledger
keeps its record: no operation records another schedule for the same epoch. A schedule therefore
activates when the set it meets agrees with the set it was admitted against, outside what the
schedule itself changes.
-/

namespace AidnSpec.Ledger

open Base MembershipChange

/-! ## One schedule -/

variable {payload : Fields} {c : MembershipChange} {env : Envelope} {epoch : Int}
  {L L' : LedgerState} {finalized : List String} {r : LedgerOperationRecord}
  {op : LedgerM LedgerOperationRecord} {active : Dict String Fields}

/-- The nodes that a read change names are distinct. -/
theorem names_nodup_of_readChange (h : readChange payload = .ok c) : c.names.Nodup := by
  simp only [readChange, checks_eq_ok, exists_unit, decide_eq_true_eq] at h
  obtain ⟨-, -, -, -, -, -, -, additions, -, removals, -, powerUpdates, -, hnodup, rfl⟩ := h
  exact hnodup

/-- An addition is stored under the node id of its entry. -/
theorem keyed_of_readChange (h : readChange payload = .ok c) {a : String × Fields}
    (ha : a ∈ c.additions) : PyValue.get a.2 "node_id" = .str a.1 := by
  simp only [readChange, checks_eq_ok, exists_unit, decide_eq_true_eq] at h
  obtain ⟨items, -, _, -, _, -, -, additions, hadditions, _, -, _, -, -, rfl⟩ := h
  obtain ⟨x, -, hx⟩ := exists_of_mem_mapM hadditions ha
  simp only [readAddition, checks_eq_ok, exists_unit, Prod.exists] at hx
  obtain ⟨nodeId, fields, hnode, -, _, -, _, -, _, -, rfl⟩ := hx
  cases x with
  | dict members =>
    simp only [entryNode, checks_eq_ok, exists_unit, Prod.mk.injEq] at hnode
    obtain ⟨htext, rfl, rfl⟩ := hnode
    revert htext
    simp only [Fields.hasText, Fields.text]
    cases PyValue.get members "node_id" <;> simp
  | _ => cases hnode

theorem readSchedule_spec (h : readSchedule env = .ok (epoch, c)) :
    env.operationType = "CONSENSUS_VALIDATOR_SET_UPDATE" ∧
      PyValue.get env.payload "activation_epoch" = .int epoch ∧ 0 ≤ epoch ∧
      readChange env.payload = .ok c := by
  simp only [readSchedule, checks_eq_ok, exists_and_left, exists_const, decide_eq_true_eq,
    beq_iff_eq, Prod.mk.injEq] at h
  obtain ⟨htype, -, n, ⟨hget, hpos⟩, -, -, change, hread, rfl, rfl⟩ := h
  exact ⟨htype, hget, hpos, hread⟩

/-- When a schedule is valid: its change fits the active set and makes the declared set. -/
theorem validateValidatorSetUpdate_eq_ok {rejectExisting : Bool} :
    validateValidatorSetUpdate env rejectExisting L = .ok (epoch, c) ↔
      readSchedule env = .ok (epoch, c) ∧
      (rejectExisting = true → validatorSetUpdateCommitment L epoch = none) ∧
      c.Fits L.activeValidatorSet ∧
      computeValidatorSetHash (c.applyTo L.activeValidatorSet).values =
        .ok (env.payload.text "validator_set_hash") := by
  have hpatch : ∀ e change, readSchedule env = .ok (e, change) → change.Separate :=
    fun e change h =>
      separate_of_nodup (names_nodup_of_readChange (readSchedule_spec h).2.2.2)
  have hexisting : ∀ e, (!(rejectExisting && (validatorSetUpdateCommitment L e).isSome)) = true ↔
      (rejectExisting = true → validatorSetUpdateCommitment L e = none) := by
    intro e
    cases rejectExisting <;> simp
  simp only [validateValidatorSetUpdate, checks_eq_ok, exists_unit, Prod.exists, Prod.mk.injEq,
    hexisting, beq_iff_eq]
  constructor
  · rintro ⟨e, change, hread, hnew, p, hp, hash, hhash, hdeclared, rfl, rfl⟩
    obtain ⟨hfits, rfl⟩ := (hpatch _ _ hread).patchActive_eq_ok.mp hp
    exact ⟨hread, hnew, hfits, hdeclared ▸ hhash⟩
  · rintro ⟨hread, hnew, hfits, hhash⟩
    exact ⟨epoch, c, hread, hnew, _, (hpatch _ _ hread).patchActive_eq_ok.mpr ⟨hfits, rfl⟩, _,
      hhash, rfl, rfl, rfl⟩

/-- The updates of a change in the order in which they are returned. -/
def MembershipChange.returnedUpdates (c : MembershipChange) (active : Dict String Fields) :
    List ValidatorUpdate :=
  (c.updatesOn active).mergeSort ValidatorUpdate.le

def LedgerState.activated (L : LedgerState) (epoch : Int) (c : MembershipChange) : LedgerState :=
  { L with
    activeValidatorSet := (c.applyTo L.activeValidatorSet).sortKeys (· ≤ ·)
    activeValidatorSetEpoch := some epoch
    activatedValidatorSetEpochs := epoch :: L.activatedValidatorSetEpochs }

/-- What an activation does: nothing for an epoch that is done or has no schedule, else the
change of a finalized and still valid schedule. -/
theorem activateValidatorSetUpdate_eq_ok {updates : List ValidatorUpdate} :
    activateValidatorSetUpdate epoch finalized L = .ok (updates, L') ↔
      0 ≤ epoch ∧
      ((epoch ∈ L.activatedValidatorSetEpochs ∨ validatorSetUpdateCommitment L epoch = none) ∧
          updates = [] ∧ L' = L ∨
        ∃ scheduled e c, epoch ∉ L.activatedValidatorSetEpochs ∧
          validatorSetUpdateCommitment L epoch = some scheduled ∧
          scheduled.operationId ∈ finalized ∧
          validateValidatorSetUpdate scheduled.toEnvelope false L = .ok (e, c) ∧
          updates = c.returnedUpdates L.activeValidatorSet ∧ L' = L.activated epoch c) := by
  rw [activateValidatorSetUpdate, bind_eq_ok]
  simp only [require_eq_ok, decide_eq_true_eq, exists_and_left, exists_const]
  refine and_congr_right fun _ => ?_
  have hidle : (pure ([], L) : Except PyError (List ValidatorUpdate × LedgerState)) =
      .ok (updates, L') ↔ updates = [] ∧ L' = L := by
    rw [pure_eq_ok, Prod.mk.injEq]
    exact and_congr eq_comm eq_comm
  by_cases hdone : epoch ∈ L.activatedValidatorSetEpochs
  · rw [if_pos (List.contains_iff_mem.mpr hdone), hidle]
    simp [hdone]
  · rw [if_neg (by simpa using hdone)]
    cases hscheduled : validatorSetUpdateCommitment L epoch with
    | none =>
      rw [hidle]
      simp
    | some scheduled =>
      simp only [checks_eq_ok, Prod.exists, exists_and_left, exists_const, hdone, false_or,
        reduceCtorEq, false_and, not_false_eq_true, true_and, Option.some.injEq, exists_eq_left',
        List.contains_iff_mem, Prod.mk.injEq]
      refine and_congr_right fun _ => exists_congr fun e => exists_congr fun c =>
        and_congr_right fun hvalid => ?_
      obtain ⟨hread, -, hfits, -⟩ := validateValidatorSetUpdate_eq_ok.mp hvalid
      have hseparate := separate_of_nodup
        (names_nodup_of_readChange (readSchedule_spec hread).2.2.2)
      simp only [hseparate.patchActive_eq_ok, hfits, true_and, exists_eq_left]
      exact and_congr eq_comm eq_comm

/-- A finalized schedule that is no longer valid raises when its epoch opens. -/
theorem activate_of_invalid {e : PyError} (positive : 0 ≤ epoch)
    (pending : epoch ∉ L.activatedValidatorSetEpochs)
    (committed : validatorSetUpdateCommitment L epoch = some r)
    (earlier : r.operationId ∈ finalized)
    (invalid : validateValidatorSetUpdate r.toEnvelope false L = .error e) :
    activateValidatorSetUpdate epoch finalized L = .error e := by
  have hpending : L.activatedValidatorSetEpochs.contains epoch = false := by
    simpa using pending
  have hearlier : finalized.contains r.operationId = true := List.contains_iff_mem.mpr earlier
  rw [activateValidatorSetUpdate, committed, hpending]
  simp only [bind, Except.bind, require, decide_eq_true positive, if_true, hearlier, invalid,
    Bool.false_eq_true, if_false]

/-! ## Commitments -/

def LedgerOperationRecord.schedules (r : LedgerOperationRecord) (epoch : Int) : Bool :=
  r.operationType == "CONSENSUS_VALIDATOR_SET_UPDATE" &&
    valueEqInt (PyValue.get r.payload "activation_epoch") epoch

/-- The commitment of an epoch after one more record. -/
theorem validatorSetUpdateCommitment_append (h : L'.operations = L.operations ++ [r])
    (epoch : Int) :
    validatorSetUpdateCommitment L' epoch =
      if r.schedules epoch then some r else validatorSetUpdateCommitment L epoch := by
  rw [validatorSetUpdateCommitment, h, List.reverse_append, List.reverse_singleton,
    List.singleton_append, List.find?_cons, validatorSetUpdateCommitment]
  cases hr : r.schedules epoch with
  | true | false => simp only [LedgerOperationRecord.schedules] at hr; rw [hr]; rfl

theorem validatorSetUpdateCommitment_congr (h : L'.operations = L.operations) (epoch : Int) :
    validatorSetUpdateCommitment L' epoch = validatorSetUpdateCommitment L epoch := by
  rw [validatorSetUpdateCommitment, validatorSetUpdateCommitment, h]

/-- An envelope that is no schedule, or a schedule for an epoch that has none. -/
def KeepsCommitments (env : Envelope) (L : LedgerState) : Prop :=
  env.operationType = "CONSENSUS_VALIDATOR_SET_UPDATE" →
    ∃ v, validateValidatorSetUpdate env true L = .ok v

/-- A committed schedule stays committed when such an envelope is recorded. -/
theorem Records.commitment (h : Records op env (KeepsCommitments env))
    (committed : validatorSetUpdateCommitment L epoch = some r) :
    validatorSetUpdateCommitment (leaves op L) epoch = some r := by
  rcases h L with hcore | ⟨events, next, hkeeps, -, hcore⟩
  · rw [validatorSetUpdateCommitment_congr (congrArg LedgerCore.operations hcore), committed]
  · rw [validatorSetUpdateCommitment_append (congrArg LedgerCore.operations hcore) epoch,
      if_neg, committed]
    intro hschedules
    simp only [LedgerOperationRecord.schedules, Bool.and_eq_true, beq_iff_eq] at hschedules
    obtain ⟨⟨e, c⟩, hvalid⟩ := hkeeps hschedules.1
    obtain ⟨hread, hnew, -, -⟩ := validateValidatorSetUpdate_eq_ok.mp hvalid
    have hget : PyValue.get env.payload "activation_epoch" = .int e := (readSchedule_spec hread).2.1
    have hepoch : e = epoch := by
      have heq := hschedules.2
      rw [admittedRecord, hget] at heq
      exact beq_iff_eq.mp heq
    rw [hepoch, committed] at hnew
    cases hnew rfl

theorem Records.mono {P Q : LedgerState → Prop} (h : Records op env P) (imp : ∀ L, P L → Q L) :
    Records op env Q := by
  intro L
  rcases h L with hcore | ⟨events, next, hP, hadmits, hcore⟩
  · exact .inl hcore
  · exact .inr ⟨events, next, imp L hP, hadmits, hcore⟩

section Runs

variable [Runtime] [LedgerRules]

/-- No operation replaces a committed schedule. -/
theorem ConsensusOp.records_keepsCommitments (op : ConsensusOp) :
    Records op.apply op.envelope (KeepsCommitments op.envelope) := by
  by_cases h : "CONSENSUS_VALIDATOR_SET_UPDATE" ∈ op.operationTypes
  · rw [op.eq_of_operationTypes.1 h]
    exact (writes_applyConsensus (fun _ v hv _ => ⟨v, hv⟩) fun _ => keeps_pure _).commits.records
      fun _ _ h => h
  · refine op.records.mono fun L htype heq => absurd ?_ h
    rw [← heq]
    exact htype

/-! ## Runs of admissions and activations -/

/-- What happens to a ledger of a chain: an operation runs, or an epoch opens and activates
its schedule, given the operations finalized before the block. -/
inductive ChainEvent where
  | operation (op : ConsensusOp)
  | activation (epoch : Int) (finalized : List String)

def ChainEvent.after : ChainEvent → LedgerState → LedgerState
  | operation op, L => op.after L
  | activation epoch finalized, L =>
    match activateValidatorSetUpdate epoch finalized L with
    | .ok (_, L') => L'
    | .error _ => L

def runEvents (L : LedgerState) : List ChainEvent → LedgerState
  | [] => L
  | event :: rest => runEvents (event.after L) rest

variable {epoch : Int} {L L' : LedgerState} {r : LedgerOperationRecord}

omit [Runtime] [LedgerRules] in
/-- An activation changes no record. -/
theorem operations_of_activate {finalized : List String} {updates : List ValidatorUpdate}
    (h : activateValidatorSetUpdate epoch finalized L = .ok (updates, L')) :
    L'.operations = L.operations := by
  obtain ⟨-, ⟨-, -, rfl⟩ | ⟨_, _, c, -, -, -, -, -, rfl⟩⟩ := activateValidatorSetUpdate_eq_ok.mp h
  · rfl
  · rfl

/-- A committed schedule stays committed along an event. -/
theorem ChainEvent.commitment_after (event : ChainEvent)
    (committed : validatorSetUpdateCommitment L epoch = some r) :
    validatorSetUpdateCommitment (event.after L) epoch = some r := by
  cases event with
  | operation op =>
    rw [ChainEvent.after, op.after_eq_leaves]
    exact op.records_keepsCommitments.commitment committed
  | activation e finalized =>
    rw [ChainEvent.after]
    split
    · next updates L' h =>
      rw [validatorSetUpdateCommitment_congr (operations_of_activate h), committed]
    · exact committed

/-- A committed schedule stays committed along a run. -/
theorem commitment_runEvents {events : List ChainEvent}
    (committed : validatorSetUpdateCommitment L epoch = some r) :
    validatorSetUpdateCommitment (runEvents L events) epoch = some r := by
  induction events generalizing L with
  | nil => exact committed
  | cons event events ih => exact ih (event.commitment_after committed)

omit [Runtime] [LedgerRules] in
/-- An applied schedule was valid and is committed under its envelope. -/
theorem commitment_of_apply {env : Envelope} {record : LedgerOperationRecord}
    (h : applyValidatorSetUpdate env L = .ok record L') :
    ∃ epoch c r, validateValidatorSetUpdate env true L = .ok (epoch, c) ∧ r.toEnvelope = env ∧
      validatorSetUpdateCommitment L' epoch = some r := by
  obtain ⟨⟨epoch, c⟩, L₁, hvalid, hadmit, heffect⟩ := applyConsensus_eq_ok.mp h
  obtain ⟨next, -, rfl, rfl⟩ := admitEnvelope_eq_ok.mp hadmit
  cases heffect
  refine ⟨epoch, c, admittedRecord L env ["ValidatorSetUpdateScheduled"] next, hvalid, rfl, ?_⟩
  obtain ⟨hread, -⟩ := validateValidatorSetUpdate_eq_ok.mp hvalid
  obtain ⟨htype, hget, -⟩ := readSchedule_spec hread
  rw [validatorSetUpdateCommitment_append rfl, if_pos]
  simp only [LedgerOperationRecord.schedules, admittedRecord, htype, hget, valueEqInt,
    beq_self_eq_true, Bool.and_self]

end Runs

/-- A record that schedules an epoch with a change that is valid on a set. -/
structure ScheduledOn (r : LedgerOperationRecord) (epoch : Int) (c : MembershipChange)
    (active : Dict String Fields) : Prop where
  read : readSchedule r.toEnvelope = .ok (epoch, c)
  fits : c.Fits active
  declared : computeValidatorSetHash (c.applyTo active).values =
    .ok (r.payload.text "validator_set_hash")

theorem ScheduledOn.separate (h : ScheduledOn r epoch c active) : c.Separate :=
  separate_of_nodup (names_nodup_of_readChange (readSchedule_spec h.read).2.2.2)

/-- A schedule stays valid on a set that agrees with the one it was valid on. -/
theorem ScheduledOn.of_agrees {active' : Dict String Fields} (h : ScheduledOn r epoch c active)
    (agrees : c.Agrees active active') : ScheduledOn r epoch c active' :=
  ⟨h.read, agrees.fits h.fits, h.separate.hash_applyTo agrees h.declared⟩

/-- A finalized schedule that is valid on the active set activates, once. -/
theorem ScheduledOn.activate (h : ScheduledOn r epoch c L.activeValidatorSet)
    (committed : validatorSetUpdateCommitment L epoch = some r)
    (pending : epoch ∉ L.activatedValidatorSetEpochs) (earlier : r.operationId ∈ finalized) :
    activateValidatorSetUpdate epoch finalized L =
      .ok (c.returnedUpdates L.activeValidatorSet, L.activated epoch c) := by
  have hvalid : validateValidatorSetUpdate r.toEnvelope false L = .ok (epoch, c) :=
    validateValidatorSetUpdate_eq_ok.mpr ⟨h.read, by simp, h.fits, h.declared⟩
  obtain ⟨-, -, hpos, -⟩ := readSchedule_spec h.read
  exact activateValidatorSetUpdate_eq_ok.mpr
    ⟨hpos, .inr ⟨r, epoch, c, pending, committed, earlier, hvalid, rfl, rfl⟩⟩

/-! ## The shape of reachable active sets -/

/-- The active set of a chain: every entry is stored under its node id and can be read, no
key is used twice, and every activated epoch has a schedule. -/
structure ValidatorsWellFormed (L : LedgerState) : Prop where
  keyed : ∀ {n e}, L.activeValidatorSet.get? n = some e → PyValue.get e "node_id" = .str n
  readable : ∀ {n e}, L.activeValidatorSet.get? n = some e → ∃ v, readIdentity e = .ok v
  apart : ∀ {n m e e'}, L.activeValidatorSet.get? n = some e →
    L.activeValidatorSet.get? m = some e' → consensusKey e = consensusKey e' → n = m
  committed : ∀ {epoch}, epoch ∈ L.activatedValidatorSetEpochs →
    (validatorSetUpdateCommitment L epoch).isSome

/-- What is computed of a set has read each of its entries. -/
theorem exists_readIdentity_of_hash {hash : String}
    (h : computeValidatorSetHash active.values = .ok hash) :
    ∃ vs : List ValidatorIdentity, vs.Pairwise Apart ∧
      ∀ {n e}, active.get? n = some e → ∃ v ∈ vs, readIdentity e = .ok v := by
  obtain ⟨vs, hvs, hapart, -⟩ := computeValidatorSetHash_eq_ok.mp h
  refine ⟨vs, hapart, fun {n e} he => ?_⟩
  have hmem : readIdentity e ∈ vs.map Except.ok := by
    rw [← hvs]
    exact List.mem_map.mpr ⟨e, Dict.mem_values.mpr ⟨n, he⟩, rfl⟩
  obtain ⟨v, hv, heq⟩ := List.mem_map.mp hmem
  exact ⟨v, hv, heq.symm⟩

/-- A change keeps every entry under its node id. -/
theorem keyed_applyTo (s : c.Separate)
    (additions : ∀ a ∈ c.additions, PyValue.get a.2 "node_id" = .str a.1)
    (keyed : ∀ {n e}, active.get? n = some e → PyValue.get e "node_id" = .str n) {n : String}
    {e : Fields} (h : (c.applyTo active).get? n = some e) : PyValue.get e "node_id" = .str n := by
  rcases c.names_cases n with ⟨a, ha, rfl⟩ | hr | ⟨u, hu, rfl⟩ | hn
  · rw [s.get?_applyTo_of_added ha] at h
    cases h
    exact additions a ha
  · rw [s.get?_applyTo_of_removed hr] at h
    cases h
  · rw [s.get?_applyTo_of_powered hu] at h
    obtain ⟨e₀, he₀, rfl⟩ := Option.map_eq_some_iff.mp h
    rw [withPower, get_setMember, if_neg (by decide)]
    exact keyed he₀
  · rw [get?_applyTo_of_unnamed hn] at h
    exact keyed h

namespace ValidatorsWellFormed

variable {L L' : LedgerState}

theorem genesis (balances : Dict String Int) (manifest : Option Fields) :
    ValidatorsWellFormed (genesis balances manifest) where
  keyed h := by cases h
  readable h := by cases h
  apart h := by cases h
  committed h := by cases h

/-- Recording keeps the shape. -/
theorem records {op : LedgerM LedgerOperationRecord} {env : Envelope}
    (h : ValidatorsWellFormed L) (hop : Records op env (KeepsCommitments env)) :
    ValidatorsWellFormed (leaves op L) := by
  have hset : (leaves op L).activeValidatorSet = L.activeValidatorSet ∧
      (leaves op L).activatedValidatorSetEpochs = L.activatedValidatorSetEpochs := by
    rcases hop L with hcore | ⟨events, next, -, -, hcore⟩
    · exact ⟨congrArg LedgerCore.activeValidatorSet hcore,
        congrArg LedgerCore.activatedValidatorSetEpochs hcore⟩
    · exact ⟨congrArg LedgerCore.activeValidatorSet hcore,
        congrArg LedgerCore.activatedValidatorSetEpochs hcore⟩
  constructor
  · rw [hset.1]
    exact h.keyed
  · rw [hset.1]
    exact h.readable
  · rw [hset.1]
    exact h.apart
  · rw [hset.2]
    intro epoch hepoch
    obtain ⟨r, hr⟩ := Option.isSome_iff_exists.mp (h.committed hepoch)
    rw [hop.commitment hr]
    rfl

/-- An activation keeps the shape. -/
theorem activate {epoch : Int} {finalized : List String} {updates : List ValidatorUpdate}
    (h : ValidatorsWellFormed L)
    (hactivate : activateValidatorSetUpdate epoch finalized L = .ok (updates, L')) :
    ValidatorsWellFormed L' := by
  obtain ⟨-, ⟨-, -, rfl⟩ | ⟨scheduled, e, c, -, hscheduled, -, hvalid, -, rfl⟩⟩ :=
    activateValidatorSetUpdate_eq_ok.mp hactivate
  · exact h
  · obtain ⟨hread, -, -, hhash⟩ := validateValidatorSetUpdate_eq_ok.mp hvalid
    obtain ⟨-, -, -, hchange⟩ := readSchedule_spec hread
    have hseparate := separate_of_nodup (names_nodup_of_readChange hchange)
    obtain ⟨vs, hapart, hvs⟩ := exists_readIdentity_of_hash hhash
    have hkeyed : ∀ {n e}, (c.applyTo L.activeValidatorSet).get? n = some e →
        PyValue.get e "node_id" = .str n :=
      keyed_applyTo hseparate (fun a => keyed_of_readChange hchange) h.keyed
    have hlog : ∀ e', validatorSetUpdateCommitment (L.activated epoch c) e' =
        validatorSetUpdateCommitment L e' := validatorSetUpdateCommitment_congr rfl
    constructor
    · simp only [LedgerState.activated, Dict.get?_sortKeys]
      exact hkeyed
    · simp only [LedgerState.activated, Dict.get?_sortKeys]
      intro n e he
      obtain ⟨v, -, hv⟩ := hvs he
      exact ⟨v, hv⟩
    · simp only [LedgerState.activated, Dict.get?_sortKeys]
      intro n m e e' he he' hkey
      obtain ⟨v, hv, hread⟩ := hvs he
      obtain ⟨v', hv', hread'⟩ := hvs he'
      obtain ⟨-, -, -, -, -, -, hnode, -, -, hvkey⟩ := readIdentity_eq_ok.mp hread
      obtain ⟨-, -, -, -, -, -, hnode', -, -, hvkey'⟩ := readIdentity_eq_ok.mp hread'
      have hsame : v = v' := by
        by_contra hne
        refine (hapart.forall hv hv' hne).2 ?_
        rw [hvkey, hvkey', hkey]
      rw [hsame, hnode', Fields.text, Fields.text, hkeyed he, hkeyed he'] at hnode
      exact hnode.symm
    · intro e' he'
      rw [hlog]
      rcases List.mem_cons.mp he' with rfl | he'
      · rw [hscheduled]
        rfl
      · exact h.committed he'

end ValidatorsWellFormed

/-- A state of a chain: some events lead to it from some genesis. -/
def ChainReachable [Runtime] [LedgerRules] (L : LedgerState) : Prop :=
  ∃ balances manifest events, L = runEvents (genesis balances manifest) events

/-- Every state of a chain has a well-formed active set. -/
theorem ChainReachable.validatorsWellFormed [Runtime] [LedgerRules] (h : ChainReachable L) :
    ValidatorsWellFormed L := by
  obtain ⟨balances, manifest, events, rfl⟩ := h
  suffices hrun : ∀ L₀, ValidatorsWellFormed L₀ → ValidatorsWellFormed (runEvents L₀ events) from
    hrun _ (.genesis balances manifest)
  induction events with
  | nil => exact fun _ h => h
  | cons event events ih =>
    intro L₀ h₀
    apply ih
    cases event with
    | operation op =>
      rw [ChainEvent.after, op.after_eq_leaves]
      exact h₀.records op.records_keepsCommitments
    | activation epoch finalized =>
      rw [ChainEvent.after]
      split
      · next updates L' hactivate => exact h₀.activate hactivate
      · exact h₀

end AidnSpec.Ledger
