import AidnSpec.Ledger.OperationLog
import AidnSpec.Ledger.SessionBooks

/-!
# What settlement operations find of each other

The dumped models that an operation carries read back as themselves, and an operation stays a
finalized dependency of later ones while further envelopes are recorded. In a reachable ledger the
next sequence is always free.
-/

namespace AidnSpec.Ledger

open Base

/-! ## Reading back what was dumped -/

section Reading

variable [Runtime] {fields : Fields} {key text : String} {n : ℕ}

theorem fieldPos_of_lookup (h : fields.lookup key = some (.int n)) (positive : 1 ≤ n) :
    fieldPos fields key = some n := by
  have hcast : (1 : Int) ≤ n := by omega
  simp [fieldPos, fieldInt, h, laxInt, hcast]

omit [Runtime] in
theorem requireDict_of_get {members : Fields} (h : PyValue.get fields key = .dict members)
    (complaint : String) : requireDict fields key complaint = .ok members := by
  rw [requireDict, h]

variable {complaint : String}

omit [Runtime] in
theorem requireText_of_get (h : PyValue.get fields key = .str text)
    (filled : isBlank text = false) : requireText fields key complaint = .ok text := by
  rw [requireText, Fields.hasText_of_get h filled, Fields.text_of_get h]
  rfl

omit [Runtime] in
/-- Every text is among the references, once the check has passed. -/
theorem requireReferenced_eq_ok {references texts : List String} {u : Unit} :
    requireReferenced references complaint texts = .ok u ↔ ∀ text ∈ texts, text ∈ references := by
  induction texts with
  | nil => simp [requireReferenced]
  | cons text texts ih =>
    simp only [requireReferenced, checks_eq_ok, exists_unit, ih, List.mem_cons, forall_eq_or_imp,
      List.contains_iff_mem]

end Reading

section Models

variable [Runtime]

omit [Runtime] in
@[simp] theorem SettlementMode.ofText_toText (m : SettlementMode) : ofText m.toText = some m := by
  cases m <;> decide

variable {members : Fields}

/-- A dumped proposal reads back as itself. -/
theorem SessionSettlementProposal.modelValidate_dump {p : SessionSettlementProposal}
    (h : p.toValue = .dict members) (sequence : 1 ≤ p.settlementSequence) :
    modelValidate members = .ok p := by
  obtain rfl := PyValue.dict.inj h
  rw [modelValidate, readDeclared, readFields, fieldText_of_lookup rfl,
    fieldPos_of_lookup rfl sequence, fieldText_of_lookup rfl, fieldText_of_lookup rfl,
    fieldText_of_lookup rfl, fieldText_of_lookup rfl, fieldText_of_lookup rfl,
    fieldNat_of_lookup rfl, fieldNat_of_lookup rfl, fieldNat_of_lookup rfl, fieldNat_of_lookup rfl,
    fieldNat_of_lookup rfl, fieldNat_of_lookup rfl, fieldNat_of_lookup rfl, fieldNat_of_lookup rfl,
    fieldNat_of_lookup rfl, fieldNat_of_lookup rfl,
    fieldLiteral_of_lookup rfl (SettlementMode.ofText_toText _), fieldOptText_of_lookup rfl]
  rfl

/-- The texts of an acceptance that must not be empty. -/
structure SessionSettlementAcceptance.Filled (x : SessionSettlementAcceptance) : Prop where
  settlement : x.settlementId.isEmpty = false
  session : x.sessionId.isEmpty = false
  root : x.settlementInputRoot.isEmpty = false
  signature : x.consumerSignature.isEmpty = false
  time : x.acceptedAt.isEmpty = false

/-- A dumped acceptance reads back as itself. -/
theorem SessionSettlementAcceptance.modelValidate_dump {x : SessionSettlementAcceptance}
    (h : x.toValue = .dict members) (filled : x.Filled) : modelValidate members = .ok x := by
  have hread : readFields members = some x := by
    obtain rfl := PyValue.dict.inj h
    rw [readFields, fieldText_of_filled rfl filled.settlement,
      fieldText_of_filled rfl filled.session, fieldText_of_filled rfl filled.root,
      fieldNat_of_lookup rfl, fieldNat_of_lookup rfl, fieldNat_of_lookup rfl,
      fieldText_of_filled rfl filled.signature, fieldText_of_filled rfl filled.time]
    rfl
  simp only [modelValidate, readHashed, readDeclared, hread, checks_eq_ok, Except.ok.injEq,
    exists_eq_left', exists_unit, and_true]
  obtain rfl := PyValue.dict.inj h
  exact hashMatches_of_absent rfl

/-- The texts of a dispute that must not be empty, and its amounts. -/
structure SettlementDispute.Filled (d : SettlementDispute) : Prop where
  dispute : d.disputeId.isEmpty = false
  settlement : d.settlementId.isEmpty = false
  session : d.sessionId.isEmpty = false
  disputeClass : d.disputeClass.isEmpty = false
  root : d.evidenceRoot.isEmpty = false
  time : d.openedAt.isEmpty = false
  signature : d.claimantSignature.isEmpty = false
  positive : 1 ≤ d.disputedAmount
  within : d.disputedAmount ≤
    ((d.claimedEndpointPayment : Int) - d.acceptedEndpointPayment).natAbs

/-- A dumped dispute reads back as itself. -/
theorem SettlementDispute.modelValidate_dump {d : SettlementDispute}
    (h : d.toValue = .dict members) (filled : d.Filled) : modelValidate members = .ok d := by
  have hread : readFields members = some d := by
    obtain rfl := PyValue.dict.inj h
    rw [readFields, fieldText_of_filled rfl filled.dispute,
      fieldText_of_filled rfl filled.settlement, fieldText_of_filled rfl filled.session,
      fieldTexts_of_lookup rfl, fieldTexts_of_lookup rfl, fieldTexts_of_lookup rfl,
      fieldText_of_filled rfl filled.disputeClass, fieldNat_of_lookup rfl, fieldNat_of_lookup rfl,
      fieldPos_of_lookup rfl filled.positive, fieldText_of_filled rfl filled.root,
      fieldText_of_filled rfl filled.time, fieldText_of_filled rfl filled.signature]
    rfl
  simp only [modelValidate, readDeclared, hread, checks_eq_ok, Except.ok.injEq, exists_eq_left',
    exists_unit, decide_eq_true_eq, and_true]
  obtain rfl := PyValue.dict.inj h
  exact ⟨filled.within, hashMatches_of_absent rfl⟩

/-- A dumped transition reads back as itself. -/
theorem AtomicSettlementTransition.modelValidate_dump {t : AtomicSettlementTransition}
    (h : t.toValue = .dict members) : modelValidate members = .ok t := by
  have hread : TransitionFields.readFields members = some t.toTransitionFields := by
    obtain rfl := PyValue.dict.inj h
    rw [TransitionFields.readFields, fieldText_of_lookup rfl, fieldText_of_lookup rfl,
      fieldText_of_lookup rfl, fieldText_of_lookup rfl, fieldNat_of_lookup rfl,
      fieldNat_of_lookup rfl, fieldNat_of_lookup rfl, fieldNat_of_lookup rfl,
      fieldNat_of_lookup rfl, fieldNat_of_lookup rfl, fieldNat_of_lookup rfl,
      fieldNatD_of_lookup rfl, fieldNat_of_lookup rfl]
    rfl
  simp only [modelValidate, readDeclared, hread, checks_eq_ok, Except.ok.injEq, exists_eq_left',
    dif_pos t.conserved, exists_const, and_true]
  obtain rfl := PyValue.dict.inj h
  exact hashMatches_of_absent rfl

end Models

/-! ## Recorded operations -/

/-- The operation of an envelope is in the log and in the registry. -/
structure Recorded (L : LedgerState) (env : Envelope) : Prop where
  known : ∃ r, L.operationById env.operationId = some r ∧
    r.operationType = env.operationType ∧ r.payload = env.payload
  registered : L.finalizedOperationRegistry.contains env.operationId = true

/-- The core of a ledger is what recording an envelope in another one makes of it. -/
def Logged (L : LedgerState) (env : Envelope) (L' : LedgerState) : Prop :=
  ∃ events next, L'.core = (L.admitted env events next).core

section Logged

variable {L L' : LedgerState} {env other : Envelope}

theorem Logged.operations (h : Logged L env L') :
    ∃ r, r.operationId = env.operationId ∧ r.operationType = env.operationType ∧
      r.payload = env.payload ∧ L'.operations = L.operations ++ [r] ∧
      L'.finalizedOperationRegistry = L.finalizedOperationRegistry.set env.operationId r.reference ∧
      r.sequenceId = L.nextSequenceId ∧ L'.nextSequenceId = L.nextSequenceId + 1 := by
  obtain ⟨events, next, hcore⟩ := h
  refine ⟨admittedRecord L env events next, rfl, rfl, rfl, ?_, ?_, rfl, ?_⟩
  · exact congrArg LedgerCore.operations hcore
  · exact congrArg LedgerCore.finalizedOperationRegistry hcore
  · exact congrArg LedgerCore.nextSequenceId hcore

/-- Recording an envelope makes it known. -/
theorem Logged.recorded (h : Logged L env L') : Recorded L' env := by
  obtain ⟨r, hid, htype, hpayload, hoperations, hregistry, -⟩ := h.operations
  constructor
  · refine ⟨r, ?_, htype, hpayload⟩
    rw [operationById_append hoperations, if_pos hid]
  · rw [Dict.contains, hregistry, Dict.get?_set_self]
    rfl

/-- A known operation stays known when another envelope is recorded. -/
theorem Recorded.next (h : Recorded L other) (hnext : Logged L env L')
    (fresh : L.finalizedOperationRegistry.get? env.operationId = none) : Recorded L' other := by
  obtain ⟨r, hid, -, -, hoperations, hregistry, -⟩ := hnext.operations
  have hne : env.operationId ≠ other.operationId := by
    intro heq
    have hknown := h.registered
    rw [Dict.contains, ← heq, fresh] at hknown
    cases hknown
  constructor
  · obtain ⟨stored, hstored, htype, hpayload⟩ := h.known
    refine ⟨stored, ?_, htype, hpayload⟩
    rw [operationById_append hoperations, hid, if_neg hne]
    exact hstored
  · rw [Dict.contains, hregistry, Dict.get?_set_of_ne _ _ (Ne.symm hne)]
    exact h.registered

/-- Recording an envelope leaves other identities new. -/
theorem Logged.fresh (h : Logged L env L') {operationId : String}
    (hne : env.operationId ≠ operationId)
    (fresh : L.finalizedOperationRegistry.get? operationId = none) :
    L'.finalizedOperationRegistry.get? operationId = none := by
  obtain ⟨r, -, -, -, -, hregistry, -⟩ := h.operations
  rw [hregistry, Dict.get?_set_of_ne _ _ (Ne.symm hne)]
  exact fresh

end Logged

/-- The identities that an operation takes for finalized name an envelope, when it is given
any. -/
def Names (finalized : FinalizedIds) (env : Envelope) : Prop :=
  ∀ ids, finalized = some ids → env.operationId ∈ ids

variable {L : LedgerState} {env : Envelope}

/-- A known operation is a finalized dependency of those that name it. -/
theorem Recorded.dependency (h : Recorded L env) {finalized : FinalizedIds}
    (names : Names finalized env) :
    ∃ r, r.payload = env.payload ∧ ∀ complaint,
      requireFinalizedDependency L env.operationId env.operationType finalized complaint =
        .ok r := by
  obtain ⟨r, hr, htype, hpayload⟩ := h.known
  refine ⟨r, hpayload, fun complaint => ?_⟩
  have hoperation : requireFinalizedOperation L env.operationId finalized complaint = .ok r := by
    unfold requireFinalizedOperation
    cases finalized with
    | none =>
      simp only [h.registered, hr, checks_eq_ok, exists_const, and_self]
    | some ids =>
      have hmem : ids.contains env.operationId = true :=
        List.contains_iff_mem.mpr (names ids rfl)
      simp only [hmem, hr, checks_eq_ok, exists_const, and_self]
  simp only [requireFinalizedDependency, hoperation, htype, checks_eq_ok, Except.ok.injEq,
    exists_eq_left', exists_unit, beq_self_eq_true, and_self]

/-- What an earlier operation carries is what its envelope carried. -/
theorem recordedModel_of_payload {α : Type} {r : LedgerOperationRecord}
    {key incomplete invalid : String} {modelValidate : Fields → Except PyError α} {x : α}
    {members : Fields} (payload : r.payload = env.payload)
    (h : PyValue.get env.payload key = .dict members) (valid : modelValidate members = .ok x) :
    recordedModel r key modelValidate incomplete invalid = .ok x := by
  simp only [recordedModel, payload, requireDict_of_get h, valid, bind_eq_ok, orRaise_eq_ok,
    Except.ok.injEq, exists_eq_left']

/-! ## Counters of reachable states -/

/-- The next sequence of a ledger is above those it gave away. -/
structure Counted (L : LedgerState) : Prop where
  positive : 1 ≤ L.nextSequenceId
  unused : ∀ r ∈ L.finalizedOperationRegistry.values, r.sequenceId < L.nextSequenceId

/-- Recording a new envelope keeps the counter above the sequences it gave away. -/
theorem Counted.next {L' : LedgerState} (h : Counted L) (hnext : Logged L env L')
    (fresh : L.finalizedOperationRegistry.get? env.operationId = none) : Counted L' := by
  obtain ⟨r, -, -, -, -, hregistry, hsequence, hcounter⟩ := hnext.operations
  constructor
  · rw [hcounter]
    exact Nat.le_succ_of_le h.positive
  · intro reference hmem
    rw [hregistry, Dict.mem_values_set fresh] at hmem
    rw [hcounter]
    rcases hmem with rfl | hmem
    · exact Nat.lt_succ_of_le hsequence.le
    · exact Nat.lt_succ_of_lt (h.unused reference hmem)

theorem Reachable.counted [Runtime] [LedgerRules] (h : Reachable L) : Counted L := by
  refine Reachable.induct (P := Counted) ?_ ?_ h
  · intro balances manifest
    exact ⟨Nat.le_refl 1, fun r hr => by cases hr⟩
  · intro L op hL
    rw [ConsensusOp.after_eq_leaves]
    rcases op.records L with hcore | ⟨events, next, -, hadmits, hcore⟩
    · have hcounter : (leaves op.apply L).nextSequenceId = L.nextSequenceId :=
        congrArg LedgerCore.nextSequenceId hcore
      have hregistry : (leaves op.apply L).finalizedOperationRegistry =
          L.finalizedOperationRegistry := congrArg LedgerCore.finalizedOperationRegistry hcore
      constructor
      · rw [hcounter]
        exact hL.positive
      · rw [hcounter, hregistry]
        exact hL.unused
    · exact hL.next ⟨events, next, hcore⟩ hadmits.fresh

end AidnSpec.Ledger
