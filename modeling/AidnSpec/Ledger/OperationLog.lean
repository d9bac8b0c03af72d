import AidnSpec.Ledger.Operation

/-!
# What an operation records

The part of a ledger that no effect of an operation changes: the log, the registry, the sequences
and the validator set; and the development records, which only the development operations change. An
operation therefore leaves this part as it was or records its own envelope, under one of the types
that its validation accepts.
-/

namespace AidnSpec.Ledger

open Base

/-- The members of a ledger that only recording and activation change. -/
structure LedgerCore where
  operations : List LedgerOperationRecord
  finalizedOperationRegistry : Dict String FinalizedOperationReference
  walletNextSequences : Dict String Nat
  nextSequenceId : Nat
  activeValidatorSet : Dict String Fields
  activeValidatorSetEpoch : Option Int
  activatedValidatorSetEpochs : List Int

def LedgerState.core (L : LedgerState) : LedgerCore where
  operations := L.operations
  finalizedOperationRegistry := L.finalizedOperationRegistry
  walletNextSequences := L.walletNextSequences
  nextSequenceId := L.nextSequenceId
  activeValidatorSet := L.activeValidatorSet
  activeValidatorSetEpoch := L.activeValidatorSetEpoch
  activatedValidatorSetEpochs := L.activatedValidatorSetEpochs

/-- The ledger that a computation leaves, whether it returned or raised. -/
def leaves {α : Type} (x : LedgerM α) (L : LedgerState) : LedgerState :=
  match x L with
  | .ok _ L' => L'
  | .error _ L' => L'

/-- A computation that leaves a view of the ledger as it was. -/
def Keeps {α β : Type} (view : LedgerState → β) (x : LedgerM α) : Prop :=
  ∀ L, view (leaves x L) = view L

/-- What the effects of all but the development operations keep. -/
def LedgerState.frame (L : LedgerState) : LedgerCore × DevelopmentRecords := (L.core, L.development)

section Keeps

variable {α β γ : Type} {view : LedgerState → γ}

theorem keeps_pure (a : α) : Keeps view (pure a : LedgerM α) := fun _ => rfl

theorem keeps_modify {f : LedgerState → LedgerState} (h : ∀ L, view (f L) = view L) :
    Keeps view (modify f : LedgerM Unit) := h

theorem keeps_check (validation : LedgerState → Except PyError α) :
    Keeps view (check validation) := by
  intro L
  rw [leaves, check]
  cases validation L <;> rfl

variable {x : LedgerM α} {f : α → LedgerM β} {L L₁ : LedgerState}

theorem leaves_bind_of_ok {a : α} (h : x L = .ok a L₁) : leaves (x >>= f) L = leaves (f a) L₁ := by
  simp only [leaves, Bind.bind, EStateM.bind, h]

theorem leaves_bind_of_error {e : PyError} (h : x L = .error e L₁) : leaves (x >>= f) L = L₁ := by
  simp only [leaves, Bind.bind, EStateM.bind, h]

theorem Keeps.bind (hx : Keeps view x) (hf : ∀ a, Keeps view (f a)) : Keeps view (x >>= f) := by
  intro L
  have hL := hx L
  rw [leaves] at hL
  cases h : x L with
  | ok a L₁ =>
    rw [h] at hL
    rw [leaves_bind_of_ok h]
    exact (hf a L₁).trans hL
  | error e L₁ =>
    rw [h] at hL
    rw [leaves_bind_of_error h]
    exact hL

end Keeps

/-! ## Effects -/

/-- A view of the ledger in which wallets, pools and session accounts do not show. -/
structure IgnoresFunds {γ : Type} (view : LedgerState → γ) : Prop where
  balances : ∀ L x, view { L with walletQAtomBalances := x } = view L
  recyclable : ∀ L x, view { L with recyclableQAtoms := x } = view L
  burned : ∀ L x, view { L with burnedQAtoms := x } = view L
  accounts : ∀ L x, view { L with sessionFundingAccounts := x } = view L
  credits : ∀ L x, view { L with sessionCredits := x } = view L
  locks : ∀ L x, view { L with sessionLocks := x } = view L
  hashes : ∀ L x, view { L with settlementTransitionHashes := x } = view L

theorem ignoresFunds_frame : IgnoresFunds LedgerState.frame where
  balances := fun _ _ => rfl
  recyclable := fun _ _ => rfl
  burned := fun _ _ => rfl
  accounts := fun _ _ => rfl
  credits := fun _ _ => rfl
  locks := fun _ _ => rfl
  hashes := fun _ _ => rfl

namespace IgnoresFunds

variable {γ : Type} {view : LedgerState → γ} (h : IgnoresFunds view)

include h

theorem creditWalletQAtoms (walletId : String) (amount : Int) :
    Keeps view (creditWalletQAtoms walletId amount) := by
  intro L
  rw [leaves, Ledger.creditWalletQAtoms]
  split_ifs
  · rfl
  · exact h.balances L _

theorem debitWalletQAtoms (walletId : String) (amount : Int) :
    Keeps view (debitWalletQAtoms walletId amount) := by
  intro L
  rw [leaves, Ledger.debitWalletQAtoms]
  split_ifs
  · rfl
  · rfl
  · exact h.balances L _

theorem creditForSession (sessionId : String) (role : SessionRole) (walletId : String)
    (amount : Int) : Keeps view (creditForSession sessionId role walletId amount) :=
  (h.creditWalletQAtoms walletId amount).bind fun _ => keeps_modify fun L => h.credits L _

theorem collectPenalty (recyclable : Bool) (amount : Int) :
    Keeps view (collectPenalty recyclable amount) := by
  refine keeps_modify fun L => ?_
  split
  · exact h.recyclable L _
  · exact h.burned L _

theorem putFunding (sessionId : String) (account : SessionFundingAccount) :
    Keeps view (putFunding sessionId account) :=
  keeps_modify fun L => h.accounts L _

theorem takeFromWallet (walletId : String) (amount : Int) :
    Keeps view (takeFromWallet walletId amount) :=
  keeps_modify fun L => h.balances L _

theorem noteLock (sessionId : String) (amount : Int) : Keeps view (noteLock sessionId amount) :=
  keeps_modify fun L => h.locks L _

theorem putTransitionHash (settlementId hash : String) :
    Keeps view (putTransitionHash settlementId hash) :=
  keeps_modify fun L => h.hashes L _

theorem lockFunding (funding : SessionFundingAccount) : Keeps view (lockFunding funding) := by
  have hstore : Keeps view (Ledger.noteLock funding.sessionId funding.totalLockedAmount >>= fun _ =>
      Ledger.putFunding funding.sessionId funding) :=
    (h.noteLock _ _).bind fun _ => h.putFunding _ _
  unfold Ledger.lockFunding
  split
  · exact (h.takeFromWallet _ _).bind fun _ => hstore
  · exact hstore

theorem distribute (d : Distribution) (state : FundingState) : Keeps view (distribute d state) := by
  refine (h.creditForSession _ _ _ _).bind fun _ => ?_
  refine (h.creditForSession _ _ _ _).bind fun _ => ?_
  refine Keeps.bind (keeps_check _) fun _ => ?_
  exact (h.putFunding _ _).bind fun _ => h.putTransitionHash _ _

/-- The effect of a forced settlement. -/
theorem payForced (transition : AtomicSettlementTransition) (funding : SessionFundingAccount) :
    Keeps view (do
      if transition.creditEndpoint ≠ 0 then
        Ledger.creditForSession funding.sessionId .endpoint transition.endpointPaymentBeneficiary
          transition.creditEndpoint
      if transition.creditConsumer ≠ 0 then
        Ledger.creditForSession funding.sessionId .consumer transition.consumerRefundBeneficiary
          transition.creditConsumer
      let next ← rebuildFunding funding (forced transition funding)
      Ledger.putFunding funding.sessionId next
      Ledger.putTransitionHash transition.settlementId transition.transitionHash) := by
  have hstore : Keeps view (rebuildFunding funding (forced transition funding) >>= fun next =>
      Ledger.putFunding funding.sessionId next >>= fun _ =>
        Ledger.putTransitionHash transition.settlementId transition.transitionHash) :=
    Keeps.bind (keeps_check _) fun _ => (h.putFunding _ _).bind fun _ => h.putTransitionHash _ _
  split_ifs
  · exact (h.creditForSession _ _ _ _).bind fun _ =>
      (h.creditForSession _ _ _ _).bind fun _ => hstore
  · exact (h.creditForSession _ _ _ _).bind fun _ => hstore
  · exact (h.creditForSession _ _ _ _).bind fun _ => hstore
  · exact hstore

end IgnoresFunds

theorem keeps_putStake {γ : Type} {view : LedgerState → γ}
    (h : ∀ L x, view { L with stakeRecords := x } = view L) (stakeId : String)
    (stake : StakeRecord) : Keeps view (putStake stakeId stake) :=
  keeps_modify fun L => h L _

/-! ## Recording -/

/-- An operation that leaves the core as it was, or records its envelope in a state that
meets the condition. -/
def Records (op : LedgerM LedgerOperationRecord) (env : Envelope) (P : LedgerState → Prop) :
    Prop :=
  ∀ L, (leaves op L).core = L.core ∨
    ∃ events next, P L ∧ Admits L env next ∧
      (leaves op L).core = (L.admitted env events next).core

/-- Every record of the log is in the registry. -/
def Registered (L : LedgerState) : Prop :=
  ∀ r ∈ L.operations, (L.finalizedOperationRegistry.get? r.operationId).isSome

variable {op : LedgerM LedgerOperationRecord} {env : Envelope} {L L' : LedgerState}
  {r : LedgerOperationRecord} {operationId message : String}
  {P : LedgerState → DevelopmentRecords → Prop} {α : Type} {rest : Unit → Except PyError α} {v : α}

theorem Records.registered {P : LedgerState → Prop} (h : Records op env P) (hL : Registered L) :
    Registered (leaves op L) := by
  intro r hr
  rcases h L with hcore | ⟨events, next, -, -, hcore⟩
  · have hops : (leaves op L).operations = L.operations := congrArg LedgerCore.operations hcore
    have hregistry : (leaves op L).finalizedOperationRegistry = L.finalizedOperationRegistry :=
      congrArg LedgerCore.finalizedOperationRegistry hcore
    rw [hops] at hr
    rw [hregistry]
    exact hL r hr
  · have hops : (leaves op L).operations = L.operations ++ [admittedRecord L env events next] :=
      congrArg LedgerCore.operations hcore
    have hregistry : (leaves op L).finalizedOperationRegistry =
        L.finalizedOperationRegistry.set env.operationId
          (admittedRecord L env events next).reference :=
      congrArg LedgerCore.finalizedOperationRegistry hcore
    rw [hops, List.mem_append, List.mem_singleton] at hr
    rw [hregistry, Dict.get?_set]
    split_ifs with hid
    · rfl
    · rcases hr with hr | rfl
      · exact hL r hr
      · exact absurd rfl hid

theorem operationById_append (h : L'.operations = L.operations ++ [r]) (operationId : String) :
    L'.operationById operationId =
      if r.operationId = operationId then some r else L.operationById operationId := by
  unfold LedgerState.operationById
  rw [h, List.reverse_append, List.reverse_singleton, List.singleton_append, List.find?_cons]
  by_cases hid : r.operationId = operationId
  · simp [hid]
  · rw [if_neg hid, beq_eq_false_iff_ne.mpr hid]

/-- A stored operation is registered. -/
theorem Registered.of_operationById (h : Registered L) (hr : L.operationById operationId = some r) :
    (L.finalizedOperationRegistry.get? operationId).isSome := by
  have hmem := List.mem_of_find?_eq_some hr
  have hid := List.find?_some hr
  rw [beq_iff_eq] at hid
  rw [← hid]
  exact h r (List.mem_reverse.mp hmem)

/-- Recording keeps the operation that an identity stands for. -/
theorem Admits.operationById {next : Option Nat} {stored : LedgerOperationRecord}
    (hL : Registered L) (hadmits : Admits L env next) (hrecord : r.operationId = env.operationId)
    (hops : L'.operations = L.operations ++ [r])
    (hstored : L.operationById operationId = some stored) :
    L'.operationById operationId = some stored := by
  rw [operationById_append hops, if_neg]
  · exact hstored
  · rintro rfl
    have hsome := hL.of_operationById hstored
    rw [hrecord, hadmits.fresh] at hsome
    cases hsome

/-- An operation that leaves the frame as it was, or records its envelope and leaves
development records that the state before admits. -/
def Commits (op : LedgerM LedgerOperationRecord) (env : Envelope)
    (P : LedgerState → DevelopmentRecords → Prop) : Prop :=
  ∀ L, (leaves op L).frame = L.frame ∨
    ∃ events next D, P L D ∧ Admits L env next ∧
      (leaves op L).frame = ((L.admitted env events next).core, D)

theorem Commits.records {Q : LedgerState → Prop} (h : Commits op env P) (imp : ∀ L D, P L D → Q L) :
    Records op env Q := by
  intro L
  rcases h L with hkept | ⟨events, next, D, hD, hadmits, hframe⟩
  · exact .inl (congrArg Prod.fst hkept)
  · exact .inr ⟨events, next, imp L D hD, hadmits, congrArg Prod.fst hframe⟩

/-- An operation that raises and changes nothing at all, which a valid one does only when its
envelope cannot be recorded, or commits. -/
def Writes (op : LedgerM LedgerOperationRecord) (env : Envelope)
    (validate : LedgerState → Except PyError Unit) (P : LedgerState → DevelopmentRecords → Prop) :
    Prop :=
  ∀ L, (∃ e, op L = .error e L ∧ (validate L = .ok () → ∀ next, ¬ Admits L env next)) ∨
    ∃ events next D, P L D ∧ Admits L env next ∧
      (leaves op L).frame = ((L.admitted env events next).core, D)

theorem Writes.commits {validate : LedgerState → Except PyError Unit}
    (h : Writes op env validate P) : Commits op env P := by
  intro L
  refine (h L).imp_left ?_
  rintro ⟨e, hraised, -⟩
  rw [leaves, hraised]

section Commit

variable {α : Type} {validate : LedgerState → Except PyError α} {emittedEvents : α → List String}
  {env : Envelope} {effect : α → LedgerM Unit} {P : LedgerState → DevelopmentRecords → Prop}

/-- An operation whose effect turns the development records into others. -/
theorem writes_applyDevelopment {records : α → DevelopmentRecords → DevelopmentRecords}
    (valid : ∀ L v, validate L = .ok v → P L (records v L.development))
    (left : ∀ v L, (leaves (effect v) L).frame = (L.core, records v L.development)) :
    Writes (applyConsensus validate emittedEvents env effect) env (outcome <| validate ·) P := by
  intro L
  cases h : applyConsensus validate emittedEvents env effect L with
  | ok record L' =>
    obtain ⟨v, L₁, hv, ha, he⟩ := applyConsensus_eq_ok.mp h
    obtain ⟨next, hadmits, -, rfl⟩ := admitEnvelope_eq_ok.mp ha
    refine .inr ⟨emittedEvents v, next, _, valid L v hv, hadmits, ?_⟩
    have hleft := left v (L.admitted env (emittedEvents v) next)
    rw [leaves, he] at hleft
    rw [leaves, h]
    exact hleft
  | error e L' =>
    rw [leaves, h]
    rcases applyConsensus_eq_error.mp h with ⟨hv, rfl⟩ | ⟨v, -, ha, rfl⟩ | ⟨v, r, L₁, hv, ha, he⟩
    · refine .inl ⟨e, rfl, fun (hvalid : outcome (validate L') = .ok ()) => ?_⟩
      rw [hv] at hvalid
      cases hvalid
    · refine .inl ⟨e, rfl, fun _ next hadmits => ?_⟩
      rw [hadmits.admitEnvelope] at ha
      cases ha
    · obtain ⟨next, hadmits, -, rfl⟩ := admitEnvelope_eq_ok.mp ha
      refine .inr ⟨emittedEvents v, next, _, valid L v hv, hadmits, ?_⟩
      have hleft := left v (L.admitted env (emittedEvents v) next)
      rw [leaves, he] at hleft
      exact hleft

/-- An operation whose effect keeps the frame. -/
theorem writes_applyConsensus (valid : ∀ L v, validate L = .ok v → P L L.development)
    (kept : ∀ v, Keeps LedgerState.frame (effect v)) :
    Writes (applyConsensus validate emittedEvents env effect) env (outcome <| validate ·) P :=
  @writes_applyDevelopment _ _ _ _ _ _ (fun _ D => D) valid kept

end Commit

/-- A validation that passes has passed its first check. -/
theorem guard_of_ok {condition : Bool} (h : (require condition message >>= rest) = .ok v) :
    condition = true := by
  rw [bind_eq_ok] at h
  obtain ⟨u, hu, -⟩ := h
  exact require_eq_ok.mp hu

/-- A validation that starts with its operation type accepts only this type. -/
theorem type_of_ok {type : String}
    (h : (require (env.operationType == type) message >>= rest) = .ok v) :
    env.operationType ∈ [type] :=
  List.mem_singleton.mpr (beq_iff_eq.mp (guard_of_ok h))

namespace ConsensusOp

def envelope : ConsensusOp → Envelope
  | treasuryManifestBind env | treasuryFund env | walletTransfer env | stakeLock env
  | unstakeRequest env | stakeRelease env | participantSuspend env _ | participantReinstate env _
  | recorded _ env _ | validatorSetUpdate env | development _ env _ | developmentPayment _ env _
  | epochTransition env _ | rewardMint env _ | penaltyApply env _ | sessionEscrowLock env
  | sessionOpen env _ | sessionAccept env _ | sessionEscrowExtend env _
  | sessionEscrowRelease env _ | sessionCheckpointCommit env _ | sessionFailureEvidence env
  | settlementReadyCommit env _ | settlementPropose env _ | settlementAccept env _
  | settlementDispute env _ | settlementPartialFinalize env _ | settlementCorrect env _
  | settlementFinalize env _ | forceSettle env _ => env

/-- The operation types that the validation of an operation accepts. -/
def operationTypes : ConsensusOp → List String
  | treasuryManifestBind _ => ["TREASURY_MANIFEST_BIND"]
  | treasuryFund _ => ["TREASURY_FUND"]
  | walletTransfer _ => ["WALLET_TRANSFER"]
  | stakeLock _ => ["STAKE_LOCK"]
  | unstakeRequest _ => ["UNSTAKE_REQUEST"]
  | stakeRelease _ => ["STAKE_RELEASE"]
  | participantSuspend _ _ => ["PARTICIPANT_SUSPEND"]
  | participantReinstate _ _ => ["PARTICIPANT_REINSTATE"]
  | recorded kind _ _ => kind.operationTypes
  | validatorSetUpdate _ => ["CONSENSUS_VALIDATOR_SET_UPDATE"]
  | development kind _ _ => [kind.operationType]
  | developmentPayment kind _ _ => [kind.operationType]
  | epochTransition _ _ => ["EPOCH_TRANSITION"]
  | rewardMint _ _ => ["REWARD_MINT"]
  | penaltyApply _ _ => ["PENALTY_APPLY"]
  | sessionEscrowLock _ => ["SESSION_ESCROW_LOCK"]
  | sessionOpen _ _ => ["SESSION_OPEN"]
  | sessionAccept _ _ => ["SESSION_ACCEPT"]
  | sessionEscrowExtend _ _ => ["SESSION_ESCROW_EXTEND"]
  | sessionEscrowRelease _ _ => ["SESSION_ESCROW_RELEASE"]
  | sessionCheckpointCommit _ _ => ["SESSION_CHECKPOINT_COMMIT"]
  | sessionFailureEvidence _ => ["SESSION_FAILURE_EVIDENCE"]
  | settlementReadyCommit _ _ => ["SESSION_SETTLEMENT_READY_COMMIT"]
  | settlementPropose _ _ => ["SESSION_SETTLEMENT_PROPOSE"]
  | settlementAccept _ _ => ["SESSION_SETTLEMENT_ACCEPT"]
  | settlementDispute _ _ => ["SESSION_SETTLEMENT_DISPUTE"]
  | settlementPartialFinalize _ _ => ["SESSION_SETTLEMENT_PARTIAL_FINALIZE"]
  | settlementCorrect _ _ => ["SESSION_SETTLEMENT_CORRECT"]
  | settlementFinalize _ _ => ["SESSION_SETTLEMENT_FINALIZE"]
  | forceSettle _ _ => ["SESSION_FORCE_SETTLE"]

/-- A schedule, a mint and an epoch transition are recorded only by their own operations. -/
theorem eq_of_operationTypes (op : ConsensusOp) :
    ("CONSENSUS_VALIDATOR_SET_UPDATE" ∈ op.operationTypes → op = .validatorSetUpdate op.envelope) ∧
    ("REWARD_MINT" ∈ op.operationTypes → ∃ finalized, op = .rewardMint op.envelope finalized) ∧
    ("EPOCH_TRANSITION" ∈ op.operationTypes →
      ∃ finalized, op = .epochTransition op.envelope finalized) := by
  cases op with
  | recorded kind | development kind | developmentPayment kind =>
    cases kind <;> simp [operationTypes, RecordedKind.operationTypes, DevelopmentKind.operationType,
      PaymentKind.operationType]
  | _ => simp [operationTypes, envelope]

variable [Runtime] [LedgerRules]

theorem after_eq_leaves (op : ConsensusOp) (L : LedgerState) : op.after L = leaves op.apply L := by
  rw [after, leaves]
  cases op.apply L <;> rfl

/-- What a validation has found in the ledger, and the development records that it allows. -/
def Accepts : ConsensusOp → LedgerState → DevelopmentRecords → Prop
  | development kind env finalized, L, D =>
    ∃ events, validateDevelopment kind env finalized L = .ok (D, events)
  | developmentPayment kind env finalized, L, D =>
    ∃ payment, validateDevelopmentPayment kind env finalized L = .ok payment ∧ payment.records = D
  | rewardMint env finalized, L, D =>
    (∃ minted, validateRewardMint env finalized L = .ok minted) ∧ D = L.development
  | epochTransition env finalized, L, D =>
    (∃ epochs, validateEpochTransition env finalized L = .ok epochs) ∧ D = L.development
  | _, L, D => D = L.development

/-- An operation changes nothing or records its envelope under one of its types. -/
theorem writes (op : ConsensusOp) :
    Writes op.apply op.envelope (validateOperation op) fun L D =>
      op.envelope.operationType ∈ op.operationTypes ∧ op.Accepts L D := by
  have hfunds := ignoresFunds_frame
  cases op with
  | treasuryManifestBind | participantSuspend | participantReinstate | sessionOpen
  | sessionAccept | sessionCheckpointCommit | settlementReadyCommit | settlementPropose
  | settlementAccept | settlementDispute =>
    exact writes_applyConsensus (fun _ _ h => ⟨type_of_ok h, rfl⟩) fun _ =>
      keeps_modify fun _ => rfl
  | treasuryFund env =>
    exact writes_applyConsensus (fun _ _ h => ⟨type_of_ok h, rfl⟩)
      fun _ => hfunds.creditWalletQAtoms _ _
  | walletTransfer env =>
    refine writes_applyConsensus (fun L v h => ?_) fun _ =>
      (hfunds.debitWalletQAtoms _ _).bind fun _ => (hfunds.creditWalletQAtoms _ _).bind
        fun _ => keeps_modify fun _ => rfl
    rw [validateWalletTransfer, bind_eq_ok] at h
    obtain ⟨transfer, hshape, -⟩ := h
    exact ⟨type_of_ok hshape, rfl⟩
  | stakeLock env =>
    exact writes_applyConsensus (fun _ _ h => ⟨type_of_ok h, rfl⟩) fun _ =>
      (hfunds.debitWalletQAtoms _ _).bind fun _ => keeps_putStake (fun _ _ => rfl) _ _
  | unstakeRequest env =>
    exact writes_applyConsensus (fun _ _ h => ⟨type_of_ok h, rfl⟩) fun _ => keeps_putStake
      (fun _ _ => rfl) _ _
  | stakeRelease env =>
    exact writes_applyConsensus (fun _ _ h => ⟨type_of_ok h, rfl⟩) fun _ =>
      (hfunds.creditWalletQAtoms _ _).bind fun _ => keeps_putStake (fun _ _ => rfl) _ _
  | recorded kind env finalized =>
    exact writes_applyConsensus (fun _ _ h => ⟨List.contains_iff_mem.mp (guard_of_ok h), rfl⟩)
      fun _ => keeps_pure _
  | validatorSetUpdate env =>
    refine writes_applyConsensus (fun L v h => ?_) fun _ => keeps_pure _
    rw [validateValidatorSetUpdate, bind_eq_ok] at h
    obtain ⟨schedule, hread, -⟩ := h
    exact ⟨type_of_ok hread, rfl⟩
  | development kind env finalized =>
    exact @writes_applyDevelopment _ _ _ _ _ _ (fun v _ => v.1)
      (fun _ v h => ⟨type_of_ok h, v.2, h⟩) fun _ _ => rfl
  | developmentPayment kind env finalized =>
    refine @writes_applyDevelopment _ _ _ _ _ _ (fun v _ => v.records)
      (fun _ v h => ⟨type_of_ok h, v, h, rfl⟩) fun v L => ?_
    exact hfunds.creditWalletQAtoms v.wallet v.amount { L with development := v.records }
  | epochTransition env finalized =>
    exact writes_applyConsensus (fun _ v h => ⟨type_of_ok h, ⟨v, h⟩, rfl⟩) fun _ => keeps_pure _
  | rewardMint env finalized =>
    exact writes_applyConsensus (fun _ v h => ⟨type_of_ok h, ⟨v, h⟩, rfl⟩)
      fun _ => hfunds.creditWalletQAtoms _ _
  | penaltyApply env finalized =>
    refine writes_applyConsensus (fun _ _ h => ⟨type_of_ok h, rfl⟩) fun penalty => ?_
    split
    · exact (keeps_putStake (fun _ _ => rfl) _ _).bind fun _ => hfunds.collectPenalty _ _
    · exact (hfunds.debitWalletQAtoms _ _).bind fun _ => hfunds.collectPenalty _ _
  | sessionEscrowLock env =>
    exact writes_applyConsensus (fun _ _ h => ⟨type_of_ok h, rfl⟩) fun _ => hfunds.lockFunding _
  | sessionEscrowExtend env finalized =>
    exact writes_applyConsensus (fun _ _ h => ⟨type_of_ok h, rfl⟩) fun _ =>
      (hfunds.takeFromWallet _ _).bind fun _ => (hfunds.noteLock _ _).bind
        fun _ => hfunds.putFunding _ _
  | sessionEscrowRelease env finalized =>
    exact writes_applyConsensus (fun _ _ h => ⟨type_of_ok h, rfl⟩) fun _ =>
      (hfunds.creditForSession _ _ _ _).bind fun _ => hfunds.putFunding _ _
  | sessionFailureEvidence env =>
    exact writes_applyConsensus (fun _ _ h => ⟨type_of_ok h, rfl⟩) fun _ => keeps_pure _
  | settlementPartialFinalize env finalized =>
    exact writes_applyConsensus (fun _ _ h => ⟨type_of_ok h, rfl⟩) fun _ => hfunds.distribute _ _
  | settlementCorrect env finalized =>
    refine writes_applyConsensus (fun _ _ h => ⟨type_of_ok h, rfl⟩) fun _ => ?_
    refine (hfunds.creditForSession _ _ _ _).bind fun _ => ?_
    refine (hfunds.creditForSession _ _ _ _).bind fun _ => ?_
    refine Keeps.bind (keeps_check _) fun _ => ?_
    exact (hfunds.putFunding _ _).bind fun _ => keeps_modify fun _ => rfl
  | settlementFinalize env finalized =>
    exact writes_applyConsensus (fun _ _ h => ⟨type_of_ok h, rfl⟩) fun _ => hfunds.distribute _ _
  | forceSettle env finalized =>
    exact writes_applyConsensus (fun _ _ h => ⟨type_of_ok h, rfl⟩) fun forced =>
      hfunds.payForced forced.1 forced.2

/-- An operation keeps the frame or records its envelope under one of its types. -/
theorem commits (op : ConsensusOp) :
    Commits op.apply op.envelope fun L D =>
      op.envelope.operationType ∈ op.operationTypes ∧ op.Accepts L D :=
  op.writes.commits

/-- An operation keeps the core or records its envelope under one of its types. -/
theorem records (op : ConsensusOp) :
    Records op.apply op.envelope fun _ => op.envelope.operationType ∈ op.operationTypes :=
  op.commits.records fun _ _ h => h.1

/-- An operation raises and changes nothing, or it records its envelope. -/
theorem raises_or_records (op : ConsensusOp) (L : LedgerState) :
    (∃ e, op.apply L = .error e L) ∨
      ∃ events next, Admits L op.envelope next ∧
        (leaves op.apply L).core = (L.admitted op.envelope events next).core := by
  rcases op.writes L with ⟨e, hraised, -⟩ | ⟨events, next, D, -, hadmits, hframe⟩
  · exact .inl ⟨e, hraised⟩
  · exact .inr ⟨events, next, hadmits, congrArg Prod.fst hframe⟩

end ConsensusOp

end AidnSpec.Ledger
