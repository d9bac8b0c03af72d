import AidnSpec.Ledger.OperationSteps

/-!
# Conservation of Q

The supply is what wallets, live stakes, session accounts and the two pools hold together. An
operation that returns changes it by what it issues, with one exception: an escrow lock whose
funding class is not `ESCROW_PREPAID` opens an account full of Q atoms that no wallet paid, and a
later release or settlement pays them out.
-/

namespace AidnSpec.Ledger

open Base ConsensusOp SessionFundingAccount

/-- Wallets, live stakes, session accounts, recyclable and burned Q atoms. -/
def LedgerState.supply (L : LedgerState) : Int := L.economy.supply

def ConsensusOp.issued : ConsensusOp → Int
  | .treasuryFund env | .rewardMint env _ => env.payload.int "amount"
  | .developmentPayment _ env _ => env.payload.int "amount_q_atoms"
  | _ => 0

theorem ConsensusOp.issued_label (op : ConsensusOp) : op.label.issued = op.issued := by
  cases op <;> rfl

variable [Runtime]

/-- The operation locks a positive amount for a session that is not prepaid. -/
def ConsensusOp.Unbacked : ConsensusOp → Prop
  | .sessionEscrowLock env => ∃ funding,
      modelValidate env.payload = .ok funding ∧
        funding.fundingClass ≠ .escrowPrepaid ∧ funding.totalLockedAmount ≠ 0
  | _ => False

variable {env : Envelope} {L L' : LedgerState} {record : LedgerOperationRecord} {op : ConsensusOp}
  {fundingClass : FundingClass} {operationId : String}

/-- What a lock does to the supply. -/
theorem supply_sessionEscrowLock (h : applySessionEscrowLock env L = .ok record L') :
    ∃ funding, modelValidate env.payload = .ok funding ∧
      L'.supply = L.supply + Economy.unbacked funding := by
  obtain ⟨funding, L₁, hv, ha, he⟩ := applyConsensus_eq_ok.mp h
  obtain ⟨hmodel, huntouched, hnew⟩ := validateSessionEscrowLock_spec hv
  obtain ⟨L₂, he₂, heconomy⟩ := yields_lock funding L₁
  rw [he] at he₂
  cases he₂
  refine ⟨funding, hmodel, ?_⟩
  rw [LedgerState.supply, heconomy, economy_of_admitEnvelope ha]
  exact Economy.supply_openAccount hnew huntouched

variable [LedgerRules]

/-- An operation that returns has not raised late. -/
theorem ConsensusOp.not_raisesLate_of_ok (wf : L.economy.WellFormed)
    (h : op.apply L = .ok record L') : ¬ op.RaisesLate L := by
  intro hlate
  obtain ⟨e, L₁, -, -, herr, -⟩ := apply_of_raisesLate wf hlate
  rw [h] at herr
  cases herr

/-- An operation that returns changes the supply by what it issues unless it locks without
backing. -/
theorem ConsensusOp.supply_iff (wf : L.economy.WellFormed) (h : op.apply L = .ok record L') :
    L'.supply = L.supply + op.issued ↔ ¬ op.Unbacked := by
  by_cases hlock : op.label = .lock
  · cases op with
    | sessionEscrowLock env =>
      obtain ⟨funding, hmodel, hsupply⟩ := supply_sessionEscrowLock h
      rw [hsupply]
      simp only [issued, ConsensusOp.Unbacked, hmodel, Except.ok.injEq,
        exists_eq_left', Economy.unbacked]
      split
      · next hc => simp [hc]
      · next hc =>
        simp only [hc, not_false_eq_true, true_and, not_not, ne_eq]
        omega
    | _ => cases hlock
  · have hstep := (takes wf (not_raisesLate_of_ok wf h)).step h
    have hbacked : ¬ op.Unbacked := by
      cases op with
      | sessionEscrowLock env => exact absurd rfl hlock
      | _ => exact id
    have hsupply : L'.supply = L.supply + op.label.issued := hstep.supply hlock
    rw [op.issued_label] at hsupply
    exact iff_of_true hsupply hbacked

/-- A sequence of operations that all return, and the state it leads to. -/
def Applies : LedgerState → List ConsensusOp → LedgerState → Prop
  | L, [], L' => L' = L
  | L, op :: rest, L' => ∃ record L₁, op.apply L = .ok record L₁ ∧ Applies L₁ rest L'

/-- A run of backed operations changes the supply by what its operations issue. -/
theorem Applies.supply {ops : List ConsensusOp} (h : Applies L ops L') (wf : L.economy.WellFormed)
    (backed : ∀ op ∈ ops, ¬ op.Unbacked) :
    L'.supply = L.supply + (ops.map issued).sum := by
  induction ops generalizing L with
  | nil =>
    cases h
    simp
  | cons op ops ih =>
    obtain ⟨record, L₁, happly, hrest⟩ := h
    have hfirst := (supply_iff wf happly).mpr (backed op (by simp))
    have wf₁ : L₁.economy.WellFormed := by
      rw [← after_of_ok happly]
      exact op.wellFormed_after wf
    have hlast := ih hrest wf₁ (fun op' hop' => backed op' (List.mem_cons_of_mem op hop'))
    rw [hlast, hfirst, List.map_cons, List.sum_cons]
    omega

/-- In every reachable state an operation that returns changes the supply by exactly what
it issues if and only if it does not lock a positive amount without backing; so a run of
backed operations changes the supply by the sum of what its operations issue. -/
theorem supply_changes_by_issued :
    (∀ (L L' : LedgerState) (op : ConsensusOp) (record : LedgerOperationRecord), Reachable L →
      op.apply L = .ok record L' → (L'.supply = L.supply + op.issued ↔ ¬ op.Unbacked)) ∧
    ∀ (balances : Dict String Int) (manifest : Option Fields) (ops : List ConsensusOp)
      (L : LedgerState), Applies (genesis balances manifest) ops L →
      (∀ op ∈ ops, ¬ op.Unbacked) →
      L.supply = (genesis balances manifest).supply + (ops.map issued).sum := by
  constructor
  · intro L L' op record hreach happly
    exact supply_iff hreach.wellFormed happly
  · intro balances manifest ops L hrun hbacked
    have hgenesis : Reachable (genesis balances manifest) := ⟨balances, manifest, [], rfl⟩
    exact hrun.supply hgenesis.wellFormed hbacked

/-! ## A lock of ten Q atoms -/

omit [Runtime] [LedgerRules]

def tenAtoms (fundingClass : FundingClass) : SessionFundingAccount where
  sessionId := "session-1"
  sessionContractHash := some "contract-1"
  fundingClass := fundingClass
  consumerFundingAccount := "consumer"
  endpointPaymentBeneficiary := "endpoint"
  consumerRefundBeneficiary := "consumer"
  totalLockedAmount := 10
  endpointPaymentReserve := 8
  networkFeeReserve := 2
  postpaidCreditLimit := 0
  activeDisputeReserve := 0
  releasedToEndpoint := 0
  consumerPaymentRefund := 0
  consumedNetworkFees := 0
  consumerFeeRefund := 0
  unsettledPaymentReserve := 8
  unsettledFeeReserve := 2
  fundingState := .locked
  nonneg := by constructor <;> simp
  total_eq := rfl
  payment_eq := rfl
  fee_eq := rfl

def lockEnvelope (fundingClass : FundingClass) (operationId : String) : Envelope where
  operationType := "SESSION_ESCROW_LOCK"
  originType := .wallet
  senderWallet := some "consumer"
  senderSequence := some 1
  feePayer := some "consumer"
  feeClass := .session
  createdAt := "2026-01-01T00:00:00Z"
  payload := (tenAtoms fundingClass).dump
  operationId := operationId

theorem tenAtoms_named (fundingClass : FundingClass) : (tenAtoms fundingClass).Named := by
  constructor <;> simp [tenAtoms]

/-- A lock whose payload is a new account passes its validation when the consumer of a prepaid
session has what it locks. -/
theorem validateSessionEscrowLock_dump [Runtime] {a : SessionFundingAccount} (named : a.Named)
    (untouched : Untouched a) (operationType : env.operationType = "SESSION_ESCROW_LOCK")
    (origin : env.originType = .wallet)
    (sender : env.senderWallet = some a.consumerFundingAccount)
    (feeClass : env.feeClass = .session) (feePayer : env.feePayer = some a.consumerFundingAccount)
    (payload : env.payload = a.dump) (fresh : L.sessionFundingAccounts.get? a.sessionId = none)
    (funded : a.fundingClass = .escrowPrepaid →
      a.totalLockedAmount ≤ L.walletQAtomBalance a.consumerFundingAccount) :
    validateSessionEscrowLock env L = .ok a := by
  have hmissing : escrowLockFields.filter (fun key => !a.dump.has key) = [] := by
    simp [escrowLockFields, FundingFields.dump, FundingFields.members, Fields.has, List.lookup_cons]
  have hmodel := modelValidate_dump named
  simp only [validateSessionEscrowLock, checks_eq_ok, exists_unit, requireSender, operationType,
    origin, sender, feeClass, feePayer, payload, hmissing, hmodel, Except.ok.injEq, exists_eq_left']
  simp only [untouched.locked, untouched.released, untouched.paymentRefund, untouched.dispute,
    untouched.consumed, untouched.feeRefund, fresh, beq_self_eq_true, Bool.and_self,
    Option.isNone_none, List.isEmpty_nil, true_and, and_true, Bool.or_eq_true, bne_iff_ne]
  by_cases hc : a.fundingClass = .escrowPrepaid
  · exact .inr (decide_eq_true (funded hc))
  · exact .inl hc

/-- The lock passes its validation when the session is new and a prepaid consumer has ten
Q atoms. -/
theorem validate_lockEnvelope [Runtime] (fresh : L.sessionFundingAccounts.get? "session-1" = none)
    (funded : fundingClass = .escrowPrepaid → 10 ≤ L.walletQAtomBalance "consumer") :
    validateSessionEscrowLock (lockEnvelope fundingClass operationId) L =
      .ok (tenAtoms fundingClass) :=
  validateSessionEscrowLock_dump (tenAtoms_named fundingClass) ⟨rfl, rfl, rfl, rfl, rfl, rfl⟩ rfl
    rfl rfl rfl rfl rfl fresh funded

def lockOp (fundingClass : FundingClass) (operationId : String) : ConsensusOp :=
  .sessionEscrowLock (lockEnvelope fundingClass operationId)

def postpaidId : String := "26aa90b8d1874bb5ba78ebd7c5e7436273bab4f879ede2bd1279c6357e4ec6de"

def prepaidId : String := "fe9b4686be72fe4d8211995f38679d89a049ed1cc7ae412f93c78aa7b651b7d5"

def hundredAtoms : LedgerState := genesis (Dict.empty.set "consumer" 100) none

def lockedLedger (fundingClass : FundingClass) (operationId : String) : LedgerState :=
  let L := hundredAtoms.admitted (lockEnvelope fundingClass operationId) ["SessionEscrowLocked"]
    (some 2)
  { L with
    walletQAtomBalances :=
      if fundingClass = .escrowPrepaid then L.walletQAtomBalances.set "consumer" 90
      else L.walletQAtomBalances
    sessionLocks := [⟨"session-1", 10⟩]
    sessionFundingAccounts := L.sessionFundingAccounts.set "session-1" (tenAtoms fundingClass) }

/-- The first envelope of a ledger can be recorded under any identity. -/
theorem admits_lockEnvelope (named : isBlank operationId = false) :
    Admits hundredAtoms (lockEnvelope fundingClass operationId) (some 2) where
  fresh := rfl
  sequence := rfl
  declared := by simp [lockEnvelope, ne_empty_of_isBlank named]
  named := named
  typed := by
    show isBlank "SESSION_ESCROW_LOCK" = false
    decide
  counted := Nat.le_refl 1
  unused := rfl

theorem apply_lockOp [Runtime] [LedgerRules] (fundingClass : FundingClass)
    (named : isBlank operationId = false) :
    (lockOp fundingClass operationId).apply hundredAtoms =
      .ok (admittedRecord hundredAtoms (lockEnvelope fundingClass operationId)
        ["SessionEscrowLocked"] (some 2)) (lockedLedger fundingClass operationId) := by
  refine applyConsensus_eq_ok.mpr ⟨tenAtoms fundingClass, _, validate_lockEnvelope rfl ?_,
    (admits_lockEnvelope named).admitEnvelope _, ?_⟩
  · intro _
    decide
  · by_cases hc : fundingClass = .escrowPrepaid
    · subst hc
      rfl
    · simp only [lockFunding, tenAtoms, hc, if_false, lockedLedger]
      rfl

/-- A runtime that reads the one timestamp of the runs below. -/
@[reducible] def sampleRuntime : Runtime where
  coerceInt _ := none
  fromisoformat text :=
    if text = "2026-01-01T00:00:00+00:00" then some ⟨true, 1767225600000000⟩ else none
  ed25519Verify _ _ _ := false

/-- Rules that refuse every operation they are asked about. -/
@[reducible] def noRules : LedgerRules where
  recorded _ _ _ _ := raiseValue "refused"
  treasuryManifest _ _ := raiseValue "refused"
  treasuryAuthorization _ _ := raiseValue "refused"
  calculation _ _ _ _ := raiseValue "refused"
  walletBinding _ := raiseValue "refused"
  adjustment _ _ _ _ := raiseValue "refused"
  epochManifest _ _ _ := raiseValue "refused"
  epochSchedule _ _ _ := raiseValue "refused"

/-- The account that the payload of the lock reads back as. -/
theorem modelValidate_lockOp [Runtime] {funding : SessionFundingAccount}
    (h : modelValidate (tenAtoms fundingClass).dump = .ok funding) :
    funding = tenAtoms fundingClass := by
  rw [modelValidate_dump (tenAtoms_named fundingClass)] at h
  cases h
  rfl

/-- A postpaid lock of ten Q atoms on a ledger of a hundred leaves a ledger of a hundred
and ten. -/
theorem postpaid_lock_adds_ten :
    letI := sampleRuntime
    letI := noRules
    let lock := lockOp .trustedPostpaid postpaidId
    ∃ record, Reachable hundredAtoms ∧
      apply lock hundredAtoms = .ok record (lockedLedger .trustedPostpaid postpaidId) ∧
      lock.issued = 0 ∧ hundredAtoms.supply = 100 ∧
      (lockedLedger .trustedPostpaid postpaidId).supply = 110 := by
  let _ := sampleRuntime
  let _ := noRules
  have hnamed : isBlank postpaidId = false := by decide
  have happly := apply_lockOp .trustedPostpaid hnamed
  refine ⟨_, ⟨_, none, [], rfl⟩, happly, rfl, ?_, ?_⟩
  · decide
  · obtain ⟨funding, hmodel, hsupply⟩ := supply_sessionEscrowLock happly
    rw [hsupply, modelValidate_lockOp hmodel]
    decide

/-- A prepaid lock keeps the supply, both as one operation and as a run. -/
theorem prepaid_lock_keeps_supply :
    letI := sampleRuntime
    letI := noRules
    ¬ ConsensusOp.Unbacked (lockOp .escrowPrepaid prepaidId) ∧
      (lockedLedger .escrowPrepaid prepaidId).supply =
        hundredAtoms.supply + (lockOp .escrowPrepaid prepaidId).issued ∧
      (lockedLedger .escrowPrepaid prepaidId).supply =
        hundredAtoms.supply + ([lockOp .escrowPrepaid prepaidId].map issued).sum := by
  let _ := sampleRuntime
  let _ := noRules
  have hnamed : isBlank prepaidId = false := by decide
  have happly := apply_lockOp .escrowPrepaid hnamed
  have hbacked : ¬ ConsensusOp.Unbacked (lockOp .escrowPrepaid prepaidId) := by
    rintro ⟨funding, hmodel, hclass, -⟩
    rw [modelValidate_lockOp hmodel] at hclass
    exact hclass rfl
  refine ⟨hbacked, ?_, ?_⟩
  · exact (supply_changes_by_issued.1 hundredAtoms _ _ _ ⟨_, none, [], rfl⟩ happly).mpr hbacked
  · refine supply_changes_by_issued.2 (Dict.empty.set "consumer" 100) none _ _
      ⟨_, _, happly, rfl⟩ ?_
    simpa using hbacked

end AidnSpec.Ledger
