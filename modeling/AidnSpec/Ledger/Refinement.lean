import AidnSpec.Ledger.Economy
import AidnSpec.Ledger.RewardChecks

/-!
# Wallet, stake and issuance operations as steps of the economy

An operation refines a kind of step when, once its validation has passed, its effect cannot raise
and moves Q atoms as such a step. Recording the envelope changes nothing the economy sees, so a
refining operation is atomic: it takes the step or leaves the ledger as it was.
-/

namespace AidnSpec.Ledger

open Base

def LedgerState.economy (L : LedgerState) : Economy where
  balances := L.walletQAtomBalances
  stakes := L.stakeRecords
  accounts := L.sessionFundingAccounts
  proposals := L.settlementProposals
  recyclable := L.recyclableQAtoms
  burned := L.burnedQAtoms
  credits := L.sessionCredits
  locks := L.sessionLocks

/-- An effect returns, and leaves a ledger of the given economy. -/
def Yields (effect : LedgerM Unit) (L : LedgerState) (E' : Economy) : Prop :=
  ∃ L', effect L = .ok () L' ∧ L'.economy = E'

variable {L L₁ : LedgerState} {E' : Economy} {env : Envelope} {wallet : String} {amount : Int}
  {stake : StakeRecord}

theorem Yields.bind {α : Type} {x : LedgerM α} {f : α → LedgerM Unit} {a : α}
    (hx : x L = .ok a L₁) (hf : Yields (f a) L₁ E') : Yields (x >>= f) L E' := by
  obtain ⟨L', hf, hE⟩ := hf
  exact ⟨L', (bind_run hx).trans hf, hE⟩

theorem yields_modify {f : LedgerState → LedgerState} (h : (f L).economy = E') :
    Yields (modify f) L E' := ⟨f L, rfl, h⟩

/-- An operation takes a step of a kind or leaves the ledger as it was. -/
structure Takes (label : Label) (op : LedgerM LedgerOperationRecord) (L : LedgerState) : Prop where
  step : ∀ {record L'}, op L = .ok record L' → Economy.Step label L.economy L'.economy
  atomic : ∀ {e L'}, op L = .error e L' → L' = L

/-- Recording an envelope keeps the economy. -/
theorem economy_of_admitEnvelope {events : List String} {record : LedgerOperationRecord}
    (h : admitEnvelope L env events = .ok (record, L₁)) : L₁.economy = L.economy := by
  obtain ⟨next, -, -, rfl⟩ := admitEnvelope_eq_ok.mp h
  rfl

section Takes

variable {α : Type} {validate : LedgerState → Except PyError α}
  {emittedEvents : α → List String} {env : Envelope} {effect : α → LedgerM Unit}
  {L : LedgerState} {label : Label}

/-- A validated effect that cannot raise makes its operation take a step. -/
theorem takes_applyConsensus (h : ∀ v L₁, validate L = .ok v → L₁.economy = L.economy →
      ∃ E', Yields (effect v) L₁ E' ∧ Economy.Step label L.economy E') :
    Takes label (applyConsensus validate emittedEvents env effect) L := by
  constructor
  · intro record L' hok
    obtain ⟨v, L₁, hv, ha, he⟩ := applyConsensus_eq_ok.mp hok
    obtain ⟨_, ⟨L₂, he₂, rfl⟩, hstep⟩ := h v L₁ hv (economy_of_admitEnvelope ha)
    rw [he] at he₂
    cases he₂
    exact hstep
  · intro e L' herr
    rcases applyConsensus_eq_error.mp herr with ⟨-, hL⟩ | ⟨-, -, -, hL⟩ | ⟨v, r, L₁, hv, ha, he⟩
    · exact hL
    · exact hL
    · obtain ⟨_, ⟨L₂, he₂, -⟩, -⟩ := h v L₁ hv (economy_of_admitEnvelope ha)
      rw [he] at he₂
      cases he₂

/-- An operation whose effect the economy does not see takes an idle step. -/
theorem takes_unseen (f : α → LedgerState → LedgerState)
    (heffect : ∀ v L₁, effect v L₁ = .ok () (f v L₁))
    (hf : ∀ v L₁, (f v L₁).economy = L₁.economy) :
    Takes .neutral (applyConsensus validate emittedEvents env effect) L := by
  apply takes_applyConsensus
  intro v L₁ _ hL
  refine ⟨L.economy, ⟨f v L₁, heffect v L₁, ?_⟩, .idle _⟩
  rw [hf, hL]

/-- An operation that only records its envelope takes an idle step. -/
theorem takes_recordOnly {events : List String} :
    Takes .neutral (recordOnly validate events env) L :=
  takes_unseen (fun _ L₁ => L₁) (fun _ _ => rfl) (fun _ _ => rfl)

end Takes

/-! ## Wallet primitives -/

/-- Add to the balance of a wallet; a negative amount takes from it. -/
def LedgerState.pay (L : LedgerState) (wallet : String) (amount : Int) : LedgerState :=
  { L with
    walletQAtomBalances :=
      L.walletQAtomBalances.set wallet (L.walletQAtomBalance wallet + amount) }

/-- A credit of a non-negative amount cannot raise. -/
theorem creditWalletQAtoms_eq (h : 0 ≤ amount) (L : LedgerState) :
    creditWalletQAtoms wallet amount L = .ok () (L.pay wallet amount) := by
  have hn : ¬ amount < 0 := by omega
  rw [creditWalletQAtoms, if_neg hn]
  rfl

/-- A covered debit of a positive amount cannot raise. -/
theorem debitWalletQAtoms_eq (h : 0 < amount) (hb : amount ≤ L.walletQAtomBalance wallet) :
    debitWalletQAtoms wallet amount L = .ok () (L.pay wallet (-amount)) := by
  have hn : ¬ amount ≤ 0 := by omega
  have hc : ¬ L.walletQAtomBalance wallet < amount := by omega
  rw [debitWalletQAtoms, if_neg hn, if_neg hc, LedgerState.pay, Int.sub_eq_add_neg]

/-- The balance of a wallet is read from the economy. -/
theorem walletQAtomBalance_congr (h : L₁.economy = L.economy) (wallet : String) :
    L₁.walletQAtomBalance wallet = L.walletQAtomBalance wallet :=
  congrArg (fun E => Economy.balance E wallet) h

/-! ## Wallet transfer -/

theorem validateWalletTransfer_spec {t : WalletTransfer}
    (h : validateWalletTransfer env L = .ok t) :
    0 < t.amount ∧ t.amount + standardNetworkFeeQAtoms ≤ L.walletQAtomBalance t.sender := by
  simp only [validateWalletTransfer, validateWalletTransferShape, checks_eq_ok, exists_unit,
    decide_eq_true_eq] at h
  obtain ⟨-, ⟨-, sender, -, -, -, -, -, amount, ⟨-, hpos⟩, rfl⟩, hbal, rfl⟩ := h
  exact ⟨hpos, hbal⟩

theorem takes_walletTransfer (env : Envelope) (L : LedgerState) :
    Takes .neutral (applyWalletTransfer env) L := by
  apply takes_applyConsensus
  intro t L₁ hv hL
  obtain ⟨hpos, hbal⟩ := validateWalletTransfer_spec hv
  rw [← walletQAtomBalance_congr hL] at hbal
  have hfee : 0 < t.amount + standardNetworkFeeQAtoms := by
    rw [standardNetworkFeeQAtoms]
    omega
  refine ⟨_, .bind (debitWalletQAtoms_eq hfee hbal)
    (.bind (creditWalletQAtoms_eq (Int.le_of_lt hpos) _) (yields_modify rfl)), ?_⟩
  rw [← hL]
  exact .transfer L₁.economy t.sender t.recipient t.amount standardNetworkFeeQAtoms

/-! ## Stakes -/

theorem validateStakeLock_spec {sender : String}
    (h : validateStakeLock env L = .ok (sender, amount)) :
    0 < amount ∧ amount ≤ L.walletQAtomBalance sender ∧
      L.stakeRecords.get? (env.payload.text "stake_id") = none := by
  simp only [validateStakeLock, bind_eq_ok, require_eq_ok, requireInt_eq_ok, pure_eq_ok,
    exists_and_left, exists_const, decide_eq_true_eq] at h
  obtain ⟨-, s, -, -, -, -, -, n, ⟨-, hpos⟩, hnew, hbal, hpair⟩ := h
  cases hpair
  refine ⟨hpos, hbal, ?_⟩
  simpa [Dict.contains] using hnew

theorem takes_stakeLock (env : Envelope) (L : LedgerState) :
    Takes .neutral (applyStakeLock env) L := by
  apply takes_applyConsensus
  rintro ⟨sender, amount⟩ L₁ hv hL
  obtain ⟨hpos, hbal, hnew⟩ := validateStakeLock_spec hv
  rw [← walletQAtomBalance_congr hL] at hbal
  refine ⟨_, .bind (debitWalletQAtoms_eq hpos hbal) (yields_modify rfl), ?_⟩
  rw [← hL]
  apply Economy.Step.stakeMove L₁.economy sender (-amount) (lockedStake env sender amount)
  · exact Int.le_of_lt hpos
  · have hweight : L.economy.stakes.weight (fun _ s => s.held)
        (lockedStake env sender amount).stakeId = 0 := Dict.weight_of_get?_none hnew
    rw [hL, hweight]
    exact Int.add_right_neg amount

/-- A change of a stored stake that keeps what it holds. -/
theorem step_stakeMark {E : Economy} {stake' : StakeRecord} (wf : E.WellFormed) {stakeId : String}
    (stored : E.stakes.get? stakeId = some stake) (hid : stake'.stakeId = stake.stakeId)
    (hamount : stake'.amount = stake.amount) (hheld : stake'.held = stake.held) :
    Economy.Step .neutral E { E with stakes := E.stakes.set stakeId stake' } := by
  obtain ⟨hown, hnonneg⟩ := wf.stakes stored
  have hkey : stake'.stakeId = stakeId := hid.trans hown
  have hstep := Economy.Step.stakeChange E stake' 0 0 (hamount ▸ hnonneg)
    (by rw [hkey, Dict.weight_of_get? stored, hheld]; omega)
  simpa only [Int.add_zero, hkey] using hstep

theorem validateUnstakeRequest_spec {epoch : Int}
    (h : validateUnstakeRequest env L = .ok (stake, epoch)) :
    L.stakeRecords.get? (env.payload.text "stake_id") = some stake ∧ stake.state = .locked := by
  simp only [validateUnstakeRequest, checks_eq_ok, exists_unit] at h
  obtain ⟨-, s, -, -, -, n, -, -, -, h⟩ := h
  split at h
  · cases h
  · next st hst =>
    simp only [checks_eq_ok, exists_unit] at h
    obtain ⟨-, hlocked, -, hpair⟩ := h
    cases hpair
    exact ⟨hst, by simpa using hlocked⟩

theorem takes_unstakeRequest (env : Envelope) (wf : L.economy.WellFormed) :
    Takes .neutral (applyUnstakeRequest env) L := by
  apply takes_applyConsensus
  rintro ⟨stake, epoch⟩ L₁ hv hL
  obtain ⟨stored, hlocked⟩ := validateUnstakeRequest_spec hv
  refine ⟨_, yields_modify rfl, ?_⟩
  rw [← hL] at wf ⊢
  have stored₁ : L₁.economy.stakes.get? (env.payload.text "stake_id") = some stake := by
    rw [hL]
    exact stored
  refine step_stakeMark wf stored₁ ?_ ?_ ?_
  · rfl
  · rfl
  · simp [StakeRecord.held, hlocked]

theorem validateStakeRelease_spec (h : validateStakeRelease env L = .ok stake) :
    L.stakeRecords.get? (env.payload.text "stake_id") = some stake ∧ stake.state = .unbonding := by
  simp only [validateStakeRelease, checks_eq_ok, exists_unit] at h
  obtain ⟨-, -, -, -, n, -, -, h⟩ := h
  split at h
  · cases h
  · next st hst =>
    simp only [checks_eq_ok, exists_unit] at h
    obtain ⟨hstate, -, -, rfl⟩ := h
    exact ⟨hst, by simpa using hstate⟩

theorem takes_stakeRelease (env : Envelope) (wf : L.economy.WellFormed) :
    Takes .neutral (applyStakeRelease env) L := by
  apply takes_applyConsensus
  intro stake L₁ hv hL
  obtain ⟨stored, hstate⟩ := validateStakeRelease_spec hv
  obtain ⟨hown, hnonneg⟩ := wf.stakes stored
  refine ⟨_, .bind (creditWalletQAtoms_eq hnonneg _) (yields_modify rfl), ?_⟩
  rw [← hL]
  apply Economy.Step.stakeMove L₁.economy stake.ownerWallet stake.amount
    { stake with state := .released, releasedByOperationId := some env.operationId } hnonneg
  rw [hL, Dict.weight_of_get? (hown ▸ stored)]
  simp [StakeRecord.held, hstate]

/-! ## Penalties -/

/-- What a validated penalty takes from. -/
def PenaltyTarget.Covers (target : PenaltyTarget) (L : LedgerState) (amount : Int) : Prop :=
  match target with
  | .stake stakeId record => L.stakeRecords.get? stakeId = some record ∧
      (record.state = .locked ∨ record.state = .unbonding) ∧ amount ≤ record.amount
  | .wallet walletId => amount ≤ L.walletQAtomBalance walletId

theorem penaltyTarget_spec {text : String} {target : PenaltyTarget}
    (h : penaltyTarget L text amount = .ok target) : target.Covers L amount := by
  unfold penaltyTarget at h
  split at h
  · simp only [checks_eq_ok, exists_unit] at h
    obtain ⟨-, h⟩ := h
    split at h
    · cases h
    · next st hst =>
      simp only [checks_eq_ok, exists_unit, decide_eq_true_eq, Bool.or_eq_true, beq_iff_eq] at h
      obtain ⟨hstate, hle, rfl⟩ := h
      exact ⟨hst, hstate, hle⟩
  · simp only [checks_eq_ok, exists_unit, decide_eq_true_eq] at h
    obtain ⟨hle, rfl⟩ := h
    exact hle

theorem validatePenaltyApply_spec {finalized : List String} {penalty : Penalty}
    (h : validatePenaltyApply env finalized L = .ok penalty) :
    0 < penalty.amount ∧ penalty.target.Covers L penalty.amount := by
  simp only [validatePenaltyApply, bind_eq_ok, require_eq_ok, requireInt_eq_ok, exists_and_left,
    exists_const, decide_eq_true_eq] at h
  obtain ⟨-, -, -, -, -, -, amount, ⟨-, hpos⟩, h⟩ := h
  split at h
  · simp only [checks_eq_ok, exists_and_left, exists_const] at h
    obtain ⟨-, -, -, -, -, target, htarget, rfl⟩ := h
    exact ⟨hpos, penaltyTarget_spec htarget⟩
  · cases h

/-- A slash leaves its amount out of what a live stake holds. -/
theorem held_slashed (hstate : stake.state = .locked ∨ stake.state = .unbonding) :
    (slashed stake amount).held + amount = stake.held := by
  unfold slashed
  split
  · next h0 => rcases hstate with hs | hs <;> simp [StakeRecord.held, hs] <;> omega
  · rcases hstate with hs | hs <;> simp [StakeRecord.held, hs]

/-- The economy after a penalty is collected. -/
theorem economy_collectPenalty (recyclable : Bool) (amount : Int) (L : LedgerState) :
    Yields (collectPenalty recyclable amount) L { L.economy with
      recyclable := L.economy.recyclable + if recyclable then amount else 0
      burned := L.economy.burned + if recyclable then 0 else amount } := by
  apply yields_modify
  cases recyclable <;> simp [LedgerState.economy]

theorem takes_penaltyApply (env : Envelope) (finalized : List String) (wf : L.economy.WellFormed) :
    Takes .neutral (applyPenaltyApply env finalized) L := by
  apply takes_applyConsensus
  rintro ⟨target, amount, recyclable⟩ L₁ hv hL
  obtain ⟨hpos, hcovers⟩ := validatePenaltyApply_spec hv
  have hsplit : (if recyclable then amount else 0) + (if recyclable then 0 else amount) =
      amount := by
    cases recyclable <;> simp
  cases target with
  | stake stakeId stake =>
    obtain ⟨stored, hstate, hle⟩ := hcovers
    obtain ⟨hown, hnonneg⟩ := wf.stakes stored
    have hid : (slashed stake amount).stakeId = stakeId := by
      rw [← hown, slashed]
      split <;> rfl
    have hamount : 0 ≤ (slashed stake amount).amount := by
      unfold slashed
      split
      · exact Int.le_refl 0
      · exact Int.sub_nonneg_of_le hle
    have hweight : L₁.economy.stakes.weight (fun _ s => s.held) (slashed stake amount).stakeId =
        stake.held := by
      rw [hL, hid]
      exact Dict.weight_of_get? stored
    have hstep := Economy.Step.stakeChange L₁.economy (slashed stake amount)
      (if recyclable then amount else 0) (if recyclable then 0 else amount) hamount (by
        rw [hweight, ← held_slashed hstate, Int.add_assoc, hsplit])
    rw [hid] at hstep
    rw [← hL]
    exact ⟨_, .bind rfl (economy_collectPenalty _ _ _), hstep⟩
  | wallet walletId =>
    have hbal : amount ≤ L₁.walletQAtomBalance walletId := by
      rw [walletQAtomBalance_congr hL]
      exact hcovers
    rw [← hL]
    exact ⟨_, .bind (debitWalletQAtoms_eq hpos hbal) (economy_collectPenalty _ _ _),
      .fine L₁.economy walletId amount _ _ hsplit⟩

/-! ## Suspensions -/

theorem takes_participantSuspend (env : Envelope) (finalized : List String) (L : LedgerState) :
    Takes .neutral (applyParticipantSuspend env finalized) L :=
  takes_unseen _ (fun _ _ => rfl) (fun _ _ => rfl)

theorem takes_participantReinstate (env : Envelope) (finalized : List String) (L : LedgerState) :
    Takes .neutral (applyParticipantReinstate env finalized) L :=
  takes_unseen _ (fun _ _ => rfl) (fun _ _ => rfl)

/-! ## Issuance -/

theorem takes_rewardMint (env : Envelope) (finalized : List String) (L : LedgerState) :
    Takes (.issue (env.payload.int "amount")) (applyRewardMint env finalized) L := by
  apply takes_applyConsensus
  rintro ⟨recipient, amount⟩ L₁ hv hL
  obtain ⟨minted, budget, hchecked⟩ := validateRewardMint_checked hv
  rw [Fields.int_of_get hchecked.declared, ← hL]
  exact ⟨_, ⟨_, creditWalletQAtoms_eq (Int.le_of_lt hchecked.positive) L₁, rfl⟩,
    .issue L₁.economy _ _⟩

variable [Runtime] [LedgerRules]

omit [Runtime] in
theorem takes_treasuryManifestBind (env : Envelope) (L : LedgerState) :
    Takes .neutral (applyTreasuryManifestBind env) L :=
  takes_unseen _ (fun _ _ => rfl) (fun _ _ => rfl)

omit [Runtime] in
theorem validateTreasuryFund_spec {env : Envelope} {L : LedgerState} {wallet : String}
    {amount : Int} (h : validateTreasuryFund env L = .ok (wallet, amount)) :
    0 ≤ amount ∧ env.payload.int "amount" = amount := by
  simp only [validateTreasuryFund, checks_eq_ok, exists_and_left, exists_const, and_true,
    beq_iff_eq] at h
  obtain ⟨-, -, -, -, -, -, n, hget, hn, -, u, -, hpair⟩ := h
  cases hpair
  refine ⟨?_, Fields.int_of_get hget⟩
  rw [hn]
  decide

omit [Runtime] in
theorem takes_treasuryFund (env : Envelope) (L : LedgerState) :
    Takes (.issue (env.payload.int "amount")) (applyTreasuryFund env) L := by
  apply takes_applyConsensus
  rintro ⟨wallet, amount⟩ L₁ hv hL
  obtain ⟨hpos, hamount⟩ := validateTreasuryFund_spec hv
  rw [hamount, ← hL]
  exact ⟨_, ⟨_, creditWalletQAtoms_eq hpos L₁, rfl⟩, .issue L₁.economy _ _⟩

theorem takes_developmentPayment (kind : PaymentKind) (env : Envelope) (finalized : FinalizedIds)
    (L : LedgerState) :
    Takes (.issue (env.payload.int "amount_q_atoms"))
      (applyDevelopmentPayment kind env finalized) L := by
  apply takes_applyConsensus
  rintro payment L₁ hv hL
  obtain ⟨hpos, hamount⟩ := validateDevelopmentPayment_spec hv
  rw [hamount, ← hL]
  exact ⟨_, .bind rfl ⟨_, creditWalletQAtoms_eq (Int.le_of_lt hpos) _, rfl⟩,
    .issue L₁.economy payment.wallet payment.amount⟩

theorem takes_development (kind : DevelopmentKind) (env : Envelope) (finalized : FinalizedIds)
    (L : LedgerState) : Takes .neutral (applyDevelopment kind env finalized) L :=
  takes_unseen _ (fun _ _ => rfl) (fun _ _ => rfl)

omit [Runtime] in
theorem takes_recorded (kind : RecordedKind) (env : Envelope) (finalized : FinalizedIds)
    (L : LedgerState) : Takes .neutral (applyRecorded kind env finalized) L :=
  takes_unseen (fun _ L₁ => L₁) (fun _ _ => rfl) (fun _ _ => rfl)

omit [Runtime] in
theorem takes_epochTransition (env : Envelope) (finalized : FinalizedIds) (L : LedgerState) :
    Takes .neutral (applyEpochTransition env finalized) L := takes_recordOnly

omit [Runtime] [LedgerRules] in
theorem takes_validatorSetUpdate (env : Envelope) (L : LedgerState) :
    Takes .neutral (applyValidatorSetUpdate env) L := takes_recordOnly

end AidnSpec.Ledger
