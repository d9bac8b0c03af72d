import AidnSpec.Ledger.State

/-!
# The economy of the ledger

What the ledger is for, without envelopes, logs and messages: wallets, stakes, session accounts and
two pools hold Q atoms, and a few kinds of steps move them. `Economy.Step` says what each kind may
do; the sums that steps keep, the shape of every account and the books of every session follow from
it alone.
-/

namespace AidnSpec.Ledger

open Base List

/-- The holders of Q atoms, the stored proposals, and the record of what sessions locked
and were paid. -/
structure Economy where
  balances : Dict String Int
  stakes : Dict String StakeRecord
  accounts : Dict String SessionFundingAccount
  proposals : Dict String SessionSettlementProposal
  recyclable : Int
  burned : Int
  credits : List SessionCredit
  locks : List SessionLock

/-- Q atoms that a stake holds. -/
def StakeRecord.held (stake : StakeRecord) : Int :=
  match stake.state with
  | .locked | .unbonding => stake.amount
  | .released | .slashed => 0

/-- A proposal distributes no more than the reserves of an account. -/
structure Fits (p : SessionSettlementProposal) (a : SessionFundingAccount) : Prop where
  payment : (p.finalEndpointPayment : Int) + p.consumerPaymentRefund + p.disputeReserve ≤
    a.endpointPaymentReserve
  fees : (p.actualNetworkFees : Int) + p.consumerFeeRefund ≤ a.networkFeeReserve

/-- The reserves of an account are no smaller than those of another. -/
structure Covers (a' a : SessionFundingAccount) : Prop where
  session : a'.sessionId = a.sessionId
  payment : a.endpointPaymentReserve ≤ a'.endpointPaymentReserve
  fees : a.networkFeeReserve ≤ a'.networkFeeReserve

theorem Fits.of_covers {p : SessionSettlementProposal} {a a' : SessionFundingAccount}
    (h : Fits p a) (hc : Covers a' a) : Fits p a' :=
  ⟨Int.le_trans h.payment hc.payment, Int.le_trans h.fees hc.fees⟩

/-- The operations that pay a session out. -/
inductive PayoutKind where
  | release
  | partialFinalize
  | correct
  | finalize
  | force
  deriving DecidableEq

/-- The kinds of steps. -/
inductive Label where
  | neutral
  | issue (amount : Int)
  | lock
  | extend
  | payout (kind : PayoutKind)
  deriving DecidableEq

namespace Economy

/-- Q atoms of a wallet. -/
def balance (E : Economy) (wallet : String) : Int := (E.balances.get? wallet).getD 0

/-- Add to the balance of a wallet; a negative amount takes from it. -/
def pay (E : Economy) (wallet : String) (amount : Int) : Economy :=
  { E with balances := E.balances.set wallet (E.balance wallet + amount) }

/-- Pay a wallet on behalf of a session. -/
def credit (E : Economy) (c : SessionCredit) : Economy :=
  { E.pay c.walletId c.amount with credits := c :: E.credits }

def creditAll (E : Economy) (cs : List SessionCredit) : Economy := cs.foldl credit E

def putAccount (E : Economy) (sessionId : String) (a : SessionFundingAccount) : Economy :=
  { E with accounts := E.accounts.set sessionId a }

def noteLock (E : Economy) (sessionId : String) (amount : Int) : Economy :=
  { E with locks := ⟨sessionId, amount⟩ :: E.locks }

/-- Open the account of a session: a prepaid account takes its amount from a wallet. -/
def openAccount (E : Economy) (a : SessionFundingAccount) : Economy :=
  ((if a.fundingClass = .escrowPrepaid then E.pay a.consumerFundingAccount (-a.totalLockedAmount)
    else E).noteLock a.sessionId a.totalLockedAmount).putAccount a.sessionId a

/-- All Q atoms of the ledger. -/
def supply (E : Economy) : Int :=
  E.balances.sum (fun _ b => b) + E.stakes.sum (fun _ s => s.held) +
    E.accounts.sum (fun _ a => a.held) + E.recyclable + E.burned

end Economy

def paidTo (role : SessionRole) (cs : List SessionCredit) : Int :=
  ((cs.filter (·.role = role)).map SessionCredit.amount).sum

/-- Total of some credits. -/
def paid (cs : List SessionCredit) : Int := (cs.map SessionCredit.amount).sum

def creditsOf (sessionId : String) (cs : List SessionCredit) : List SessionCredit :=
  cs.filter (·.sessionId = sessionId)

def lockedFor (sessionId : String) (ls : List SessionLock) : Int :=
  ((ls.filter (·.sessionId = sessionId)).map SessionLock.amount).sum

/-- Q atoms that a kind of step creates. -/
def Label.issued : Label → Int
  | .issue amount => amount
  | _ => 0

/-- What a payout changes in an account: the credits leave its reserves, and nothing else
does. -/
structure Pays (a a' : SessionFundingAccount) (cs : List SessionCredit) : Prop where
  session : a'.sessionId = a.sessionId
  paymentReserve : a'.endpointPaymentReserve = a.endpointPaymentReserve
  feeReserve : a'.networkFeeReserve = a.networkFeeReserve
  own : ∀ c ∈ cs, c.sessionId = a.sessionId
  released : a'.releasedToEndpoint = a.releasedToEndpoint + paidTo .endpoint cs
  refunded : a'.consumerPaymentRefund + a'.consumerFeeRefund =
    a.consumerPaymentRefund + a.consumerFeeRefund + paidTo .consumer cs

/-- An account as a lock creates it. -/
structure Untouched (a : SessionFundingAccount) : Prop where
  locked : a.fundingState = .locked
  released : a.releasedToEndpoint = 0
  paymentRefund : a.consumerPaymentRefund = 0
  dispute : a.activeDisputeReserve = 0
  consumed : a.consumedNetworkFees = 0
  feeRefund : a.consumerFeeRefund = 0

/-- What an extension changes in an account. -/
structure Extends (a a' : SessionFundingAccount) (amount : Int) : Prop where
  covers : Covers a' a
  locked : a.fundingState = .locked
  stillLocked : a'.fundingState = .locked
  total : a'.totalLockedAmount = a.totalLockedAmount + amount
  released : a'.releasedToEndpoint = a.releasedToEndpoint
  paymentRefund : a'.consumerPaymentRefund = a.consumerPaymentRefund
  feeRefund : a'.consumerFeeRefund = a.consumerFeeRefund
  consumed : a'.consumedNetworkFees = a.consumedNetworkFees

/-- The account is reserved for a dispute. -/
def SessionFundingAccount.Reserved (a : SessionFundingAccount) : Prop :=
  a.fundingState = .disputeReserved ∧ 0 < a.activeDisputeReserve

namespace Economy

inductive Step : Label → Economy → Economy → Prop
  | idle (E : Economy) : Step .neutral E E
  | issue (E : Economy) (wallet : String) (amount : Int) :
      Step (.issue amount) E (E.pay wallet amount)
  | transfer (E : Economy) (sender recipient : String) (amount fee : Int) :
      Step .neutral E
        { (E.pay sender (-(amount + fee))).pay recipient amount with
          recyclable := E.recyclable + fee }
  | fine (E : Economy) (wallet : String) (amount recycled burned : Int)
      (split : recycled + burned = amount) :
      Step .neutral E
        { E.pay wallet (-amount) with
          recyclable := E.recyclable + recycled, burned := E.burned + burned }
  | stakeMove (E : Economy) (wallet : String) (amount : Int) (stake : StakeRecord)
      (nonneg : 0 ≤ stake.amount)
      (balanced : stake.held + amount = E.stakes.weight (fun _ s => s.held) stake.stakeId) :
      Step .neutral E
        { E.pay wallet amount with stakes := E.stakes.set stake.stakeId stake }
  | stakeChange (E : Economy) (stake : StakeRecord) (recycled burned : Int)
      (nonneg : 0 ≤ stake.amount)
      (balanced : stake.held + recycled + burned =
        E.stakes.weight (fun _ s => s.held) stake.stakeId) :
      Step .neutral E
        { E with
          stakes := E.stakes.set stake.stakeId stake
          recyclable := E.recyclable + recycled
          burned := E.burned + burned }
  | propose (E : Economy) (p : SessionSettlementProposal) (a : SessionFundingAccount)
      (stored : E.accounts.get? p.sessionId = some a) (fits : Fits p a) :
      Step .neutral E { E with proposals := E.proposals.set p.settlementId p }
  | lock (E : Economy) (a : SessionFundingAccount)
      (fresh : E.accounts.get? a.sessionId = none) (untouched : Untouched a) :
      Step .lock E (E.openAccount a)
  | extend (E : Economy) (a a' : SessionFundingAccount) (amount : Int)
      (stored : E.accounts.get? a.sessionId = some a) (extended : Extends a a' amount) :
      Step .extend E
        (((E.pay a.consumerFundingAccount (-amount)).noteLock a.sessionId amount).putAccount
          a.sessionId a')
  | payout (kind : PayoutKind) (E : Economy) (a a' : SessionFundingAccount)
      (cs : List SessionCredit) (stored : E.accounts.get? a.sessionId = some a)
      (pays : Pays a a' cs) (unsettled : a.fundingState.isFinal = false)
      (unreserved : kind = .correct ∨ kind = .finalize ∨ ¬ a.Reserved)
      (settles : kind = .finalize → a'.fundingState = .released) :
      Step (.payout kind) E ((E.creditAll cs).putAccount a.sessionId a')

/-! ## Frames -/

section Frames

variable (E : Economy) (wallet sessionId : String) (amount : Int) (a : SessionFundingAccount)
  (c : SessionCredit) (cs : List SessionCredit)

@[simp] theorem pay_stakes : (E.pay wallet amount).stakes = E.stakes := rfl
@[simp] theorem pay_accounts : (E.pay wallet amount).accounts = E.accounts := rfl
@[simp] theorem pay_proposals : (E.pay wallet amount).proposals = E.proposals := rfl
@[simp] theorem pay_recyclable : (E.pay wallet amount).recyclable = E.recyclable := rfl
@[simp] theorem pay_burned : (E.pay wallet amount).burned = E.burned := rfl
@[simp] theorem pay_credits : (E.pay wallet amount).credits = E.credits := rfl
@[simp] theorem pay_locks : (E.pay wallet amount).locks = E.locks := rfl

@[simp] theorem putAccount_accounts :
    (E.putAccount sessionId a).accounts = E.accounts.set sessionId a := rfl
@[simp] theorem putAccount_stakes : (E.putAccount sessionId a).stakes = E.stakes := rfl
@[simp] theorem putAccount_proposals : (E.putAccount sessionId a).proposals = E.proposals := rfl
@[simp] theorem putAccount_credits : (E.putAccount sessionId a).credits = E.credits := rfl
@[simp] theorem putAccount_locks : (E.putAccount sessionId a).locks = E.locks := rfl

@[simp] theorem noteLock_accounts : (E.noteLock sessionId amount).accounts = E.accounts := rfl
@[simp] theorem noteLock_stakes : (E.noteLock sessionId amount).stakes = E.stakes := rfl
@[simp] theorem noteLock_proposals : (E.noteLock sessionId amount).proposals = E.proposals := rfl
@[simp] theorem noteLock_credits : (E.noteLock sessionId amount).credits = E.credits := rfl
@[simp] theorem noteLock_locks :
    (E.noteLock sessionId amount).locks = ⟨sessionId, amount⟩ :: E.locks := rfl
@[simp] theorem noteLock_supply : (E.noteLock sessionId amount).supply = E.supply := rfl

@[simp] theorem openAccount_accounts :
    (E.openAccount a).accounts = E.accounts.set a.sessionId a := by
  unfold openAccount
  split <;> rfl

@[simp] theorem openAccount_stakes : (E.openAccount a).stakes = E.stakes := by
  unfold openAccount
  split <;> rfl

@[simp] theorem openAccount_proposals : (E.openAccount a).proposals = E.proposals := by
  unfold openAccount
  split <;> rfl

@[simp] theorem openAccount_credits : (E.openAccount a).credits = E.credits := by
  unfold openAccount
  split <;> rfl

@[simp] theorem openAccount_locks :
    (E.openAccount a).locks = ⟨a.sessionId, a.totalLockedAmount⟩ :: E.locks := by
  unfold openAccount
  split <;> rfl

/-- Credits touch the balances and their own record only. -/
theorem creditAll_frame :
    (E.creditAll cs).stakes = E.stakes ∧ (E.creditAll cs).accounts = E.accounts ∧
      (E.creditAll cs).proposals = E.proposals ∧ (E.creditAll cs).locks = E.locks ∧
      (E.creditAll cs).credits = cs.reverse ++ E.credits := by
  induction cs generalizing E with
  | nil => simp [creditAll]
  | cons c cs ih =>
    have h := ih (E.credit c)
    refine ⟨h.1, h.2.1, h.2.2.1, h.2.2.2.1, h.2.2.2.2.trans ?_⟩
    simp [credit]

@[simp] theorem creditAll_stakes : (E.creditAll cs).stakes = E.stakes := (E.creditAll_frame cs).1
@[simp] theorem creditAll_accounts : (E.creditAll cs).accounts = E.accounts :=
  (E.creditAll_frame cs).2.1
@[simp] theorem creditAll_proposals : (E.creditAll cs).proposals = E.proposals :=
  (E.creditAll_frame cs).2.2.1
@[simp] theorem creditAll_locks : (E.creditAll cs).locks = E.locks :=
  (E.creditAll_frame cs).2.2.2.1
@[simp] theorem creditAll_credits : (E.creditAll cs).credits = cs.reverse ++ E.credits :=
  (E.creditAll_frame cs).2.2.2.2

end Frames

/-! ## Well-formedness -/

/-- The shape of every reachable economy: accounts and stakes are stored under their own
identity, and every proposal fits the account of its session. -/
structure WellFormed (E : Economy) : Prop where
  accounts : ∀ {s a}, E.accounts.get? s = some a → a.sessionId = s
  stakes : ∀ {k st}, E.stakes.get? k = some st → st.stakeId = k ∧ 0 ≤ st.amount
  proposals : ∀ {i p}, E.proposals.get? i = some p →
    ∃ a, E.accounts.get? p.sessionId = some a ∧ Fits p a

section WellFormed

variable {E E' : Economy}

/-- Storing an account keeps the shape when it covers the one it replaces. -/
theorem WellFormed.putAccount (h : E.WellFormed) {a : SessionFundingAccount}
    (covers : ∀ b, E.accounts.get? a.sessionId = some b → Covers a b)
    (stakes : E'.stakes = E.stakes) (proposals : E'.proposals = E.proposals)
    (accounts : E'.accounts = E.accounts.set a.sessionId a) : E'.WellFormed := by
  constructor
  · intro s b hb
    rw [accounts, Dict.get?_set] at hb
    split at hb
    · next hs =>
      cases hb
      exact hs.symm
    · exact h.accounts hb
  · intro k st hst
    exact h.stakes (stakes ▸ hst)
  · intro i p hp
    obtain ⟨b, hb, hfit⟩ := h.proposals (proposals ▸ hp)
    rw [accounts]
    by_cases hs : p.sessionId = a.sessionId
    · refine ⟨a, ?_, ?_⟩
      · rw [hs, Dict.get?_set_self]
      · exact hfit.of_covers (covers b (hs ▸ hb))
    · exact ⟨b, by rw [Dict.get?_set_of_ne _ _ hs, hb], hfit⟩

/-- Storing a stake keeps the shape. -/
theorem WellFormed.putStake (h : E.WellFormed) {stake : StakeRecord} (nonneg : 0 ≤ stake.amount)
    (stakes : E'.stakes = E.stakes.set stake.stakeId stake)
    (proposals : E'.proposals = E.proposals) (accounts : E'.accounts = E.accounts) :
    E'.WellFormed := by
  constructor
  · intro s b hb
    exact h.accounts (accounts ▸ hb)
  · intro k st hst
    rw [stakes, Dict.get?_set] at hst
    split at hst
    · next hk =>
      cases hst
      exact ⟨hk.symm, nonneg⟩
    · exact h.stakes hst
  · intro i p hp
    rw [accounts]
    exact h.proposals (proposals ▸ hp)

/-- Steps that store neither accounts, stakes nor proposals keep the shape. -/
theorem WellFormed.of_eq (h : E.WellFormed) (stakes : E'.stakes = E.stakes)
    (accounts : E'.accounts = E.accounts) (proposals : E'.proposals = E.proposals) :
    E'.WellFormed := by
  constructor
  · intro s b hb
    exact h.accounts (accounts ▸ hb)
  · intro k st hst
    exact h.stakes (stakes ▸ hst)
  · intro i p hp
    rw [accounts]
    exact h.proposals (proposals ▸ hp)

/-- Every step keeps the shape. -/
theorem Step.wellFormed {label : Label} (step : Step label E E') (h : E.WellFormed) :
    E'.WellFormed := by
  cases step with
  | idle => exact h
  | issue | transfer | fine => exact h.of_eq rfl rfl rfl
  | stakeMove _ wallet amount stake nonneg balanced => exact h.putStake nonneg rfl rfl rfl
  | stakeChange _ stake recycled burned nonneg balanced => exact h.putStake nonneg rfl rfl rfl
  | propose _ p a stored fits =>
    refine ⟨h.accounts, h.stakes, ?_⟩
    intro i q hq
    simp only [Dict.get?_set] at hq
    split at hq
    · cases hq
      exact ⟨a, stored, fits⟩
    · exact h.proposals hq
  | lock _ a fresh untouched =>
    have covers : ∀ b, E.accounts.get? a.sessionId = some b → Covers a b := by
      intro b hb
      rw [fresh] at hb
      cases hb
    exact h.putAccount covers (by simp) (by simp) (by simp)
  | extend _ a a' amount stored extended =>
    have hs : a'.sessionId = a.sessionId := extended.covers.session
    refine h.putAccount (a := a') ?_ rfl rfl ?_
    · intro b hb
      rw [hs, stored] at hb
      cases hb
      exact extended.covers
    · simp [hs]
  | payout kind _ a a' cs stored pays =>
    refine h.putAccount (a := a') ?_ (by simp) (by simp) (by simp [pays.session])
    intro b hb
    rw [pays.session, stored] at hb
    cases hb
    exact ⟨pays.session, Int.le_of_eq pays.paymentReserve.symm, Int.le_of_eq pays.feeReserve.symm⟩

end WellFormed

/-! ## Supply -/

section Supply

variable (E : Economy)

/-- A payment adds its amount to the supply. -/
theorem supply_pay (wallet : String) (amount : Int) :
    (E.pay wallet amount).supply = E.supply + amount := by
  have h := Dict.sum_set (fun _ b => b) E.balances wallet (E.balance wallet + amount)
  have hw : E.balances.weight (fun _ b => b) wallet = E.balance wallet := by
    rw [Dict.weight, balance]
    cases E.balances.get? wallet <;> rfl
  rw [hw] at h
  simp only [supply, pay_stakes, pay_accounts, pay_recyclable, pay_burned]
  simp only [pay]
  omega

/-- Credits add their total to the supply. -/
theorem supply_creditAll (cs : List SessionCredit) :
    (E.creditAll cs).supply = E.supply + paid cs := by
  induction cs generalizing E with
  | nil => simp [creditAll, paid]
  | cons c cs ih =>
    have hc : (E.credit c).supply = E.supply + c.amount := E.supply_pay c.walletId c.amount
    calc (E.creditAll (c :: cs)).supply = (E.credit c).supply + paid cs := ih (E.credit c)
      _ = E.supply + paid (c :: cs) := by rw [hc, paid, paid, map_cons, sum_cons]; omega

/-- Storing an account exchanges what the account of the session holds. -/
theorem supply_putAccount (sessionId : String) (a : SessionFundingAccount) :
    (E.putAccount sessionId a).supply + E.accounts.weight (fun _ a => a.held) sessionId =
      E.supply + a.held := by
  have h := Dict.sum_set (fun _ a => a.held) E.accounts sessionId a
  simp only [supply, putAccount]
  omega

end Supply

/-- The credits of both roles together. -/
theorem paidTo_add_paidTo (cs : List SessionCredit) :
    paidTo .endpoint cs + paidTo .consumer cs = paid cs := by
  induction cs with
  | nil => rfl
  | cons c cs ih =>
    simp only [paidTo, paid, filter_cons, map_cons, sum_cons] at ih ⊢
    cases c.role <;> simp <;> omega

variable {a : SessionFundingAccount} {cs : List SessionCredit} {E E' : Economy} {label : Label}
  {s : String}

/-- A payout takes its credits out of what the account holds. -/
theorem held_of_pays {a' : SessionFundingAccount} (h : Pays a a' cs) :
    a'.held + paid cs = a.held := by
  have hp := a.held_add_paid
  have hp' := a'.held_add_paid
  have ht := a.total_eq
  have ht' := a'.total_eq
  have hr := h.released
  have hf := h.refunded
  have hpay := h.paymentReserve
  have hfee := h.feeReserve
  have hsum := paidTo_add_paidTo cs
  omega

/-- What a lock adds to the supply: nothing when it takes the amount from a wallet. -/
def unbacked (a : SessionFundingAccount) : Int :=
  if a.fundingClass = .escrowPrepaid then 0 else a.totalLockedAmount

/-- A new account holds all that was locked for it. -/
theorem held_of_untouched (h : Untouched a) : a.held = a.totalLockedAmount := by
  have hp := a.held_add_paid
  rw [h.released, h.paymentRefund, h.feeRefund] at hp
  omega

/-- A lock adds to the supply what it does not back. -/
theorem supply_openAccount (fresh : E.accounts.get? a.sessionId = none) (untouched : Untouched a) :
    (E.openAccount a).supply = E.supply + unbacked a := by
  have hw : E.accounts.weight (fun _ a => SessionFundingAccount.held a) a.sessionId = 0 :=
    Dict.weight_of_get?_none fresh
  have hheld := held_of_untouched untouched
  unfold openAccount unbacked
  split
  · have h₁ := E.supply_pay a.consumerFundingAccount (-a.totalLockedAmount)
    have h₂ := ((E.pay a.consumerFundingAccount (-a.totalLockedAmount)).noteLock a.sessionId
      a.totalLockedAmount).supply_putAccount a.sessionId a
    simp only [noteLock_supply, noteLock_accounts, pay_accounts, hw] at h₂
    omega
  · have h₂ := (E.noteLock a.sessionId a.totalLockedAmount).supply_putAccount a.sessionId a
    simp only [noteLock_supply, noteLock_accounts, hw] at h₂
    omega

/-- Every step but a lock changes the supply by what it issues. -/
theorem Step.supply (step : Step label E E') (hlabel : label ≠ .lock) :
    E'.supply = E.supply + label.issued := by
  cases step with
  | idle => simp [Label.issued]
  | issue _ wallet amount => exact E.supply_pay wallet amount
  | transfer _ sender recipient amount fee =>
    have h₁ := E.supply_pay sender (-(amount + fee))
    have h₂ := (E.pay sender (-(amount + fee))).supply_pay recipient amount
    simp only [Economy.supply, pay_recyclable, pay_burned, pay_stakes, pay_accounts,
      Label.issued] at h₁ h₂ ⊢
    omega
  | fine _ wallet amount recycled burned split =>
    have h₁ := E.supply_pay wallet (-amount)
    simp only [Economy.supply, pay_recyclable, pay_burned, pay_stakes, pay_accounts,
      Label.issued] at h₁ ⊢
    omega
  | stakeMove _ wallet amount stake nonneg balanced =>
    have h₁ := E.supply_pay wallet amount
    have h₂ := Dict.sum_set (fun _ s => StakeRecord.held s) E.stakes stake.stakeId stake
    simp only [Economy.supply, pay_recyclable, pay_burned, pay_stakes, pay_accounts,
      Label.issued] at h₁ ⊢
    omega
  | stakeChange _ stake recycled burned nonneg balanced =>
    have h₂ := Dict.sum_set (fun _ s => StakeRecord.held s) E.stakes stake.stakeId stake
    simp only [Economy.supply, Label.issued]
    omega
  | propose _ p a stored fits =>
    simp only [Economy.supply, Label.issued, Int.add_zero]
  | lock => exact absurd rfl hlabel
  | extend _ a a' amount stored extended =>
    have hw : E.accounts.weight (fun _ a => SessionFundingAccount.held a) a.sessionId = a.held :=
      Dict.weight_of_get? stored
    have h₁ := E.supply_pay a.consumerFundingAccount (-amount)
    have h₂ := ((E.pay a.consumerFundingAccount (-amount)).noteLock a.sessionId
      amount).supply_putAccount a.sessionId a'
    simp only [noteLock_supply, noteLock_accounts, pay_accounts, hw] at h₂
    have hheld := a.held_add_paid
    have hheld' := a'.held_add_paid
    rw [extended.released, extended.paymentRefund, extended.feeRefund, extended.total] at hheld'
    simp only [Label.issued]
    omega
  | payout kind _ a a' cs stored pays =>
    have hw : E.accounts.weight (fun _ a => SessionFundingAccount.held a) a.sessionId = a.held :=
      Dict.weight_of_get? stored
    have h₁ := E.supply_creditAll cs
    have h₂ := (E.creditAll cs).supply_putAccount a.sessionId a'
    rw [creditAll_accounts, hw] at h₂
    have hheld := held_of_pays pays
    simp only [Label.issued]
    omega

/-! ## The books of a session -/

/-- The records of what sessions locked and were paid agree with their accounts. -/
structure Books (E : Economy) : Prop where
  absent : ∀ {s}, E.accounts.get? s = none →
    creditsOf s E.credits = [] ∧ lockedFor s E.locks = 0
  endpoint : ∀ {s a}, E.accounts.get? s = some a →
    paidTo .endpoint (creditsOf s E.credits) = a.releasedToEndpoint
  consumer : ∀ {s a}, E.accounts.get? s = some a →
    paidTo .consumer (creditsOf s E.credits) = a.consumerPaymentRefund + a.consumerFeeRefund
  locked : ∀ {s a}, E.accounts.get? s = some a → lockedFor s E.locks = a.totalLockedAmount

theorem creditsOf_append (s : String) (cs ds : List SessionCredit) :
    creditsOf s (cs ++ ds) = creditsOf s cs ++ creditsOf s ds := filter_append ..

theorem paidTo_append (role : SessionRole) (cs ds : List SessionCredit) :
    paidTo role (cs ++ ds) = paidTo role cs + paidTo role ds := by
  simp [paidTo, filter_append]

theorem paidTo_reverse (role : SessionRole) (cs : List SessionCredit) :
    paidTo role cs.reverse = paidTo role cs := by
  simp [paidTo, filter_reverse, sum_reverse]

/-- Credits of one session are credits of that session and of no other. -/
theorem creditsOf_own (h : ∀ c ∈ cs, c.sessionId = s) (t : String) :
    creditsOf t cs.reverse = if t = s then cs.reverse else [] := by
  rw [creditsOf]
  split
  · next hts =>
    subst hts
    rw [filter_eq_self]
    intro c hc
    simpa using h c (mem_reverse.mp hc)
  · next hts =>
    rw [filter_eq_nil_iff]
    intro c hc
    rw [decide_eq_true_eq, h c (mem_reverse.mp hc)]
    exact fun hst => hts hst.symm

theorem lockedFor_cons (s t : String) (amount : Int) (ls : List SessionLock) :
    lockedFor s (⟨t, amount⟩ :: ls) = (if t = s then amount else 0) + lockedFor s ls := by
  rw [lockedFor, lockedFor, filter_cons]
  by_cases h : t = s <;> simp [h]

/-- Steps that leave accounts and records alone keep the books. -/
theorem Books.of_eq (h : Books E) (accounts : E'.accounts = E.accounts)
    (credits : E'.credits = E.credits) (locks : E'.locks = E.locks) : Books E' := by
  constructor
  · intro s hs
    rw [credits, locks]
    exact h.absent (accounts ▸ hs)
  · intro s a hs
    rw [credits]
    exact h.endpoint (accounts ▸ hs)
  · intro s a hs
    rw [credits]
    exact h.consumer (accounts ▸ hs)
  · intro s a hs
    rw [locks]
    exact h.locked (accounts ▸ hs)

/-- The books after the account of one session is stored, with its own credits and locks. -/
theorem Books.putAccount (h : Books E) (s : String) (a : SessionFundingAccount)
    (cs : List SessionCredit) (locked : Int) (own : ∀ c ∈ cs, c.sessionId = s)
    (accounts : E'.accounts = E.accounts.set s a) (credits : E'.credits = cs.reverse ++ E.credits)
    (locks : ∀ t, lockedFor t E'.locks = (if s = t then locked else 0) + lockedFor t E.locks)
    (endpoint : paidTo .endpoint cs + paidTo .endpoint (creditsOf s E.credits) =
      a.releasedToEndpoint)
    (consumer : paidTo .consumer cs + paidTo .consumer (creditsOf s E.credits) =
      a.consumerPaymentRefund + a.consumerFeeRefund)
    (total : locked + lockedFor s E.locks = a.totalLockedAmount) : Books E' := by
  have hcredits : ∀ t, creditsOf t E'.credits =
      (if t = s then cs.reverse else []) ++ creditsOf t E.credits := by
    intro t
    rw [credits, creditsOf_append, creditsOf_own own]
  constructor
  · intro t ht
    rw [accounts, Dict.get?_set] at ht
    split at ht
    · cases ht
    · next hts =>
      have hold := h.absent ht
      rw [hcredits, if_neg hts, hold.1, locks, if_neg (Ne.symm hts), hold.2]
      exact ⟨rfl, rfl⟩
  · intro t b hb
    rw [hcredits, paidTo_append]
    rw [accounts, Dict.get?_set] at hb
    split at hb
    · next hts =>
      cases hb
      rw [if_pos hts, paidTo_reverse, hts]
      exact endpoint
    · next hts =>
      rw [if_neg hts, h.endpoint hb]
      simp [paidTo]
  · intro t b hb
    rw [hcredits, paidTo_append]
    rw [accounts, Dict.get?_set] at hb
    split at hb
    · next hts =>
      cases hb
      rw [if_pos hts, paidTo_reverse, hts]
      exact consumer
    · next hts =>
      rw [if_neg hts, h.consumer hb]
      simp [paidTo]
  · intro t b hb
    rw [locks]
    rw [accounts, Dict.get?_set] at hb
    split at hb
    · next hts =>
      cases hb
      rw [if_pos hts.symm, hts]
      exact total
    · next hts =>
      rw [if_neg (Ne.symm hts), h.locked hb]
      omega

/-- Every step keeps the books. -/
theorem Step.books (step : Step label E E') (h : Books E) : Books E' := by
  cases step with
  | idle => exact h
  | issue | transfer | fine | stakeMove | stakeChange | propose => exact h.of_eq rfl rfl rfl
  | lock _ a fresh untouched =>
    have hnone := h.absent fresh
    have hpaid : ∀ role, paidTo role [] + paidTo role (creditsOf a.sessionId E.credits) = 0 := by
      intro role
      rw [hnone.1]
      rfl
    refine h.putAccount a.sessionId a [] a.totalLockedAmount (by simp) (by simp) (by simp) ?_ ?_ ?_
      ?_
    · intro t
      rw [openAccount_locks, lockedFor_cons]
    · rw [hpaid, untouched.released]
    · rw [hpaid, untouched.paymentRefund, untouched.feeRefund]
      rfl
    · rw [hnone.2]
      omega
  | extend _ a a' amount stored extended =>
    refine h.putAccount a.sessionId a' [] amount (by simp) rfl rfl
      (fun t => lockedFor_cons t a.sessionId amount E.locks) ?_ ?_ ?_
    · rw [h.endpoint stored, extended.released]
      exact Int.zero_add _
    · rw [h.consumer stored, extended.paymentRefund, extended.feeRefund]
      exact Int.zero_add _
    · rw [h.locked stored, extended.total]
      omega
  | payout kind _ a a' cs stored pays =>
    refine h.putAccount a.sessionId a' cs 0 pays.own (by simp) (by simp) (by simp) ?_ ?_ ?_
    · rw [h.endpoint stored, pays.released]
      omega
    · rw [h.consumer stored, pays.refunded]
      omega
    · rw [h.locked stored, a'.total_eq, pays.paymentReserve, pays.feeReserve, a.total_eq]
      omega

/-- A session is paid out of what was locked for it. -/
theorem Books.within (h : Books E) (stored : E.accounts.get? s = some a) :
    paidTo .endpoint (creditsOf s E.credits) + paidTo .consumer (creditsOf s E.credits) +
      a.consumedNetworkFees ≤ lockedFor s E.locks := by
  rw [h.endpoint stored, h.consumer stored, h.locked stored]
  have hp := a.payment_eq
  have hf := a.fee_eq
  have ht := a.total_eq
  have hn := a.nonneg
  have hdispute := hn.activeDisputeReserve
  have hpay := hn.unsettledPaymentReserve
  have hfee := hn.unsettledFeeReserve
  omega

/-! ## Accounts that steps leave alone -/

/-- The account of a session and its credits are the same in two economies. -/
def Keeps (s : String) (E E' : Economy) : Prop :=
  E'.accounts.get? s = E.accounts.get? s ∧ creditsOf s E'.credits = creditsOf s E.credits

/-- A step either keeps a stored account and its credits, or is an extension or a payout
of that very account. -/
theorem Step.keeps_or (step : Step label E E') (h : E.WellFormed)
    (stored : E.accounts.get? s = some a) :
    Keeps s E E' ∨
      (label = .extend ∧ a.fundingState = .locked) ∨
      ∃ kind a', label = .payout kind ∧ E'.accounts.get? s = some a' ∧
        a.fundingState.isFinal = false ∧
        (kind = .correct ∨ kind = .finalize ∨ ¬ a.Reserved) ∧
        (kind = .finalize → a'.fundingState = .released) := by
  have hs := h.accounts stored
  cases step with
  | idle | issue | transfer | fine | stakeMove | stakeChange | propose => exact .inl ⟨rfl, rfl⟩
  | lock _ b fresh untouched =>
    have hne : s ≠ b.sessionId := by
      rintro rfl
      rw [fresh] at stored
      cases stored
    refine .inl ⟨?_, ?_⟩
    · simp [Dict.get?_set_of_ne _ _ hne]
    · simp
  | extend _ b b' amount stored' extended =>
    by_cases hb : s = b.sessionId
    · rw [hb, stored'] at stored
      cases stored
      exact .inr (.inl ⟨rfl, extended.locked⟩)
    · refine .inl ⟨?_, by simp⟩
      simp [Dict.get?_set_of_ne _ _ hb]
  | payout kind _ b b' cs stored' pays unsettled unreserved settles =>
    by_cases hb : s = b.sessionId
    · rw [hb, stored'] at stored
      cases stored
      refine .inr (.inr ⟨kind, b', rfl, ?_, unsettled, unreserved, settles⟩)
      simp [hb]
    · refine .inl ⟨?_, ?_⟩
      · simp [Dict.get?_set_of_ne _ _ hb]
      · simp [creditsOf_append, creditsOf_own pays.own, hb]

/-- No step changes a settled account or pays its session. -/
theorem Step.settled (step : Step label E E') (h : E.WellFormed)
    (stored : E.accounts.get? s = some a) (settled : a.fundingState.isFinal = true) :
    Keeps s E E' := by
  rcases step.keeps_or h stored with hk | ⟨-, hl⟩ | ⟨kind, a', -, -, hu, -⟩
  · exact hk
  · rw [hl] at settled
    cases settled
  · rw [hu] at settled
    cases settled

/-- A reserved account is kept, corrected or finalized. -/
theorem Step.reserved (step : Step label E E') (h : E.WellFormed)
    (stored : E.accounts.get? s = some a) (reserved : a.Reserved) :
    Keeps s E E' ∨ label = .payout .correct ∨
      (label = .payout .finalize ∧
        ∃ a', E'.accounts.get? s = some a' ∧ a'.fundingState = .released) := by
  rcases step.keeps_or h stored with hk | ⟨-, hl⟩ | ⟨kind, a', rfl, ha', -, hr, hf⟩
  · exact .inl hk
  · rw [reserved.1] at hl
    cases hl
  · rcases hr with rfl | rfl | hr
    · exact .inr (.inl rfl)
    · exact .inr (.inr ⟨rfl, a', ha', hf rfl⟩)
    · exact absurd reserved hr

end Economy

end AidnSpec.Ledger
