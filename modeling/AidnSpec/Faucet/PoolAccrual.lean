import AidnSpec.Faucet.OnePayout

/-!
# What the pool has accrued

The next state of the pool is computed when a claim is made and written when the claim is finalized,
whatever the state is by then. In a run without stale claims and stale writes the transfers that are
final draw on successive states, and their sum is what has accrued.
-/

namespace AidnSpec.Faucet

open Base FaucetStore List

namespace AccumulatingPoolPolicy

variable (policy : AccumulatingPoolPolicy)

/-- The interval in microseconds. -/
def period : Int := 1000000 * policy.intervalSeconds

theorem period_positive : 0 < policy.period := by
  have h := policy.interval_positive
  unfold period
  omega

theorem rateQAtoms_nonneg : 0 ≤ policy.rateQAtoms := by
  unfold rateQAtoms qAtomsPerQ
  omega

/-- The rounding to a float counts no interval that has not elapsed. -/
def elapsedExactly (state : PoolState) (now : UtcReading) : Bool :=
  policy.intervals state now ≤
    (now.micros - state.lastDripAt).toNat / (1000000 * policy.intervalSeconds)

/-- The transfer of a claim is what has accrued since the last drip of a state, and the claim leads
to the next state. -/
def Draws (state : PoolState) (claim : ClaimRecord PoolState) : Prop :=
  ∃ now : UtcReading, state.lastDripAt ≤ now.micros ∧
    claim.transfer.amount ≤ policy.rateQAtoms * ((now.micros - state.lastDripAt) / policy.period) ∧
    claim.stateAfterSuccess = nextState state now

/-- Claims that draw on successive states. -/
inductive Paid (start : PoolState) : List (ClaimRecord PoolState) → PoolState → Prop where
  | nil : Paid start [] start
  | concat {claims : List (ClaimRecord PoolState)} {state : PoolState}
      {claim : ClaimRecord PoolState} (hpaid : Paid start claims state)
      (hdraws : policy.Draws state claim) :
      Paid start (claims ++ [claim]) claim.stateAfterSuccess

variable {policy}

/-- The intervals of two spans are intervals of the whole. -/
theorem ediv_add_le (a b : Int) {period : Int} (hperiod : 0 < period) :
    a / period + b / period ≤ (a + b) / period := by
  apply Int.le_ediv_of_mul_le hperiod
  have ha := Int.ediv_mul_le a hperiod.ne'
  have hb := Int.ediv_mul_le b hperiod.ne'
  rw [Int.add_mul]
  omega

variable {start state : PoolState} {claims : List (ClaimRecord PoolState)}
  {claim : ClaimRecord PoolState}

theorem Paid.sum_le (h : policy.Paid start claims state) :
    (claims.map (·.transfer.amount)).sum ≤
      policy.rateQAtoms * ((state.lastDripAt - start.lastDripAt) / policy.period) := by
  induction h with
  | nil => simp
  | @concat claims state claim hpaid hdraws ih =>
    obtain ⟨now, hlast, hamount, hnext⟩ := hdraws
    have hspans := ediv_add_le (state.lastDripAt - start.lastDripAt)
      (now.micros - state.lastDripAt) policy.period_positive
    have hwhole : state.lastDripAt - start.lastDripAt + (now.micros - state.lastDripAt) =
        claim.stateAfterSuccess.lastDripAt - start.lastDripAt := by
      rw [hnext]
      unfold nextState
      dsimp only
      omega
    rw [hwhole] at hspans
    rw [map_append, sum_append, map_singleton, sum_singleton]
    calc (claims.map (·.transfer.amount)).sum + claim.transfer.amount
        ≤ policy.rateQAtoms * ((state.lastDripAt - start.lastDripAt) / policy.period) +
          policy.rateQAtoms * ((now.micros - state.lastDripAt) / policy.period) :=
          Int.add_le_add ih hamount
      _ = policy.rateQAtoms * ((state.lastDripAt - start.lastDripAt) / policy.period +
          (now.micros - state.lastDripAt) / policy.period) := (Int.mul_add _ _ _).symm
      _ ≤ _ := Int.mul_le_mul_of_nonneg_left hspans policy.rateQAtoms_nonneg

theorem Paid.state_concat (h : policy.Paid start (claims ++ [claim]) state) :
    state = claim.stateAfterSuccess := by
  generalize hall : claims ++ [claim] = all at h
  cases h with
  | nil => simp at hall
  | concat hpaid hdraws =>
    obtain ⟨-, hclaim⟩ := append_inj' hall rfl
    cases hclaim
    rfl

/-- Nothing is accumulated in the states that claims lead to. -/
theorem Paid.accumulated (h : policy.Paid start claims state)
    (hstart : start.accumulatedQAtoms = 0) : state.accumulatedQAtoms = 0 := by
  cases h with
  | nil => exact hstart
  | concat hpaid hdraws =>
    obtain ⟨now, -, -, hnext⟩ := hdraws
    rw [hnext]
    rfl

/-- A claim draws on the state that the policy has decided on. -/
theorem draws_of_decide {walletId : String} {now : UtcReading} {quotaExists : Bool}
    {decision : PolicyDecision PoolState}
    (h : policy.decide walletId state now quotaExists = .ok decision)
    (hempty : state.accumulatedQAtoms = 0) (hexact : policy.elapsedExactly state now = true)
    (hamount : claim.transfer.amount = decision.amountQAtoms)
    (hnext : claim.stateAfterSuccess = decision.stateAfterSuccess) : policy.Draws state claim := by
  obtain ⟨hdecided, hpositive, hafter⟩ := policy.of_decide h
  rw [elapsedExactly, decide_eq_true_eq] at hexact
  rw [hempty, Int.zero_add] at hdecided
  have hsome : policy.intervals state now ≠ 0 := by
    intro hzero
    rw [hdecided, hzero] at hpositive
    simp at hpositive
  have hlast : state.lastDripAt < now.micros := by
    by_contra hnot
    have hzero : (now.micros - state.lastDripAt).toNat = 0 := by omega
    rw [hzero, Nat.zero_div] at hexact
    omega
  refine ⟨now, hlast.le, ?_, hnext.trans hafter⟩
  rw [hamount, hdecided, Int.mul_comm]
  apply Int.mul_le_mul_of_nonneg_left _ policy.rateQAtoms_nonneg
  have hcast : (((now.micros - state.lastDripAt).toNat / (1000000 * policy.intervalSeconds) : ℕ) :
      Int) = (now.micros - state.lastDripAt) / policy.period := by
    rw [Int.natCast_ediv, Int.toNat_of_nonneg (by omega)]
    rfl
  rw [← hcast]
  exact_mod_cast hexact

end AccumulatingPoolPolicy

def poolService (policy : AccumulatingPoolPolicy) (service : FaucetService PoolState) :
    FaucetService PoolState :=
  { service with policy := policy.toFaucetPolicy }

namespace FaucetSystem

variable {policy : AccumulatingPoolPolicy} {service : FaucetService PoolState}
  {s s' : FaucetSystem PoolState}

/-- The claim is finalized in the store. -/
def finalizedIn (s : FaucetSystem PoolState) (requestId : String) : Bool :=
  (s.store.claims.get? requestId).any (·.status == .finalized)

/-- What the claim was decided on still holds when it is created: the state of the pool is the one
that was read, all final transfers are recorded in it, and no interval was counted too early. -/
def decisionHolds (policy : AccumulatingPoolPolicy) (service : FaucetService PoolState)
    (s : FaucetSystem PoolState) (choice : Choice PoolState) : Bool :=
  s.store.policyStates.get? service.policyStateKey == some choice.state &&
    (s.chain.final.all fun transfer => s.store.claims.values.any fun claim =>
      claim.transfer == transfer && claim.status == .finalized) &&
    policy.elapsedExactly choice.state choice.now

/-- A claim is created whose decision has become wrong, though its sequence is the next one, or a
claim is finalized once more after a later one. -/
def stale (policy : AccumulatingPoolPolicy) (service : FaucetService PoolState)
    (s : FaucetSystem PoolState) : FaucetEvent → Bool
  | .advance client _ => match s.stages client with
    | .spent choice sequence =>
      (s.store.createPendingClaim (service.newClaim choice sequence)).isSome &&
        sequence == s.chain.nextSequence && !s.decisionHolds policy service choice
    | .answered record (.submission operationId .finalized _) =>
      operationId == record.operationId && s.finalizedIn record.requestId &&
        s.store.policyStates.get? record.policyStateKey != some record.stateAfterSuccess
    | _ => false
  | _ => false

def Current (policy : AccumulatingPoolPolicy) (service : FaucetService PoolState)
    (s : FaucetSystem PoolState) (event : FaucetEvent) : Prop :=
  s.stale policy service event = false

instance decidableCurrent (policy : AccumulatingPoolPolicy) (service : FaucetService PoolState)
    (s : FaucetSystem PoolState) (event : FaucetEvent) :
    Decidable (s.Current policy service event) :=
  inferInstanceAs (Decidable (_ = false))

/-- The sum of the transfers that are final. -/
def paidTotal (s : FaucetSystem PoolState) : Int := (s.chain.final.map (·.amount)).sum

/-- After an event the pool has paid at most what has accrued since its start, and its state has not
gone back. -/
structure PaysAccrued (policy : AccumulatingPoolPolicy) (service : FaucetService PoolState)
    (start : Int) (s : FaucetSystem PoolState) (event : FaucetEvent) : Prop where
  total : (step service s event).paidTotal ≤
    policy.rateQAtoms * (((step service s event).latest - start) / policy.period)
  state : ∀ {before after},
    s.store.policyStates.get? service.policyStateKey = some before →
    (step service s event).store.policyStates.get? service.policyStateKey = some after →
    before.generation ≤ after.generation ∧ before.lastDripAt ≤ after.lastDripAt

/-! ## The books of the pool -/

/-- No claim in the store can become final. -/
def NoneLive (s : FaucetSystem PoolState) : Prop :=
  ∀ {id record}, s.store.claims.get? id = some record →
    record.transfer.senderSequence < s.chain.nextSequence

/-- All claims that are paid are finalized in the store, and the state is the last one. -/
structure Settled (service : FaucetService PoolState) (s : FaucetSystem PoolState)
    (paid : List (ClaimRecord PoolState)) (state : PoolState) : Prop where
  stored : s.store.policyStates.get? service.policyStateKey = some state
  finalized : ∀ claim ∈ paid, s.finalizedIn claim.requestId = true

/-- The last claim that is paid is not finalized in the store yet. -/
structure Owing (policy : AccumulatingPoolPolicy) (service : FaucetService PoolState)
    (s : FaucetSystem PoolState) (paid : List (ClaimRecord PoolState)) : Prop where
  last : ∃ earlier before claim, paid = earlier ++ [claim] ∧ policy.Draws before claim ∧
    Settled service s earlier before ∧ s.finalizedIn claim.requestId = false
  noneLive : s.NoneLive

/-- The transfers that are final draw on successive states. -/
structure Books (policy : AccumulatingPoolPolicy) (service : FaucetService PoolState)
    (start : PoolState) (s : FaucetSystem PoolState) (paid : List (ClaimRecord PoolState))
    (state : PoolState) : Prop where
  drawn : policy.Paid start paid state
  transfers : paid.map (·.transfer) = s.chain.final
  holds : ∀ claim ∈ paid, s.store.Holds claim
  read : state.lastDripAt ≤ s.latest
  live : ∀ {id record}, s.store.claims.get? id = some record →
    record.transfer.senderSequence = s.chain.nextSequence → policy.Draws state record
  recorded : Settled service s paid state ∨ Owing policy service s paid

variable {start : PoolState} {paid : List (ClaimRecord PoolState)} {state : PoolState}

variable {record : ClaimRecord PoolState} {requestId finalizedAt : String} {status : ClaimStatus}
  {detail : Option String} {event : FaucetEvent}

variable (h : Books policy service start s paid state)

include h in
/-- A claim that is paid is the claim in the store with its transfer. -/
theorem Books.claim_of_transfer (hconsistent : Consistent service s) {claim : ClaimRecord PoolState}
    (hclaim : claim ∈ paid)
    {id : String} (hrecord : s.store.claims.get? id = some record)
    (htransfer : record.transfer = claim.transfer) :
    id = claim.requestId ∧ record.opened = claim.opened := by
  obtain ⟨found, hfound, hopened⟩ := (h.holds claim hclaim).exists
  have hid : id = claim.requestId := by
    apply hconsistent.claimIds hrecord hfound
    rw [← hconsistent.claimId hrecord, ← hconsistent.claimId hfound, htransfer,
      (opened_inj hopened).2.2.1]
  subst hid
  rw [hrecord] at hfound
  cases hfound
  exact ⟨rfl, hopened⟩

theorem draws_of_opened {found : ClaimRecord PoolState} (h : record.opened = found.opened)
    (hdraws : policy.Draws state record) : policy.Draws state found := by
  obtain ⟨now, hlast, hamount, hnext⟩ := hdraws
  refine ⟨now, hlast, ?_, ?_⟩
  · rw [← (opened_inj h).2.2.1]
    exact hamount
  · rw [← (opened_inj h).2.2.2.2]
    exact hnext

include h in
/-- The books stay when the chain, the state and the claims that are finalized stay. -/
theorem Books.kept (hgrows : Grows s s') (hfinal : s'.chain.final = s.chain.final)
    (hsequence : s'.chain.nextSequence = s.chain.nextSequence)
    (hstored : s'.store.policyStates.get? service.policyStateKey =
      s.store.policyStates.get? service.policyStateKey)
    (hfinalized : ∀ claim ∈ paid, s'.finalizedIn claim.requestId = s.finalizedIn claim.requestId)
    (hlive : ∀ {id record}, s'.store.claims.get? id = some record →
      record.transfer.senderSequence = s.chain.nextSequence → policy.Draws state record)
    (hnone : Owing policy service s paid → s'.NoneLive) :
    Books policy service start s' paid state where
  drawn := h.drawn
  transfers := by rw [hfinal, h.transfers]
  holds claim hclaim := hgrows.holds (h.holds claim hclaim)
  read := h.read.trans hgrows.latest
  live hrecord hnext := hlive hrecord (hnext.trans hsequence)
  recorded := by
    rcases h.recorded with hsettled | howes
    · left
      refine ⟨hstored.trans hsettled.stored, fun claim hclaim => ?_⟩
      rw [hfinalized claim hclaim]
      exact hsettled.finalized claim hclaim
    · right
      obtain ⟨earlier, before, claim, rfl, hdraws, hsettled, howing⟩ := howes.last
      refine ⟨⟨earlier, before, claim, rfl, hdraws, ⟨hstored.trans hsettled.stored, ?_⟩, ?_⟩,
        hnone howes⟩
      · intro other hother
        rw [hfinalized other (mem_append_left _ hother)]
        exact hsettled.finalized other hother
      · rw [hfinalized claim (mem_append_right _ (mem_singleton_self _))]
        exact howing

include h in
/-- Claims that are only updated draw on the state as before. -/
theorem Books.kept_claims (hgrows : Grows s s')
    (hsame : ∀ {id record}, s'.store.claims.get? id = some record →
      ∃ found, s.store.claims.get? id = some found ∧ found.opened = record.opened)
    (hfinal : s'.chain.final = s.chain.final)
    (hsequence : s'.chain.nextSequence = s.chain.nextSequence)
    (hstored : s'.store.policyStates.get? service.policyStateKey =
      s.store.policyStates.get? service.policyStateKey)
    (hfinalized : ∀ id, s'.finalizedIn id = s.finalizedIn id) :
    Books policy service start s' paid state := by
  apply h.kept hgrows hfinal hsequence hstored fun claim _ => hfinalized claim.requestId
  · intro id record hrecord hnext
    obtain ⟨found, hfound, hopened⟩ := hsame hrecord
    rw [← (opened_inj hopened).2.2.1] at hnext
    exact draws_of_opened hopened (h.live hfound hnext)
  · intro howes id record hrecord
    obtain ⟨found, hfound, hopened⟩ := hsame hrecord
    rw [← (opened_inj hopened).2.2.1, hsequence]
    exact howes.noneLive hfound

theorem finalizedIn_of_claims (h : s'.store.claims = s.store.claims) (id : String) :
    s'.finalizedIn id = s.finalizedIn id := by
  unfold finalizedIn
  rw [h]

/-- A submission that is marked finalizes no claim. -/
theorem finalizedIn_markSubmission {detail : String} (hstatus : status ≠ .finalized)
    (hstore : s'.store = s.store.markSubmission requestId status detail) (id : String) :
    s'.finalizedIn id = s.finalizedIn id := by
  unfold finalizedIn
  rw [hstore, markSubmission, get?_updateClaim, Option.any_map]
  congr 1
  funext claim
  split_ifs with hupdated
  · simp [hstatus, hupdated.2]
  · rfl

include h in
theorem Books.marked (hgrows : Grows s s')
    (hchain : s'.chain = s.chain) {detail : String} (hstatus : status ≠ .finalized)
    (hstore : s'.store = s.store.markSubmission requestId status detail) :
    Books policy service start s' paid state := by
  apply h.kept_claims hgrows
  · intro id record hrecord
    rw [hstore, markSubmission, get?_updateClaim, Option.map_eq_some_iff] at hrecord
    obtain ⟨found, hfound, rfl⟩ := hrecord
    refine ⟨found, hfound, ?_⟩
    split_ifs <;> rfl
  · rw [hchain]
  · rw [hchain]
  · rw [hstore]
    rfl
  · exact finalizedIn_markSubmission hstatus hstore

include h in
/-- When all final transfers are recorded, no claim is owing. -/
theorem Books.not_owing (hconsistent : Consistent service s)
    (hrecorded : (s.chain.final.all fun transfer => s.store.claims.values.any fun claim =>
      claim.transfer == transfer && claim.status == .finalized) = true) :
    ¬ Owing policy service s paid := by
  rintro ⟨⟨earlier, before, claim, hpaid, -, -, howing⟩, -⟩
  have hclaim : claim ∈ paid := by
    rw [hpaid]
    exact mem_append_right _ (mem_singleton_self _)
  have hfinal : claim.transfer ∈ s.chain.final := by
    rw [← h.transfers]
    exact mem_map_of_mem hclaim
  have hany := all_eq_true.mp hrecorded _ hfinal
  simp only [any_eq_true, Bool.and_eq_true, beq_iff_eq] at hany
  obtain ⟨found, hfound, htransfer, hstatus⟩ := hany
  obtain ⟨id, hfound⟩ := Dict.mem_values.mp hfound
  obtain ⟨rfl, -⟩ := h.claim_of_transfer hconsistent hclaim hfound htransfer
  simp [finalizedIn, hfound, hstatus] at howing

include h in
theorem Books.inserted (hconsistent : Consistent service s)
    (hpolicy : service.policy = policy.toFaucetPolicy)
    (hstart : start.accumulatedQAtoms = 0) (hgrows : Grows s s') {choice : Choice PoolState}
    {sequence : ℕ}
    (hchosen : Chosen service s choice) (hsequence : sequence ≤ s.chain.nextSequence)
    (hcreated : s.store.createPendingClaim (service.newClaim choice sequence) = some s'.store)
    (hchain : s'.chain = s.chain)
    (hholds : sequence = s.chain.nextSequence → s.decisionHolds policy service choice = true) :
    Books policy service start s' paid state := by
  obtain ⟨hstore, hnew, -⟩ := of_createPendingClaim hcreated
  have hsettled : sequence = s.chain.nextSequence → ¬ Owing policy service s paid := by
    intro hnext
    have hdecision := hholds hnext
    simp only [decisionHolds, Bool.and_eq_true] at hdecision
    exact h.not_owing hconsistent hdecision.1.2
  apply h.kept hgrows
  · rw [hchain]
  · rw [hchain]
  · rw [hstore]
  · intro claim hclaim
    obtain ⟨found, hfound, -⟩ := (h.holds claim hclaim).exists
    have hid : claim.requestId ≠ (service.newClaim choice sequence).requestId := by
      intro hid
      rw [hid, hnew] at hfound
      cases hfound
    unfold finalizedIn
    rw [hstore, Dict.get?_set_of_ne _ _ hid]
  · intro id record hrecord hnext
    rw [hstore, Dict.get?_set] at hrecord
    split_ifs at hrecord
    · cases hrecord
      have hnext : sequence = s.chain.nextSequence := hnext
      have hdecision := hholds hnext
      simp only [decisionHolds, Bool.and_eq_true, beq_iff_eq] at hdecision
      have hstate : choice.state = state := by
        rcases h.recorded with hrecorded | howes
        · rw [hrecorded.stored] at hdecision
          exact (Option.some.inj hdecision.1.1).symm
        · exact absurd howes (hsettled hnext)
      obtain ⟨-, quotaExists, hdecided⟩ := hchosen
      rw [hpolicy] at hdecided
      rw [← hstate]
      apply AccumulatingPoolPolicy.draws_of_decide hdecided _ hdecision.2 rfl rfl
      rw [hstate]
      exact h.drawn.accumulated hstart
    · exact h.live hrecord hnext
  · intro howes id record hrecord
    rw [hchain]
    rw [hstore, Dict.get?_set] at hrecord
    split_ifs at hrecord
    · cases hrecord
      have hne : sequence ≠ s.chain.nextSequence := fun hnext => hsettled hnext howes
      exact lt_of_le_of_ne hsequence hne
    · exact howes.noneLive hrecord

/-- The state that a claim leads to was read from the clock. -/
theorem read_of_made (hpolicy : service.policy = policy.toFaucetPolicy)
    (h : Made service s record) : record.stateAfterSuccess.lastDripAt ≤ s.latest := by
  obtain ⟨choice, sequence, ⟨hread, quotaExists, hdecided⟩, hopened⟩ := h
  rw [hpolicy] at hdecided
  obtain ⟨-, -, hafter⟩ := policy.of_decide hdecided
  have hstate : record.stateAfterSuccess = choice.decision.stateAfterSuccess :=
    congrArg (·.stateAfterSuccess) hopened
  rw [hstate, hafter]
  exact hread

include h in
/-- The chain takes the transfer of a live claim, which draws on the state. -/
theorem Books.finalized (hconsistent : Consistent service s)
    (hpolicy : service.policy = policy.toFaucetPolicy)
    (hgrows : Grows s s') {transfer : Transfer}
    (hsent : transfer ∈ s.chain.sent) (hnext : transfer.senderSequence = s.chain.nextSequence)
    (hstore : s'.store = s.store) (hfinal : s'.chain.final = s.chain.final ++ [transfer])
    (hsequence : s'.chain.nextSequence = s.chain.nextSequence + 1) :
    ∃ paid state, Books policy service start s' paid state := by
  obtain ⟨id, record, hrecord, rfl⟩ := hconsistent.sent hsent
  have hid := hconsistent.keyed hrecord
  have hused : ∀ {other found}, s'.store.claims.get? other = some found →
      found.transfer.senderSequence < s'.chain.nextSequence := by
    intro other found hfound
    rw [hstore] at hfound
    rw [hsequence]
    exact Nat.lt_succ_of_le (hconsistent.sequences hfound)
  have hsettled : Settled service s paid state := by
    refine h.recorded.resolve_right fun howes => ?_
    have hlt := howes.noneLive hrecord
    omega
  have hunrecorded : s.finalizedIn record.requestId = false := by
    rw [← Bool.not_eq_true]
    intro hstatus
    simp only [finalizedIn, hid, hrecord, Option.any_some, beq_iff_eq] at hstatus
    have hlt := (hconsistent.final (hconsistent.finalized hrecord hstatus)).2
    omega
  have hclaims : s'.store.claims = s.store.claims := by rw [hstore]
  refine ⟨paid ++ [record], record.stateAfterSuccess, ?_⟩
  constructor
  · exact .concat h.drawn (h.live hrecord hnext)
  · rw [hfinal, map_append, map_singleton, h.transfers]
  · intro claim hclaim
    apply hgrows.holds
    rw [mem_append, mem_singleton] at hclaim
    rcases hclaim with hold | rfl
    · exact h.holds claim hold
    · unfold FaucetStore.Holds
      rw [hid, hrecord, Option.map_some]
  · exact (read_of_made hpolicy (hconsistent.made hrecord)).trans hgrows.latest
  · intro other found hfound hlast
    have hlt := hused hfound
    omega
  · right
    refine ⟨⟨paid, state, record, rfl, h.live hrecord hnext, ⟨?_, fun claim hclaim => ?_⟩, ?_⟩,
      hused⟩
    · rw [hstore]
      exact hsettled.stored
    · rw [finalizedIn_of_claims hclaims]
      exact hsettled.finalized claim hclaim
    · rw [finalizedIn_of_claims hclaims]
      exact hunrecorded

/-- The state does not go back. -/
def StateKept (service : FaucetService PoolState) (s s' : FaucetSystem PoolState) : Prop :=
  ∀ {before after}, s.store.policyStates.get? service.policyStateKey = some before →
    s'.store.policyStates.get? service.policyStateKey = some after →
    before.generation ≤ after.generation ∧ before.lastDripAt ≤ after.lastDripAt

theorem stateKept_of_same (h : s'.store.policyStates.get? service.policyStateKey =
    s.store.policyStates.get? service.policyStateKey) : StateKept service s s' := by
  intro before after hbefore hafter
  rw [h, hbefore] at hafter
  cases hafter
  exact ⟨le_rfl, le_rfl⟩

theorem finalizedIn_finalizeClaim {key : String} {next : PoolState}
    (hstore : s'.store = s.store.finalizeClaim requestId key next finalizedAt detail)
    (id : String) : s'.finalizedIn id = (s.finalizedIn id ||
      (id == requestId && (s.store.claims.get? id).isSome)) := by
  unfold finalizedIn
  rw [hstore, finalizeClaim, get?_updateClaim]
  cases s.store.claims.get? id with
  | none => simp
  | some claim =>
    by_cases hid : id = requestId
    · by_cases hstatus : claim.status = .finalized
      · simp [hstatus]
      · simp [hid, hstatus]
    · simp [hid]

include h in
/-- A claim that is finalized in the store is the one that is owing, or was finalized before. -/
theorem Books.written (hconsistent : Consistent service s) (hgrows : Grows s s')
    (hheld : s.store.Holds record)
    (hfinal : record.transfer ∈ s.chain.final)
    (hstore : s'.store = s.store.finalizeClaim record.requestId record.policyStateKey
      record.stateAfterSuccess finalizedAt detail)
    (hchain : s'.chain = s.chain)
    (hcurrent : s.finalizedIn record.requestId = true →
      s.store.policyStates.get? record.policyStateKey = some record.stateAfterSuccess) :
    Books policy service start s' paid state ∧ StateKept service s s' := by
  obtain ⟨found, hfound, hopened⟩ := hheld.exists
  have hkey : record.policyStateKey = service.policyStateKey := by
    obtain ⟨choice, sequence, -, hmade⟩ := hconsistent.made hfound
    rw [← (opened_inj hopened).2.2.2.1]
    exact congrArg (·.policyStateKey) hmade
  have hsame : ∀ {id claim}, s'.store.claims.get? id = some claim →
      ∃ old, s.store.claims.get? id = some old ∧ old.opened = claim.opened := by
    intro id claim hclaim
    rw [hstore, finalizeClaim, get?_updateClaim, Option.map_eq_some_iff] at hclaim
    obtain ⟨old, hold, rfl⟩ := hclaim
    refine ⟨old, hold, ?_⟩
    split_ifs <;> rfl
  have hwritten : s'.store.policyStates.get? service.policyStateKey =
      some record.stateAfterSuccess := by
    rw [hstore, finalizeClaim, hkey]
    exact Dict.get?_set_self _ _ _
  rw [hkey] at hcurrent
  by_cases hagain : s.finalizedIn record.requestId = true
  · have hstates := hwritten.trans (hcurrent hagain).symm
    refine ⟨?_, stateKept_of_same hstates⟩
    apply h.kept_claims hgrows hsame (by rw [hchain]) (by rw [hchain]) hstates
    intro id
    rw [finalizedIn_finalizeClaim hstore]
    by_cases hid : id = record.requestId
    · rw [hid, hagain, Bool.true_or]
    · simp [hid]
  · -- the claim is the last one that was paid
    rw [← h.transfers, mem_map] at hfinal
    obtain ⟨claim, hclaim, htransfer⟩ := hfinal
    obtain ⟨hid, hclaimOpened⟩ := h.claim_of_transfer hconsistent hclaim hfound
      ((opened_inj hopened).2.2.1.trans htransfer.symm)
    have hnext : record.stateAfterSuccess = claim.stateAfterSuccess := by
      rw [← (opened_inj hopened).2.2.2.2, (opened_inj hclaimOpened).2.2.2.2]
    rw [hid] at hagain
    rcases h.recorded with hsettled | howes
    · exact absurd (hsettled.finalized claim hclaim) hagain
    · obtain ⟨earlier, before, last, rfl, hdraws, hsettled, -⟩ := howes.last
      obtain rfl : claim = last := by
        rw [mem_append, mem_singleton] at hclaim
        refine hclaim.resolve_left fun hearlier => ?_
        exact hagain (hsettled.finalized claim hearlier)
      rw [hnext] at hwritten
      constructor
      · refine ⟨h.drawn, by rw [hchain, h.transfers], fun other hother => ?_, ?_, ?_, .inl ⟨?_, ?_⟩⟩
        · exact hgrows.holds (h.holds other hother)
        · exact h.read.trans hgrows.latest
        · intro id other hother hlive
          obtain ⟨old, hold, holdOpened⟩ := hsame hother
          have hlt := howes.noneLive hold
          rw [(opened_inj holdOpened).2.2.1, hlive, hchain] at hlt
          exact absurd hlt (lt_irrefl _)
        · rw [hwritten, h.drawn.state_concat]
        · intro other hother
          rw [finalizedIn_finalizeClaim hstore, Bool.or_eq_true]
          rw [mem_append, mem_singleton] at hother
          rcases hother with hearlier | rfl
          · exact .inl (hsettled.finalized other hearlier)
          · right
            simp [← hid, hfound]
      · intro stored after hstored hafter
        rw [hsettled.stored] at hstored
        rw [hwritten] at hafter
        cases hstored
        cases hafter
        obtain ⟨now, hlast, -, hstate⟩ := hdraws
        rw [hstate]
        exact ⟨Int.le_add_one le_rfl, hlast⟩

include h in
/-- One event that is not stale. -/
theorem Books.step (hconsistent : Consistent service s)
    (hpolicy : service.policy = policy.toFaucetPolicy)
    (hstart : start.accumulatedQAtoms = 0) (hcurrent : s.Current policy service event) :
    (∃ paid state, Books policy service start (step service s event) paid state) ∧
      StateKept service s (step service s event) := by
  have heffect : Effect service s event (FaucetSystem.step service s event) := effect_step event
  have hgrows := heffect.grows
  generalize FaucetSystem.step service s event = s' at heffect hgrows
  unfold Current stale at hcurrent
  cases heffect with
  | quiet hclaims hstates hchain hlatest =>
    have hstored : s'.store.policyStates.get? service.policyStateKey =
        s.store.policyStates.get? service.policyStateKey := by rw [hstates]
    refine ⟨⟨paid, state, ?_⟩, stateKept_of_same hstored⟩
    apply h.kept_claims hgrows _ (by rw [hchain]) (by rw [hchain]) hstored
    · exact finalizedIn_of_claims hclaims
    · intro id record hrecord
      exact ⟨record, hclaims ▸ hrecord, rfl⟩
  | @inserted client _ choice sequence _ hstage hcreated hchain hlatest =>
    have hok := hconsistent.stages client
    rw [hstage] at hok
    refine ⟨⟨paid, state, ?_⟩, stateKept_of_same ?_⟩
    · apply h.inserted hconsistent hpolicy hstart hgrows hok.1 hok.2 hcreated hchain
      intro hnext
      have hlive : (sequence == s.chain.nextSequence) = true := beq_iff_eq.mpr hnext
      simpa only [hstage, hcreated, hlive, Option.isSome_some, Bool.true_and,
        Bool.not_eq_false'] using hcurrent
    · rw [(of_createPendingClaim hcreated).1]
  | sent hstage hstore hchain hlatest =>
    have hclaims : s'.store.claims = s.store.claims := by rw [hstore]
    have hstored : s'.store.policyStates.get? service.policyStateKey =
        s.store.policyStates.get? service.policyStateKey := by rw [hstore]
    refine ⟨⟨paid, state, ?_⟩, stateKept_of_same hstored⟩
    apply h.kept_claims hgrows _ (by rw [hchain]) (by rw [hchain]) hstored
    · exact finalizedIn_of_claims hclaims
    · intro id record hrecord
      exact ⟨record, hclaims ▸ hrecord, rfl⟩
  | @answered client readings record answer _ hstage hrecorded hchain hlatest =>
    have hok := hconsistent.stages client
    rw [hstage] at hok
    rcases of_recordAnswer hrecorded with
      ⟨operationId, detail, rfl, hstore⟩ | ⟨_, _, detail, -, hstore⟩ | ⟨detail, -, hstore⟩
    · have hpossible := hok.2
      rw [possible, decide_eq_true_eq] at hpossible
      have hoperation : operationId = record.operationId := by
        by_contra hne
        simp [recordAnswer, hne] at hrecorded
      have hwritten := h.written hconsistent hgrows hok.1 hpossible hstore hchain fun hagain => by
        simpa [hstage, hoperation, hagain] using hcurrent
      exact ⟨⟨paid, state, hwritten.1⟩, hwritten.2⟩
    · exact ⟨⟨paid, state, h.marked hgrows hchain (by decide) hstore⟩,
        stateKept_of_same (by rw [hstore]; rfl)⟩
    · exact ⟨⟨paid, state, h.marked hgrows hchain (by decide) hstore⟩,
        stateKept_of_same (by rw [hstore]; rfl)⟩
  | finalized hsent hsequence hstore hchain hlatest =>
    refine ⟨?_, stateKept_of_same (by rw [hstore])⟩
    exact h.finalized hconsistent hpolicy hgrows hsent hsequence hstore (by rw [hchain])
      (by rw [hchain])

include h in
/-- What the pool has paid is what has accrued up to the last drip. -/
theorem Books.total_le :
    s.paidTotal ≤ policy.rateQAtoms * ((s.latest - start.lastDripAt) / policy.period) := by
  have hsum := h.drawn.sum_le
  have htotal : s.paidTotal = (paid.map (·.transfer.amount)).sum := by
    unfold paidTotal
    rw [← h.transfers, map_map]
    rfl
  rw [htotal]
  refine hsum.trans (Int.mul_le_mul_of_nonneg_left ?_ policy.rateQAtoms_nonneg)
  apply Int.ediv_le_ediv policy.period_positive
  have hread := h.read
  omega

/-- In a run without stale claims and stale writes the pool never pays more than has accrued, and
its state does not go back. -/
theorem pays_what_accrued {now : UtcReading} {nextSequence : ℕ} {events : List FaucetEvent}
    (hcurrent : Careful (step (poolService policy service))
      (Current policy (poolService policy service))
      (initial (poolService policy service) now nextSequence) events) :
    Careful (step (poolService policy service))
      (PaysAccrued policy (poolService policy service) now.micros)
      (initial (poolService policy service) now nextSequence) events := by
  apply careful_of_keeps (I := fun s => Consistent (poolService policy service) s ∧
    ∃ paid state, Books policy (poolService policy service) ⟨0, now.micros, 0⟩ s paid state) _ _
    hcurrent
  · rintro s event ⟨hconsistent, paid, state, h⟩ hevent
    obtain ⟨⟨paid, state, hbooks⟩, hkept⟩ := h.step hconsistent rfl rfl hevent
    exact ⟨⟨hconsistent.step event, paid, state, hbooks⟩, hbooks.total_le, hkept⟩
  · refine ⟨consistent_initial now nextSequence, [], _, .nil, rfl, List.forall_mem_nil _, le_rfl,
      (fun h => nomatch h), .inl ?_⟩
    exact ⟨Dict.get?_set_self _ _ _, List.forall_mem_nil _⟩

def decisionHashes : PyValue → String
  | .dict [_, _, (_, .str "pool-generation:0"), (_, .int 5000000), (_, .str "w"), _] =>
    "sha256:55536455c588addff3e708cac062c93753020a47fe128efe9539fcc47c3980ee"
  | .dict [_, _, (_, .str "pool-generation:1"), (_, .int 5000000), (_, .str "v"), _] =>
    "sha256:ad33973473f22757c80b3bc037beda3e92d531b4c8df7da43a883213e45be8a8"
  | .dict [_, _, (_, .str "pool-generation:1"), (_, .int 10000000), (_, .str "u"), _] =>
    "sha256:e8964d46f21384da21bd2274869d458a2d5a5555897bde4e17c491d7edffa3ba"
  | .dict [_, _, (_, .str "pool-generation:0"), (_, .int 10000000), (_, .str "v"), _] =>
    "sha256:72c818701811c8073e651b84b176b4896799806e0d5323ae43a88a4d862b713b"
  | .dict [_, _, (_, .str "pool-generation:0"), (_, .int 1431655770000000), (_, .str "w"), _] =>
    "sha256:36a6d0ae3e54aaa227bceab114e3c98a10cbc65c3180b289f799dde9474cef59"
  | value => canonicalHash value

/-- The pool of the sample runs, with the defaults of the source: 5 Q a minute. -/
def samplePool : AccumulatingPoolPolicy where
  hash := decisionHashes
  rate_positive := by decide
  interval_positive := by decide

def samplePoolService : FaucetService PoolState :=
  poolService samplePool {
    policy := samplePool.toFaucetPolicy
    policyStateKey := "accumulating-pool"
    hash := claimHash
    walletIdForPublicKey := fun key => .ok key
    provesWallet := fun _ _ => true
    operationId := fun transfer => transfer.claimId
    transactionHash := fun transfer => transfer.claimId }

/-- Readings of the clock one, two and three minutes after the epoch. -/
def firstMinute : UtcReading := ⟨60000000, "1970-01-01T00:01:00+00:00"⟩

def secondMinute : UtcReading := ⟨120000000, "1970-01-01T00:02:00+00:00"⟩

def thirdMinute : UtcReading := ⟨180000000, "1970-01-01T00:03:00+00:00"⟩

/-- A call is answered at its tenth step that the transfer is final, which it is. -/
def paidCall (client : ℕ) (walletId requestId : String) (state : PoolState) (now : UtcReading)
    (sequence : ℕ) : List FaucetEvent :=
  claimCall client walletId requestId ++ steps client 9 now ++
    finalizeStep samplePoolService walletId requestId state now sequence ++
    answerStep samplePoolService client requestId .finalized now

/-- Two claims that are paid, each a minute after what came before. -/
theorem pays_what_accrued_paid_twice :
    Careful (step samplePoolService) (PaysAccrued samplePool samplePoolService sampleNow.micros)
      (initial samplePoolService sampleNow 7)
      (paidCall 0 "w" "q1" ⟨0, 0, 0⟩ firstMinute 7 ++ steps 0 1 firstMinute ++
        paidCall 1 "v" "q2" ⟨1, 60000000, 0⟩ secondMinute 8 ++ steps 1 1 secondMinute) := by
  apply pays_what_accrued
  decide +kernel

/-- The answer for a claim is written a second time after a later claim was finalized, and the next
claim is decided on the old state. -/
def writtenAgain : List FaucetEvent :=
  paidCall 0 "w" "q1" ⟨0, 0, 0⟩ firstMinute 7 ++ [.reconcile 1 "q1"] ++ steps 1 2 firstMinute ++
    answerStep samplePoolService 1 "q1" .finalized firstMinute ++ steps 0 1 firstMinute ++
    paidCall 2 "v" "q2" ⟨1, 60000000, 0⟩ secondMinute 8 ++ steps 2 1 secondMinute ++
    steps 1 1 secondMinute ++ claimCall 3 "u" "q3" ++ steps 3 9 thirdMinute

/-- A claim that is rejected becomes final, and the next one is paid for the same interval. -/
def rejectedThenPaid : List FaucetEvent :=
  claimCall 0 "w" "q1" ++ steps 0 9 firstMinute ++
    answerStep samplePoolService 0 "q1" .rejected firstMinute ++ steps 0 1 firstMinute ++
    finalizeStep samplePoolService "w" "q1" ⟨0, 0, 0⟩ firstMinute 7 ++
    claimCall 1 "v" "q2" ++ steps 1 9 secondMinute

/-- A microsecond before 17179869240 seconds, which is the nearest float. -/
def lateReading : UtcReading := ⟨17179869239999999, "2514-05-30T01:53:59.999999+00:00"⟩

def claimedLate : List FaucetEvent :=
  [.challenge "w" "w" "challenge of q1" "text" lateReading, .claim 0 (sampleRequest "w" "q1")] ++
    steps 0 9 lateReading

theorem not_paysAccrued_of_total {start : Int} {events last : List FaucetEvent}
    (hlast : last = [event])
    (h : policy.rateQAtoms * (((run (step service) s (events ++ last)).latest - start) /
      policy.period) < (run (step service) s (events ++ last)).paidTotal) :
    ¬ Careful (step service) (PaysAccrued policy service start) s (events ++ last) := by
  subst hlast
  intro hcareful
  have hpays := (careful_append.mp hcareful).2.1
  have hrun : run (step service) s (events ++ [event]) =
      step service (run (step service) s events) event := foldl_append
  rw [hrun] at h
  exact absurd h (not_lt.mpr hpays.total)

/-- The pool pays more than has accrued. -/
theorem pool_overdrawn :
    ¬ Careful (step samplePoolService)
        (PaysAccrued samplePool samplePoolService sampleNow.micros)
        (initial samplePoolService sampleNow 7) (writtenAgain ++
          finalizeStep samplePoolService "u" "q3" ⟨1, 60000000, 0⟩ thirdMinute 9) ∧
      ¬ Careful (step samplePoolService)
        (PaysAccrued samplePool samplePoolService sampleNow.micros)
        (initial samplePoolService sampleNow 7) (rejectedThenPaid ++
          finalizeStep samplePoolService "v" "q2" ⟨0, 0, 0⟩ secondMinute 8) ∧
      ¬ Careful (step samplePoolService)
        (PaysAccrued samplePool samplePoolService sampleNow.micros)
        (initial samplePoolService sampleNow 7) (claimedLate ++
          finalizeStep samplePoolService "w" "q1" ⟨0, 0, 0⟩ lateReading 7) := by
  refine ⟨?_, ?_, ?_⟩
  all_goals
    apply not_paysAccrued_of_total rfl
    decide +kernel

end FaucetSystem

end AidnSpec.Faucet
