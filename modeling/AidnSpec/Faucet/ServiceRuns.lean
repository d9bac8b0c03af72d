import AidnSpec.Base.Runs
import AidnSpec.Faucet.Service

/-!
# Runs of the faucet

What an event can do is said once, as `Effect`. After any events the claims in the store are those
that the policy decided, only their transfers are sent, and a claim that is finalized has a final
transfer.
-/

namespace AidnSpec.Faucet

open Base FaucetStore List

variable {σ : Type} {service : FaucetService σ}

def ClaimRecord.opened (record : ClaimRecord σ) : ClaimRecord σ :=
  { record with
    status := .pending
    detail := none
    finalizedAt := none }

namespace FaucetStore

variable {store : FaucetStore σ}

def Holds (store : FaucetStore σ) (record : ClaimRecord σ) : Prop :=
  (store.claims.get? record.requestId).map (·.opened) = some record.opened

variable {record : ClaimRecord σ} {now : UtcReading} {answer : SubmitterAnswer}
  {recorded : FaucetStore σ}

theorem Holds.exists (h : store.Holds record) :
    ∃ found, store.claims.get? record.requestId = some found ∧ found.opened = record.opened := by
  unfold Holds at h
  rwa [Option.map_eq_some_iff] at h

/-- An update of a claim changes its status, unless it is finalized. -/
theorem get?_updateClaim (requestId : String) (f : ClaimRecord σ → ClaimRecord σ) (id : String) :
    (store.updateClaim requestId f).get? id = (store.claims.get? id).map fun claim =>
      if id = requestId ∧ claim.status ≠ .finalized then f claim else claim := by
  unfold updateClaim
  cases hclaim : store.claims.get? requestId with
  | none =>
    dsimp only
    by_cases hid : id = requestId
    · subst hid
      simp [hclaim]
    · simp [hid]
  | some claim =>
    dsimp only
    by_cases hid : id = requestId
    · subst hid
      split_ifs with hstatus
      · simp [hclaim, hstatus]
      · simp [hclaim, hstatus]
    · split_ifs with hstatus
      · simp [hid]
      · rw [Dict.get?_set_of_ne _ _ hid]
        simp [hid]

theorem holds_updateClaim {requestId : String} {f : ClaimRecord σ → ClaimRecord σ}
    (hf : ∀ claim, (f claim).opened = claim.opened) :
    ((store.updateClaim requestId f).get? record.requestId).map (·.opened) =
      (store.claims.get? record.requestId).map (·.opened) := by
  rw [get?_updateClaim, Option.map_map]
  congr 1
  funext claim
  dsimp only [Function.comp_apply]
  split_ifs
  · exact hf claim
  · rfl

/-- What a claim that is created finds in the table. -/
theorem of_createPendingClaim {claim : ClaimRecord σ} {created : FaucetStore σ}
    (h : store.createPendingClaim claim = some created) :
    created = { store with claims := store.claims.set claim.requestId claim } ∧
      store.claims.get? claim.requestId = none ∧
      ∀ {id existing}, store.claims.get? id = some existing → existing.claimId ≠ claim.claimId := by
  unfold createPendingClaim at h
  split_ifs at h with hconflict
  simp only [Bool.not_eq_true, Bool.or_eq_false_iff, any_eq_false] at hconflict
  cases h
  refine ⟨rfl, ?_, fun {id existing} hexisting hid => ?_⟩
  · rw [← Dict.not_contains, hconflict.1]
    rfl
  · have hother := hconflict.2 existing (Dict.mem_values.mpr ⟨id, hexisting⟩)
    simp [hid] at hother

def leavesPending (record : ClaimRecord σ) : SubmitterAnswer → Bool
  | .raised _ => true
  | .submission operationId status _ =>
    operationId == record.operationId && (status == .admitted || status == .unknown)

/-- What the store is after an answer of the submitter. -/
theorem of_recordAnswer (h : store.recordAnswer record now answer = some recorded) :
    (∃ operationId detail, answer = .submission operationId .finalized detail ∧
      recorded = store.finalizeClaim record.requestId record.policyStateKey
        record.stateAfterSuccess now.text detail) ∨
    (∃ operationId given detail, answer = .submission operationId .rejected given ∧
      recorded = store.markSubmission record.requestId .rejected detail) ∨
    ∃ detail, leavesPending record answer = true ∧
      recorded = store.markSubmission record.requestId .pending detail := by
  cases answer with
  | raised error =>
    cases h
    exact .inr (.inr ⟨_, rfl, rfl⟩)
  | submission operationId status detail =>
    unfold recordAnswer at h
    dsimp only at h
    split_ifs at h with hoperation
    rw [not_not] at hoperation
    cases status with
    | finalized =>
      cases h
      exact .inl ⟨operationId, detail, rfl, rfl⟩
    | admitted | unknown =>
      cases h
      exact .inr (.inr ⟨_, by simp [leavesPending, hoperation], rfl⟩)
    | rejected =>
      cases h
      exact .inr (.inl ⟨_, _, _, rfl, rfl⟩)

/-- An answer updates the claim of the call, with its status and its detail. -/
theorem claims_recordAnswer (h : store.recordAnswer record now answer = some recorded) :
    ∃ f : ClaimRecord σ → ClaimRecord σ, (∀ claim, (f claim).opened = claim.opened) ∧
      recorded.claims = store.updateClaim record.requestId f := by
  rcases of_recordAnswer h with ⟨_, _, -, rfl⟩ | ⟨_, _, _, -, rfl⟩ | ⟨_, -, rfl⟩
  · refine ⟨_, ?_, rfl⟩
    exact fun _ => rfl
  · refine ⟨_, ?_, rfl⟩
    exact fun _ => rfl
  · refine ⟨_, ?_, rfl⟩
    exact fun _ => rfl

end FaucetStore

namespace FaucetSystem

variable {s s' : FaucetSystem σ}

/-! ## What an event does -/

/-- What an event does to the claims, the states of the policy and the chain. -/
inductive Effect (service : FaucetService σ) (s : FaucetSystem σ) :
    FaucetEvent → FaucetSystem σ → Prop where
  | quiet {event : FaucetEvent} {s' : FaucetSystem σ}
      (hclaims : s'.store.claims = s.store.claims)
      (hstates : s'.store.policyStates = s.store.policyStates) (hchain : s'.chain = s.chain)
      (hlatest : s.latest ≤ s'.latest) : Effect service s event s'
  | inserted {client : ℕ} {readings : Readings} {choice : Choice σ} {sequence : ℕ}
      {s' : FaucetSystem σ} (hstage : s.stages client = .spent choice sequence)
      (hcreated : s.store.createPendingClaim (service.newClaim choice sequence) = some s'.store)
      (hchain : s'.chain = s.chain) (hlatest : s.latest ≤ s'.latest) :
      Effect service s (.advance client readings) s'
  | sent {client : ℕ} {readings : Readings} {record : ClaimRecord σ} {s' : FaucetSystem σ}
      (hstage : s.stages client = .submitting record) (hstore : s'.store = s.store)
      (hchain : s'.chain = { s.chain with sent := s.chain.sent ++ [record.transfer] })
      (hlatest : s.latest ≤ s'.latest) : Effect service s (.advance client readings) s'
  | answered {client : ℕ} {readings : Readings} {record : ClaimRecord σ}
      {answer : SubmitterAnswer} {s' : FaucetSystem σ}
      (hstage : s.stages client = .answered record answer)
      (hrecorded : s.store.recordAnswer record readings.now answer = some s'.store)
      (hchain : s'.chain = s.chain) (hlatest : s.latest ≤ s'.latest) :
      Effect service s (.advance client readings) s'
  | finalized {transfer : Transfer} {s' : FaucetSystem σ} (hsent : transfer ∈ s.chain.sent)
      (hsequence : transfer.senderSequence = s.chain.nextSequence)
      (hstore : s'.store = s.store)
      (hchain : s'.chain = { s.chain with
        nextSequence := s.chain.nextSequence + 1
        final := s.chain.final ++ [transfer] })
      (hlatest : s.latest ≤ s'.latest) : Effect service s (.finalize transfer) s'

theorem effect_advance (client : ℕ) (readings : Readings) :
    Effect service s (.advance client readings) (s.advance service client readings) := by
  have hsame : Effect service s (.advance client readings) s := .quiet rfl rfl rfl le_rfl
  have hmoved : ∀ stage, Effect service s (.advance client readings) (s.move client stage) :=
    fun _ => .quiet rfl rfl rfl le_rfl
  unfold advance
  cases hstage : s.stages client with
  | idle => exact hsame
  | finished outcome => exact hsame
  | claiming | proven | unobstructed | informed | decided | reconciling => exact hmoved _
  | fresh request =>
    refine .quiet rfl rfl rfl ?_
    simp only [move, readClock]
    omega
  | assembled choice sequence =>
    dsimp only
    cases hmarked : s.store.markChallengeUsed choice.request.challengeId with
    | none => exact hmoved _
    | some store =>
      have hstore : store.claims = s.store.claims ∧
          store.policyStates = s.store.policyStates := by
        unfold markChallengeUsed at hmarked
        split at hmarked
        · split_ifs at hmarked
          cases hmarked
          exact ⟨rfl, rfl⟩
        · cases hmarked
      exact .quiet hstore.1 hstore.2 rfl le_rfl
  | spent choice sequence =>
    dsimp only
    cases hcreated : s.store.createPendingClaim (service.newClaim choice sequence) with
    | none => exact hmoved _
    | some store => exact .inserted hstage hcreated rfl le_rfl
  | submitting record => exact .sent hstage rfl rfl le_rfl
  | submitted record =>
    dsimp only
    split_ifs
    · exact hmoved _
    · exact hsame
  | answered record answer =>
    dsimp only
    cases hrecorded : s.store.recordAnswer record readings.now answer with
    | none => exact hmoved _
    | some store =>
      refine .answered hstage hrecorded rfl ?_
      simp only [move, readClock]
      omega

theorem effect_step (event : FaucetEvent) : Effect service s event (step service s event) := by
  cases event with
  | challenge walletId publicKey challengeId challenge now =>
    unfold step issueChallenge
    dsimp only
    split_ifs
    · refine .quiet rfl rfl rfl ?_
      simp only [readClock]
      omega
    · exact .quiet rfl rfl rfl le_rfl
  | claim | reconcile =>
    unfold step
    dsimp only
    split_ifs <;> exact .quiet rfl rfl rfl le_rfl
  | advance client readings => exact effect_advance client readings
  | finalize transfer =>
    unfold step
    dsimp only
    split_ifs with hfinal
    · exact .finalized hfinal.1 hfinal.2 rfl rfl le_rfl
    · exact .quiet rfl rfl rfl le_rfl

variable {event : FaucetEvent} {store : FaucetStore σ} {record : ClaimRecord σ} {now : UtcReading}
  {answer : SubmitterAnswer} {client other : ℕ} {id : String} {transfer : Transfer}

/-- The chain takes a transfer that was sent, with the next sequence, or keeps what is final. -/
theorem Effect.chain (h : Effect service s event s') :
    (s'.chain.final = s.chain.final ∧ s'.chain.nextSequence = s.chain.nextSequence) ∨
    ∃ transfer ∈ s.chain.sent, transfer.senderSequence = s.chain.nextSequence ∧
      s'.store = s.store ∧ s'.chain.final = s.chain.final ++ [transfer] ∧
      s'.chain.nextSequence = s.chain.nextSequence + 1 := by
  cases h with
  | quiet hclaims hstates hchain hlatest | inserted hstage hcreated hchain hlatest
  | sent hstage hstore hchain hlatest | answered hstage hrecorded hchain hlatest =>
    exact .inl ⟨by rw [hchain], by rw [hchain]⟩
  | finalized hsent hsequence hstore hchain hlatest =>
    exact .inr ⟨_, hsent, hsequence, hstore, by rw [hchain], by rw [hchain]⟩

/-! ## What only grows -/

/-- Claims stay in the store, and transfers stay final. -/
structure Grows (s s' : FaucetSystem σ) : Prop where
  holds : ∀ {record}, s.store.Holds record → s'.store.Holds record
  sequence : s.chain.nextSequence ≤ s'.chain.nextSequence
  final : ∀ {transfer}, transfer ∈ s.chain.final → transfer ∈ s'.chain.final
  latest : s.latest ≤ s'.latest

theorem holds_recordAnswer {recorded : FaucetStore σ}
    (h : store.recordAnswer record now answer = some recorded) {other : ClaimRecord σ} :
    recorded.Holds other ↔ store.Holds other := by
  obtain ⟨f, hf, hclaims⟩ := claims_recordAnswer h
  unfold FaucetStore.Holds
  rw [hclaims, holds_updateClaim hf]

theorem Effect.grows (h : Effect service s event s') : Grows s s' := by
  cases h with
  | quiet hclaims hstates hchain hlatest =>
    refine ⟨fun h => ?_, by rw [hchain], fun h => by rwa [hchain], hlatest⟩
    unfold FaucetStore.Holds
    rwa [hclaims]
  | @inserted _ _ choice sequence _ hstage hcreated hchain hlatest =>
    refine ⟨fun {record} h => ?_, by rw [hchain], fun h => by rwa [hchain], hlatest⟩
    obtain ⟨hstore, hnew, -⟩ := of_createPendingClaim hcreated
    have hid : record.requestId ≠ (service.newClaim choice sequence).requestId := by
      obtain ⟨found, hfound, -⟩ := h.exists
      intro hid
      rw [hid, hnew] at hfound
      cases hfound
    unfold FaucetStore.Holds
    rw [hstore, Dict.get?_set_of_ne _ _ hid]
    exact h
  | sent hstage hstore hchain hlatest =>
    exact ⟨fun h => by rwa [hstore], by rw [hchain], fun h => by rwa [hchain], hlatest⟩
  | answered hstage hrecorded hchain hlatest =>
    exact ⟨(holds_recordAnswer hrecorded).mpr, by rw [hchain], fun h => by rwa [hchain], hlatest⟩
  | finalized hsent hsequence hstore hchain hlatest =>
    refine ⟨fun h => by rwa [hstore], ?_, fun h => ?_, hlatest⟩
    · rw [hchain]
      exact Nat.le_succ _
    · rw [hchain]
      exact mem_append_left _ h

/-! ## What holds after any events -/

/-- The policy has decided so, at a reading of the clock. -/
def Chosen (service : FaucetService σ) (s : FaucetSystem σ) (choice : Choice σ) : Prop :=
  choice.now.micros ≤ s.latest ∧ ∃ quotaExists, service.policy.decide choice.request.walletId
    choice.state choice.now quotaExists = .ok choice.decision

/-- The claim was created for a choice. -/
def Made (service : FaucetService σ) (s : FaucetSystem σ) (record : ClaimRecord σ) : Prop :=
  ∃ choice sequence, Chosen service s choice ∧ record.opened = service.newClaim choice sequence

/-- The local variables of a call are right about the faucet. -/
def StageOk (service : FaucetService σ) (s : FaucetSystem σ) : Stage σ → Prop
  | .proven _ now | .unobstructed _ now | .informed _ now _ => now.micros ≤ s.latest
  | .decided choice => Chosen service s choice
  | .assembled choice sequence | .spent choice sequence =>
    Chosen service s choice ∧ sequence ≤ s.chain.nextSequence
  | .submitting record | .submitted record => s.store.Holds record
  | .answered record answer => s.store.Holds record ∧ s.possible record answer = true
  | _ => True

/-- Claims are those that the policy decided, under their own ids, and only their transfers are sent
and final; a finalized claim has a final transfer. -/
structure Consistent (service : FaucetService σ) (s : FaucetSystem σ) : Prop where
  stages : ∀ client, StageOk service s (s.stages client)
  keyed : ∀ {id record}, s.store.claims.get? id = some record → record.requestId = id
  made : ∀ {id record}, s.store.claims.get? id = some record → Made service s record
  sequences : ∀ {id record}, s.store.claims.get? id = some record →
    record.transfer.senderSequence ≤ s.chain.nextSequence
  claimIds : ∀ {id other record found}, s.store.claims.get? id = some record →
    s.store.claims.get? other = some found → record.claimId = found.claimId → id = other
  sent : ∀ {transfer}, transfer ∈ s.chain.sent →
    ∃ id record, s.store.claims.get? id = some record ∧ record.transfer = transfer
  final : ∀ {transfer}, transfer ∈ s.chain.final →
    transfer ∈ s.chain.sent ∧ transfer.senderSequence < s.chain.nextSequence
  finalized : ∀ {id record}, s.store.claims.get? id = some record →
    record.status = .finalized → record.transfer ∈ s.chain.final

theorem Chosen.mono (hgrows : Grows s s') {choice : Choice σ} (h : Chosen service s choice) :
    Chosen service s' choice := ⟨h.1.trans hgrows.latest, h.2⟩

theorem possible_mono (hgrows : Grows s s') (h : s.possible record answer = true) :
    s'.possible record answer = true := by
  unfold possible at h ⊢
  split at h
  · rw [decide_eq_true_eq] at h ⊢
    exact hgrows.final h
  · rfl

theorem StageOk.mono (hgrows : Grows s s') {stage : Stage σ} (h : StageOk service s stage) :
    StageOk service s' stage := by
  cases stage with
  | proven | unobstructed | informed => exact le_trans h hgrows.latest
  | decided choice => exact Chosen.mono hgrows h
  | assembled choice sequence => exact ⟨h.1.mono hgrows, h.2.trans hgrows.sequence⟩
  | spent choice sequence => exact ⟨h.1.mono hgrows, h.2.trans hgrows.sequence⟩
  | submitting record => exact hgrows.holds h
  | submitted record => exact hgrows.holds h
  | answered record answer => exact ⟨hgrows.holds h.1, possible_mono hgrows h.2⟩
  | idle | claiming | fresh | reconciling | finished => trivial

/-- A decision of `claim` is one of the policy. -/
theorem stageOk_decideClaim {request : FaucetClaimRequest} {state : σ}
    (hnow : now.micros ≤ s.latest) :
    StageOk service s (service.decideClaim store request now state) := by
  unfold FaucetService.decideClaim
  cases service.policy.quotaKey request.walletId state now with
  | error e => trivial
  | ok quotaKey =>
    dsimp only
    cases hdecision : service.policy.decide request.walletId state now
        (store.findActiveQuotaClaim request.walletId quotaKey).isSome with
    | error e =>
      dsimp only
      split_ifs
      · trivial
      · trivial
      · split <;> trivial
    | ok decision =>
      dsimp only
      split_ifs
      · trivial
      · exact ⟨hnow, _, hdecision⟩

@[simp] theorem stages_move_self (client : ℕ) (stage : Stage σ) :
    (s.move client stage).stages client = stage := if_pos rfl

@[simp] theorem stages_move_of_ne (stage : Stage σ) (h : other ≠ client) :
    (s.move client stage).stages other = s.stages other := if_neg h

@[simp] theorem stageOk_move (client : ℕ) (moved stage : Stage σ) :
    StageOk service (s.move client moved) stage ↔ StageOk service s stage := by
  cases stage <;> rfl

/-- A step moves only its own call. -/
theorem stages_advance_of_ne {readings : Readings} (h : other ≠ client) :
    (s.advance service client readings).stages other = s.stages other := by
  unfold advance
  cases hstage : s.stages client with
  | idle | finished => rfl
  | claiming | proven | unobstructed | informed | decided | reconciling =>
    exact stages_move_of_ne _ h
  | fresh request => exact stages_move_of_ne _ h
  | assembled choice sequence =>
    dsimp only
    cases s.store.markChallengeUsed choice.request.challengeId with
    | none | some => exact stages_move_of_ne _ h
  | spent choice sequence =>
    dsimp only
    cases s.store.createPendingClaim (service.newClaim choice sequence) with
    | none | some => exact stages_move_of_ne _ h
  | submitting record => exact stages_move_of_ne _ h
  | submitted record =>
    dsimp only
    split_ifs
    · exact stages_move_of_ne _ h
    · rfl
  | answered record answer =>
    dsimp only
    cases s.store.recordAnswer record readings.now answer with
    | none | some => exact stages_move_of_ne _ h

/-- The next stage of a call is right about the faucet. -/
theorem stageOk_advance (h : Consistent service s) (client : ℕ) (readings : Readings) :
    StageOk service (s.advance service client readings)
      ((s.advance service client readings).stages client) := by
  have hok := h.stages client
  unfold advance
  cases hstage : s.stages client with
  | idle | finished =>
    dsimp only
    rw [hstage]
    trivial
  | claiming request =>
    dsimp only
    rw [stages_move_self, stageOk_move]
    split
    · split_ifs <;> trivial
    · trivial
  | fresh request =>
    dsimp only
    rw [stages_move_self, stageOk_move]
    split
    · trivial
    · split
      · trivial
      · simp only [StageOk, readClock]
        omega
  | proven request now =>
    rw [hstage] at hok
    dsimp only
    rw [stages_move_self, stageOk_move]
    split_ifs
    · trivial
    · exact hok
  | unobstructed request now =>
    rw [hstage] at hok
    dsimp only
    rw [stages_move_self, stageOk_move]
    split
    · trivial
    · exact hok
  | informed request now state =>
    rw [hstage] at hok
    dsimp only
    rw [stages_move_self, stageOk_move]
    exact stageOk_decideClaim hok
  | decided choice =>
    rw [hstage] at hok
    dsimp only
    rw [stages_move_self, stageOk_move]
    split
    · trivial
    · exact ⟨hok, le_rfl⟩
  | assembled choice sequence =>
    rw [hstage] at hok
    dsimp only
    cases s.store.markChallengeUsed choice.request.challengeId with
    | none =>
      rw [stages_move_self]
      trivial
    | some store =>
      dsimp only
      rw [stages_move_self, stageOk_move]
      exact hok
  | spent choice sequence =>
    dsimp only
    cases hcreated : s.store.createPendingClaim (service.newClaim choice sequence) with
    | none =>
      rw [stages_move_self]
      trivial
    | some store =>
      dsimp only
      rw [stages_move_self, stageOk_move]
      obtain ⟨rfl, -⟩ := of_createPendingClaim hcreated
      simp only [StageOk, FaucetStore.Holds, Dict.get?_set_self, Option.map_some]
  | reconciling requestId =>
    dsimp only
    rw [stages_move_self, stageOk_move]
    cases hclaim : s.store.claims.get? requestId with
    | none => trivial
    | some record =>
      dsimp only
      split_ifs
      · trivial
      · simp only [StageOk, FaucetStore.Holds, h.keyed hclaim, hclaim, Option.map_some]
  | submitting record =>
    rw [hstage] at hok
    dsimp only
    rw [stages_move_self, stageOk_move]
    exact hok
  | submitted record =>
    rw [hstage] at hok
    dsimp only
    split_ifs with hpossible
    · rw [stages_move_self, stageOk_move]
      exact ⟨hok, hpossible⟩
    · rw [hstage]
      exact hok
  | answered record answer =>
    dsimp only
    cases s.store.recordAnswer record readings.now answer with
    | none =>
      rw [stages_move_self]
      trivial
    | some store =>
      dsimp only
      rw [stages_move_self]
      trivial

theorem stages_step (h : Consistent service s) (event : FaucetEvent) (client : ℕ) :
    StageOk service (step service s event) ((step service s event).stages client) := by
  have heffect : Effect service s event (step service s event) := effect_step event
  have hgrows := heffect.grows
  have hsame : (step service s event).stages client = s.stages client →
      StageOk service (step service s event) ((step service s event).stages client) := by
    intro hsame
    rw [hsame]
    exact (h.stages client).mono hgrows
  cases event with
  | challenge walletId publicKey challengeId challenge now =>
    apply hsame
    simp only [step, issueChallenge, readClock]
    split_ifs <;> rfl
  | claim caller request | reconcile caller requestId =>
    by_cases hcaller : client = caller ∧ (s.stages caller).free = true
    · obtain ⟨rfl, hfree⟩ := hcaller
      simp only [step, if_pos hfree, stages_move_self]
      trivial
    · apply hsame
      simp only [step]
      split_ifs with hfree
      · apply stages_move_of_ne
        exact fun hclient => hcaller ⟨hclient, hfree⟩
      · rfl
  | advance caller readings =>
    by_cases hclient : client = caller
    · subst hclient
      exact stageOk_advance h client readings
    · exact hsame (stages_advance_of_ne hclient)
  | finalize transfer =>
    apply hsame
    simp only [step]
    split_ifs <;> rfl

theorem opened_inj {found : ClaimRecord σ} (h : record.opened = found.opened) :
    record.requestId = found.requestId ∧ record.claimId = found.claimId ∧
      record.transfer = found.transfer ∧ record.policyStateKey = found.policyStateKey ∧
      record.stateAfterSuccess = found.stateAfterSuccess :=
  ⟨congrArg (·.requestId) h, congrArg (·.claimId) h, congrArg (·.transfer) h,
    congrArg (·.policyStateKey) h, congrArg (·.stateAfterSuccess) h⟩

/-- A claim in the store was there before, or was created by the call of a client. -/
theorem Effect.found (h : Effect service s event s')
    (hrecord : s'.store.claims.get? id = some record) :
    (∃ found, s.store.claims.get? id = some found ∧ found.opened = record.opened) ∨
    ∃ client readings choice sequence, event = .advance client readings ∧
      s.stages client = .spent choice sequence ∧ record = service.newClaim choice sequence ∧
      id = record.requestId ∧ (s.store.createPendingClaim record).isSome = true ∧
      ∀ {other existing}, s.store.claims.get? other = some existing →
        existing.claimId ≠ record.claimId := by
  cases h with
  | quiet hclaims hstates hchain hlatest =>
    rw [hclaims] at hrecord
    exact .inl ⟨record, hrecord, rfl⟩
  | inserted hstage hcreated hchain hlatest =>
    obtain ⟨hstore, -, hclaimIds⟩ := of_createPendingClaim hcreated
    rw [hstore, Dict.get?_set] at hrecord
    split_ifs at hrecord with hid
    · cases hrecord
      exact .inr ⟨_, _, _, _, rfl, hstage, rfl, hid, by rw [hcreated]; rfl, hclaimIds⟩
    · exact .inl ⟨record, hrecord, rfl⟩
  | sent hstage hstore hchain hlatest | finalized hsent hsequence hstore hchain hlatest =>
    rw [hstore] at hrecord
    exact .inl ⟨record, hrecord, rfl⟩
  | answered hstage hrecorded hchain hlatest =>
    left
    obtain ⟨f, hf, hclaims⟩ := claims_recordAnswer hrecorded
    rw [hclaims, get?_updateClaim, Option.map_eq_some_iff] at hrecord
    obtain ⟨found, hfound, rfl⟩ := hrecord
    refine ⟨found, hfound, ?_⟩
    split_ifs
    · exact (hf found).symm
    · rfl

/-- A claim that was there stays, but for its status. -/
theorem Grows.claim (h : Grows s s') (hconsistent : Consistent service s)
    (hrecord : s.store.claims.get? id = some record) :
    ∃ found, s'.store.claims.get? id = some found ∧ found.opened = record.opened := by
  have hid := hconsistent.keyed hrecord
  have hholds : s.store.Holds record := by
    unfold FaucetStore.Holds
    rw [hid, hrecord, Option.map_some]
  have hfound := (h.holds hholds).exists
  rwa [hid] at hfound

/-- A claim that is finalized was so before, or is it by an answer about its final transfer. -/
theorem Effect.finalized_claim (h : Effect service s event s')
    (hconsistent : Consistent service s) (hrecord : s'.store.claims.get? id = some record)
    (hstatus : record.status = .finalized) :
    s.store.claims.get? id = some record ∨ record.transfer ∈ s.chain.final := by
  cases h with
  | quiet hclaims hstates hchain hlatest => exact .inl (hclaims ▸ hrecord)
  | inserted hstage hcreated hchain hlatest =>
    obtain ⟨hstore, -⟩ := of_createPendingClaim hcreated
    rw [hstore, Dict.get?_set] at hrecord
    split_ifs at hrecord
    · cases hrecord
      cases hstatus
    · exact .inl hrecord
  | sent hstage hstore hchain hlatest | finalized hsent hsequence hstore hchain hlatest =>
    exact .inl (hstore ▸ hrecord)
  | @answered client _ answered answer _ hstage hrecorded hchain hlatest =>
    have hok := hconsistent.stages client
    rw [hstage] at hok
    rcases of_recordAnswer hrecorded with
      ⟨_, _, rfl, hstore⟩ | ⟨_, _, detail, -, hstore⟩ | ⟨detail, -, hstore⟩
    · rw [hstore, finalizeClaim, get?_updateClaim, Option.map_eq_some_iff] at hrecord
      obtain ⟨found, hfound, rfl⟩ := hrecord
      split_ifs with hupdated
      · right
        obtain ⟨stored, hstored, hopened⟩ := hok.1.exists
        rw [← hupdated.1, hfound] at hstored
        cases hstored
        have hpossible := hok.2
        rw [possible, decide_eq_true_eq] at hpossible
        rw [(opened_inj hopened).2.2.1]
        exact hpossible
      · exact .inl hfound
    all_goals
      rw [hstore, markSubmission, get?_updateClaim, Option.map_eq_some_iff] at hrecord
      obtain ⟨found, hfound, rfl⟩ := hrecord
      split_ifs at hstatus ⊢
      exact .inl hfound

/-- What is sent is the transfer of a claim. -/
theorem Effect.sent_transfer (h : Effect service s event s') (hconsistent : Consistent service s)
    (htransfer : transfer ∈ s'.chain.sent) :
    ∃ id record, s'.store.claims.get? id = some record ∧ record.transfer = transfer := by
  have hgrows := h.grows
  have hold : transfer ∈ s.chain.sent →
      ∃ id record, s'.store.claims.get? id = some record ∧ record.transfer = transfer := by
    intro hsent
    obtain ⟨id, record, hrecord, rfl⟩ := hconsistent.sent hsent
    obtain ⟨found, hfound, hopened⟩ := hgrows.claim hconsistent hrecord
    exact ⟨id, found, hfound, (opened_inj hopened).2.2.1⟩
  cases h with
  | quiet hclaims hstates hchain hlatest | inserted hstage hcreated hchain hlatest
  | answered hstage hrecorded hchain hlatest => exact hold (hchain ▸ htransfer)
  | @sent client _ record _ hstage hstore hchain hlatest =>
    rw [hchain, mem_append, mem_singleton] at htransfer
    rcases htransfer with hsent | rfl
    · exact hold hsent
    · have hok := hconsistent.stages client
      rw [hstage] at hok
      obtain ⟨found, hfound, hopened⟩ := hok.exists
      rw [hstore]
      exact ⟨_, found, hfound, (opened_inj hopened).2.2.1⟩
  | finalized hsent hsequence hstore hchain hlatest =>
    rw [hchain] at htransfer
    exact hold htransfer

/-- What is final was sent, and its sequence is used. -/
theorem Effect.final_transfer (h : Effect service s event s') (hconsistent : Consistent service s)
    (htransfer : transfer ∈ s'.chain.final) :
    transfer ∈ s'.chain.sent ∧ transfer.senderSequence < s'.chain.nextSequence := by
  cases h with
  | quiet hclaims hstates hchain hlatest | inserted hstage hcreated hchain hlatest
  | answered hstage hrecorded hchain hlatest =>
    rw [hchain] at htransfer ⊢
    exact hconsistent.final htransfer
  | sent hstage hstore hchain hlatest =>
    rw [hchain] at htransfer ⊢
    obtain ⟨hsent, hused⟩ := hconsistent.final htransfer
    exact ⟨mem_append_left _ hsent, hused⟩
  | finalized hsent hsequence hstore hchain hlatest =>
    rw [hchain, mem_append, mem_singleton] at htransfer
    rw [hchain]
    rcases htransfer with hold | rfl
    · obtain ⟨hsent, hused⟩ := hconsistent.final hold
      exact ⟨hsent, Nat.lt_succ_of_lt hused⟩
    · exact ⟨hsent, Nat.lt_succ_of_le hsequence.le⟩

theorem Consistent.step (h : Consistent service s) (event : FaucetEvent) :
    Consistent service (step service s event) := by
  have heffect : Effect service s event (FaucetSystem.step service s event) := effect_step event
  have hgrows := heffect.grows
  have hstages := stages_step h event
  generalize FaucetSystem.step service s event = s' at heffect hgrows hstages
  constructor
  · exact hstages
  · intro id record hrecord
    rcases heffect.found hrecord with ⟨found, hfound, hopened⟩ | ⟨_, _, _, _, -, -, -, hid, -, -⟩
    · rw [← (opened_inj hopened).1]
      exact h.keyed hfound
    · exact hid.symm
  · intro id record hrecord
    rcases heffect.found hrecord with
      ⟨found, hfound, hopened⟩ | ⟨client, _, choice, sequence, -, hstage, rfl, -⟩
    · obtain ⟨choice, sequence, hchosen, hmade⟩ := h.made hfound
      exact ⟨choice, sequence, hchosen.mono hgrows, by rw [← hopened, hmade]⟩
    · have hok := h.stages client
      rw [hstage] at hok
      exact ⟨choice, sequence, hok.1.mono hgrows, rfl⟩
  · intro id record hrecord
    rcases heffect.found hrecord with
      ⟨found, hfound, hopened⟩ | ⟨client, _, choice, sequence, -, hstage, rfl, -⟩
    · rw [← (opened_inj hopened).2.2.1]
      exact (h.sequences hfound).trans hgrows.sequence
    · have hok := h.stages client
      rw [hstage] at hok
      exact hok.2.trans hgrows.sequence
  · intro id other record found hrecord hfound hclaimIds
    rcases heffect.found hrecord with
      ⟨old, hold, hopened⟩ | ⟨_, _, _, _, hevent, hstage, hnew, hid, -, hfresh⟩
    · rcases heffect.found hfound with
        ⟨old', hold', hopened'⟩ | ⟨_, _, _, _, -, -, -, -, -, hfresh'⟩
      · apply h.claimIds hold hold'
        rw [(opened_inj hopened).2.1, (opened_inj hopened').2.1, hclaimIds]
      · exact absurd ((opened_inj hopened).2.1.trans hclaimIds) (hfresh' hold)
    · rcases heffect.found hfound with
        ⟨old', hold', hopened'⟩ | ⟨_, _, _, _, hevent', hstage', hnew', hid', -, -⟩
      · exact absurd ((opened_inj hopened').2.1.trans hclaimIds.symm) (hfresh hold')
      · -- only one call creates a claim in an event
        cases hevent.symm.trans hevent'
        cases hstage.symm.trans hstage'
        rw [hid, hid', hnew, hnew']
  · exact fun htransfer => heffect.sent_transfer h htransfer
  · exact fun htransfer => heffect.final_transfer h htransfer
  · intro id record hrecord hstatus
    rcases heffect.finalized_claim h hrecord hstatus with hold | hfinal
    · exact hgrows.final (h.finalized hold hstatus)
    · exact hgrows.final hfinal

theorem consistent_initial (now : UtcReading) (nextSequence : ℕ) :
    Consistent service (initial service now nextSequence) :=
  ⟨fun _ => trivial, nofun, nofun, nofun, nofun, nofun, nofun, nofun⟩

/-! ## Challenges -/

/-- Challenges that were consumed are used, and each was consumed once. -/
structure SpentOnce (s : FaucetSystem σ) : Prop where
  nodup : (s.spent.map (·.1)).Nodup
  used : ∀ {challengeId}, challengeId ∈ s.spent.map (·.1) →
    (s.store.challenges.get? challengeId).any (·.used) = true

/-- What is done to the challenges: nothing, a new one is issued, or one is consumed. -/
inductive ChallengeEffect (s s' : FaucetSystem σ) : Prop where
  | same (hchallenges : s'.store.challenges = s.store.challenges) (hspent : s'.spent = s.spent)
  | issued (challengeId : String) (challenge : FaucetChallenge)
      (hnew : s.store.challenges.get? challengeId = none)
      (hchallenges : s'.store.challenges = s.store.challenges.set challengeId challenge)
      (hspent : s'.spent = s.spent)
  | consumed (challengeId requestId : String) (challenge : FaucetChallenge)
      (hfound : s.store.challenges.get? challengeId = some challenge)
      (hunused : challenge.used = false)
      (hchallenges : s'.store.challenges =
        s.store.challenges.set challengeId { challenge with used := true })
      (hspent : s'.spent = s.spent ++ [(challengeId, requestId)])

theorem challengeEffect_advance (client : ℕ) (readings : Readings) :
    ChallengeEffect s (s.advance service client readings) := by
  unfold advance
  cases s.stages client with
  | idle | finished => exact .same rfl rfl
  | claiming | fresh | proven | unobstructed | informed | decided | reconciling | submitting =>
    exact .same rfl rfl
  | assembled choice sequence =>
    dsimp only
    cases hmarked : s.store.markChallengeUsed choice.request.challengeId with
    | none => exact .same rfl rfl
    | some store =>
      unfold markChallengeUsed at hmarked
      cases hchallenge : s.store.challenges.get? choice.request.challengeId with
      | none => simp [hchallenge] at hmarked
      | some challenge =>
        rw [hchallenge] at hmarked
        dsimp only at hmarked
        split_ifs at hmarked with hused
        cases hmarked
        exact .consumed _ choice.request.requestId challenge hchallenge (by simpa using hused) rfl
          rfl
  | spent choice sequence =>
    dsimp only
    cases hcreated : s.store.createPendingClaim (service.newClaim choice sequence) with
    | none => exact .same rfl rfl
    | some store =>
      obtain ⟨rfl, -⟩ := of_createPendingClaim hcreated
      exact .same rfl rfl
  | submitted record =>
    dsimp only
    split_ifs
    · exact .same rfl rfl
    · exact .same rfl rfl
  | answered record answer =>
    dsimp only
    cases hrecorded : s.store.recordAnswer record readings.now answer with
    | none => exact .same rfl rfl
    | some store =>
      rcases of_recordAnswer hrecorded with ⟨_, _, -, rfl⟩ | ⟨_, _, _, -, rfl⟩ | ⟨_, -, rfl⟩
      · exact .same rfl rfl
      · exact .same rfl rfl
      · exact .same rfl rfl

theorem challengeEffect_step (event : FaucetEvent) : ChallengeEffect s (step service s event) := by
  cases event with
  | challenge walletId publicKey challengeId challenge now =>
    unfold step issueChallenge
    dsimp only
    split_ifs with hissued
    · refine .issued challengeId _ ?_ rfl rfl
      rw [← Dict.not_contains]
      exact hissued.2
    · exact .same rfl rfl
  | claim | reconcile | finalize =>
    unfold step
    dsimp only
    split_ifs <;> exact .same rfl rfl
  | advance client readings => exact challengeEffect_advance client readings

theorem SpentOnce.step (h : SpentOnce s) (event : FaucetEvent) :
    SpentOnce (step service s event) := by
  have heffect : ChallengeEffect s (FaucetSystem.step service s event) := challengeEffect_step event
  generalize FaucetSystem.step service s event = s' at heffect
  cases heffect with
  | same hchallenges hspent =>
    constructor
    · rw [hspent]
      exact h.nodup
    · rw [hspent, hchallenges]
      exact h.used
  | issued challengeId challenge hnew hchallenges hspent =>
    constructor
    · rw [hspent]
      exact h.nodup
    · intro id hid
      rw [hspent] at hid
      have hused := h.used hid
      have hne : id ≠ challengeId := by
        rintro rfl
        simp [hnew] at hused
      rwa [hchallenges, Dict.get?_set_of_ne _ _ hne]
  | consumed challengeId requestId challenge hfound hunused hchallenges hspent =>
    have hfresh : challengeId ∉ s.spent.map (·.1) := by
      intro hid
      have hused := h.used hid
      simp [hfound, hunused] at hused
    constructor
    · rw [hspent, map_append, map_singleton, nodup_append]
      refine ⟨h.nodup, nodup_singleton _, fun id hid other hother => ?_⟩
      rw [mem_singleton] at hother
      intro hsame
      rw [hsame, hother] at hid
      exact hfresh hid
    · intro id hid
      rw [hspent, map_append, map_singleton, mem_append, mem_singleton] at hid
      rw [hchallenges, Dict.get?_set]
      by_cases hsame : id = challengeId
      · rw [if_pos hsame]
        rfl
      · rw [if_neg hsame]
        exact h.used (hid.resolve_right hsame)

theorem spentOnce_initial (now : UtcReading) (nextSequence : ℕ) :
    SpentOnce (initial service now nextSequence) := ⟨nodup_nil, nofun⟩

end FaucetSystem

end AidnSpec.Faucet
