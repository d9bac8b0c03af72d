import AidnSpec.Faucet.ServiceRuns

/-!
# One payout per quota

`claim` looks for a pending claim and for one of the same quota, and creates its own claim later; a
claim that was rejected counts in neither check, though its transfer may still become final. In a
run in which the checks still hold when a claim is created, and no claim comes back from a rejection
beside a pending one, a quota is paid once.
-/

namespace AidnSpec.Faucet

open Base FaucetStore

variable {σ : Type} {service : FaucetService σ}

def Transfer.quota (transfer : Transfer) : String × String :=
  (transfer.recipientWallet, transfer.quotaKey)

namespace FaucetStore

theorem isSome_preferred (before : String → String → Bool) (best : Option (ClaimRecord σ))
    (claim : ClaimRecord σ) : (preferred before best claim).isSome = true := by
  unfold preferred
  split
  · split_ifs <;> rfl
  · rfl

theorem firstClaim_eq_none {before : String → String → Bool} {claims : List (ClaimRecord σ)} :
    firstClaim before claims = none ↔ claims = [] := by
  have hsome : ∀ (claims : List (ClaimRecord σ)) (best : Option (ClaimRecord σ)),
      best.isSome = true → (claims.foldl (preferred before) best).isSome = true := by
    intro claims
    induction claims with
    | nil => exact fun _ h => h
    | cons claim claims ih => exact fun best _ => ih _ (isSome_preferred before best claim)
  cases claims with
  | nil => exact iff_of_true rfl rfl
  | cons claim claims =>
    refine iff_of_false (fun hnone => ?_) nofun
    have hfound := hsome claims _ (isSome_preferred before none claim)
    unfold firstClaim at hnone
    rw [List.foldl_cons] at hnone
    rw [hnone] at hfound
    cases hfound

/-- No claim is pending. -/
theorem findPendingTreasuryClaim_eq_none {store : FaucetStore σ} :
    store.findPendingTreasuryClaim = none ↔
      ∀ id record, store.claims.get? id = some record → record.status ≠ .pending := by
  unfold findPendingTreasuryClaim
  rw [firstClaim_eq_none, List.filter_eq_nil_iff]
  constructor
  · intro h id record hrecord hpending
    exact h record (Dict.mem_values.mpr ⟨id, hrecord⟩) (by simp [hpending])
  · intro h record hrecord
    obtain ⟨id, hrecord⟩ := Dict.mem_values.mp hrecord
    simpa using h id record hrecord

end FaucetStore

namespace FaucetSystem

variable {s s' : FaucetSystem σ}

/-- At most one transfer is final for a wallet and a quota, one claim is pending, a request has one
operation, and a challenge is consumed once. -/
structure OnePayout (service : FaucetService σ) (s : FaucetSystem σ) : Prop where
  quotas : (s.chain.final.map Transfer.quota).Nodup
  pending : ∀ {id other record found}, s.store.claims.get? id = some record →
    s.store.claims.get? other = some found → record.status = .pending →
    found.status = .pending → id = other
  operations : ∀ requestId, ∀ transfer ∈ s.chain.sent, ∀ other ∈ s.chain.sent,
    transfer.claimId = service.claimIdOf requestId →
    other.claimId = service.claimIdOf requestId → transfer = other
  challenges : (s.spent.map (·.1)).Nodup

/-- What `claim` has checked holds when the claim is created: no claim is pending and, if the
sequence is still the next one, no transfer of the wallet and the quota is final. -/
def checksHold (service : FaucetService σ) (s : FaucetSystem σ) (choice : Choice σ)
    (sequence : ℕ) : Bool :=
  s.store.findPendingTreasuryClaim.isNone && (sequence != s.chain.nextSequence ||
    s.chain.final.all (·.quota != (service.transferOf choice sequence).quota))

/-- The claim was rejected, and another one is pending. -/
def besidePending (s : FaucetSystem σ) (requestId : String) : Bool :=
  (s.store.claims.get? requestId).any (·.status == .rejected) &&
    s.store.findPendingTreasuryClaim.isSome

/-- A claim is created after its checks have become wrong, or comes back beside a pending one. -/
def disturbs (service : FaucetService σ) (s : FaucetSystem σ) : FaucetEvent → Bool
  | .advance client _ => match s.stages client with
    | .spent choice sequence =>
      (s.store.createPendingClaim (service.newClaim choice sequence)).isSome &&
        !s.checksHold service choice sequence
    | .answered record answer =>
      leavesPending record answer && s.besidePending record.requestId
    | _ => false
  | _ => false

/-- The event disturbs no claim. -/
def Undisturbed (service : FaucetService σ) (s : FaucetSystem σ) (event : FaucetEvent) : Prop :=
  s.disturbs service event = false

instance decidableUndisturbed (service : FaucetService σ) (s : FaucetSystem σ)
    (event : FaucetEvent) : Decidable (s.Undisturbed service event) :=
  inferInstanceAs (Decidable (_ = false))

/-! ## What an undisturbed event keeps -/

/-- At most one claim is pending, no quota is paid twice, and a claim whose sequence is the next one
has a quota that is not paid yet. -/
structure PayoutInvariant (service : FaucetService σ) (s : FaucetSystem σ) : Prop where
  consistent : Consistent service s
  spentOnce : SpentOnce s
  pending : ∀ {id other record found}, s.store.claims.get? id = some record →
    s.store.claims.get? other = some found → record.status = .pending →
    found.status = .pending → id = other
  quotas : (s.chain.final.map Transfer.quota).Nodup
  live : ∀ {id record}, s.store.claims.get? id = some record →
    record.transfer.senderSequence = s.chain.nextSequence →
    ∀ transfer ∈ s.chain.final, transfer.quota ≠ record.transfer.quota

variable {id other : String} {record : ClaimRecord σ} {event : FaucetEvent}

/-- After an answer, a claim is pending that was so before, or that of the call. -/
theorem pending_recordAnswer {store recorded : FaucetStore σ} {answered : ClaimRecord σ}
    {now : UtcReading} {answer : SubmitterAnswer}
    (h : store.recordAnswer answered now answer = some recorded)
    (hrecord : recorded.claims.get? id = some record) (hpending : record.status = .pending) :
    (∃ found, store.claims.get? id = some found ∧ found.status = .pending) ∨
      id = answered.requestId ∧ leavesPending answered answer = true ∧
        ∃ found, store.claims.get? id = some found ∧ found.status = .rejected := by
  rcases of_recordAnswer h with ⟨_, _, -, rfl⟩ | ⟨_, _, _, -, rfl⟩ | ⟨_, hleaves, rfl⟩
  · rw [finalizeClaim, get?_updateClaim, Option.map_eq_some_iff] at hrecord
    obtain ⟨found, hfound, rfl⟩ := hrecord
    split_ifs at hpending
    exact .inl ⟨found, hfound, hpending⟩
  · rw [markSubmission, get?_updateClaim, Option.map_eq_some_iff] at hrecord
    obtain ⟨found, hfound, rfl⟩ := hrecord
    split_ifs at hpending
    exact .inl ⟨found, hfound, hpending⟩
  · rw [markSubmission, get?_updateClaim, Option.map_eq_some_iff] at hrecord
    obtain ⟨found, hfound, rfl⟩ := hrecord
    split_ifs at hpending with hupdated
    · cases hstatus : found.status with
      | pending => exact .inl ⟨found, hfound, hstatus⟩
      | rejected => exact .inr ⟨hupdated.1, hleaves, found, hfound, hstatus⟩
      | finalized => exact absurd hstatus hupdated.2
    · exact .inl ⟨found, hfound, hpending⟩

theorem PayoutInvariant.pending_step (h : PayoutInvariant service s)
    (heffect : Effect service s event s') (hundisturbed : s.Undisturbed service event)
    {found : ClaimRecord σ} (hrecord : s'.store.claims.get? id = some record)
    (hfound : s'.store.claims.get? other = some found) (hpending : record.status = .pending)
    (hother : found.status = .pending) : id = other := by
  unfold Undisturbed disturbs at hundisturbed
  cases heffect with
  | quiet hclaims hstates hchain hlatest =>
    rw [hclaims] at hrecord hfound
    exact h.pending hrecord hfound hpending hother
  | inserted hstage hcreated hchain hlatest =>
    simp only [hstage, hcreated, Option.isSome_some, Bool.true_and, Bool.not_eq_false',
      checksHold, Bool.and_eq_true, Option.isNone_iff_eq_none] at hundisturbed
    have hnone := FaucetStore.findPendingTreasuryClaim_eq_none.mp hundisturbed.1
    obtain ⟨hstore, -⟩ := of_createPendingClaim hcreated
    rw [hstore, Dict.get?_set] at hrecord hfound
    split_ifs at hrecord hfound with hid hid'
    · rw [hid, hid']
    · exact absurd hother (hnone _ _ hfound)
    · exact absurd hpending (hnone _ _ hrecord)
    · exact absurd hother (hnone _ _ hfound)
  | sent hstage hstore hchain hlatest | finalized hsent hsequence hstore hchain hlatest =>
    rw [hstore] at hrecord hfound
    exact h.pending hrecord hfound hpending hother
  | @answered _ _ answered answer _ hstage hrecorded hchain hlatest =>
    -- a claim that comes back is the only pending one
    have halone : leavesPending answered answer = true →
        ∀ old, s.store.claims.get? answered.requestId = some old → old.status = .rejected →
          ∀ other found, s.store.claims.get? other = some found → found.status ≠ .pending := by
      intro hleaves old hold hrejected
      apply FaucetStore.findPendingTreasuryClaim_eq_none.mp
      simpa [hstage, hleaves, besidePending, hold, hrejected] using hundisturbed
    rcases pending_recordAnswer hrecorded hrecord hpending with
      ⟨old, hold, hstatus⟩ | ⟨hid, hleaves, old, hold, hstatus⟩
    · rcases pending_recordAnswer hrecorded hfound hother with
        ⟨old', hold', hstatus'⟩ | ⟨hid', hleaves, old', hold', hstatus'⟩
      · exact h.pending hold hold' hstatus hstatus'
      · rw [hid'] at hold'
        exact absurd hstatus (halone hleaves old' hold' hstatus' id old hold)
    · rcases pending_recordAnswer hrecorded hfound hother with
        ⟨old', hold', hstatus'⟩ | ⟨hid', -⟩
      · rw [hid] at hold
        exact absurd hstatus' (halone hleaves old hold hstatus other old' hold')
      · rw [hid, hid']

theorem PayoutInvariant.quotas_step (h : PayoutInvariant service s)
    (heffect : Effect service s event s') : (s'.chain.final.map Transfer.quota).Nodup := by
  rcases heffect.chain with ⟨hfinal, -⟩ | ⟨transfer, hsent, hsequence, -, hfinal, -⟩
  · rw [hfinal]
    exact h.quotas
  · obtain ⟨id, record, hrecord, rfl⟩ := h.consistent.sent hsent
    rw [hfinal, List.map_append, List.map_singleton, List.nodup_append]
    refine ⟨h.quotas, List.nodup_singleton _, fun quota hquota other hother => ?_⟩
    rw [List.mem_singleton] at hother
    obtain ⟨paid, hpaid, rfl⟩ := List.mem_map.mp hquota
    rw [hother]
    exact h.live hrecord hsequence paid hpaid

theorem PayoutInvariant.live_step (h : PayoutInvariant service s)
    (heffect : Effect service s event s') (hundisturbed : s.Undisturbed service event)
    (hrecord : s'.store.claims.get? id = some record)
    (hnext : record.transfer.senderSequence = s'.chain.nextSequence) :
    ∀ transfer ∈ s'.chain.final, transfer.quota ≠ record.transfer.quota := by
  rcases heffect.chain with ⟨hfinal, hsequence⟩ | ⟨_, -, -, hstore, -, hsequence⟩
  · rw [hfinal]
    rw [hsequence] at hnext
    rcases heffect.found hrecord with
      ⟨found, hfound, hopened⟩ |
        ⟨client, readings, choice, sequence, rfl, hstage, rfl, -, hcreated, -⟩
    · rw [← (opened_inj hopened).2.2.1] at hnext ⊢
      exact h.live hfound hnext
    · have hholds : s.checksHold service choice sequence = true := by
        simpa [Undisturbed, disturbs, hstage, hcreated] using hundisturbed
      have hnext : sequence = s.chain.nextSequence := hnext
      simp only [checksHold, hnext, bne_self_eq_false, Bool.false_or, Bool.and_eq_true,
        List.all_eq_true, bne_iff_ne] at hholds
      rw [← hnext] at hholds
      exact hholds.2
  · -- the sequences of all claims are used now
    rw [hstore] at hrecord
    have hused := h.consistent.sequences hrecord
    omega

theorem PayoutInvariant.step (h : PayoutInvariant service s)
    (hundisturbed : s.Undisturbed service event) :
    PayoutInvariant service (step service s event) := by
  have heffect : Effect service s event (FaucetSystem.step service s event) := effect_step event
  constructor
  · exact h.consistent.step event
  · exact h.spentOnce.step event
  · exact fun hrecord hfound => h.pending_step heffect hundisturbed hrecord hfound
  · exact h.quotas_step heffect
  · exact fun hrecord => h.live_step heffect hundisturbed hrecord

/-- A claim and its transfer have the id that its request gives. -/
theorem Consistent.claimId (h : Consistent service s)
    (hrecord : s.store.claims.get? id = some record) :
    record.transfer.claimId = record.claimId := by
  obtain ⟨choice, sequence, -, hopened⟩ := h.made hrecord
  have hinj := opened_inj (show record.opened = (service.newClaim choice sequence).opened
    from hopened)
  rw [hinj.2.1, hinj.2.2.1]
  rfl

theorem PayoutInvariant.onePayout (h : PayoutInvariant service s) : OnePayout service s := by
  refine ⟨h.quotas, h.pending, ?_, h.spentOnce.nodup⟩
  intro requestId transfer htransfer other hother hclaim hclaim'
  obtain ⟨id, record, hrecord, rfl⟩ := h.consistent.sent htransfer
  obtain ⟨id', found, hfound, rfl⟩ := h.consistent.sent hother
  have hid : id = id' := by
    apply h.consistent.claimIds hrecord hfound
    rw [← h.consistent.claimId hrecord, ← h.consistent.claimId hfound, hclaim, hclaim']
  subst hid
  rw [hrecord] at hfound
  cases hfound
  rfl

/-! ## Calls one after another -/

def NotRejected (s : FaucetSystem σ) (requestId : String) : Prop :=
  ∀ record, s.store.claims.get? requestId = some record → record.status ≠ .rejected

/-- A call starts when no other one runs. -/
def Serial (s : FaucetSystem σ) : FaucetEvent → Prop
  | .claim _ _ | .reconcile _ _ => ∀ client, (s.stages client).free = true
  | _ => True

/-- No rejected claim is reconciled, and no transfer of one is or becomes final. -/
def SparesRejected (s : FaucetSystem σ) : FaucetEvent → Prop
  | .reconcile _ requestId => s.NotRejected requestId
  | .advance client _ => ∀ record operationId detail,
      s.stages client = .answered record (.submission operationId .rejected detail) →
        record.transfer ∉ s.chain.final
  | .finalize transfer => ∀ id record, s.store.claims.get? id = some record →
      record.transfer = transfer → record.status ≠ .rejected
  | _ => True

/-- What a call has found is still so. -/
def StillHolds (s : FaucetSystem σ) : Stage σ → Prop
  | .unobstructed _ _ | .informed _ _ _ => s.store.findPendingTreasuryClaim = none
  | .decided choice | .assembled choice _ | .spent choice _ =>
    s.store.findPendingTreasuryClaim = none ∧
      s.store.findActiveQuotaClaim choice.request.walletId choice.decision.quotaKey = none
  | .reconciling requestId => s.NotRejected requestId
  | .submitting record | .submitted record | .answered record _ => s.NotRejected record.requestId
  | _ => True

/-- At most one call runs, and what it has found is still so; no transfer of a rejected claim is
final. -/
structure Orderly (service : FaucetService σ) (s : FaucetSystem σ) : Prop where
  consistent : Consistent service s
  runner : ∃ runner, (∀ client, client ≠ runner → (s.stages client).free = true) ∧
    s.StillHolds (s.stages runner)
  paid : ∀ {id record}, s.store.claims.get? id = some record →
    record.transfer ∈ s.chain.final → record.status ≠ .rejected

theorem stillHolds_of_free {stage : Stage σ} (h : stage.free = true) : s.StillHolds stage := by
  cases stage <;> trivial

theorem Orderly.stillHolds (h : Orderly service s) (client : ℕ) :
    s.StillHolds (s.stages client) := by
  obtain ⟨runner, hfree, hholds⟩ := h.runner
  by_cases hrunner : client = runner
  · exact hrunner ▸ hholds
  · exact stillHolds_of_free (hfree client hrunner)

/-- A quota that is paid has a claim that counts. -/
theorem Orderly.checksHold (h : Orderly service s) {choice : Choice σ}
    (hpending : s.store.findPendingTreasuryClaim = none)
    (hactive : s.store.findActiveQuotaClaim choice.request.walletId choice.decision.quotaKey = none)
    (sequence : ℕ) : s.checksHold service choice sequence = true := by
  simp only [FaucetSystem.checksHold, hpending, Option.isNone_none, Bool.true_and, Bool.or_eq_true,
    List.all_eq_true, bne_iff_ne]
  right
  intro transfer hfinal hquota
  obtain ⟨id, record, hrecord, rfl⟩ := h.consistent.sent (h.consistent.final hfinal).1
  obtain ⟨made, made', -, hopened⟩ := h.consistent.made hrecord
  have hwallet : record.walletId = made.request.walletId := congrArg (·.walletId) hopened
  have hkey : record.quotaKey = made.decision.quotaKey := congrArg (·.quotaKey) hopened
  have htransfer : record.transfer = service.transferOf made made' :=
    congrArg (·.transfer) hopened
  rw [htransfer] at hquota
  obtain ⟨hsame, hsameKey⟩ := Prod.mk.inj hquota
  unfold findActiveQuotaClaim at hactive
  rw [FaucetStore.firstClaim_eq_none, List.filter_eq_nil_iff] at hactive
  have hcounts := hactive record (Dict.mem_values.mpr ⟨id, hrecord⟩)
  have hwallets : record.walletId = choice.request.walletId := hwallet.trans hsame
  have hkeys : record.quotaKey = choice.decision.quotaKey := hkey.trans hsameKey
  simp [hwallets, hkeys, h.paid hrecord hfinal] at hcounts

theorem Orderly.undisturbed (h : Orderly service s) (event : FaucetEvent) :
    s.Undisturbed service event := by
  unfold Undisturbed disturbs
  cases event with
  | advance client readings =>
    have hholds := h.stillHolds client
    dsimp only
    cases hstage : s.stages client with
    | spent choice sequence =>
      rw [hstage] at hholds
      simp [h.checksHold hholds.1 hholds.2 sequence]
    | answered record answer =>
      rw [hstage] at hholds
      have hkept : s.besidePending record.requestId = false := by
        unfold besidePending
        cases hclaim : s.store.claims.get? record.requestId with
        | none => rfl
        | some found => simp [hholds found hclaim]
      simp [hkept]
    | _ => rfl
  | _ => rfl

@[simp] theorem stillHolds_move (client : ℕ) (moved stage : Stage σ) :
    (s.move client moved).StillHolds stage ↔ s.StillHolds stage := by
  cases stage <;> rfl

/-- What `claim` finds when the policy decides. -/
theorem stillHolds_decideClaim (refuses : service.policy.RefusesTaken)
    {request : FaucetClaimRequest} {now : UtcReading} {state : σ}
    (hpending : s.store.findPendingTreasuryClaim = none) :
    s.StillHolds (service.decideClaim s.store request now state) := by
  unfold FaucetService.decideClaim
  cases service.policy.quotaKey request.walletId state now with
  | error e => trivial
  | ok quotaKey =>
    dsimp only
    cases hdecision : service.policy.decide request.walletId state now
        (s.store.findActiveQuotaClaim request.walletId quotaKey).isSome with
    | error e =>
      dsimp only
      split_ifs
      · trivial
      · trivial
      · split <;> trivial
    | ok decision =>
      dsimp only
      split_ifs with hkey
      · trivial
      · refine ⟨hpending, ?_⟩
        rw [not_not] at hkey
        dsimp only
        rw [hkey, ← Option.not_isSome_iff_eq_none]
        intro hsome
        rw [hsome] at hdecision
        exact refuses _ _ _ _ hdecision

/-- What the running call finds by a step. -/
theorem Orderly.stillHolds_advance (h : Orderly service s)
    (refuses : service.policy.RefusesTaken) (client : ℕ) (readings : Readings) :
    (s.advance service client readings).StillHolds
      ((s.advance service client readings).stages client) := by
  have hmoved : ∀ (s' : FaucetSystem σ) {stage : Stage σ}, s'.StillHolds stage →
      (s'.move client stage).StillHolds ((s'.move client stage).stages client) := by
    intro s' stage hstage
    rwa [stages_move_self, stillHolds_move]
  have hholds := h.stillHolds client
  unfold advance
  cases hstage : s.stages client with
  | idle | finished =>
    dsimp only
    rw [hstage]
    trivial
  | claiming request =>
    apply hmoved
    split
    · split_ifs <;> trivial
    · trivial
  | fresh request =>
    apply hmoved
    split
    · trivial
    · split <;> trivial
  | proven request now =>
    apply hmoved
    split_ifs with hpending
    · trivial
    · exact Option.not_isSome_iff_eq_none.mp hpending
  | unobstructed | decided =>
    rw [hstage] at hholds
    apply hmoved
    split
    · trivial
    · exact hholds
  | informed request now state =>
    rw [hstage] at hholds
    exact hmoved s (stillHolds_decideClaim refuses hholds)
  | assembled choice sequence =>
    rw [hstage] at hholds
    dsimp only
    cases hmarked : s.store.markChallengeUsed choice.request.challengeId with
    | none => exact hmoved s trivial
    | some store =>
      apply hmoved
      unfold markChallengeUsed at hmarked
      split at hmarked
      · split_ifs at hmarked
        cases hmarked
        exact hholds
      · cases hmarked
  | spent choice sequence =>
    dsimp only
    cases hcreated : s.store.createPendingClaim (service.newClaim choice sequence) with
    | none => exact hmoved s trivial
    | some store =>
      apply hmoved
      obtain ⟨rfl, -⟩ := of_createPendingClaim hcreated
      intro record hrecord hrejected
      rw [Dict.get?_set_self] at hrecord
      cases hrecord
      cases hrejected
  | reconciling requestId =>
    rw [hstage] at hholds
    apply hmoved
    cases hclaim : s.store.claims.get? requestId with
    | none => trivial
    | some record =>
      dsimp only
      split_ifs
      · trivial
      · show s.NotRejected record.requestId
        rwa [h.consistent.keyed hclaim]
  | submitting record =>
    rw [hstage] at hholds
    apply hmoved
    exact hholds
  | submitted record =>
    rw [hstage] at hholds
    dsimp only
    split_ifs
    · exact hmoved s hholds
    · rwa [hstage]
  | answered record answer =>
    dsimp only
    cases s.store.recordAnswer record readings.now answer with
    | none | some => exact hmoved _ trivial

theorem stillHolds_congr (hclaims : s'.store.claims = s.store.claims) (stage : Stage σ) :
    s'.StillHolds stage ↔ s.StillHolds stage := by
  cases stage <;> simp [StillHolds, NotRejected, findPendingTreasuryClaim, findActiveQuotaClaim,
    hclaims]

/-- The running call goes on, or the next one starts when it has ended. -/
theorem Orderly.runner_step (h : Orderly service s) (refuses : service.policy.RefusesTaken)
    (serial : s.Serial event) (spares : s.SparesRejected event) :
    ∃ runner, (∀ client, client ≠ runner → ((step service s event).stages client).free = true) ∧
      (step service s event).StillHolds ((step service s event).stages runner) := by
  obtain ⟨runner, hfree, hholds⟩ := h.runner
  have hquiet : ∀ s' : FaucetSystem σ, s'.stages = s.stages → s'.store.claims = s.store.claims →
      ∃ runner, (∀ client, client ≠ runner → (s'.stages client).free = true) ∧
        s'.StillHolds (s'.stages runner) := by
    intro s' hstages hclaims
    rw [hstages]
    exact ⟨runner, hfree, (stillHolds_congr hclaims _).mpr hholds⟩
  cases event with
  | challenge walletId publicKey challengeId challenge now =>
    simp only [step, issueChallenge, readClock]
    split_ifs
    · exact hquiet _ rfl rfl
    · exact hquiet _ rfl rfl
  | finalize transfer =>
    simp only [step]
    split_ifs
    · exact hquiet _ rfl rfl
    · exact hquiet _ rfl rfl
  | claim caller | reconcile caller =>
    simp only [step, if_pos (serial caller)]
    refine ⟨caller, fun client hclient => ?_, ?_⟩
    · rw [stages_move_of_ne _ hclient]
      exact serial client
    · rw [stages_move_self, stillHolds_move]
      trivial
  | advance caller readings =>
    by_cases hcaller : (s.stages caller).free = true
    · have hsame : s.advance service caller readings = s := by
        unfold advance
        cases hstage : s.stages caller with
        | idle | finished => rfl
        | _ => simp [hstage, Stage.free] at hcaller
      simp only [step, hsame]
      exact h.runner
    · obtain rfl : caller = runner := by
        by_contra hne
        exact hcaller (hfree caller hne)
      refine ⟨caller, fun client hclient => ?_, h.stillHolds_advance refuses caller readings⟩
      simp only [step, stages_advance_of_ne hclient]
      exact hfree client hclient

theorem Orderly.paid_step (h : Orderly service s) (heffect : Effect service s event s')
    (spares : s.SparesRejected event) {id : String} {record : ClaimRecord σ}
    (hrecord : s'.store.claims.get? id = some record) (hfinal : record.transfer ∈ s'.chain.final) :
    record.status ≠ .rejected := by
  cases heffect with
  | quiet hclaims hstates hchain hlatest =>
    rw [hclaims] at hrecord
    rw [hchain] at hfinal
    exact h.paid hrecord hfinal
  | inserted hstage hcreated hchain hlatest =>
    obtain ⟨hstore, -⟩ := of_createPendingClaim hcreated
    rw [hstore, Dict.get?_set] at hrecord
    rw [hchain] at hfinal
    split_ifs at hrecord
    · cases hrecord
      rintro ⟨⟩
    · exact h.paid hrecord hfinal
  | sent hstage hstore hchain hlatest =>
    rw [hstore] at hrecord
    rw [hchain] at hfinal
    exact h.paid hrecord hfinal
  | finalized hsent hsequence hstore hchain hlatest =>
    rw [hstore] at hrecord
    rw [hchain, List.mem_append, List.mem_singleton] at hfinal
    rcases hfinal with hfinal | htransfer
    · exact h.paid hrecord hfinal
    · exact spares id record hrecord htransfer
  | @answered client _ answered answer _ hstage hrecorded hchain hlatest =>
    rw [hchain] at hfinal
    have hok := h.consistent.stages client
    rw [hstage] at hok
    rcases of_recordAnswer hrecorded with
      ⟨_, _, -, hstore⟩ | ⟨_, _, detail, rfl, hstore⟩ | ⟨detail, -, hstore⟩
    · rw [hstore, finalizeClaim, get?_updateClaim, Option.map_eq_some_iff] at hrecord
      obtain ⟨found, hfound, rfl⟩ := hrecord
      split_ifs at hfinal ⊢
      · rintro ⟨⟩
      · exact h.paid hfound hfinal
    · rw [hstore, markSubmission, get?_updateClaim, Option.map_eq_some_iff] at hrecord
      obtain ⟨found, hfound, rfl⟩ := hrecord
      split_ifs at hfinal ⊢ with hupdated
      · obtain ⟨stored, hstored, hopened⟩ := hok.1.exists
        rw [← hupdated.1, hfound] at hstored
        cases hstored
        have hunpaid := spares answered _ _ hstage
        rw [← (opened_inj hopened).2.2.1] at hunpaid
        exact absurd hfinal hunpaid
      · exact h.paid hfound hfinal
    · rw [hstore, markSubmission, get?_updateClaim, Option.map_eq_some_iff] at hrecord
      obtain ⟨found, hfound, rfl⟩ := hrecord
      split_ifs at hfinal ⊢
      · rintro ⟨⟩
      · exact h.paid hfound hfinal

theorem Orderly.step (h : Orderly service s) (refuses : service.policy.RefusesTaken)
    (serial : s.Serial event) (spares : s.SparesRejected event) :
    Orderly service (step service s event) :=
  ⟨h.consistent.step event, h.runner_step refuses serial spares,
    h.paid_step (effect_step event) spares⟩

/-- Where calls come one after another and rejected claims are let be, the checks of `claim` keep
every run undisturbed. -/
theorem undisturbed_of_serial (refuses : service.policy.RefusesTaken) {now : UtcReading}
    {nextSequence : ℕ} {events : List FaucetEvent}
    (h : Careful (step service) (fun s event => s.Serial event ∧ s.SparesRejected event)
      (initial service now nextSequence) events) :
    Careful (step service) (Undisturbed service) (initial service now nextSequence) events := by
  have horderly : Orderly service (initial service now nextSequence) :=
    ⟨consistent_initial now nextSequence, ⟨0, fun _ _ => rfl, trivial⟩,
      fun hrecord => by simp [initial] at hrecord⟩
  refine careful_of_keeps (fun s event hs hok => ?_) horderly h
  exact ⟨hs.step refuses hok.1 hok.2, hs.undisturbed event⟩

/-! ## Runs -/

/-- In an undisturbed run every quota is paid at most once. -/
theorem one_payout_per_quota {now : UtcReading} {nextSequence : ℕ} {events : List FaucetEvent}
    (hundisturbed : Careful (step service) (Undisturbed service)
      (initial service now nextSequence) events) :
    OnePayout service (run (step service) (initial service now nextSequence) events) := by
  have hinvariant : PayoutInvariant service (initial service now nextSequence) :=
    ⟨consistent_initial now nextSequence, spentOnce_initial now nextSequence, nofun,
      List.nodup_nil, nofun⟩
  apply PayoutInvariant.onePayout
  exact run_keeps (fun _ _ h hc => h.step hc) hinvariant hundisturbed

/-! ## A faucet with a fixed amount per day -/

def claimHash : PyValue → String
  | .dict [_, (_, .str "q1")] =>
    "sha256:627bf1e757ab73be1c410c8c016a482340d4e4ab09bf68e47d435d2111c9eba2"
  | .dict [_, (_, .str "q2")] =>
    "sha256:1a7fd61f7c8967462d8f02745fb4a7481a037ae04841d7531e2f727f1ed30873"
  | .dict [_, (_, .str "q3")] =>
    "sha256:7f88cea83487b1f3e998f961649035650c9c1a85bc0233b593034fe1313b1ea4"
  | value => canonicalHash value

def dailyPolicy : FixedDailyPolicy where
  hash _ := "sha256:43846ef4402d6828a6bec2fb8ddae85ae40b80397ca0b182fb116fae4ec3a131"
  positive := by decide

def dailyService : FaucetService Unit where
  policy := dailyPolicy.toFaucetPolicy
  policyStateKey := "fixed-daily"
  hash := claimHash
  walletIdForPublicKey key := .ok key
  provesWallet _ _ := true
  operationId transfer := transfer.claimId
  transactionHash transfer := transfer.claimId

def sampleNow : UtcReading := ⟨0, "1970-01-01T00:00:00+00:00"⟩

def sampleRequest (walletId requestId : String) : FaucetClaimRequest where
  requestId := requestId
  walletId := walletId
  walletPublicKey := walletId
  challengeId := "challenge of " ++ requestId
  walletSignature := "signature"

def claimCall (client : ℕ) (walletId requestId : String) : List FaucetEvent :=
  [.challenge walletId walletId ("challenge of " ++ requestId) "text" sampleNow,
    .claim client (sampleRequest walletId requestId)]

def steps (client n : ℕ) (now : UtcReading) : List FaucetEvent :=
  List.replicate n (.advance client { now := now, later := now })

def answerStep (service : FaucetService σ) (client : ℕ) (requestId : String)
    (status : SubmissionStatus) (now : UtcReading) : List FaucetEvent :=
  [.advance client {
    now := now
    later := now
    answer := .submission (service.claimIdOf requestId) status none }]

/-- The chain finalizes the transfer that the policy decides on for a request. -/
def finalizeStep (service : FaucetService σ) (walletId requestId : String) (state : σ)
    (now : UtcReading) (sequence : ℕ) : List FaucetEvent :=
  match service.policy.decide walletId state now false with
  | .ok decision =>
    [.finalize (service.transferOf ⟨sampleRequest walletId requestId, now, state, decision⟩
      sequence)]
  | .error _ => []

/-- The state after events, where the Treasury has sent six transfers before. -/
def dailyRun (events : List FaucetEvent) : FaucetSystem Unit :=
  run (step dailyService) (initial dailyService sampleNow 7) events

/-- A claim that is paid, and another one of the wallet on the same day. -/
theorem one_payout_per_quota_paid_once :
    OnePayout dailyService (dailyRun (claimCall 0 "w" "q1" ++ steps 0 9 sampleNow ++
      finalizeStep dailyService "w" "q1" () sampleNow 7 ++
      answerStep dailyService 0 "q1" .finalized sampleNow ++ steps 0 1 sampleNow ++
      claimCall 1 "w" "q2" ++ steps 1 11 sampleNow)) := by
  apply one_payout_per_quota
  decide +kernel

/-- Both claims pass their checks, one is paid, and then the other one is created and paid. -/
def raced : List FaucetEvent :=
  claimCall 0 "w" "q1" ++ claimCall 1 "w" "q2" ++ steps 0 5 sampleNow ++ steps 1 5 sampleNow ++
    steps 0 4 sampleNow ++ finalizeStep dailyService "w" "q1" () sampleNow 7 ++
    steps 1 4 sampleNow ++ finalizeStep dailyService "w" "q2" () sampleNow 8

/-- A claim that is rejected becomes final, and another one is paid. -/
def rejectedThenFinal : List FaucetEvent :=
  claimCall 0 "w" "q1" ++ steps 0 9 sampleNow ++
    answerStep dailyService 0 "q1" .rejected sampleNow ++ steps 0 1 sampleNow ++
    finalizeStep dailyService "w" "q1" () sampleNow 7 ++ claimCall 1 "w" "q2" ++
    steps 1 9 sampleNow ++ finalizeStep dailyService "w" "q2" () sampleNow 8

/-- A claim that is rejected is reconciled while another one is pending. -/
def rejectedThenPending : List FaucetEvent :=
  claimCall 0 "w" "q1" ++ steps 0 9 sampleNow ++
    answerStep dailyService 0 "q1" .rejected sampleNow ++ steps 0 1 sampleNow ++
    claimCall 1 "w" "q2" ++ steps 1 9 sampleNow ++ [.reconcile 2 "q1"] ++ steps 2 4 sampleNow

theorem not_onePayout_of_pending (hne : id ≠ other)
    (hrecord : (s.store.claims.get? id).any (·.status == .pending) = true)
    (hfound : (s.store.claims.get? other).any (·.status == .pending) = true) :
    ¬ OnePayout service s := by
  intro h
  rw [Option.any_eq_true] at hrecord hfound
  obtain ⟨record, hrecord, hpending⟩ := hrecord
  obtain ⟨found, hfound, hother⟩ := hfound
  exact hne (h.pending hrecord hfound (by simpa using hpending) (by simpa using hother))

/-- A quota is paid twice, in a race or after a rejection, and two claims are pending. -/
theorem quota_paid_twice : ¬ OnePayout dailyService (dailyRun raced) ∧
    ¬ OnePayout dailyService (dailyRun rejectedThenFinal) ∧
    ¬ OnePayout dailyService (dailyRun rejectedThenPending) := by
  refine ⟨fun h => absurd h.quotas ?_, fun h => absurd h.quotas ?_, ?_⟩
  · decide +kernel
  · decide +kernel
  · apply not_onePayout_of_pending (show "q1" ≠ "q2" by decide)
    · decide +kernel
    · decide +kernel

end FaucetSystem

end AidnSpec.Faucet
