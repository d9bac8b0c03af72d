import AidnSpec.Ledger.OperationFrames
import AidnSpec.Ledger.DisputeReserve

/-!
# Chains of usage checkpoints

`validate_consensus_session_checkpoint_commit` compares a checkpoint with those of its own session,
but the checkpoints of all sessions are stored under their identities in one map. As long as no
commit names the checkpoint of another session, the checkpoints of every session form one growing
chain.
-/

namespace AidnSpec.Ledger

open Base List

/-- The usage checkpoints held for a session, in the order of the map. -/
def checkpointsOf (L : LedgerState) (sessionId : String) : List SessionUsageCheckpoint :=
  L.sessionCheckpoints.values.filter (·.sessionId == sessionId)

/-- The checkpoints of a session are numbered from one without gaps, neither exposure nor charge
decreases along them, and every charge is within the payment reserve of the session. -/
structure CheckpointChain (L : LedgerState) (sessionId : String) : Prop where
  numbered : (checkpointsOf L sessionId).map (·.checkpointSequence) =
    List.range' 1 (checkpointsOf L sessionId).length
  exposures : (checkpointsOf L sessionId).Pairwise fun c d =>
    c.currentSessionExposure ≤ d.currentSessionExposure
  charges : (checkpointsOf L sessionId).Pairwise fun c d => c.calculatedCharge ≤ d.calculatedCharge
  reserved : ∀ c ∈ checkpointsOf L sessionId, ∃ a,
    L.sessionFundingAccounts.get? sessionId = some a ∧
      (c.calculatedCharge : Int) ≤ a.endpointPaymentReserve

/-- The checkpoints are stored under their own identities. -/
def CheckpointsKeyed (L : LedgerState) : Prop :=
  ∀ id c, L.sessionCheckpoints.get? id = some c → c.checkpointId = id

def carriedCheckpointId (env : Envelope) : Option String :=
  match PyValue.get env.payload "checkpoint" with
  | .dict members => fieldText members "checkpoint_id" true
  | _ => none

/-- The operation commits a checkpoint under the identity of another session's checkpoint. -/
def ConsensusOp.ReusesCheckpoint : ConsensusOp → LedgerState → Prop
  | .sessionCheckpointCommit env _, L => ∃ id c, carriedCheckpointId env = some id ∧
      L.sessionCheckpoints.get? id = some c ∧ c.sessionId ≠ env.payload.text "session_id"
  | _, _ => False

/-! ## The latest checkpoint -/

/-- Along increasing sequences the latest checkpoint is the last one. -/
theorem latestCheckpoint_eq_getLast? {chain : List SessionUsageCheckpoint}
    (h : chain.Pairwise fun c d => c.checkpointSequence < d.checkpointSequence) :
    latestCheckpoint chain = chain.getLast? := by
  induction chain with
  | nil => rfl
  | cons c rest ih =>
    rw [pairwise_cons] at h
    rw [latestCheckpoint, ih h.2]
    cases hlast : rest.getLast? with
    | none =>
      rw [getLast?_eq_none_iff.mp hlast]
      rfl
    | some d =>
      have hlt := h.1 d (mem_of_getLast? hlast)
      rw [getLast?_cons, hlast]
      simp only [if_pos hlt, Option.getD_some]

variable {L L' : LedgerState} {s : String} {c : SessionUsageCheckpoint} {env : Envelope}
  {a : SessionFundingAccount}

theorem CheckpointChain.latest (h : CheckpointChain L s) :
    latestCheckpoint (checkpointsOf L s) = (checkpointsOf L s).getLast? := by
  apply latestCheckpoint_eq_getLast?
  have hsorted : ((checkpointsOf L s).map (·.checkpointSequence)).Pairwise (· < ·) := by
    rw [h.numbered]
    exact pairwise_lt_range'
  exact pairwise_map.mp hsorted

/-- The sequence of the latest checkpoint counts the chain. -/
theorem CheckpointChain.latest_sequence (h : CheckpointChain L s) :
    (latestCheckpoint (checkpointsOf L s)).elim 0 (·.checkpointSequence) =
      (checkpointsOf L s).length := by
  rw [h.latest]
  have hmap := congrArg List.getLast? h.numbered
  rw [getLast?_map, getLast?_range'] at hmap
  cases hlast : (checkpointsOf L s).getLast? with
  | none =>
    rw [getLast?_eq_none_iff.mp hlast]
    rfl
  | some c =>
    rw [hlast, Option.map_some] at hmap
    split at hmap
    · cases hmap
    · have hsequence := Option.some.inj hmap
      show c.checkpointSequence = _
      omega

/-- What precedes the last of a chain is related to whatever the last is related to. -/
theorem pairwise_append_last {α : Type} {r : α → α → Prop}
    (trans : ∀ x y z, r x y → r y z → r x z) {chain : List α} {x : α} (h : chain.Pairwise r)
    (hlast : ∀ y, chain.getLast? = some y → r y x) : (chain ++ [x]).Pairwise r := by
  rw [pairwise_append]
  refine ⟨h, pairwise_singleton r x, ?_⟩
  intro y hy z hz
  rw [mem_singleton] at hz
  subst hz
  rcases eq_nil_or_concat chain with rfl | ⟨front, last, rfl⟩
  · cases hy
  · rw [concat_eq_append] at h hy hlast
    have hx := hlast last (by simp)
    rw [mem_append, mem_singleton] at hy
    rcases hy with hy | rfl
    · have hy := (pairwise_append.mp h).2.2 y hy last (mem_singleton_self _)
      exact trans y last z hy hx
    · exact hx

/-! ## A commit -/

/-- What the validation of a commit has found. -/
structure CheckpointChecked (env : Envelope) (L : LedgerState) (c : SessionUsageCheckpoint)
    (a : SessionFundingAccount) : Prop where
  stored : L.sessionFundingAccounts.get? (env.payload.text "session_id") = some a
  session : c.sessionId = a.sessionId
  carried : carriedCheckpointId env = some c.checkpointId
  charge : (c.calculatedCharge : Int) ≤ a.endpointPaymentReserve
  uncommitted : ∀ d ∈ checkpointsOf L a.sessionId, d.checkpointId ≠ c.checkpointId
  sequence : c.checkpointSequence =
    (latestCheckpoint (checkpointsOf L a.sessionId)).elim 0 (·.checkpointSequence) + 1
  grows : ∀ last, latestCheckpoint (checkpointsOf L a.sessionId) = some last →
    last.currentSessionExposure ≤ c.currentSessionExposure ∧
      last.calculatedCharge ≤ c.calculatedCharge

theorem checkpointsOf_set (hfresh : L.sessionCheckpoints.get? c.checkpointId = none)
    (h : L'.sessionCheckpoints = L.sessionCheckpoints.set c.checkpointId c) (s : String) :
    checkpointsOf L' s = checkpointsOf L s ++ if c.sessionId = s then [c] else [] := by
  rw [checkpointsOf, h, Dict.values_set hfresh, filter_append, filter_singleton]
  congr 1
  by_cases hs : c.sessionId = s
  · rw [if_pos hs, beq_iff_eq.mpr hs, cond_true]
  · rw [if_neg hs, beq_eq_false_iff_ne.mpr hs, cond_false]

/-- A checked commit under a new identity extends the chain of its session. -/
theorem CheckpointChain.commit (h : CheckpointChain L a.sessionId)
    (checked : CheckpointChecked env L c a)
    (hsession : a.sessionId = env.payload.text "session_id")
    (hchain : checkpointsOf L' a.sessionId = checkpointsOf L a.sessionId ++ [c])
    (haccounts : L'.sessionFundingAccounts = L.sessionFundingAccounts) :
    CheckpointChain L' a.sessionId := by
  constructor
  · rw [hchain, map_append, h.numbered, map_singleton, checked.sequence,
      h.latest_sequence, length_append, length_singleton, range'_concat]
    congr 2
    omega
  · rw [hchain]
    refine pairwise_append_last ?_ h.exposures fun last hlast => ?_
    · exact fun _ _ _ => Nat.le_trans
    · exact (checked.grows last (h.latest.trans hlast)).1
  · rw [hchain]
    refine pairwise_append_last ?_ h.charges fun last hlast => ?_
    · exact fun _ _ _ => Nat.le_trans
    · exact (checked.grows last (h.latest.trans hlast)).2
  · intro d hd
    rw [haccounts]
    rw [hchain, mem_append, mem_singleton] at hd
    rcases hd with hd | rfl
    · exact h.reserved d hd
    · rw [hsession]
      exact ⟨a, checked.stored, checked.charge⟩

variable [Runtime]

theorem checkpointId_of_modelValidate {members : Fields}
    (h : SessionUsageCheckpoint.modelValidate members = .ok c) :
    fieldText members "checkpoint_id" true = some c.checkpointId := by
  obtain ⟨x, hread, h⟩ := bind_eq_ok.mp h
  obtain ⟨-, -, h⟩ := bind_eq_ok.mp h
  cases h
  rw [readDeclared] at hread
  split at hread
  · cases hread
  · next y hy =>
    cases hread
    obtain ⟨id, hid, hy⟩ := Option.bind_eq_some_iff.mp hy
    -- the other thirteen members
    iterate 13 obtain ⟨_, -, hy⟩ := Option.bind_eq_some_iff.mp hy
    rw [← Option.some.inj hy]
    exact hid

theorem checkpointChecked_of_ok {finalized : FinalizedIds}
    (h : validateSessionCheckpointCommit env finalized L = .ok c) :
    ∃ a, CheckpointChecked env L c a := by
  simp only [validateSessionCheckpointCommit, requireFunding, checks_eq_ok, requireDict_eq_ok,
    exists_unit, decide_eq_true_eq, beq_iff_eq, Bool.not_eq_true', any_eq_false] at h
  obtain ⟨-, -, -, -, members, hmembers, d, hread, a, hstored, -, -, -, -, hsession, -, -, -,
    hcharge, huncommitted, hsequence, hgrows, -, -, -, -, rfl⟩ := h
  refine ⟨a, hstored, hsession, ?_, hcharge, huncommitted, hsequence, ?_⟩
  · rw [carriedCheckpointId, hmembers]
    exact checkpointId_of_modelValidate hread
  · intro last hlast
    rw [checkpointsOf] at hlast
    rw [hlast] at hgrows
    simpa using hgrows

/-! ## Steps and runs -/

omit [Runtime] in
/-- A step of the economy keeps the reserves of every account. -/
theorem Economy.Step.covers {label : Label} {E E' : Economy} (step : Economy.Step label E E')
    (stored : E.accounts.get? s = some a) :
    ∃ a', E'.accounts.get? s = some a' ∧ a.endpointPaymentReserve ≤ a'.endpointPaymentReserve := by
  cases step with
  | lock _ b fresh untouched =>
    have hne : s ≠ b.sessionId := by
      rintro rfl
      rw [fresh] at stored
      cases stored
    exact ⟨a, by rw [Economy.openAccount_accounts, Dict.get?_set_of_ne _ _ hne, stored], le_rfl⟩
  | extend _ b b' amount stored' extended =>
    by_cases hs : s = b.sessionId
    · subst hs
      obtain rfl := Option.some.inj (stored.symm.trans stored')
      exact ⟨b', Dict.get?_set_self .., extended.covers.payment⟩
    · exact ⟨a, (Dict.get?_set_of_ne _ _ hs).trans stored, le_rfl⟩
  | payout kind _ b b' cs stored' pays =>
    rw [Economy.putAccount_accounts, Economy.creditAll_accounts]
    by_cases hs : s = b.sessionId
    · subst hs
      obtain rfl := Option.some.inj (stored.symm.trans stored')
      exact ⟨b', Dict.get?_set_self .., pays.paymentReserve.ge⟩
    · exact ⟨a, (Dict.get?_set_of_ne _ _ hs).trans stored, le_rfl⟩
  | _ => exact ⟨a, stored, le_rfl⟩

variable [LedgerRules]

namespace ConsensusOp

theorem reserve_after (op : ConsensusOp) {L : LedgerState} (wf : L.economy.WellFormed) {s : String}
    {a : SessionFundingAccount} (stored : L.sessionFundingAccounts.get? s = some a) :
    ∃ a', (op.after L).sessionFundingAccounts.get? s = some a' ∧
      a.endpointPaymentReserve ≤ a'.endpointPaymentReserve := by
  rcases op.after_cases wf with ⟨record, -, step⟩ | ⟨-, hsame⟩ | ⟨-, b, cs, heconomy, -⟩
  · exact step.covers stored
  · exact ⟨a, by rw [hsame]; exact stored, le_rfl⟩
  · refine ⟨a, ?_, le_rfl⟩
    show (op.after L).economy.accounts.get? s = some a
    rw [heconomy, Economy.creditAll_accounts]
    exact stored

/-- Only a checkpoint commit changes the checkpoints. -/
theorem checkpoints_after {op : ConsensusOp} (h : op.storesCheckpoint = false) (L : LedgerState) :
    (op.after L).sessionCheckpoints = L.sessionCheckpoints := by
  have hignores : IgnoresRecords fun L : LedgerState => L.sessionCheckpoints := by
    constructor
    · constructor <;> intros <;> rfl
    all_goals intros; rfl
  rw [op.after_eq_leaves]
  exact op.keeps hignores (fun _ _ _ => rfl) (fun hstores => by rw [h] at hstores; cases hstores) L

/-- A commit changes nothing, or stores a checked checkpoint and keeps the accounts. -/
theorem commit_cases (env : Envelope) (finalized : FinalizedIds) (L : LedgerState) :
    (sessionCheckpointCommit env finalized).after L = L ∨
      ∃ c a, CheckpointChecked env L c a ∧
        ((sessionCheckpointCommit env finalized).after L).sessionCheckpoints =
          L.sessionCheckpoints.set c.checkpointId c ∧
        ((sessionCheckpointCommit env finalized).after L).sessionFundingAccounts =
          L.sessionFundingAccounts := by
  cases happly : (sessionCheckpointCommit env finalized).apply L with
  | ok record L' =>
    obtain ⟨c, L₁, hvalid, hadmitted, heffect⟩ := applyConsensus_eq_ok.mp happly
    obtain ⟨next, -, -, rfl⟩ := admitEnvelope_eq_ok.mp hadmitted
    obtain ⟨a, hchecked⟩ := checkpointChecked_of_ok hvalid
    refine .inr ⟨c, a, hchecked, ?_⟩
    rw [after_of_ok happly]
    cases heffect
    exact ⟨rfl, rfl⟩
  | error e L' =>
    left
    rw [after_of_error happly]
    rcases applyConsensus_eq_error.mp happly with ⟨-, h⟩ | ⟨-, -, -, h⟩ | ⟨v, r, L₁, -, -, h⟩
    · exact h
    · exact h
    · cases h

end ConsensusOp

/-- The economy is well formed, the checkpoints are keyed by identity, and every session has one
chain. -/
structure ChainsKept (L : LedgerState) : Prop where
  economy : L.economy.WellFormed
  keyed : CheckpointsKeyed L
  chains : ∀ s, CheckpointChain L s

/-- What an operation does to the chain of a session: nothing, unless it commits the session's own
next checkpoint. -/
def ConsensusOp.ExtendsChain (op : ConsensusOp) (L : LedgerState) (s : String) : Prop :=
  checkpointsOf (op.after L) s = checkpointsOf L s ∨
    ∃ env finalized c, op = .sessionCheckpointCommit env finalized ∧
      env.payload.text "session_id" = s ∧ c.sessionId = s ∧
      checkpointsOf (op.after L) s = checkpointsOf L s ++ [c]

theorem ChainsKept.step {L : LedgerState} (h : ChainsKept L) {op : ConsensusOp}
    (hfresh : ¬ op.ReusesCheckpoint L) :
    ChainsKept (op.after L) ∧ ∀ s, op.ExtendsChain L s := by
  have hsame : (op.after L).sessionCheckpoints = L.sessionCheckpoints →
      ChainsKept (op.after L) ∧ ∀ s, op.ExtendsChain L s := by
    intro hcheckpoints
    have hchain : ∀ s, checkpointsOf (op.after L) s = checkpointsOf L s := by
      intro s
      rw [checkpointsOf, hcheckpoints, checkpointsOf]
    refine ⟨⟨op.wellFormed_after h.economy, ?_, fun s => ?_⟩, fun s => .inl (hchain s)⟩
    · intro id c hc
      rw [hcheckpoints] at hc
      exact h.keyed id c hc
    · obtain ⟨hnumbered, hexposures, hcharges, hreserved⟩ := h.chains s
      rw [← hchain s] at hnumbered hexposures hcharges hreserved
      refine ⟨hnumbered, hexposures, hcharges, fun c hc => ?_⟩
      obtain ⟨a, hstored, hcharge⟩ := hreserved c hc
      obtain ⟨a', hstored', hreserve⟩ := op.reserve_after h.economy hstored
      exact ⟨a', hstored', hcharge.trans hreserve⟩
  by_cases hstores : op.storesCheckpoint = true
  · cases op with
    | sessionCheckpointCommit env finalized =>
      rcases ConsensusOp.commit_cases env finalized L with hL | ⟨c, a, checked, hset, haccounts⟩
      · exact hsame (by rw [hL])
      · have hsession : a.sessionId = env.payload.text "session_id" :=
          h.economy.accounts checked.stored
        -- another session's checkpoint is excluded by the condition, an own one by the check
        have hnew : L.sessionCheckpoints.get? c.checkpointId = none := by
          by_contra hold
          obtain ⟨d, hd⟩ := Option.ne_none_iff_exists'.mp hold
          by_cases hown : d.sessionId = env.payload.text "session_id"
          · refine checked.uncommitted d ?_ (h.keyed _ d hd)
            rw [checkpointsOf, mem_filter, beq_iff_eq, hsession]
            exact ⟨Dict.mem_values.mpr ⟨_, hd⟩, hown⟩
          · exact hfresh ⟨c.checkpointId, d, checked.carried, hd, hown⟩
        have hchain := checkpointsOf_set hnew hset
        have hother : ∀ s, c.sessionId ≠ s →
            checkpointsOf ((ConsensusOp.sessionCheckpointCommit env finalized).after L) s =
              checkpointsOf L s := by
          intro s hs
          rw [hchain, if_neg hs, append_nil]
        have hown : checkpointsOf ((ConsensusOp.sessionCheckpointCommit env finalized).after L)
            a.sessionId = checkpointsOf L a.sessionId ++ [c] := by
          rw [hchain, if_pos checked.session]
        refine ⟨⟨ConsensusOp.wellFormed_after _ h.economy, ?_, fun s => ?_⟩, fun s => ?_⟩
        · intro id d hd
          rw [hset, Dict.get?_set] at hd
          split at hd
          · next hid =>
            cases hd
            exact hid.symm
          · exact h.keyed id d hd
        · by_cases hs : c.sessionId = s
          · have hs : a.sessionId = s := checked.session.symm.trans hs
            subst hs
            exact (h.chains _).commit checked hsession hown haccounts
          · obtain ⟨hnumbered, hexposures, hcharges, hreserved⟩ := h.chains s
            rw [← hother s hs] at hnumbered hexposures hcharges hreserved
            refine ⟨hnumbered, hexposures, hcharges, fun d hd => ?_⟩
            rw [haccounts]
            exact hreserved d hd
        · by_cases hs : c.sessionId = s
          · have hs' : a.sessionId = s := checked.session.symm.trans hs
            subst hs'
            exact .inr ⟨env, finalized, c, rfl, hsession.symm, hs, hown⟩
          · exact .inl (hother s hs)
    | _ => cases hstores
  · exact hsame (op.checkpoints_after (Bool.eq_false_iff.mpr hstores) L)

omit [Runtime] [LedgerRules] in
theorem chainsKept_genesis (balances : Dict String Int) (manifest : Option Fields)
    (wf : (genesis balances manifest).economy.WellFormed) :
    ChainsKept (genesis balances manifest) where
  economy := wf
  keyed := fun _ _ hc => by cases hc
  chains := fun _ =>
    ⟨rfl, List.Pairwise.nil, List.Pairwise.nil, fun _ hc => absurd hc not_mem_nil⟩

/-- A run that names no checkpoint of another session keeps the chains and only extends them. -/
theorem ChainsKept.run {L : LedgerState} (h : ChainsKept L) {ops : List ConsensusOp}
    (run : EachStep (fun op L => ¬ op.ReusesCheckpoint L) L ops) :
    ChainsKept (runOps L ops) ∧ ∀ s, checkpointsOf L s <+: checkpointsOf (runOps L ops) s := by
  induction ops generalizing L with
  | nil => exact ⟨h, fun _ => prefix_refl _⟩
  | cons op ops ih =>
    obtain ⟨hstep, hextends⟩ := h.step run.1
    obtain ⟨hkept, hgrown⟩ := ih hstep run.2
    refine ⟨hkept, fun s => List.IsPrefix.trans ?_ (hgrown s)⟩
    rcases hextends s with hsame | ⟨-, -, c, -, -, -, happended⟩
    · simp only [hsame, prefix_rfl]
    · rw [happended]
      exact prefix_append _ _

/-- In every run in which no commit names the checkpoint of another session, the checkpoints of
every session form one chain. An operation leaves the chain of a session as it is or appends the
session's own next checkpoint, and nothing is ever taken from a chain or replaced in it. -/
theorem checkpoint_chains_grow (balances : Dict String Int) (manifest : Option Fields)
    (ops : List ConsensusOp)
    (run : EachStep (fun op L => ¬ op.ReusesCheckpoint L) (genesis balances manifest) ops) :
    (∀ s, CheckpointChain (runOps (genesis balances manifest) ops) s) ∧
    (∀ done op more, ops = done ++ op :: more →
      ∀ s, op.ExtendsChain (runOps (genesis balances manifest) done) s) ∧
    ∀ done more, ops = done ++ more → ∀ s,
      checkpointsOf (runOps (genesis balances manifest) done) s <+:
        checkpointsOf (runOps (genesis balances manifest) ops) s := by
  have hgenesis : Reachable (genesis balances manifest) := ⟨balances, manifest, [], rfl⟩
  have hstart := chainsKept_genesis balances manifest hgenesis.wellFormed
  refine ⟨(hstart.run run).1.chains, ?_, ?_⟩
  · rintro done op more rfl s
    obtain ⟨hdone, hrest⟩ := run.append
    exact ((hstart.run hdone).1.step hrest.1).2 s
  · rintro done more rfl s
    obtain ⟨hdone, hmore⟩ := run.append
    rw [runOps_append]
    exact ((hstart.run hdone).1.run hmore).2 s

/-! ## Two sessions and one identity -/

omit [Runtime] [LedgerRules]

def sessionAccount (sessionId : String) : SessionFundingAccount :=
  { tenAtoms .escrowPrepaid with
    sessionId := sessionId
    nonneg := by constructor <;> simp [tenAtoms] }

def secondLockId : String := "93e1ef985221f7abca88035fb3f3c424eacd9cb494b7b9ad59cfec86038acd9c"

def secondLock : Envelope :=
  { lockEnvelope .escrowPrepaid secondLockId with
    senderSequence := some 2
    payload := (sessionAccount "session-2").dump }

def firstCheckpoint (sessionId : String) : SessionUsageCheckpoint where
  checkpointId := "checkpoint-1"
  checkpointSequence := 1
  sessionId := sessionId
  requestId := "request-1"
  usageReportId := "report-1"
  usageReportHash := "report-hash"
  usageSequence := 1
  calculatedCharge := 3
  currentSessionExposure := 4
  remainingDeposit := 6
  accountingContractHash := "accounting"
  createdAt := "2026-01-01T00:00:00Z"
  providerSignature := "provider"
  consumerSignature := "consumer"

/-- The checkpoint that follows in the first session. -/
def nextCheckpoint : SessionUsageCheckpoint :=
  { firstCheckpoint "session-1" with
    checkpointId := "checkpoint-2"
    checkpointSequence := 2
    requestId := "request-2"
    usageReportId := "report-2"
    usageReportHash := "report-hash-2"
    usageSequence := 2
    calculatedCharge := 5
    currentSessionExposure := 7
    remainingDeposit := 3 }

def commitEnvelope (c : SessionUsageCheckpoint) (lockId operationId : String) : Envelope :=
  settlementEnvelope "SESSION_CHECKPOINT_COMMIT"
    [("session_id", .str c.sessionId),
      ("funding_state_reference", .str (sessionAccount c.sessionId).fundingStateHash),
      ("previous_funding_operation_id", .str lockId), ("consumer_wallet", .str "consumer"),
      ("checkpoint", c.toValue)]
    [lockId, (sessionAccount c.sessionId).fundingStateHash, c.checkpointId, c.checkpointHash,
      c.usageReportHash] operationId

def firstCommit : Envelope := commitEnvelope (firstCheckpoint "session-1") prepaidId
  "f5562e56127a1974002cd80353247252d2f381983dd97d57ece5b4f008c9aee3"

def nextCommit : Envelope := commitEnvelope nextCheckpoint prepaidId
  "58a2e1478271900beb0b3c1eebf7d7fe98206a2b212d10faccec976bf76925db"

def secondCommit : Envelope := commitEnvelope (firstCheckpoint "session-2") secondLockId
  "64416b0547d05396b51c9acb65afe1fcf5297347e78d27a13800cb00822ada53"

def bothFunded : LedgerState :=
  { escrowed.admitted secondLock ["SessionEscrowLocked"] (some 3) with
    walletQAtomBalances := escrowed.walletQAtomBalances.set "consumer" 80
    sessionLocks := [⟨"session-2", 10⟩, ⟨"session-1", 10⟩]
    sessionFundingAccounts :=
      escrowed.sessionFundingAccounts.set "session-2" (sessionAccount "session-2") }

def withCheckpoint (L : LedgerState) (env : Envelope) (c : SessionUsageCheckpoint) : LedgerState :=
  { L.admitted env ["SessionCheckpointCommitted"] none with
    sessionCheckpoints := L.sessionCheckpoints.set c.checkpointId c }

def firstCommitted : LedgerState :=
  withCheckpoint bothFunded firstCommit (firstCheckpoint "session-1")

def nextCommitted : LedgerState := withCheckpoint firstCommitted nextCommit nextCheckpoint

def secondCommitted : LedgerState :=
  withCheckpoint firstCommitted secondCommit (firstCheckpoint "session-2")

section Evaluation

variable [Runtime] [LedgerRules]

theorem after_secondLock :
    (ConsensusOp.sessionEscrowLock secondLock).after escrowed = bothFunded := by
  have hnamed : (sessionAccount "session-2").Named := by
    constructor <;> simp [sessionAccount, tenAtoms]
  have hmodel := SessionFundingAccount.modelValidate_dump hnamed
  have hmissing : escrowLockFields.filter
      (fun key => !(sessionAccount "session-2").dump.has key) = [] := by
    simp [escrowLockFields, FundingFields.dump, FundingFields.members, Fields.has, lookup_cons]
  have hvalid : validateSessionEscrowLock secondLock escrowed =
      .ok (sessionAccount "session-2") := by
    simp only [validateSessionEscrowLock, checks_eq_ok, exists_unit, secondLock, lockEnvelope,
      requireSender, hmissing, hmodel, Except.ok.injEq, exists_eq_left']
    exact ⟨rfl, rfl, rfl, rfl, rfl, rfl, rfl, rfl, rfl, trivial⟩
  have hadmits : Admits escrowed secondLock (some 3) := by decide
  exact ConsensusOp.after_of_ok (applyConsensus_eq_ok.mpr
    ⟨_, _, hvalid, hadmits.admitEnvelope _, rfl⟩)

omit [Runtime] [LedgerRules] in
/-- A lock that was recorded precedes the checkpoints of its session. -/
theorem requireFundingPredecessor_recorded {L : LedgerState} {env : Envelope} {events : List String}
    {next : Option Nat} {a : SessionFundingAccount} {references : List String} {complaint : String}
    {M : LedgerState}
    (hrecord : requireFinalizedOperation L env.operationId none complaint =
      .ok (admittedRecord M env events next))
    (htype : env.operationType = "SESSION_ESCROW_LOCK") (hpayload : env.payload = a.dump)
    (hreferences : references.contains env.operationId = true) :
    requireFundingPredecessor L env.operationId a none references complaint = .ok () := by
  have hsession : PyValue.get a.dump "session_id" = .str a.sessionId := rfl
  have hhash : PyValue.get a.dump "funding_state_hash" = .str a.fundingStateHash := by
    simp [FundingFields.dump, FundingFields.members, PyValue.get, lookup_cons]
  simp only [requireFundingPredecessor, checks_eq_ok, exists_unit, hrecord, Except.ok.injEq,
    exists_eq_left', admittedRecord, htype, hpayload, hreferences, if_true, hsession, hhash,
    decide_true]
  exact ⟨rfl, trivial, trivial, trivial⟩

/-- The checkpoints of the run, each with what its session holds before it. -/
inductive Upcoming (L : LedgerState) : SessionUsageCheckpoint → Prop
  | first (sessionId : String) (known : sessionId = "session-1" ∨ sessionId = "session-2")
      (held : checkpointsOf L sessionId = []) : Upcoming L (firstCheckpoint sessionId)
  | next (held : checkpointsOf L "session-1" = [firstCheckpoint "session-1"]) :
      Upcoming L nextCheckpoint

omit [LedgerRules] in
/-- A checkpoint of the run passes when its session is funded and holds those before it. -/
theorem validate_commitEnvelope {L : LedgerState} {c : SessionUsageCheckpoint}
    {lockId operationId : String} (hfollows : Upcoming L c) (hlockId : isBlank lockId = false)
    (hfunded : L.sessionFundingAccounts.get? c.sessionId = some (sessionAccount c.sessionId))
    (hlock : requireFundingPredecessor L lockId (sessionAccount c.sessionId) none
      (commitEnvelope c lockId operationId).evidenceReferences
      "consensus checkpoint predecessor is invalid" = .ok ()) :
    validateSessionCheckpointCommit (commitEnvelope c lockId operationId) none L = .ok c := by
  have hblank := isBlank_canonicalHash (.dict (sessionAccount c.sessionId).members)
  have htexts : ∀ key ∈ ["session_id", "funding_state_reference", "previous_funding_operation_id",
      "consumer_wallet"],
      (commitEnvelope c lockId operationId).payload.hasText key = true := by
    simp only [forall_mem_cons, not_mem_nil, IsEmpty.forall_iff, implies_true, and_true]
    refine ⟨?_, ?_, ?_, rfl⟩
    · cases hfollows with
      | first sessionId known held => rcases known with rfl | rfl <;> rfl
      | next held => rfl
    · simp [commitEnvelope, settlementEnvelope, Fields.hasText, PyValue.get, lookup_cons,
        FundingFields.fundingStateHash, hblank]
    · simp [commitEnvelope, settlementEnvelope, Fields.hasText, PyValue.get, lookup_cons, hlockId]
  have hreferenced : requireReferenced (commitEnvelope c lockId operationId).evidenceReferences
      "consensus checkpoint evidence is not referenced"
      [(commitEnvelope c lockId operationId).payload.text "funding_state_reference",
        c.checkpointId, c.checkpointHash, c.usageReportHash] = .ok () := by
    simp [requireReferenced, commitEnvelope, settlementEnvelope, require, Fields.text, PyValue.get,
      lookup_cons, bind, Except.bind]
  simp only [validateSessionCheckpointCommit, requireFunding, checks_eq_ok, requireDict_eq_ok,
    exists_and_left, exists_const]
  refine ⟨rfl, rfl, rfl, htexts, _, rfl, c, ?_, sessionAccount c.sessionId, hfunded, rfl, rfl, rfl,
    beq_self_eq_true _, beq_self_eq_true _, ?_⟩
  · cases hfollows with
    | first sessionId known held => rcases known with rfl | rfl <;> rfl
    | next held => rfl
  · cases hfollows with
    | first sessionId known held =>
      have hexisting : L.sessionCheckpoints.values.filter
          (·.sessionId == (sessionAccount sessionId).sessionId) = [] := held
      refine ⟨rfl, rfl, rfl, rfl, ?_⟩
      rw [show (firstCheckpoint sessionId).sessionId = sessionId from rfl, hexisting]
      exact ⟨rfl, rfl, rfl, (), hlock, (), hreferenced, rfl⟩
    | next held =>
      have hexisting : L.sessionCheckpoints.values.filter
          (·.sessionId == (sessionAccount "session-1").sessionId) =
            [firstCheckpoint "session-1"] := held
      refine ⟨rfl, rfl, rfl, rfl, ?_⟩
      rw [show nextCheckpoint.sessionId = "session-1" from rfl, hexisting]
      exact ⟨rfl, rfl, rfl, (), hlock, (), hreferenced, rfl⟩

theorem after_firstCommit :
    (ConsensusOp.sessionCheckpointCommit firstCommit none).after bothFunded = firstCommitted := by
  have hvalid : validateSessionCheckpointCommit firstCommit none bothFunded =
      .ok (firstCheckpoint "session-1") := by
    refine validate_commitEnvelope (.first _ (.inl rfl) rfl) (by decide) rfl ?_
    exact @requireFundingPredecessor_recorded bothFunded (lockEnvelope .escrowPrepaid prepaidId)
      ["SessionEscrowLocked"] (some 2) (sessionAccount "session-1") _ _ hundredAtoms rfl rfl rfl rfl
  exact ConsensusOp.after_of_ok (applyConsensus_eq_ok.mpr ⟨_, _, hvalid,
    (show Admits _ _ none by decide).admitEnvelope _, rfl⟩)

theorem after_nextCommit :
    (ConsensusOp.sessionCheckpointCommit nextCommit none).after firstCommitted = nextCommitted := by
  have hvalid : validateSessionCheckpointCommit nextCommit none firstCommitted =
      .ok nextCheckpoint := by
    refine validate_commitEnvelope (.next rfl) (by decide) rfl ?_
    exact @requireFundingPredecessor_recorded firstCommitted (lockEnvelope .escrowPrepaid prepaidId)
      ["SessionEscrowLocked"] (some 2) (sessionAccount "session-1") _ _ hundredAtoms rfl rfl rfl rfl
  exact ConsensusOp.after_of_ok (applyConsensus_eq_ok.mpr ⟨_, _, hvalid,
    (show Admits _ _ none by decide).admitEnvelope _, rfl⟩)

theorem after_secondCommit :
    (ConsensusOp.sessionCheckpointCommit secondCommit none).after firstCommitted =
      secondCommitted := by
  have hvalid : validateSessionCheckpointCommit secondCommit none firstCommitted =
      .ok (firstCheckpoint "session-2") := by
    refine validate_commitEnvelope (.first _ (.inr rfl) rfl) (by decide) rfl ?_
    exact @requireFundingPredecessor_recorded firstCommitted secondLock
      ["SessionEscrowLocked"] (some 3) (sessionAccount "session-2") _ _ escrowed rfl rfl rfl rfl
  exact ConsensusOp.after_of_ok (applyConsensus_eq_ok.mpr ⟨_, _, hvalid,
    (show Admits _ _ none by decide).admitEnvelope _, rfl⟩)

end Evaluation

/-- Two locks and the first commit. -/
def fundedRun : List ConsensusOp :=
  [lockOp .escrowPrepaid prepaidId, .sessionEscrowLock secondLock,
    .sessionCheckpointCommit firstCommit none]

theorem runOps_fundedRun [Runtime] [LedgerRules] :
    runOps hundredAtoms fundedRun = firstCommitted := by
  have hlock : (lockOp .escrowPrepaid prepaidId).after hundredAtoms = escrowed :=
    ConsensusOp.after_of_ok (apply_lockOp .escrowPrepaid (by decide))
  simp only [fundedRun, runOps, hlock, after_secondLock, after_firstCommit]

/-- The first session's only checkpoint is gone after the second session commits one under the
same identity. -/
theorem checkpoint_of_other_session_replaced :
    letI := sampleRuntime
    letI := noRules
    ¬ (ConsensusOp.sessionCheckpointCommit secondCommit none).ExtendsChain
      (runOps (genesis (Dict.empty.set "consumer" 100) none) fundedRun) "session-1" := by
  let _ := sampleRuntime
  let _ := noRules
  intro hextends
  have hrun : runOps (genesis (Dict.empty.set "consumer" 100) none) fundedRun = firstCommitted :=
    runOps_fundedRun
  rw [hrun] at hextends
  have hbefore : checkpointsOf firstCommitted "session-1" = [firstCheckpoint "session-1"] := rfl
  have hafter : checkpointsOf secondCommitted "session-1" = [] := rfl
  rw [ConsensusOp.ExtendsChain, after_secondCommit, hbefore, hafter] at hextends
  rcases hextends with hsame | ⟨-, -, c, -, -, -, happended⟩
  · cases hsame
  · cases happended

/-- Two commits give the first session a chain of two checkpoints. -/
theorem second_commit_chain :
    letI := sampleRuntime
    letI := noRules
    let ops := fundedRun ++ [.sessionCheckpointCommit nextCommit none]
    EachStep (fun op L => ¬ op.ReusesCheckpoint L) hundredAtoms ops ∧
      runOps hundredAtoms ops = nextCommitted ∧ CheckpointChain nextCommitted "session-1" ∧
      checkpointsOf nextCommitted "session-1" = [firstCheckpoint "session-1", nextCheckpoint] := by
  let _ := sampleRuntime
  let _ := noRules
  have hlock : (lockOp .escrowPrepaid prepaidId).after hundredAtoms = escrowed :=
    ConsensusOp.after_of_ok (apply_lockOp .escrowPrepaid (by decide))
  have hrun : EachStep (fun op L => ¬ op.ReusesCheckpoint L) hundredAtoms
      (fundedRun ++ [.sessionCheckpointCommit nextCommit none]) := by
    refine ⟨id, id, ?_, ?_, trivial⟩
    · rw [hlock, after_secondLock]
      rintro ⟨id, c, -, hc, -⟩
      cases hc
    · rw [hlock, after_secondLock, after_firstCommit]
      rintro ⟨id, c, hid, hc, -⟩
      obtain rfl : "checkpoint-2" = id := Option.some.inj hid
      cases hc
  have hend : runOps (genesis (Dict.empty.set "consumer" 100) none)
      (fundedRun ++ [.sessionCheckpointCommit nextCommit none]) = nextCommitted := by
    rw [runOps_append]
    show runOps (runOps hundredAtoms fundedRun) _ = nextCommitted
    rw [runOps_fundedRun]
    exact after_nextCommit
  have hchain := (checkpoint_chains_grow (Dict.empty.set "consumer" 100) none _ hrun).1 "session-1"
  rw [hend] at hchain
  exact ⟨hrun, hend, hchain, rfl⟩

end AidnSpec.Ledger
