import AidnSpec.Base.Runs
import AidnSpec.Bonds.Manager

/-!
# Conservation of validation bonds

What a bond has paid out against what it holds, the bond of an endpoint, and the end of a recovery.
A forfeit leaves the amount in the bond, and a call on a terminal bond moves the index of its
endpoint; without these two the books balance over every run.
-/

namespace AidnSpec.Bonds

open Base ValidationBond BondStore

/-! ## Books of one bond -/

namespace ValidationBond

/-- The amounts of the `REFUND` events. -/
def refundedTotal (b : ValidationBond) : Int :=
  ((b.events.filter (·.eventType == .refund)).map (-·.amountDelta)).sum

/-- What the bond has released or forfeited. -/
def paidTotal (b : ValidationBond) : Int := b.recoveredTotal + b.forfeitedTotal + b.refundedTotal

/-- The books of a bond balance. -/
structure Conserved (b : ValidationBond) : Prop where
  amounts : b.initialAmount = b.remainingAmount + b.paidTotal
  deltas : b.remainingAmount = (b.events.map (·.amountDelta)).sum
  nonneg : 0 ≤ b.remainingAmount

end ValidationBond

def recoveries (bondId : String) (rounds : List (Draws × Int)) : List (Draws × BondCall) :=
  rounds.map fun r => (r.1, .recover bondId r.2)

/-- What holds of the store. -/
structure Sound (sha256 : String → String) (s : BondStore) : Prop where
  conserved : ∀ id b, s.get id = some b → b.Conserved
  single : ∀ id id' b b', s.get id = some b → s.get id' = some b' → b.endpointId = b'.endpointId →
    b.isTerminal = false → b'.isTerminal = false → id = id'
  indexed : ∀ id b, s.get id = some b → b.isTerminal = false →
    s.getForEndpoint b.endpointId = some b
  recovers : ∀ id b k, s.get id = some b → b.isActive = true → b.remainingAmount ≤ 2 ^ k →
    ∀ rounds : List (Draws × Int), rounds.length = k + 1 →
      ∃ b', (run (callStep sha256) s (recoveries id rounds)).get id = some b' ∧
        b'.status = .recovered

/-- Terminal bonds stay terminal and pay nothing more. -/
def KeepsPaid (s s' : BondStore) : Prop :=
  ∀ id b, s.get id = some b → b.isTerminal = true →
    ∃ b', s'.get id = some b' ∧ b'.isTerminal = true ∧ b'.paidTotal = b.paidTotal

/-- The books balance after the call, and it pays nothing from a terminal bond. -/
def Balances (sha256 : String → String) (s : BondStore) (c : Draws × BondCall) : Prop :=
  Sound sha256 (callStep sha256 s c) ∧ KeepsPaid s (callStep sha256 s c)

/-- `uuid4` gives a lock an identifier that no bond has. -/
def DrawsFresh (sha256 : String → String) (s : BondStore) (c : Draws × BondCall) : Prop :=
  match c.2 with
  | .lock endpointId operatorWallet _ _ =>
    s.get (generateBondId sha256 endpointId operatorWallet (c.1.uuid 0)) = none
  | _ => True

/-- No bond of the endpoint is locked, active or recovering. -/
def AllTerminal (s : BondStore) (endpointId : String) : Prop :=
  ∀ id b, s.get id = some b → b.endpointId = endpointId → b.isTerminal = true

/-- A forfeit finds no amount in the bond, and neither a forfeit nor a refund reaches a bond whose
endpoint has a newer one in use. -/
def Proper (s : BondStore) (c : Draws × BondCall) : Prop :=
  match c.2 with
  | .forfeit bondId _ _ => ∀ b, s.get bondId = some b → b.status ≠ .forfeited →
      b.remainingAmount = 0 ∧ AllTerminal s b.endpointId
  | .refund bondId _ => ∀ b, s.get bondId = some b → b.isTerminal = true →
      AllTerminal s b.endpointId
  | _ => True

/-! ## The invariant -/

structure Books (s : BondStore) : Prop where
  keyed : ∀ id b, s.get id = some b → b.bondId = id
  conserved : ∀ id b, s.get id = some b → b.Conserved
  live : ∀ id b, s.get id = some b → b.isTerminal = false → 0 < b.remainingAmount
  settled : ∀ id b, s.get id = some b → b.isTerminal = true → b.remainingAmount = 0
  indexed : ∀ id b, s.get id = some b → b.isTerminal = false →
    s.byEndpoint.get? b.endpointId = some id

theorem books_empty : Books {} where
  keyed := by simp [BondStore.get]
  conserved := by simp [BondStore.get]
  live := by simp [BondStore.get]
  settled := by simp [BondStore.get]
  indexed := by simp [BondStore.get]

section

variable {sha256 : String → String} {s : BondStore}

variable {id endpointId wallet reason : String} {b b' bond : ValidationBond} {amount epoch n : Int}
  {draws : Draws} {answer : ValidationBond × BondStore} {c : Draws × BondCall} {k : ℕ}

/-- The bonds in use of an endpoint are one. -/
theorem Books.single (h : Books s) {id' : String} (hb : s.get id = some b)
    (hb' : s.get id' = some b') (hend : b.endpointId = b'.endpointId)
    (hlive : b.isTerminal = false) (hlive' : b'.isTerminal = false) : id = id' := by
  have hid := h.indexed id b hb hlive
  rw [hend, h.indexed id' b' hb' hlive'] at hid
  exact (Option.some.inj hid).symm

theorem Books.getForEndpoint (h : Books s) (hb : s.get id = some b) (hlive : b.isTerminal = false) :
    s.getForEndpoint b.endpointId = some b := by
  rw [BondStore.getForEndpoint, h.indexed id b hb hlive]
  exact hb

/-- A bond after saving one is that one or an earlier one. -/
theorem upsert_cases (h : (s.upsert bond).get id = some b) :
    id = bond.bondId ∧ b = bond ∨ id ≠ bond.bondId ∧ s.get id = some b := by
  rw [get_upsert] at h
  by_cases hid : id = bond.bondId
  · rw [if_pos hid, Option.some.injEq] at h
    exact .inl ⟨hid, h.symm⟩
  · rw [if_neg hid] at h
    exact .inr ⟨hid, h⟩

/-- Saving a bond whose own books balance, with no other bond of its endpoint in use. -/
theorem Books.upsert (h : Books s) (hconserved : bond.Conserved)
    (hlive : bond.isTerminal = false → 0 < bond.remainingAmount)
    (hsettled : bond.isTerminal = true → bond.remainingAmount = 0)
    (hothers : ∀ id b, s.get id = some b → b.isTerminal = false → b.endpointId = bond.endpointId →
      id = bond.bondId) :
    Books (s.upsert bond) where
  keyed := by
    intro id b hb
    rcases upsert_cases hb with ⟨rfl, rfl⟩ | ⟨-, hb⟩
    · rfl
    · exact h.keyed id b hb
  conserved := by
    intro id b hb
    rcases upsert_cases hb with ⟨rfl, rfl⟩ | ⟨-, hb⟩
    · exact hconserved
    · exact h.conserved id b hb
  live := by
    intro id b hb
    rcases upsert_cases hb with ⟨rfl, rfl⟩ | ⟨-, hb⟩
    · exact hlive
    · exact h.live id b hb
  settled := by
    intro id b hb
    rcases upsert_cases hb with ⟨rfl, rfl⟩ | ⟨-, hb⟩
    · exact hsettled
    · exact h.settled id b hb
  indexed := by
    intro id b hb hterminal
    rw [byEndpoint_upsert]
    rcases upsert_cases hb with ⟨rfl, rfl⟩ | ⟨hid, hb⟩
    · rw [if_pos rfl]
    · by_cases hend : b.endpointId = bond.endpointId
      · exact absurd (hothers id b hb hterminal hend) hid
      · rw [if_neg hend]
        exact h.indexed id b hb hterminal

/-- Only the saved bond can lose what `KeepsPaid` says. -/
theorem keepsPaid_upsert
    (h : ∀ b, s.get bond.bondId = some b → b.isTerminal = true → bond.isTerminal = true ∧
      bond.paidTotal = b.paidTotal) :
    KeepsPaid s (s.upsert bond) := by
  intro id b hb hterminal
  rw [get_upsert]
  by_cases hid : id = bond.bondId
  · subst hid
    rw [if_pos rfl]
    exact ⟨bond, rfl, h b hb hterminal⟩
  · rw [if_neg hid]
    exact ⟨b, hb, hterminal, rfl⟩

/-! ## The calls -/

theorem getBond_ok : s.getBond id = .ok b ↔ s.get id = some b := by
  unfold getBond
  split <;> simp_all

/-- The bond a lock creates. -/
structure Locked (bond : ValidationBond) (endpointId : String) (amount : Int) : Prop where
  endpoint : bond.endpointId = endpointId
  locked : bond.status = .locked
  atLeast : validationBondQAtoms ≤ amount
  initial : bond.initialAmount = amount
  remaining : bond.remainingAmount = amount
  event : ∃ e : BondEvent, bond.events = [e] ∧ e.eventType = .lock ∧ e.amountDelta = amount
  noRecoveries : bond.recoveryRecords = []
  noForfeits : bond.forfeitRecords = []

theorem Locked.conserved (h : Locked bond endpointId amount) : bond.Conserved := by
  obtain ⟨e, hevents, htype, hdelta⟩ := h.event
  have hamount := h.atLeast
  have hremaining := h.remaining
  constructor
  · simp [paidTotal, recoveredTotal, forfeitedTotal, refundedTotal, h.noRecoveries, h.noForfeits,
      hevents, htype, h.initial, hremaining]
  · simp [hevents, hdelta, hremaining]
  · unfold validationBondQAtoms at hamount
    omega

/-- What a successful lock does. -/
theorem lockBond_ok {amount : Option Int}
    (h : s.lockBond sha256 draws endpointId wallet amount epoch = .ok answer) :
    answer.2 = s.upsert answer.1 ∧
      answer.1.bondId = generateBondId sha256 endpointId wallet (draws.uuid 0) ∧
      Locked answer.1 endpointId (bondAmount amount) ∧
      (s.hasEndpointBond endpointId && (s.getForEndpoint endpointId).any (!·.isTerminal)) =
        false := by
  unfold lockBond at h
  by_cases hamount : bondAmount amount < validationBondQAtoms
  · simp [hamount] at h
  · by_cases hbusy : (s.hasEndpointBond endpointId &&
        (s.getForEndpoint endpointId).any (!·.isTerminal)) = true
    · simp [hamount, hbusy] at h
    · simp only [hamount, hbusy, if_false, Except.ok.injEq, Bool.false_eq_true] at h
      subst h
      refine ⟨rfl, rfl, ⟨rfl, rfl, not_lt.mp hamount, rfl, rfl, ⟨_, rfl, rfl, rfl⟩, rfl, rfl⟩, ?_⟩
      rwa [← Bool.not_eq_true]

/-- The changed bond is of the same endpoint, and its records have paid the amount. -/
structure Pays (b b' : ValidationBond) (amount : Int) : Prop where
  bondId : b'.bondId = b.bondId
  endpoint : b'.endpointId = b.endpointId
  initial : b'.initialAmount = b.initialAmount
  paid : b'.paidTotal = b.paidTotal + amount
  deltas : (b'.events.map (·.amountDelta)).sum = (b.events.map (·.amountDelta)).sum - amount

theorem Pays.conserved (h : Pays b b' amount) (hb : b.Conserved)
    (hremaining : b'.remainingAmount = b.remainingAmount - amount)
    (hnonneg : 0 ≤ b'.remainingAmount) : b'.Conserved where
  amounts := by
    have hamounts := hb.amounts
    have hinitial := h.initial
    have hpaid := h.paid
    omega
  deltas := by
    have hbefore := hb.deltas
    have hdeltas := h.deltas
    omega
  nonneg := hnonneg

/-- What a successful activation does. -/
theorem activateBond_ok (h : s.activateBond sha256 draws id epoch = .ok answer) :
    ∃ b, s.get id = some b ∧ b.status = .locked ∧ answer.1.status = .active ∧
      Pays b answer.1 0 ∧ answer.1.remainingAmount = b.remainingAmount ∧
      answer.2 = s.upsert answer.1 := by
  unfold activateBond activate at h
  cases hb : s.getBond id with
  | error e => simp [hb] at h
  | ok b =>
    rw [hb] at h
    by_cases hlocked : b.status = .locked
    · simp only [hlocked, ne_eq, not_true_eq_false, if_false, Except.ok.injEq] at h
      subst h
      refine ⟨b, getBond_ok.mp hb, hlocked, rfl, ⟨rfl, rfl, rfl, ?_, ?_⟩, rfl, rfl⟩
      · simp [paidTotal, recoveredTotal, forfeitedTotal, refundedTotal]
      · simp
    · simp [hlocked] at h

/-- What a successful recovery step does. -/
theorem recoverStep_ok (h : s.recoverStep sha256 draws id epoch = .ok answer) :
    ∃ b, s.get id = some b ∧ b.isActive = true ∧
      Pays b answer.1 (recoveryAmount b.remainingAmount) ∧
      answer.1.remainingAmount =
        b.remainingAmount - recoveryAmount b.remainingAmount ∧
      answer.1.status = (if answer.1.remainingAmount = 0 then .recovered else .recovering) ∧
      answer.2 = s.upsert answer.1 := by
  unfold recoverStep at h
  cases hb : s.getBond id with
  | error e => simp [hb] at h
  | ok b =>
    by_cases hidle : b.status ≠ .active ∧ b.status ≠ .recovering
    · simp [hb, hidle] at h
    · by_cases hempty : b.remainingAmount = 0
      · simp [hb, hidle, hempty] at h
      · have hstarted : (if b.status = .active then b.startRecovery else .ok b) =
            .ok { b with status := .recovering } := by
          by_cases hstatus : b.status = .active
          · simp [hstatus, startRecovery]
          · have hrecovering : b.status = .recovering := by tauto
            rw [if_neg hstatus, ← hrecovering]
        simp only [hb, hidle, hempty, if_false, hstarted, Except.ok.injEq] at h
        subst h
        refine ⟨b, getBond_ok.mp hb, ?_, ⟨rfl, rfl, rfl, ?_, ?_⟩, rfl, rfl, rfl⟩
        · simp only [isActive, Bool.or_eq_true, beq_iff_eq]
          tauto
        · simp [recovered, paidTotal, recoveredTotal, forfeitedTotal, refundedTotal]
          omega
        · simp [recovered]
          omega

/-- What a successful forfeit does. -/
theorem forfeitBond_ok (h : s.forfeitBond sha256 draws id reason epoch = .ok answer) :
    ∃ b, s.get id = some b ∧ b.status ≠ .forfeited ∧ answer.1.isTerminal = true ∧
      Pays b answer.1 b.remainingAmount ∧ answer.1.remainingAmount = b.remainingAmount ∧
      answer.2 = s.upsert answer.1 := by
  unfold forfeitBond at h
  cases hb : s.getBond id with
  | error e => simp [hb] at h
  | ok b =>
    by_cases hstatus : b.status = .forfeited
    · simp [hb, hstatus] at h
    · simp only [hb, hstatus, if_false, Except.ok.injEq] at h
      subst h
      refine ⟨b, getBond_ok.mp hb, hstatus, rfl, ⟨rfl, rfl, rfl, ?_, ?_⟩, rfl, rfl⟩
      · simp [paidTotal, recoveredTotal, forfeitedTotal, refundedTotal]
        omega
      · simp
        omega

/-- What a successful refund does. -/
theorem refundBond_ok (h : s.refundBond sha256 draws id epoch = .ok answer) :
    ∃ b, s.get id = some b ∧ b.isTerminal = true ∧ answer.1.status = b.status ∧
      Pays b answer.1 b.remainingAmount ∧ answer.1.remainingAmount = b.remainingAmount ∧
      answer.2 = s.upsert answer.1 := by
  unfold refundBond at h
  cases hb : s.getBond id with
  | error e => simp [hb] at h
  | ok b =>
    rw [hb] at h
    by_cases hterminal : b.isTerminal = true
    · simp only [hterminal, Bool.not_true, Bool.false_eq_true, if_false, Except.ok.injEq] at h
      subst h
      refine ⟨b, getBond_ok.mp hb, hterminal, rfl, ⟨rfl, rfl, rfl, ?_, ?_⟩, rfl, rfl⟩
      · simp [paidTotal, recoveredTotal, forfeitedTotal, refundedTotal]
        omega
      · simp
        omega
    · simp [hterminal] at h

/-! ## The books after a call -/

variable {draws : Draws}

theorem isTerminal_of_active (h : b.isActive = true) : b.isTerminal = false := by
  unfold isActive at h
  unfold isTerminal
  cases hstatus : b.status <;> simp_all

/-- A change of the bond in use of an endpoint. -/
theorem Books.changed (h : Books s) (hb : s.get id = some b) (hactive : b.isTerminal = false)
    (hpays : Pays b bond amount) (hremaining : bond.remainingAmount = b.remainingAmount - amount)
    (hnonneg : 0 ≤ bond.remainingAmount)
    (hstatus : bond.isTerminal = true ↔ bond.remainingAmount = 0) :
    Books (s.upsert bond) ∧ KeepsPaid s (s.upsert bond) := by
  have hid : bond.bondId = id := hpays.bondId.trans (h.keyed id b hb)
  constructor
  · apply h.upsert (hpays.conserved (h.conserved id b hb) hremaining hnonneg)
    · intro hlive
      have hne : bond.remainingAmount ≠ 0 := by
        intro hzero
        rw [hstatus.mpr hzero] at hlive
        cases hlive
      omega
    · exact hstatus.mp
    · intro other b' hb' hlive' hend
      rw [hid]
      exact h.single hb' hb (hend.trans hpays.endpoint) hlive' hactive
  · apply keepsPaid_upsert
    intro b' hb' hterminal
    rw [hid, hb, Option.some.injEq] at hb'
    subst hb'
    rw [hactive] at hterminal
    cases hterminal

/-- A change of a bond that holds nothing, when no bond of its endpoint is in use. -/
theorem Books.closed (h : Books s) (hb : s.get id = some b)
    (hpays : Pays b bond b.remainingAmount) (hterminal : bond.isTerminal = true)
    (hremaining : bond.remainingAmount = b.remainingAmount) (hzero : b.remainingAmount = 0)
    (hothers : AllTerminal s b.endpointId) :
    Books (s.upsert bond) ∧ KeepsPaid s (s.upsert bond) := by
  have hid : bond.bondId = id := hpays.bondId.trans (h.keyed id b hb)
  constructor
  · apply h.upsert (hpays.conserved (h.conserved id b hb) (by omega) (by omega))
    · intro hlive
      rw [hterminal] at hlive
      cases hlive
    · intro _
      omega
    · intro other b' hb' hlive hend
      rw [hothers other b' hb' (hend.trans hpays.endpoint)] at hlive
      cases hlive
  · apply keepsPaid_upsert
    intro b' hb' _
    rw [hid, hb, Option.some.injEq] at hb'
    subst hb'
    have hpaid := hpays.paid
    exact ⟨hterminal, by omega⟩

theorem books_lock (h : Books s) {amount : Option Int}
    (hfresh : s.get (generateBondId sha256 endpointId wallet (draws.uuid 0)) = none)
    (hok : s.lockBond sha256 draws endpointId wallet amount epoch = .ok answer) :
    Books answer.2 ∧ KeepsPaid s answer.2 := by
  obtain ⟨hs, hid, hlocked, hbusy⟩ := lockBond_ok hok
  rw [hs]
  have hamount := hlocked.atLeast
  have hremaining := hlocked.remaining
  unfold validationBondQAtoms at hamount
  have hlive : answer.1.isTerminal = false := by
    simp [isTerminal, hlocked.locked]
  constructor
  · apply h.upsert hlocked.conserved
    · intro _
      omega
    · intro hterminal
      rw [hlive] at hterminal
      cases hterminal
    · -- The index would have shown a bond in use.
      intro id b hb hlive hend
      rw [hlocked.endpoint] at hend
      have hindex := h.indexed id b hb hlive
      have hfound := h.getForEndpoint hb hlive
      rw [hend] at hindex hfound
      simp [hasEndpointBond, Dict.contains, hindex, hfound, hlive] at hbusy
  · apply keepsPaid_upsert
    intro b hb
    rw [hid, hfresh] at hb
    cases hb

theorem books_activate (h : Books s) (hok : s.activateBond sha256 draws id epoch = .ok answer) :
    Books answer.2 ∧ KeepsPaid s answer.2 := by
  obtain ⟨b, hb, hlocked, hactive, hpays, hremaining, hs⟩ := activateBond_ok hok
  rw [hs]
  have hlive : b.isTerminal = false := by simp [isTerminal, hlocked]
  have hpositive := h.live id b hb hlive
  have hlive' : answer.1.isTerminal = false := by simp [isTerminal, hactive]
  apply h.changed hb hlive hpays
  · omega
  · omega
  · rw [hlive']
    simp only [Bool.false_eq_true, false_iff]
    omega

theorem recoveryAmount_bounds (h : 0 < n) :
    0 < recoveryAmount n ∧ recoveryAmount n ≤ n := by
  unfold recoveryAmount
  split_ifs <;> omega

theorem books_recover (h : Books s) (hok : s.recoverStep sha256 draws id epoch = .ok answer) :
    Books answer.2 ∧ KeepsPaid s answer.2 := by
  obtain ⟨b, hb, hactive, hpays, hremaining, hstatus, hs⟩ := recoverStep_ok hok
  rw [hs]
  have hlive := isTerminal_of_active hactive
  have hbounds := recoveryAmount_bounds (h.live id b hb hlive)
  apply h.changed hb hlive hpays hremaining
  · omega
  · unfold isTerminal
    rw [hstatus]
    by_cases hzero : answer.1.remainingAmount = 0 <;> simp [hzero]

theorem books_forfeit (h : Books s) (hproper : Proper s (draws, .forfeit id reason epoch))
    (hok : s.forfeitBond sha256 draws id reason epoch = .ok answer) :
    Books answer.2 ∧ KeepsPaid s answer.2 := by
  obtain ⟨b, hb, hstatus, hterminal, hpays, hremaining, hs⟩ := forfeitBond_ok hok
  rw [hs]
  have hempty := hproper b hb hstatus
  exact h.closed hb hpays hterminal hremaining hempty.1 hempty.2

theorem books_refund (h : Books s) (hproper : Proper s (draws, .refund id epoch))
    (hok : s.refundBond sha256 draws id epoch = .ok answer) :
    Books answer.2 ∧ KeepsPaid s answer.2 := by
  obtain ⟨b, hb, hterminal, hstatus, hpays, hremaining, hs⟩ := refundBond_ok hok
  rw [hs]
  apply h.closed hb hpays _ hremaining (h.settled id b hb hterminal) (hproper b hb hterminal)
  rw [isTerminal, hstatus]
  exact hterminal

theorem keepsPaid_refl : KeepsPaid s s := fun _ b hb hterminal => ⟨b, hb, hterminal, rfl⟩

/-- Every proper call keeps the books. -/
theorem books_step (h : Books s) (hfresh : DrawsFresh sha256 s c) (hproper : Proper s c) :
    Books (callStep sha256 s c) ∧ KeepsPaid s (callStep sha256 s c) := by
  obtain ⟨draws, call⟩ := c
  unfold callStep
  cases hanswer : call.answer sha256 s draws with
  | error e => exact ⟨h, keepsPaid_refl⟩
  | ok answer =>
    cases call with
    | lock endpointId wallet amount epoch => exact books_lock h hfresh hanswer
    | activate id epoch => exact books_activate h hanswer
    | recover id epoch => exact books_recover h hanswer
    | forfeit id reason epoch => exact books_forfeit h hproper hanswer
    | refund id epoch => exact books_refund h hproper hanswer

/-! ## The end of a recovery -/

theorem remaining_halves (h : n ≤ 2 ^ (k + 1)) : n - recoveryAmount n ≤ 2 ^ k := by
  rw [pow_succ] at h
  have hpow : (0 : Int) < 2 ^ k := Int.pow_pos (by decide)
  unfold recoveryAmount
  split_ifs <;> omega

/-- A recovery step of a bond in use succeeds. -/
theorem recoverStep_active (h : Books s) (hb : s.get id = some b) (hactive : b.isActive = true)
    (epoch : Int) : ∃ answer, s.recoverStep sha256 draws id epoch = .ok answer := by
  have hpositive := h.live id b hb (isTerminal_of_active hactive)
  have hempty : b.remainingAmount ≠ 0 := by omega
  have hidle : ¬ (b.status ≠ .active ∧ b.status ≠ .recovering) := by
    simp only [isActive, Bool.or_eq_true, beq_iff_eq] at hactive
    tauto
  have hstarted : ∃ started, (if b.status = .active then b.startRecovery else .ok b) =
      .ok started := by
    by_cases hstatus : b.status = .active
    · simp [hstatus, startRecovery]
    · simp [hstatus]
  obtain ⟨started, hstarted⟩ := hstarted
  unfold recoverStep
  simp only [getBond_ok.mpr hb, hidle, hempty, if_false, hstarted]
  exact ⟨_, rfl⟩

/-- A bond that is recovered stays so under further steps. -/
theorem recovered_stays (hb : s.get id = some b) (hrecovered : b.status = .recovered)
    (rounds : List (Draws × Int)) :
    (run (callStep sha256) s (recoveries id rounds)).get id = some b := by
  induction rounds with
  | nil => exact hb
  | cons round rounds ih =>
    have hraises : callStep sha256 s (round.1, .recover id round.2) = s := by
      simp [callStep, BondCall.answer, recoverStep, getBond_ok.mpr hb, hrecovered]
    rw [recoveries, List.map_cons, run_cons, hraises]
    exact ih

/-- What a recovery step leaves of a bond in use. -/
theorem callStep_recover (h : Books s) (hb : s.get id = some b) (hactive : b.isActive = true)
    (round : Draws × Int) :
    ∃ b', (callStep sha256 s (round.1, .recover id round.2)).get id = some b' ∧
      b'.remainingAmount = b.remainingAmount - recoveryAmount b.remainingAmount ∧
      b'.status = (if b'.remainingAmount = 0 then .recovered else .recovering) ∧
      Books (callStep sha256 s (round.1, .recover id round.2)) := by
  obtain ⟨answer, hok⟩ := @recoverStep_active sha256 _ _ _ round.1 h hb hactive round.2
  obtain ⟨b₀, hb₀, -, hpays, hremaining, hstatus, hs⟩ := recoverStep_ok hok
  rw [hb, Option.some.injEq] at hb₀
  subst hb₀
  have hbooks := (books_recover h hok).1
  have hstep : callStep sha256 s (round.1, .recover id round.2) = answer.2 := by
    simp only [callStep, BondCall.answer, hok]
  rw [hstep]
  refine ⟨answer.1, ?_, hremaining, hstatus, hbooks⟩
  rw [hs, get_upsert, hpays.bondId, h.keyed id b hb, if_pos rfl]

/-- A bond that holds at most `2 ^ k` is recovered after `k + 1` steps. -/
theorem recovers_of_le (h : Books s) (hb : s.get id = some b) (hactive : b.isActive = true)
    (hle : b.remainingAmount ≤ 2 ^ k) {rounds : List (Draws × Int)}
    (hlength : rounds.length = k + 1) :
    ∃ b', (run (callStep sha256) s (recoveries id rounds)).get id = some b' ∧
      b'.status = .recovered := by
  induction k generalizing s b rounds with
  | zero =>
    obtain ⟨round, rfl⟩ := List.length_eq_one_iff.mp hlength
    obtain ⟨b', hb', hremaining, hstatus, -⟩ := @callStep_recover sha256 _ _ _ h hb hactive
      round
    have hpositive := h.live id b hb (isTerminal_of_active hactive)
    have hone : b.remainingAmount = 1 := by
      rw [pow_zero] at hle
      omega
    have hzero : b'.remainingAmount = 0 := by simp [hremaining, hone, recoveryAmount]
    rw [if_pos hzero] at hstatus
    exact ⟨b', hb', hstatus⟩
  | succ k ih =>
    obtain - | ⟨round, rounds⟩ := rounds
    · cases hlength
    · obtain ⟨b', hb', hremaining, hstatus, hbooks⟩ := @callStep_recover sha256 _ _ _ h hb
        hactive round
      rw [recoveries, List.map_cons, run_cons]
      by_cases hzero : b'.remainingAmount = 0
      · rw [if_pos hzero] at hstatus
        exact ⟨b', recovered_stays hb' hstatus rounds, hstatus⟩
      · rw [if_neg hzero] at hstatus
        apply ih hbooks hb' (by simp [isActive, hstatus])
        · rw [hremaining]
          apply remaining_halves hle
        · simpa using hlength

/-- Balanced books give what the store promises. -/
theorem Books.sound (h : Books s) : Sound sha256 s where
  conserved := h.conserved
  single := fun _ _ _ _ hb hb' hend hlive hlive' => h.single hb hb' hend hlive hlive'
  indexed := fun _ _ hb hlive => h.getForEndpoint hb hlive
  recovers := fun _ _ _ hb hactive hle _ hlength => recovers_of_le h hb hactive hle hlength

/-! ## The condition -/

/-- Saving a bond over one that another bond in use should own hides the latter. -/
theorem allTerminal_of_indexed (hterminal : bond.isTerminal = true)
    (h : ∀ id b, (s.upsert bond).get id = some b → b.isTerminal = false →
      (s.upsert bond).getForEndpoint b.endpointId = some b)
    (hown : ∀ b, s.get bond.bondId = some b → b.isTerminal = true) :
    AllTerminal s bond.endpointId := by
  intro id b hb hend
  by_contra hlive
  rw [Bool.not_eq_true] at hlive
  have hid : id ≠ bond.bondId := by
    rintro rfl
    rw [hown b hb] at hlive
    cases hlive
  have hfound := h id b (by rw [get_upsert, if_neg hid, hb]) hlive
  have hindex : (s.upsert bond).byEndpoint.get? b.endpointId = some bond.bondId := by
    rw [byEndpoint_upsert, if_pos hend]
  have hget : (s.upsert bond).bonds.get? bond.bondId = some bond := by
    have hself := get_upsert s bond bond.bondId
    rwa [if_pos rfl] at hself
  simp only [BondStore.getForEndpoint, hindex, hget, Option.some.injEq] at hfound
  rw [← hfound, hterminal] at hlive
  cases hlive

/-- A call after which the books balance was proper. -/
theorem proper_of_balances (h : Books s) (hbalances : Balances sha256 s c) : Proper s c := by
  obtain ⟨draws, call⟩ := c
  have hsound := hbalances.1
  cases call with
  | lock | activate | recover => trivial
  | forfeit id reason epoch =>
    intro b hb hstatus
    have hok : ∃ answer, s.forfeitBond sha256 draws id reason epoch = .ok answer := by
      simp [forfeitBond, getBond_ok.mpr hb, hstatus]
    obtain ⟨answer, hok⟩ := hok
    obtain ⟨b₀, hb₀, -, hterminal, hpays, hremaining, hs⟩ := forfeitBond_ok hok
    rw [hb, Option.some.injEq] at hb₀
    subst hb₀
    have hid : answer.1.bondId = id := hpays.bondId.trans (h.keyed id b hb)
    have hstep : callStep sha256 s (draws, .forfeit id reason epoch) = s.upsert answer.1 := by
      simp only [callStep, BondCall.answer, hok, hs]
    rw [hstep] at hsound
    have hafter := hsound.conserved answer.1.bondId answer.1 (by rw [get_upsert, if_pos rfl])
    have hzero : b.remainingAmount = 0 := by
      have hamounts := hafter.amounts
      have hbefore := (h.conserved id b hb).amounts
      have hinitial := hpays.initial
      have hpaid := hpays.paid
      omega
    refine ⟨hzero, ?_⟩
    rw [← hpays.endpoint]
    apply allTerminal_of_indexed hterminal hsound.indexed
    intro b' hb'
    rw [hid, hb, Option.some.injEq] at hb'
    subst hb'
    by_contra hlive
    have hpositive := h.live id b hb (by simpa using hlive)
    omega
  | refund id epoch =>
    intro b hb hterminal
    have hok : ∃ answer, s.refundBond sha256 draws id epoch = .ok answer := by
      simp [refundBond, getBond_ok.mpr hb, hterminal]
    obtain ⟨answer, hok⟩ := hok
    obtain ⟨b₀, hb₀, -, hstatus, hpays, hremaining, hs⟩ := refundBond_ok hok
    rw [hb, Option.some.injEq] at hb₀
    subst hb₀
    have hid : answer.1.bondId = id := hpays.bondId.trans (h.keyed id b hb)
    have hstep : callStep sha256 s (draws, .refund id epoch) = s.upsert answer.1 := by
      simp only [callStep, BondCall.answer, hok, hs]
    rw [hstep] at hsound
    rw [← hpays.endpoint]
    apply allTerminal_of_indexed _ hsound.indexed
    · intro b' hb'
      rw [hid, hb, Option.some.injEq] at hb'
      subst hb'
      exact hterminal
    · rw [isTerminal, hstatus]
      exact hterminal

/-- Over every run the books of all bonds balance after every call if and only if no forfeit finds
an amount in its bond and no forfeit or refund reaches a bond behind a newer one in use. -/
theorem books_balance_iff {calls : List (Draws × BondCall)}
    (hfresh : Careful (callStep sha256) (DrawsFresh sha256) {} calls) :
    Careful (callStep sha256) (Balances sha256) {} calls ↔
      Careful (callStep sha256) Proper {} calls := by
  constructor
  · intro hbalances
    apply careful_of_keeps _ books_empty (careful_and.mpr ⟨hfresh, hbalances⟩)
    intro s c h hc
    have hproper := proper_of_balances h hc.2
    exact ⟨(books_step h hc.1 hproper).1, hproper⟩
  · intro hproper
    apply careful_of_keeps _ books_empty (careful_and.mpr ⟨hfresh, hproper⟩)
    intro s c h hc
    have hstep := books_step h hc.1 hc.2
    exact ⟨hstep.1, hstep.1.sound, hstep.2⟩

/-- The amounts of a bond add up. -/
theorem Sound.adds (h : Sound sha256 s) (id : String) :
    (s.get id).all (fun b => b.initialAmount = b.remainingAmount + b.paidTotal) = true := by
  cases hb : s.get id with
  | none => rfl
  | some b => simpa [hb] using (h.conserved id b hb).amounts

/-- A bond in use is the one of its endpoint. -/
theorem Sound.shown (h : Sound sha256 s) (id : String) :
    (s.get id).all (fun b => b.isTerminal || s.getForEndpoint b.endpointId = some b) = true := by
  cases hb : s.get id with
  | none => rfl
  | some b =>
    cases hterminal : b.isTerminal with
    | true => simp [hterminal]
    | false => simp [h.indexed id b hb hterminal]

end

/-! ## Samples -/

def sampleDraws (uuid : String) : Draws := ⟨fun _ => "2026-01-01T00:00:00+00:00", fun _ => uuid⟩

/-- A lock, an activation and a number of recovery steps; the digest is the text itself. -/
def sampleCalls (uuid : String) (steps : ℕ) : List (Draws × BondCall) :=
  [(sampleDraws uuid, .lock "e" "w" none 0), (sampleDraws uuid, .activate s!"bond:e:w:{uuid}" 0)] ++
    recoveries s!"bond:e:w:{uuid}" (List.replicate steps (sampleDraws uuid, 0))

theorem books_balance_sample : Careful (callStep id) (Balances id) {} (sampleCalls "1" 2) := by
  have hfresh : Careful (callStep id) (DrawsFresh id) {} (sampleCalls "1" 2) :=
    ⟨rfl, trivial, trivial, trivial, trivial⟩
  have hproper : Careful (callStep id) Proper {} (sampleCalls "1" 2) :=
    ⟨trivial, trivial, trivial, trivial, trivial⟩
  exact (books_balance_iff hfresh).mpr hproper

/-- A forfeit of a bond in use leaves its amount in it, and a refund of a recovered bond hides the
bond that its endpoint has locked since. -/
theorem books_unbalanced :
    ¬ Careful (callStep id) (Balances id) {}
        (sampleCalls "1" 0 ++ [(sampleDraws "2", .forfeit "bond:e:w:1" "validation_failure" 0)]) ∧
      ¬ Careful (callStep id) (Balances id) {}
        (sampleCalls "1" 30 ++ [(sampleDraws "2", .lock "e" "w" none 0),
          (sampleDraws "3", .refund "bond:e:w:1" 0)]) := by
  constructor
  · intro h
    have hsound := (careful_append.mp h).2.1.1
    exact absurd (hsound.adds "bond:e:w:1") (by decide +kernel)
  · intro h
    have hsound := (careful_append.mp h).2.2.1.1
    exact absurd (hsound.shown "bond:e:w:2") (by decide +kernel)

end AidnSpec.Bonds
