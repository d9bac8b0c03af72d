import AidnSpec.Consensus.BlockLedger
import AidnSpec.Ledger.Supply

/-!
# The clock of the admission validator

The default `AdmissionValidator` keeps the wall-clock time at which it was constructed
(`consensus/abci.py:145`), and a block is executed under that clock. Two instances that were
constructed at different times execute a block alike exactly as far as their clocks judge the expiry
texts of its envelopes alike.
-/

namespace AidnSpec.Consensus

open Base Ledger

/-- The configuration of an instance whose validator was constructed at the given time. -/
def ApplicationConfig.constructedAt (config : ApplicationConfig) (time : String) :
    ApplicationConfig :=
  { config with admission := { config.admission with currentTime := time } }

/-- What the other validators see of a block: the codes of its transactions, the validator
updates and the application hash, or the exception that ended it. -/
inductive Visible where
  | finalized (code : ResultCode) (codes : List ResultCode) (updates : List ValidatorUpdate)
      (appHash : Bytes)
  | activationFailed (error : PyError)
  | raised (error : PyError)

def visible : Except PyError BlockOutcome → Visible
  | .ok (.finalized result results app) =>
    .finalized result.code (results.map (·.code)) result.validatorUpdates app.appHash
  | .ok (.activationFailed _ e) => .activationFailed e
  | .error e => .raised e

section Clock

variable [Runtime]

/-- Two clocks judge an expiry alike: expired or unreadable for both, or for neither, or the
same exception. -/
def JudgedAlike (t₁ t₂ : String) (expiry : Option String) : Prop :=
  ∀ env : Envelope, env.expiresAt = expiry →
    (expiryComplaint t₁ env).map Option.isSome = (expiryComplaint t₂ env).map Option.isSome

variable {config : ApplicationConfig} {app : Application} {t₁ t₂ : String}

/-- Clocks that judge the expiry of an envelope alike admit it alike. -/
theorem validate_constructedAt {s : AdmissionState} {env : Envelope}
    (alike : JudgedAlike t₁ t₂ env.expiresAt) :
    (s.validate (config.constructedAt t₁).admission env).map Option.isSome =
      (s.validate (config.constructedAt t₂).admission env).map Option.isSome := by
  have hexpiry := alike env rfl
  have hlimited : ∀ (x : Except PyError (Option String)) (limits : Option String),
      (do return (← x).or limits : Except PyError (Option String)).map Option.isSome =
        (x.map Option.isSome).map (· || limits.isSome) := by
    intro x limits
    cases x with
    | error e => rfl
    | ok complaint => exact congrArg Except.ok Option.isSome_or
  unfold AdmissionState.validate
  split_ifs
  · rfl
  · rfl
  · rw [hlimited, hlimited]
    exact congrArg (Except.map (· || _)) hexpiry

variable [LedgerRules]

/-- Two results of one transaction that differ in their texts at most. -/
def AlikeOne : Except PyError (ABCIResult × Application) →
    Except PyError (ABCIResult × Application) → Prop
  | .ok (r₁, app₁), .ok (r₂, app₂) => r₁.code = r₂.code ∧ app₁ = app₂
  | .error e₁, .error e₂ => e₁ = e₂
  | _, _ => False

omit [Runtime] [LedgerRules] in
theorem AlikeOne.refl (x : Except PyError (ABCIResult × Application)) : AlikeOne x x := by
  cases x with
  | error e => exact rfl
  | ok pair => exact ⟨rfl, rfl⟩

/-- One transaction under two clocks. -/
theorem executeOne_constructedAt {block : BlockContext} {tx : Transaction}
    (alike : ∀ env, tx = .ok env → JudgedAlike t₁ t₂ env.expiresAt) :
    AlikeOne (executeOne (config.constructedAt t₁) block app tx)
      (executeOne (config.constructedAt t₂) block app tx) := by
  cases tx with
  | error complaint => exact ⟨rfl, rfl⟩
  | ok env =>
    have hadmitted : (app.admission.validate (config.constructedAt t₁).admission env).map
        Option.isSome = (app.admission.validate (config.constructedAt t₂).admission env).map
        Option.isSome := validate_constructedAt (alike env rfl)
    simp only [executeOne]
    cases h₁ : app.admission.validate (config.constructedAt t₁).admission env with
    | error e₁ =>
      cases h₂ : app.admission.validate (config.constructedAt t₂).admission env with
      | error e₂ =>
        rw [h₁, h₂] at hadmitted
        exact Except.error.inj hadmitted
      | ok reason₂ =>
        rw [h₁, h₂] at hadmitted
        cases hadmitted
    | ok reason₁ =>
      cases h₂ : app.admission.validate (config.constructedAt t₂).admission env with
      | error e₂ =>
        rw [h₁, h₂] at hadmitted
        cases hadmitted
      | ok reason₂ =>
        rw [h₁, h₂] at hadmitted
        have hsame : reason₁.isSome = reason₂.isSome := Except.ok.inj hadmitted
        cases reason₁ with
        | some reason₁ =>
          obtain ⟨reason₂, rfl⟩ := Option.isSome_iff_exists.mp hsame.symm
          exact ⟨rfl, rfl⟩
        | none =>
          obtain rfl := Option.isNone_iff_eq_none.mp (Option.isSome_eq_false_iff.mp hsame.symm)
          -- behind the admission nothing reads the clock
          exact AlikeOne.refl _

/-- All transactions of a block under two clocks: the codes and the application agree. -/
theorem executeAll_constructedAt {block : BlockContext} {txs : List Transaction}
    (alike : ∀ env, .ok env ∈ txs → JudgedAlike t₁ t₂ env.expiresAt) :
    (∃ e, executeAll (config.constructedAt t₁) block app txs = .error e ∧
        executeAll (config.constructedAt t₂) block app txs = .error e) ∨
      ∃ r₁ r₂ app', executeAll (config.constructedAt t₁) block app txs = .ok (r₁, app') ∧
        executeAll (config.constructedAt t₂) block app txs = .ok (r₂, app') ∧
        r₁.map (·.code) = r₂.map (·.code) := by
  induction txs generalizing app with
  | nil => exact .inr ⟨[], [], app, rfl, rfl, rfl⟩
  | cons tx txs ih =>
    have hone : AlikeOne (executeOne (config.constructedAt t₁) block app tx)
        (executeOne (config.constructedAt t₂) block app tx) :=
      executeOne_constructedAt fun env h => alike env (h ▸ List.mem_cons_self)
    unfold executeAll
    cases h₁ : executeOne (config.constructedAt t₁) block app tx with
    | error e =>
      cases h₂ : executeOne (config.constructedAt t₂) block app tx with
      | error e' =>
        rw [h₁, h₂] at hone
        cases hone
        exact .inl ⟨e, rfl, rfl⟩
      | ok pair =>
        rw [h₁, h₂] at hone
        cases hone
    | ok pair₁ =>
      cases h₂ : executeOne (config.constructedAt t₂) block app tx with
      | error e =>
        rw [h₁, h₂] at hone
        cases hone
      | ok pair₂ =>
        obtain ⟨r₁, app₁⟩ := pair₁
        obtain ⟨r₂, app₂⟩ := pair₂
        rw [h₁, h₂] at hone
        obtain ⟨hcode, rfl⟩ := hone
        have hrest := @ih app₁ fun env h => alike env (List.mem_cons_of_mem _ h)
        rcases hrest with ⟨e, he₁, he₂⟩ | ⟨rs₁, rs₂, app', hr₁, hr₂, hcodes⟩
        · simp only [bind, Except.bind, he₁, he₂]
          exact .inl ⟨e, rfl, rfl⟩
        · simp only [bind, Except.bind, hr₁, hr₂]
          refine .inr ⟨r₁ :: rs₁, r₂ :: rs₂, app', rfl, rfl, ?_⟩
          rw [List.map_cons, List.map_cons, hcode, hcodes]

end Clock

/-- Transactions with the same codes open the same epochs. -/
theorem openedEpochs_congr {txs : List Transaction} {r₁ r₂ : List ABCIResult}
    (codes : r₁.map (·.code) = r₂.map (·.code)) : openedEpochs txs r₁ = openedEpochs txs r₂ := by
  induction txs generalizing r₁ r₂ with
  | nil => cases r₁ <;> cases r₂ <;> rfl
  | cons tx txs ih =>
    cases r₁ with
    | nil =>
      cases r₂ with
      | nil => rfl
      | cons b r₂ => cases codes
    | cons a r₁ =>
      cases r₂ with
      | nil => cases codes
      | cons b r₂ =>
        rw [List.map_cons, List.map_cons, List.cons.injEq] at codes
        obtain ⟨hcode, hcodes⟩ := codes
        cases tx with
        | error complaint => exact ih hcodes
        | ok env =>
          simp only [openedEpochs, hcode, ih hcodes]

section Clock

variable [Runtime] [LedgerRules]

/-- A block under two clocks that judge its expiry texts alike. -/
theorem visible_constructedAt {config : ApplicationConfig} {app : Application} {block : Block}
    {t₁ t₂ : String} (alike : ∀ env, .ok env ∈ block.txs → JudgedAlike t₁ t₂ env.expiresAt) :
    visible (finalizeBlock (config.constructedAt t₁) app block) =
      visible (finalizeBlock (config.constructedAt t₂) app block) := by
  unfold finalizeBlock
  dsimp only
  have hall := @executeAll_constructedAt _ config app _ _ _ (blockContext app block.txs) _ alike
  rcases hall with ⟨e, h₁, h₂⟩ | ⟨r₁, r₂, app', h₁, h₂, hcodes⟩
  · rw [h₁, h₂]
  · rw [h₁, h₂]
    simp only [bind, Except.bind, openedEpochs_congr hcodes]
    cases activateEpochs (blockContext app block.txs).finalizedIds app'.ledger
      (openedEpochs block.txs r₂) with
    | ok pair =>
      simp only [pure, Except.pure, visible, hcodes]
      rfl
    | error e => rfl

/-! ## Expiries that two clocks judge differently -/

/-- An envelope that a fresh application only records. -/
def note (expiry : Option String) : Envelope :=
  let draft : Envelope :=
    { operationType := "REGISTRY_UPSERT", originType := .protocol,
      createdAt := "2026-01-01T00:00:00Z", expiresAt := expiry, operationId := "" }
  { draft with operationId := draft.computeOperationId }

omit [Runtime] [LedgerRules] in
theorem isBlank_note (expiry : Option String) : isBlank (note expiry).operationId = false :=
  isBlank_jsonDigest _

omit [Runtime] [LedgerRules] in
/-- A note can be recorded on an empty ledger. -/
theorem admits_note (expiry : Option String) : Admits (genesis .empty none) (note expiry) none where
  fresh := rfl
  sequence := rfl
  declared := by
    have hne := ne_empty_of_isBlank (isBlank_note expiry)
    have hrest : ["REGISTRY_UPSERT", "1.0.0", "0.1", "2026-01-01T00:00:00Z"].any (·.isEmpty) =
        false := rfl
    show ((note expiry).operationId.isEmpty ||
      ["REGISTRY_UPSERT", "1.0.0", "0.1", "2026-01-01T00:00:00Z"].any (·.isEmpty)) = false
    rw [hrest, Bool.or_false]
    simpa using hne
  named := isBlank_note expiry
  typed := by
    show isBlank "REGISTRY_UPSERT" = false
    decide
  counted := Nat.le_refl 1
  unused := rfl

def noteBlock (expiry : Option String) : Block := zeroBlock 0 [.ok (note expiry)]

omit [LedgerRules] in
/-- The clock alone decides about the note. -/
theorem validate_note (time : String) (expiry : Option String) :
    freshApplication.admission.validate (defaultConfig.constructedAt time).admission (note expiry) =
      expiryComplaint time (note expiry) := by
  show (do return (← expiryComplaint time (note expiry)).or none : Except PyError _) = _
  cases expiryComplaint time (note expiry) with
  | error e => rfl
  | ok complaint => exact congrArg Except.ok Option.or_none

/-- What is visible of the note, by the judgement of the clock. -/
def noteVisible (appHash : Bytes) : Except PyError Bool → Visible
  | .ok expired => .finalized .ok [if expired then .rejected else .ok] [] appHash
  | .error e => .raised e

omit [Runtime] [LedgerRules] in
theorem noteVisible_inj {hash₁ hash₂ : Bytes} {j₁ j₂ : Except PyError Bool}
    (h : noteVisible hash₁ j₁ = noteVisible hash₂ j₂) : j₁ = j₂ := by
  cases j₁ with
  | error e₁ =>
    cases j₂ with
    | error e₂ => exact congrArg Except.error (Visible.raised.inj h)
    | ok expired₂ => cases h
  | ok expired₁ =>
    cases j₂ with
    | error e₂ => cases h
    | ok expired₂ =>
      have hcode := (Visible.finalized.inj h).2.1
      cases expired₁ <;> cases expired₂ <;> first | rfl | cases hcode

/-- The note is recorded, unless the clock says that it expired or raises. -/
theorem visible_note (time : String) (expiry : Option String) :
    ∃ appHash, visible (finalizeBlock (defaultConfig.constructedAt time) freshApplication
      (noteBlock expiry)) =
        noteVisible appHash ((expiryComplaint time (note expiry)).map Option.isSome) := by
  have hadmission := validate_note time expiry
  cases h : expiryComplaint time (note expiry) with
  | error e =>
    have hone : executeOne (defaultConfig.constructedAt time)
        (blockContext freshApplication (noteBlock expiry).txs) freshApplication
        (.ok (note expiry)) = .error e := by
      simp only [executeOne, hadmission, h]
      rfl
    simp only [finalizeBlock, noteBlock, zeroBlock, executeAll] at hone ⊢
    rw [hone]
    exact ⟨[], rfl⟩
  | ok complaint =>
    cases complaint with
    | some reason =>
      have hone : executeOne (defaultConfig.constructedAt time)
          (blockContext freshApplication (noteBlock expiry).txs) freshApplication
          (.ok (note expiry)) =
            .ok (⟨.rejected, reason, "", [("operation_id", (note expiry).operationId)], []⟩,
              freshApplication) := by
        simp only [executeOne, hadmission, h]
        rfl
      have hall := executeAll_single hone
      simp only [finalizeBlock, noteBlock, zeroBlock] at hall ⊢
      rw [hall]
      exact ⟨_, rfl⟩
    | none =>
      have happly : applyEnvelope false (note expiry) [] (genesis .empty none) =
          .ok (admittedRecord (genesis .empty none) (note expiry) [] none)
            ((genesis .empty none).admitted (note expiry) [] none) := by
        show recordAdmittedEnvelope (note expiry) [] (genesis .empty none) = _
        rw [recordAdmittedEnvelope, (admits_note expiry).admitEnvelope]
      have hone : executeOne (defaultConfig.constructedAt time)
          (blockContext freshApplication (noteBlock expiry).txs) freshApplication
          (.ok (note expiry)) =
            .ok (⟨.ok, "", "", [("operation_id", (note expiry).operationId),
              ("type", (note expiry).operationType)], []⟩, freshApplication.noted (note expiry)
                ((genesis .empty none).admitted (note expiry) [] none)) :=
        executeOne_of_applied (hadmission.trans h) rfl rfl rfl rfl happly
      have hall := executeAll_single hone
      simp only [finalizeBlock, noteBlock, zeroBlock] at hall ⊢
      rw [hall]
      exact ⟨_, rfl⟩

/-- Blocks whose envelopes carry certain expiries are executed alike under two clocks exactly
when both clocks judge each of these expiries alike. -/
theorem blocks_alike_iff_expiries_alike (t₁ t₂ : String) (expiries : Set (Option String)) :
    (∀ config app block, (∀ env, .ok env ∈ block.txs → env.expiresAt ∈ expiries) →
      visible (finalizeBlock (ApplicationConfig.constructedAt config t₁) app block) =
        visible (finalizeBlock (config.constructedAt t₂) app block)) ↔
      ∀ expiry ∈ expiries, JudgedAlike t₁ t₂ expiry := by
  constructor
  · intro h expiry hmem env henv
    have hnote : ∀ env', Except.ok env' ∈ (noteBlock expiry).txs → env'.expiresAt ∈ expiries := by
      intro env' hin
      cases List.mem_singleton.mp hin
      exact hmem
    have hsame := h defaultConfig freshApplication (noteBlock expiry) hnote
    obtain ⟨hash₁, h₁⟩ := visible_note t₁ expiry
    obtain ⟨hash₂, h₂⟩ := visible_note t₂ expiry
    rw [h₁, h₂] at hsame
    have hexpiry : ∀ time, expiryComplaint time env = expiryComplaint time (note expiry) := by
      intro time
      simp only [expiryComplaint, henv, note]
    rw [hexpiry, hexpiry]
    exact noteVisible_inj hsame
  · intro h config app block hcarried
    exact visible_constructedAt fun env hmem => h _ (hcarried env hmem)

end Clock

@[reducible] def threeDays : Runtime where
  coerceInt _ := none
  fromisoformat text :=
    if text = "2026-01-01T00:00:00+00:00" then some ⟨true, 1767225600000000⟩
    else if text = "2026-01-02T00:00:00+00:00" then some ⟨true, 1767312000000000⟩
    else if text = "2026-01-03T00:00:00+00:00" then some ⟨true, 1767398400000000⟩
    else none
  ed25519Verify _ _ _ := false

/-- An instance that was constructed on the first day records a note that expires on the
second, and one that was constructed on the third day rejects it. -/
theorem note_depends_on_clock :
    letI := threeDays
    letI := noRules
    (∃ appHash, visible (finalizeBlock (defaultConfig.constructedAt "2026-01-01T00:00:00+00:00")
        freshApplication (noteBlock (some "2026-01-02T00:00:00Z"))) =
          .finalized .ok [.ok] [] appHash) ∧
      ∃ appHash, visible (finalizeBlock (defaultConfig.constructedAt "2026-01-03T00:00:00+00:00")
        freshApplication (noteBlock (some "2026-01-02T00:00:00Z"))) =
          .finalized .ok [.rejected] [] appHash := by
  let _ := threeDays
  let _ := noRules
  have hfirst : expiryComplaint "2026-01-01T00:00:00+00:00"
      (note (some "2026-01-02T00:00:00Z")) = .ok none := rfl
  have hthird : expiryComplaint "2026-01-03T00:00:00+00:00"
      (note (some "2026-01-02T00:00:00Z")) = .ok (some "operation_expired") := rfl
  constructor
  · have h := visible_note "2026-01-01T00:00:00+00:00" (some "2026-01-02T00:00:00Z")
    rw [hfirst] at h
    exact h
  · have h := visible_note "2026-01-03T00:00:00+00:00" (some "2026-01-02T00:00:00Z")
    rw [hthird] at h
    exact h

end AidnSpec.Consensus
