import AidnSpec.Ledger.State

/-!
# Operation sequences

The three ways to record an operation (`record_operation`, `record_admitted_envelope`,
`stage_operation`) keep the log numbered, the registry in step with it and the nonces of every
wallet without gaps. `remove_noncanonical_operations` rebuilds the nonces from every remaining
operation that carries a sequence, not from the wallet operations alone.
-/

namespace AidnSpec.Ledger

open Base List

/-! ## Recording -/

def OriginType.ofText (text : String) : Option OriginType :=
  [OriginType.wallet, .multiParty, .protocol, .evidenceTriggered].find? (·.toText == text)

def FeeClass.ofText (text : String) : Option FeeClass :=
  [FeeClass.standard, .session, .protocolSponsored, .onboardingExempt].find? (·.toText == text)

/-- The arguments of `record_operation`. -/
structure OperationDraft where
  operationType : String
  originType : String
  feeClass : String
  initiatorId : Option String := none
  senderWallet : Option String := none
  feePayer : Option String := none
  payload : Fields := []
  createdAt : Option String := none
  expiresAt : Option String := none
  targetEpoch : Option String := none
  evidenceReferences : List String := []
  signatures : List String := []
  emittedEvents : List String := []
  expectedSequence : Option Int := none
  operationVersion : String := "0.1"

namespace OperationDraft

/-- The sequence of a wallet operation, which an expected one must equal. -/
def walletSequence (draft : OperationDraft) (L : LedgerState) : Except PyError (Option Nat) :=
  if draft.originType = "wallet" then
    match draft.senderWallet with
    | none => raiseValue "wallet operations require sender_wallet"
    | some wallet =>
      if draft.expectedSequence.getD (L.walletNextSequence wallet) =
          (L.walletNextSequence wallet : Int) then
        .ok (some (L.walletNextSequence wallet))
      else raiseValue "invalid wallet sequence"
  else .ok none

/-- `created_at or now`. -/
def createdAtOr (draft : OperationDraft) (now : String) : String :=
  match draft.createdAt with
  | some text => if text.isEmpty then now else text
  | none => now

/-- The unsigned operation whose digest is the identity. -/
def unsigned (draft : OperationDraft) (protocolVersion now : String) (sequence : Option Nat) :
    PyValue :=
  .dict
    [("operation_type", .str draft.operationType), ("operation_version",
      .str draft.operationVersion), ("protocol_version", .str protocolVersion), ("origin_type",
      .str draft.originType), ("initiator_id", optText draft.initiatorId), ("sender_wallet",
      optText draft.senderWallet), ("sender_sequence", optNat sequence), ("fee_class",
      .str draft.feeClass), ("fee_payer", optText draft.feePayer), ("created_at",
      .str (draft.createdAtOr now)), ("expires_at", optText draft.expiresAt), ("target_epoch",
      optText draft.targetEpoch), ("payload", .dict draft.payload), ("evidence_references",
      .list (draft.evidenceReferences.map .str)), ("signatures", .list (draft.signatures.map .str))]

def record (draft : OperationDraft) (L : LedgerState) (protocolVersion now : String)
    (origin : OriginType) (feeClass : FeeClass) (sequence : Option Nat) :
    LedgerOperationRecord where
  sequenceId := L.nextSequenceId
  operationId := jsonDigest (draft.unsigned protocolVersion now sequence)
  operationType := draft.operationType
  operationVersion := draft.operationVersion
  protocolVersion := protocolVersion
  originType := origin
  initiatorId := draft.initiatorId
  senderWallet := draft.senderWallet
  senderSequence := sequence
  feeClass := feeClass
  feePayer := draft.feePayer
  createdAt := draft.createdAtOr now
  expiresAt := draft.expiresAt
  targetEpoch := draft.targetEpoch
  payload := draft.payload
  evidenceReferences := draft.evidenceReferences
  signatures := draft.signatures
  transactionHash := none
  stateChangesRoot := jsonDigest (.dict
    [("operation_id", .str (jsonDigest (draft.unsigned protocolVersion now sequence))),
      ("operation_type", .str draft.operationType), ("payload", .dict draft.payload)])
  emittedEvents := draft.emittedEvents
  walletNextSequence := draft.senderWallet.bind fun _ => sequence.map (· + 1)

end OperationDraft

def appendRecord (L : LedgerState) (registry : Dict String FinalizedOperationReference)
    (record : LedgerOperationRecord) : LedgerState :=
  { L with
    finalizedOperationRegistry := registry
    operations := L.operations ++ [record]
    nextSequenceId := L.nextSequenceId + 1
    walletNextSequences :=
      match record.senderWallet, record.walletNextSequence with
      | some wallet, some next => L.walletNextSequences.set wallet next
      | _, _ => L.walletNextSequences }

/-- `record_operation`: every check comes before the first change. -/
def draftOperation (L : LedgerState) (protocolVersion now : String) (draft : OperationDraft) :
    Except PyError (LedgerOperationRecord × LedgerState) := do
  let sequence ← draft.walletSequence L
  require (!L.finalizedOperationRegistry.contains
    (jsonDigest (draft.unsigned protocolVersion now sequence))) "duplicate operation id"
  match OriginType.ofText draft.originType, FeeClass.ofText draft.feeClass with
  | some origin, some feeClass => do
    let record := draft.record L protocolVersion now origin feeClass sequence
    -- the declared record refuses empty texts (`min_length=1`)
    require (!([record.operationId, record.operationType, record.operationVersion,
      record.protocolVersion, record.createdAt].any (·.isEmpty))) "declared field is invalid"
    let registry ← registerRecord L.finalizedOperationRegistry record
    return (record, appendRecord L registry record)
  | _, _ => raiseValue "declared field is invalid"

/-- `record_operation` as an operation; `now` is what the clock shows. -/
def recordOperation (protocolVersion now : String) (draft : OperationDraft) :
    LedgerM LedgerOperationRecord := fun L =>
  match draftOperation L protocolVersion now draft with
  | .ok (record, L') => .ok record L'
  | .error e => .error e L

/-- `stage_operation`: what `record_operation` returns or raises, on the state as it was. -/
def stageOperation (protocolVersion now : String) (draft : OperationDraft) :
    LedgerM LedgerOperationRecord := fun L =>
  match recordOperation protocolVersion now draft L with
  | .ok record _ => .ok record L
  | .error e _ => .error e L

/-! ## Removing -/

/-- `FinalizedOperationRegistry.from_records`. -/
def registryFromRecords (records : List LedgerOperationRecord) :
    Except PyError (Dict String FinalizedOperationReference) :=
  records.foldlM registerRecord Dict.empty

/-- One more than the greatest sequence among the operations a wallet sent, or one. -/
def remainingNextSequence (kept : List LedgerOperationRecord) (wallet : String) : Nat :=
  ((kept.filter (·.senderWallet = some wallet)).filterMap
    fun r => r.senderSequence.map (· + 1)).max?.getD 1

/-- The sequences of the wallets that sent a removed operation, set anew. -/
def resetSequences (kept removed : List LedgerOperationRecord) (sequences : Dict String Nat) :
    Dict String Nat :=
  removed.foldl (fun sequences r =>
    match r.senderWallet with
    | some wallet => sequences.set wallet (remainingNextSequence kept wallet)
    | none => sequences) sequences

/-- Whether an operation has one of the types to remove. -/
def isNoncanonical (types : List String) (r : LedgerOperationRecord) : Bool :=
  types.contains r.operationType

/-- `remove_noncanonical_operations`. The log is replaced before the registry is rebuilt. -/
def removeNoncanonicalOperations (types : List String) : LedgerM (List String) := fun L =>
  if types.isEmpty then .ok [] L
  else
    let removed := L.operations.filter (isNoncanonical types)
    let kept := L.operations.filter (!isNoncanonical types ·)
    if removed.isEmpty then .ok [] L
    else
      match registryFromRecords kept with
      | .error e => .error e { L with operations := kept }
      | .ok registry =>
        .ok (removed.map (·.operationId)) { L with
          operations := kept
          finalizedOperationRegistry := registry
          nextSequenceId := (kept.map (·.sequenceId)).max?.getD 0 + 1
          walletNextSequences := resetSequences kept removed L.walletNextSequences }

/-! ## Runs -/

/-- The calls that record or stage an operation. -/
inductive RecordingCall where
  | recordOperation (now : String) (draft : OperationDraft)
  | recordAdmittedEnvelope (env : Envelope) (emittedEvents : List String)
  | stageOperation (now : String) (draft : OperationDraft)

namespace RecordingCall

def apply (protocolVersion : String) : RecordingCall → LedgerM LedgerOperationRecord
  | recordOperation now draft => Ledger.recordOperation protocolVersion now draft
  | recordAdmittedEnvelope env emittedEvents => Ledger.recordAdmittedEnvelope env emittedEvents
  | stageOperation now draft => Ledger.stageOperation protocolVersion now draft

/-- The state a call leaves, whether it returned or raised. -/
def after (protocolVersion : String) (call : RecordingCall) (L : LedgerState) : LedgerState :=
  match call.apply protocolVersion L with
  | .ok _ L' => L'
  | .error _ L' => L'

def run (protocolVersion : String) (calls : List RecordingCall) : LedgerState :=
  calls.foldl (fun L call => call.after protocolVersion L) {}

end RecordingCall

/-! ## The log and its counters -/

def walletOperations (operations : List LedgerOperationRecord) (wallet : String) :
    List LedgerOperationRecord :=
  operations.filter fun r => r.originType = .wallet ∧ r.senderWallet = some wallet

/-- The log is numbered from one, the registry is its index, and the wallet operations of every
wallet carry its nonces without gaps. -/
structure Sequenced (L : LedgerState) : Prop where
  numbered : L.operations.map (·.sequenceId) = List.range' 1 L.operations.length
  nextSequence : L.nextSequenceId = L.operations.length + 1
  registered : L.finalizedOperationRegistry.keys = L.operations.map (·.operationId)
  nonces : ∀ wallet, (walletOperations L.operations wallet).map (·.senderSequence) =
    (List.range' 1 (walletOperations L.operations wallet).length).map some
  nextNonce : ∀ wallet, L.walletNextSequence wallet =
    (walletOperations L.operations wallet).length + 1

/-- The identity and type of every record are texts. -/
def Named (L : LedgerState) : Prop :=
  ∀ r ∈ L.operations, isBlank r.operationId = false ∧ isBlank r.operationType = false

/-- A record was appended to the log, with the nonce of its wallet if it is a wallet operation. -/
structure Appends (L : LedgerState) (r : LedgerOperationRecord) (L' : LedgerState) : Prop where
  operations : L'.operations = L.operations ++ [r]
  registry : L'.finalizedOperationRegistry =
    L.finalizedOperationRegistry.set r.operationId r.reference
  fresh : L.finalizedOperationRegistry.get? r.operationId = none
  sequenceId : r.sequenceId = L.nextSequenceId
  nextSequence : L'.nextSequenceId = L.nextSequenceId + 1
  named : isBlank r.operationId = false ∧ isBlank r.operationType = false
  nonce : (∃ wallet, r.originType = .wallet ∧ r.senderWallet = some wallet ∧
      r.senderSequence = some (L.walletNextSequence wallet) ∧
      L'.walletNextSequences = L.walletNextSequences.set wallet (L.walletNextSequence wallet + 1)) ∨
    r.originType ≠ .wallet ∧ L'.walletNextSequences = L.walletNextSequences

theorem sequenced_empty : Sequenced {} where
  numbered := rfl
  nextSequence := rfl
  registered := rfl
  nonces := fun _ => rfl
  nextNonce := fun _ => rfl

theorem walletOperations_append (operations : List LedgerOperationRecord)
    (r : LedgerOperationRecord) (wallet : String) :
    walletOperations (operations ++ [r]) wallet = walletOperations operations wallet ++
      if r.originType = .wallet ∧ r.senderWallet = some wallet then [r] else [] := by
  rw [walletOperations, filter_append, filter_singleton]
  congr 1
  by_cases h : r.originType = .wallet ∧ r.senderWallet = some wallet
  · rw [if_pos h, decide_eq_true h, cond_true]
  · rw [if_neg h, decide_eq_false h, cond_false]

variable {L L' : LedgerState} {r : LedgerOperationRecord} {operations : List LedgerOperationRecord}
  {wallet : String}

/-- What the wallets of an appended record and of the others see. -/
theorem Appends.walletNextSequence (h : Appends L r L') (wallet : String) :
    (r.originType = .wallet ∧ r.senderWallet = some wallet ∧
        r.senderSequence = some (L.walletNextSequence wallet) ∧
        L'.walletNextSequence wallet = L.walletNextSequence wallet + 1) ∨
      ¬ (r.originType = .wallet ∧ r.senderWallet = some wallet) ∧
        L'.walletNextSequence wallet = L.walletNextSequence wallet := by
  rcases h.nonce with ⟨sender, horigin, hsender, hsequence, hset⟩ | ⟨horigin, hset⟩
  · by_cases hwallet : sender = wallet
    · subst hwallet
      refine .inl ⟨horigin, hsender, hsequence, ?_⟩
      rw [LedgerState.walletNextSequence, hset, Dict.get?_set_self, Option.getD_some]
    · refine .inr ⟨fun hr => hwallet (Option.some.inj (hsender.symm.trans hr.2)), ?_⟩
      rw [LedgerState.walletNextSequence, hset, Dict.get?_set_of_ne _ _ (Ne.symm hwallet)]
      rfl
  · refine .inr ⟨fun hr => horigin hr.1, ?_⟩
    rw [LedgerState.walletNextSequence, hset]
    rfl

/-- Appending keeps the log and its counters in step. -/
theorem Sequenced.append (hL : Sequenced L) (h : Appends L r L') : Sequenced L' := by
  have hlength : L'.operations.length = L.operations.length + 1 := by
    rw [h.operations, length_append, length_singleton]
  constructor
  · rw [hlength, h.operations, map_append, hL.numbered, map_singleton, h.sequenceId,
      hL.nextSequence, range'_concat]
    congr 2
    omega
  · rw [h.nextSequence, hL.nextSequence, hlength]
  · rw [h.registry, Dict.keys_set h.fresh, hL.registered, h.operations, map_append,
      map_singleton]
  · intro wallet
    rw [h.operations, walletOperations_append]
    rcases h.walletNextSequence wallet with ⟨horigin, hsender, hsequence, -⟩ | ⟨hother, -⟩
    · rw [if_pos ⟨horigin, hsender⟩, map_append, hL.nonces, map_singleton, hsequence,
        hL.nextNonce, length_append, length_singleton, range'_concat,
        map_append, map_singleton]
      congr 3
      omega
    · rw [if_neg hother, append_nil, hL.nonces]
  · intro wallet
    rw [h.operations, walletOperations_append, length_append]
    rcases h.walletNextSequence wallet with ⟨horigin, hsender, -, hnext⟩ | ⟨hother, hnext⟩
    · rw [if_pos ⟨horigin, hsender⟩, hnext, hL.nextNonce, length_singleton]
    · rw [if_neg hother, hnext, hL.nextNonce, length_nil, Nat.add_zero]

theorem Named.append (hL : Named L) (h : Appends L r L') : Named L' := by
  intro other hother
  rw [h.operations, mem_append, mem_singleton] at hother
  rcases hother with hother | rfl
  · exact hL other hother
  · exact h.named

/-- A recorded envelope is appended. -/
theorem Admits.appends {env : Envelope} {next : Option Nat} (h : Admits L env next)
    (events : List String) :
    Appends L (admittedRecord L env events next) (L.admitted env events next) where
  operations := rfl
  registry := rfl
  fresh := h.fresh
  sequenceId := rfl
  nextSequence := rfl
  named := ⟨h.named, h.typed⟩
  nonce := by
    have hsequence := h.sequence
    unfold nextWalletSequence at hsequence
    split at hsequence
    · next horigin =>
      split at hsequence
      · next wallet sequence hwallet hgiven =>
        split at hsequence
        · next hexpected =>
          cases hsequence
          refine .inl ⟨wallet, horigin, hwallet, ?_, ?_⟩
          · rw [← hexpected]
            exact hgiven
          · rw [← hexpected]
            simp only [LedgerState.admitted, sequencesAfter, hwallet]
        · cases hsequence
      · cases hsequence
    · next horigin =>
      cases hsequence
      refine .inr ⟨horigin, ?_⟩
      simp only [LedgerState.admitted, sequencesAfter]
      cases env.senderWallet <;> rfl

theorem OriginType.ofText_eq_wallet {text : String} {origin : OriginType}
    (h : OriginType.ofText text = some origin) : origin = .wallet ↔ text = "wallet" := by
  have htext := find?_some h
  rw [beq_iff_eq] at htext
  rw [← htext]
  cases origin <;> decide

/-- A recorded draft is appended. -/
theorem appends_of_draftOperation {protocolVersion now : String} {draft : OperationDraft}
    {record : LedgerOperationRecord}
    (h : draftOperation L protocolVersion now draft = .ok (record, L')) : Appends L record L' := by
  obtain ⟨sequence, hsequence, h⟩ := bind_eq_ok.mp h
  obtain ⟨-, -, h⟩ := bind_eq_ok.mp h
  split at h
  · next origin feeClass horigin hfeeClass =>
    obtain ⟨-, -, h⟩ := bind_eq_ok.mp h
    obtain ⟨registry, hregistry, h⟩ := bind_eq_ok.mp h
    obtain ⟨hrecord, hstate⟩ := Prod.mk.inj (Except.ok.inj h)
    rw [registerRecord_eq_ok] at hregistry
    obtain ⟨hnamed, htyped, -, hfresh, -, rfl⟩ := hregistry
    have hwallet := OriginType.ofText_eq_wallet horigin
    subst hrecord hstate
    refine ⟨rfl, rfl, hfresh, rfl, rfl, ⟨hnamed, htyped⟩, ?_⟩
    unfold OperationDraft.walletSequence at hsequence
    split at hsequence
    · next htext =>
      split at hsequence
      · cases hsequence
      · next wallet hsender =>
        split at hsequence
        · cases hsequence
          refine .inl ⟨wallet, hwallet.mpr htext, hsender, rfl, ?_⟩
          simp only [appendRecord, OperationDraft.record, hsender, Option.bind_some,
            Option.map_some]
        · cases hsequence
    · next htext =>
      cases hsequence
      refine .inr ⟨fun horigin => htext (hwallet.mp horigin), ?_⟩
      simp only [appendRecord, OperationDraft.record, Option.map_none]
      cases draft.senderWallet <;> rfl
  · cases h

namespace RecordingCall

variable {protocolVersion : String}

/-- A call returns with the state as it was or with its record appended, or raises with the state
as it was. -/
theorem apply_cases (call : RecordingCall) (L : LedgerState) :
    (∃ e, call.apply protocolVersion L = .error e L) ∨
      ∃ record L', call.apply protocolVersion L = .ok record L' ∧
        (L' = L ∧ (∃ now draft, call = stageOperation now draft) ∨ Appends L record L') := by
  cases call with
  | recordOperation now draft =>
    simp only [apply, Ledger.recordOperation]
    cases hdraft : draftOperation L protocolVersion now draft with
    | error e => exact .inl ⟨e, rfl⟩
    | ok pair => exact .inr ⟨pair.1, pair.2, rfl, .inr (appends_of_draftOperation hdraft)⟩
  | recordAdmittedEnvelope env events =>
    simp only [apply, Ledger.recordAdmittedEnvelope]
    cases hadmitted : admitEnvelope L env events with
    | error e => exact .inl ⟨e, rfl⟩
    | ok pair =>
      obtain ⟨next, hadmits, hrecord, hstate⟩ := admitEnvelope_eq_ok.mp hadmitted
      refine .inr ⟨pair.1, pair.2, rfl, .inr ?_⟩
      rw [hrecord, hstate]
      exact hadmits.appends events
  | stageOperation now draft =>
    simp only [apply, Ledger.stageOperation]
    cases Ledger.recordOperation protocolVersion now draft L with
    | error e L' => exact .inl ⟨e, rfl⟩
    | ok record L' => exact .inr ⟨record, L, rfl, .inl ⟨rfl, now, draft, rfl⟩⟩

/-- A raising call changes nothing. -/
theorem unchanged_of_error {call : RecordingCall} {L L' : LedgerState} {e : PyError}
    (h : call.apply protocolVersion L = .error e L') : L' = L := by
  rcases call.apply_cases L with ⟨e', he⟩ | ⟨record, L'', hok, -⟩
  · rw [he] at h
    cases h
    rfl
  · rw [hok] at h
    cases h

/-- Staging changes nothing, whether it returns or raises. -/
theorem after_stageOperation (now : String) (draft : OperationDraft) (L : LedgerState) :
    (stageOperation now draft).after protocolVersion L = L := by
  simp only [after, apply, Ledger.stageOperation]
  cases Ledger.recordOperation protocolVersion now draft L <;> rfl

theorem after_cases (call : RecordingCall) (L : LedgerState) :
    call.after protocolVersion L = L ∨
      ∃ record, Appends L record (call.after protocolVersion L) := by
  rcases @apply_cases protocolVersion call L with ⟨e, he⟩ | ⟨record, L', hok, hsame | hrecorded⟩
  · exact .inl (by rw [after, he])
  · exact .inl (by rw [after, hok, hsame.1])
  · exact .inr ⟨record, by rw [after, hok]; exact hrecorded⟩

/-- What every appended record keeps holds after every run of calls. -/
theorem run_induct {P : LedgerState → Prop} (hempty : P {})
    (happend : ∀ L record L', P L → Appends L record L' → P L') (calls : List RecordingCall) :
    P (run protocolVersion calls) := by
  have hrun : ∀ (calls : List RecordingCall) (L : LedgerState), P L →
      P (calls.foldl (fun L call => call.after protocolVersion L) L) := by
    intro calls
    induction calls with
    | nil => exact fun L h => h
    | cons call calls ih =>
      intro L h
      apply ih
      show P (call.after protocolVersion L)
      rcases @after_cases protocolVersion call L with hsame | ⟨record, hrecorded⟩
      · rw [hsame]
        exact h
      · exact happend L record _ h hrecorded
  exact hrun calls {} hempty

theorem sequenced_run (calls : List RecordingCall) : Sequenced (run protocolVersion calls) :=
  run_induct sequenced_empty (fun _ _ _ hL h => hL.append h) calls

theorem named_run (calls : List RecordingCall) : Named (run protocolVersion calls) :=
  run_induct (fun _ hr => absurd hr not_mem_nil) (fun _ _ _ hL h => hL.append h) calls

end RecordingCall

/-! ## What remains after a removal -/

/-- Records with distinct identities and sequences make a registry in their order. -/
theorem foldlM_registerRecord {records : List LedgerOperationRecord}
    {registry : Dict String FinalizedOperationReference}
    (hnamed : ∀ r ∈ records, isBlank r.operationId = false ∧ isBlank r.operationType = false ∧
      1 ≤ r.sequenceId)
    (hids : (registry.keys ++ records.map (·.operationId)).Nodup)
    (hsequences : (registry.values.map (·.sequenceId) ++ records.map (·.sequenceId)).Nodup) :
    ∃ registry', records.foldlM registerRecord registry = .ok registry' ∧
      registry'.keys = registry.keys ++ records.map (·.operationId) := by
  induction records generalizing registry with
  | nil => exact ⟨registry, rfl, by rw [map_nil, append_nil]⟩
  | cons r records ih =>
    obtain ⟨hid, htype, hpos⟩ := hnamed r mem_cons_self
    have hfresh : registry.get? r.operationId = none := by
      rw [← Option.not_isSome_iff_eq_none, ← Dict.mem_keys]
      intro hmem
      exact (nodup_append.mp hids).2.2 _ hmem _ (mem_map_of_mem mem_cons_self) rfl
    have hunused : registry.values.any (·.sequenceId == r.sequenceId) = false := by
      rw [any_eq_false]
      intro reference hreference hsame
      exact (nodup_append.mp hsequences).2.2 _ (mem_map_of_mem hreference) _
        (mem_map_of_mem mem_cons_self) (beq_iff_eq.mp hsame)
    have hregister := registerRecord_eq_ok.mpr ⟨hid, htype, hpos, hfresh, hunused, rfl⟩
    obtain ⟨registry', hfold, hkeys⟩ := @ih (registry.set r.operationId r.reference)
      (fun other hother => hnamed other (mem_cons_of_mem r hother))
      (by
        rw [Dict.keys_set hfresh, append_assoc]
        exact hids)
      (by
        rw [Dict.values_set hfresh, map_append, append_assoc]
        exact hsequences)
    refine ⟨registry', ?_, ?_⟩
    · rw [foldlM_cons, hregister]
      exact hfold
    · rw [hkeys, Dict.keys_set hfresh, append_assoc]
      rfl

/-- The registry is rebuilt from what remains of a log. -/
theorem Sequenced.registryFromRecords_filter (hL : Sequenced L) (hnamed : Named L)
    (keep : LedgerOperationRecord → Bool) :
    ∃ registry, registryFromRecords (L.operations.filter keep) = .ok registry ∧
      registry.keys = (L.operations.filter keep).map (·.operationId) := by
  have hsub : (L.operations.filter keep).Sublist L.operations := filter_sublist
  apply foldlM_registerRecord
  · intro r hr
    have hr := hsub.subset hr
    have hsequence : r.sequenceId ∈ List.range' 1 L.operations.length := by
      rw [← hL.numbered]
      exact mem_map_of_mem hr
    exact ⟨(hnamed r hr).1, (hnamed r hr).2, (mem_range'_1.mp hsequence).1⟩
  · have hnodup : (L.operations.map (·.operationId)).Nodup := by
      rw [← hL.registered]
      exact L.finalizedOperationRegistry.nodup
    exact hnodup.sublist (hsub.map _)
  · have hnodup : (L.operations.map (·.sequenceId)).Nodup := by
      rw [hL.numbered]
      exact nodup_range'
    exact hnodup.sublist (hsub.map _)

/-- The greatest nonce among the wallet operations of a wallet, or zero. -/
def highestSequence (operations : List LedgerOperationRecord) (wallet : String) : Nat :=
  ((walletOperations operations wallet).filterMap (·.senderSequence)).max?.getD 0

/-- The greatest of some numbers, or a default for none. -/
theorem le_max?_getD {xs : List Nat} {x : Nat} (h : x ∈ xs) (least : Nat) :
    x ≤ xs.max?.getD least := by
  cases hmax : xs.max? with
  | none =>
    rw [max?_eq_none_iff.mp hmax] at h
    cases h
  | some m => exact (max?_eq_some_iff.mp hmax).2 x h

theorem max?_getD_mem (xs : List Nat) (least : Nat) :
    xs.max?.getD least ∈ xs ∨ xs.max?.getD least = least ∧ xs = [] := by
  cases hmax : xs.max? with
  | none => exact .inr ⟨rfl, max?_eq_none_iff.mp hmax⟩
  | some m => exact .inl (max?_eq_some_iff.mp hmax).1

theorem mem_walletOperations :
    r ∈ walletOperations operations wallet ↔
      r ∈ operations ∧ r.originType = .wallet ∧ r.senderWallet = some wallet := by
  rw [walletOperations, mem_filter, decide_eq_true_eq]

/-- The nonces of a wallet are counted by its wallet operations. -/
theorem Sequenced.highestSequence (hL : Sequenced L) (wallet : String) :
    highestSequence L.operations wallet = (walletOperations L.operations wallet).length := by
  have hlist : (walletOperations L.operations wallet).filterMap (·.senderSequence) =
      List.range' 1 (walletOperations L.operations wallet).length := by
    have hmap := congrArg (List.filterMap id) (hL.nonces wallet)
    rwa [filterMap_map, filterMap_map, Function.id_comp, Function.id_comp,
      filterMap_some] at hmap
  rw [Ledger.highestSequence, hlist]
  rcases max?_getD_mem (List.range' 1 (walletOperations L.operations wallet).length) 0 with
    hmem | ⟨hzero, hnil⟩
  · have hbound := mem_range'_1.mp hmem
    have hlast : (walletOperations L.operations wallet).length ∈
        List.range' 1 (walletOperations L.operations wallet).length :=
      mem_range'_1.mpr (by omega)
    have hle := le_max?_getD hlast 0
    omega
  · have hlength := congrArg List.length hnil
    rw [length_range', length_nil] at hlength
    rw [hzero, hlength]

/-- No operation of another origin carries a sequence of the wallet above its nonces. -/
def NoneAbove (operations : List LedgerOperationRecord) (wallet : String) : Prop :=
  ∀ r ∈ operations, r.originType ≠ .wallet → r.senderWallet = some wallet →
    ∀ sequence, r.senderSequence = some sequence → sequence ≤ highestSequence operations wallet

/-- A reset nonce follows the wallet operations exactly when no other operation of the wallet
carries a greater sequence. -/
theorem remainingNextSequence_eq_iff (kept : List LedgerOperationRecord) (wallet : String) :
    remainingNextSequence kept wallet = highestSequence kept wallet + 1 ↔
      NoneAbove kept wallet := by
  have hmem : ∀ r ∈ kept, r.senderWallet = some wallet → ∀ sequence,
      r.senderSequence = some sequence →
      sequence + 1 ∈ (kept.filter (·.senderWallet = some wallet)).filterMap
        fun r => r.senderSequence.map (· + 1) := by
    intro r hr hsender sequence hsequence
    refine mem_filterMap.mpr ⟨r, mem_filter.mpr ⟨hr, by simpa using hsender⟩, ?_⟩
    rw [hsequence, Option.map_some]
  constructor
  · intro heq r hr _ hsender sequence hsequence
    have hle := le_max?_getD (hmem r hr hsender sequence hsequence) 1
    rw [remainingNextSequence] at heq
    omega
  · intro hothers
    -- every sequence of the wallet is at most the greatest nonce
    have hall : ∀ r ∈ kept, r.senderWallet = some wallet → ∀ sequence,
        r.senderSequence = some sequence → sequence ≤ highestSequence kept wallet := by
      intro r hr hsender sequence hsequence
      by_cases horigin : r.originType = .wallet
      · exact le_max?_getD (mem_filterMap.mpr
          ⟨r, mem_walletOperations.mpr ⟨hr, horigin, hsender⟩, hsequence⟩) 0
      · exact hothers r hr horigin hsender sequence hsequence
    have hreached : highestSequence kept wallet + 1 ≤ remainingNextSequence kept wallet ∨
        highestSequence kept wallet = 0 := by
      rcases max?_getD_mem ((walletOperations kept wallet).filterMap (·.senderSequence)) 0 with
        hin | ⟨hzero, -⟩
      · obtain ⟨r, hr, hsequence⟩ := mem_filterMap.mp hin
        obtain ⟨hr, -, hsender⟩ := mem_walletOperations.mp hr
        exact .inl (le_max?_getD (hmem r hr hsender _ hsequence) 1)
      · exact .inr hzero
    rcases max?_getD_mem ((kept.filter (·.senderWallet = some wallet)).filterMap
        fun r => r.senderSequence.map (· + 1)) 1 with hin | ⟨hone, hnil⟩
    · obtain ⟨r, hr, hvalue⟩ := mem_filterMap.mp hin
      obtain ⟨sequence, hsequence, hvalue⟩ := Option.map_eq_some_iff.mp hvalue
      obtain ⟨hr, hsender⟩ := mem_filter.mp hr
      have hle := hall r hr (by simpa using hsender) sequence hsequence
      rw [← remainingNextSequence] at hvalue
      omega
    · rw [← remainingNextSequence] at hone
      omega

def sentBy (operations : List LedgerOperationRecord) (wallet : String) : Prop :=
  ∃ r ∈ operations, r.senderWallet = some wallet

/-- The wallets that sent a removed operation are reset, and no others. -/
theorem get?_resetSequences (kept removed : List LedgerOperationRecord)
    (sequences : Dict String Nat) (wallet : String) :
    (sentBy removed wallet → (resetSequences kept removed sequences).get? wallet =
        some (remainingNextSequence kept wallet)) ∧
      (¬ sentBy removed wallet →
        (resetSequences kept removed sequences).get? wallet = sequences.get? wallet) := by
  induction removed generalizing sequences with
  | nil => exact ⟨fun ⟨_, hr, _⟩ => absurd hr not_mem_nil, fun _ => rfl⟩
  | cons r removed ih =>
    rw [resetSequences, foldl_cons, ← resetSequences]
    have hsent : sentBy (r :: removed) wallet ↔ r.senderWallet = some wallet ∨
        sentBy removed wallet := by
      simp only [sentBy, mem_cons, exists_eq_or_imp]
    by_cases hrest : sentBy removed wallet
    · exact ⟨fun _ => (ih _).1 hrest, fun hnone => absurd (hsent.mpr (.inr hrest)) hnone⟩
    · rw [(ih _).2 hrest]
      cases hsender : r.senderWallet with
      | none =>
        rw [hsender] at hsent
        exact ⟨fun h => absurd (hsent.mp h) (by simp [hrest]), fun _ => rfl⟩
      | some sender =>
        rw [hsender] at hsent
        by_cases hsame : wallet = sender
        · subst hsame
          exact ⟨fun _ => Dict.get?_set_self .., fun hnone => absurd (hsent.mpr (.inl rfl)) hnone⟩
        · rw [Dict.get?_set_of_ne _ _ hsame]
          refine ⟨fun h => ?_, fun _ => rfl⟩
          rcases hsent.mp h with heq | h
          · exact absurd (Option.some.inj heq).symm hsame
          · exact absurd h hrest

/-- The wallet operations of a wallet that sent no removed operation all remain. -/
theorem walletOperations_filter {remove : LedgerOperationRecord → Bool}
    (h : ¬ sentBy (operations.filter remove) wallet) :
    walletOperations (operations.filter (!remove ·)) wallet =
      walletOperations operations wallet := by
  rw [walletOperations, walletOperations, filter_filter]
  apply filter_congr
  intro r hr
  by_cases hremoved : remove r = true
  · have hsender : r.senderWallet ≠ some wallet := fun hsender =>
      h ⟨r, mem_filter.mpr ⟨hr, hremoved⟩, hsender⟩
    simp [hsender]
  · simp [hremoved]

/-- Every wallet's next nonce is one more than the greatest one among its wallet operations. -/
def Contiguous (L : LedgerState) : Prop :=
  ∀ wallet, L.walletNextSequence wallet = highestSequence L.operations wallet + 1

/-- Every wallet's next nonce is one more than the greatest sequence among all its operations. -/
def AboveAll (L : LedgerState) : Prop :=
  ∀ wallet, L.walletNextSequence wallet = remainingNextSequence L.operations wallet

theorem Sequenced.contiguous (hL : Sequenced L) : Contiguous L := by
  intro wallet
  rw [hL.nextNonce, hL.highestSequence]

/-- What a removal leaves, and the next nonce of every wallet in it. -/
theorem Sequenced.removeNoncanonicalOperations (hL : Sequenced L) (hnamed : Named L)
    (types : List String) :
    ∃ removed L', removeNoncanonicalOperations types L = .ok removed L' ∧
      removed = (L.operations.filter (isNoncanonical types)).map (·.operationId) ∧
      L'.operations = L.operations.filter (!isNoncanonical types ·) ∧
      L'.finalizedOperationRegistry.keys = L'.operations.map (·.operationId) ∧
      ∀ wallet, (sentBy (L.operations.filter (isNoncanonical types)) wallet →
          L'.walletNextSequence wallet = remainingNextSequence L'.operations wallet) ∧
        (¬ sentBy (L.operations.filter (isNoncanonical types)) wallet →
          L'.walletNextSequence wallet = Ledger.highestSequence L'.operations wallet + 1) := by
  by_cases hremoved : L.operations.filter (isNoncanonical types) = []
  · refine ⟨[], L, ?_, ?_, ?_, hL.registered, fun wallet => ⟨fun hsent => ?_, fun _ => ?_⟩⟩
    · simp only [Ledger.removeNoncanonicalOperations, hremoved, isEmpty_nil, if_true, ite_self]
    · rw [hremoved, map_nil]
    · rw [eq_comm, filter_eq_self]
      intro r hr
      have := filter_eq_nil_iff.mp hremoved r hr
      simpa using this
    · rw [hremoved] at hsent
      obtain ⟨r, hr, -⟩ := hsent
      exact absurd hr not_mem_nil
    · exact hL.contiguous wallet
  · obtain ⟨registry, hregistry, hkeys⟩ :=
      hL.registryFromRecords_filter hnamed (!isNoncanonical types ·)
    have htypes : types ≠ [] := by
      rintro rfl
      exact hremoved (filter_eq_nil_iff.mpr fun r _ => by simp [isNoncanonical])
    have hok : Ledger.removeNoncanonicalOperations types L =
        .ok ((L.operations.filter (isNoncanonical types)).map (·.operationId)) { L with
          operations := L.operations.filter (!isNoncanonical types ·)
          finalizedOperationRegistry := registry
          nextSequenceId := ((L.operations.filter (!isNoncanonical types ·)).map
            (·.sequenceId)).max?.getD 0 + 1
          walletNextSequences := resetSequences (L.operations.filter (!isNoncanonical types ·))
            (L.operations.filter (isNoncanonical types)) L.walletNextSequences } := by
      simp only [Ledger.removeNoncanonicalOperations, List.isEmpty_iff, if_neg htypes,
        if_neg hremoved, hregistry]
    refine ⟨_, _, hok, rfl, rfl, hkeys, fun wallet => ⟨fun hsent => ?_, fun hsent => ?_⟩⟩
    · rw [LedgerState.walletNextSequence, (get?_resetSequences _ _ _ wallet).1 hsent]
      rfl
    · rw [LedgerState.walletNextSequence, (get?_resetSequences _ _ _ wallet).2 hsent,
        Ledger.highestSequence, walletOperations_filter hsent]
      exact hL.contiguous wallet

/-- Every run of recording and staging calls keeps the log, the registry and the nonces in step,
and raising and staging calls change nothing. A removal then keeps the registry in step with the
log. The nonces it leaves follow the wallet operations exactly when no operation of another origin
is above them for a wallet that sent a removed operation, and they follow all operations exactly
when none is for a wallet that did not. -/
theorem removal_contiguous_iff (protocolVersion : String) (calls : List RecordingCall) :
    Sequenced (RecordingCall.run protocolVersion calls) ∧
      ((RecordingCall.run protocolVersion calls).operations.map (·.operationId)).Nodup ∧
      (∀ (call : RecordingCall) (e : PyError) (L' : LedgerState),
        call.apply protocolVersion (RecordingCall.run protocolVersion calls) = .error e L' →
          L' = RecordingCall.run protocolVersion calls) ∧
      (∀ (now : String) (draft : OperationDraft),
        (RecordingCall.stageOperation now draft).after protocolVersion
          (RecordingCall.run protocolVersion calls) = RecordingCall.run protocolVersion calls) ∧
      ∀ types : List String, ∃ removed L',
        removeNoncanonicalOperations types (RecordingCall.run protocolVersion calls) =
            .ok removed L' ∧
          removed = ((RecordingCall.run protocolVersion calls).operations.filter
            (isNoncanonical types)).map (·.operationId) ∧
          L'.operations = (RecordingCall.run protocolVersion calls).operations.filter
            (!isNoncanonical types ·) ∧
          L'.finalizedOperationRegistry.keys = L'.operations.map (·.operationId) ∧
          (Contiguous L' ↔ ∀ wallet, sentBy
              ((RecordingCall.run protocolVersion calls).operations.filter (isNoncanonical types))
              wallet →
            NoneAbove ((RecordingCall.run protocolVersion calls).operations.filter
              (!isNoncanonical types ·)) wallet) ∧
          (AboveAll L' ↔ ∀ wallet, ¬ sentBy
              ((RecordingCall.run protocolVersion calls).operations.filter (isNoncanonical types))
              wallet →
            NoneAbove ((RecordingCall.run protocolVersion calls).operations.filter
              (!isNoncanonical types ·)) wallet) := by
  have hrun := @RecordingCall.sequenced_run protocolVersion calls
  refine ⟨hrun, ?_, fun call e L' h => call.unchanged_of_error h,
    fun now draft => RecordingCall.after_stageOperation now draft _, fun types => ?_⟩
  · rw [← hrun.registered]
    exact (RecordingCall.run protocolVersion calls).finalizedOperationRegistry.nodup
  · obtain ⟨removed, L', hok, hremoved, hkept, hkeys, hnext⟩ :=
      hrun.removeNoncanonicalOperations (RecordingCall.named_run calls) types
    refine ⟨removed, L', hok, hremoved, hkept, hkeys, ?_, ?_⟩
    · simp only [← hkept, ← remainingNextSequence_eq_iff]
      constructor
      · intro hcontiguous wallet hsent
        rw [← (hnext wallet).1 hsent, hcontiguous wallet]
      · intro habove wallet
        by_cases hsent : sentBy ((RecordingCall.run protocolVersion calls).operations.filter
          (isNoncanonical types)) wallet
        · rw [(hnext wallet).1 hsent, habove wallet hsent]
        · exact (hnext wallet).2 hsent
    · simp only [← hkept, ← remainingNextSequence_eq_iff]
      constructor
      · intro hall wallet hsent
        rw [← hall wallet, (hnext wallet).2 hsent]
      · intro habove wallet
        by_cases hsent : sentBy ((RecordingCall.run protocolVersion calls).operations.filter
          (isNoncanonical types)) wallet
        · exact (hnext wallet).1 hsent
        · rw [(hnext wallet).2 hsent, habove wallet hsent]

def sequencedSession : Envelope where
  operationType := "SESSION_OPEN"
  originType := .multiParty
  senderWallet := some "aidn1wallet"
  senderSequence := some 7
  createdAt := "2026-01-01T00:00:00Z"
  operationId := "7079823c7f96036ae11064db88d8a5bd6f7b8d1951d836eb1a09f0d88ca0ec17"

/-- The first wallet operation of the same wallet, a local draft. -/
def draftUpdate : Envelope where
  operationType := "ENDPOINT_UPDATE"
  originType := .wallet
  senderWallet := some "aidn1wallet"
  senderSequence := some 1
  createdAt := "2026-01-01T00:00:00Z"
  operationId := "19f10368d70709a23563d65e8a83860d0b2ad64cfbbefb26964a60cd588f7588"

def otherSession : Envelope :=
  { sequencedSession with
    senderWallet := some "aidn1other"
    operationId := "8989cf32369669a4aa563f0e62ef9d88f33c0e9ad4a1b237d7a578458882e7e5" }

/-- With the draft removed its wallet has no wallet operation left and its next nonce is 8, where
the next nonce of a wallet that sent no draft is 1 although it names sequence 7. -/
theorem removed_draft_skips_nonces :
    let L := RecordingCall.run "0.1" [.recordAdmittedEnvelope sequencedSession [],
      .recordAdmittedEnvelope draftUpdate [], .recordAdmittedEnvelope otherSession []]
    ¬ ∃ removed L', removeNoncanonicalOperations ["ENDPOINT_UPDATE"] L = .ok removed L' ∧
      (Contiguous L' ∨ AboveAll L') := by
  rintro L ⟨removed, L', hremove, hnext⟩
  have hevaluated : (match removeNoncanonicalOperations ["ENDPOINT_UPDATE"] L with
      | .ok _ L => (L.walletNextSequence "aidn1wallet", highestSequence L.operations "aidn1wallet",
          L.walletNextSequence "aidn1other", remainingNextSequence L.operations "aidn1other")
      | .error _ _ => (0, 0, 0, 0)) = (8, 0, 1, 8) := by
    rfl
  rw [hremove] at hevaluated
  simp only [Prod.mk.injEq] at hevaluated
  obtain ⟨hwallet, hhighest, hother, hremaining⟩ := hevaluated
  rcases hnext with hcontiguous | hall
  · have hnext := hcontiguous "aidn1wallet"
    rw [hwallet, hhighest] at hnext
    cases hnext
  · have hnext := hall "aidn1other"
    rw [hother, hremaining] at hnext
    cases hnext

end AidnSpec.Ledger
