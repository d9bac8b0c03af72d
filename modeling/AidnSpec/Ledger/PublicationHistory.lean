import AidnSpec.Base.DigestInjection
import AidnSpec.Ledger.EndpointPublish
import AidnSpec.Ledger.Schedules
import AidnSpec.Ledger.Supply

/-!
# The publication history of an endpoint

A publication is compared with every publication of its endpoint, not with the latest one, so its
sequence must be the successor of each of theirs. The history of an endpoint is a chain that can
grow as long as it has at most one publication, and that one the sequence 1.
-/

namespace AidnSpec.Ledger

open Base PublishedEndpointConfiguration List Option

/-- Publications that continue a history: the next sequence, and the hash of the predecessor. -/
def ChainFrom (sequence : Int) (previous : PyValue) : List Fields → Prop
  | [] => True
  | p :: rest =>
    committedSequence p = .ok (sequence + 1) ∧
      PyValue.get p "previous_configuration_hash" = previous ∧
      ChainFrom (sequence + 1) (PyValue.get p "configuration_hash") rest

/-- The sequences are `1, 2, …` and each publication names the hash of its predecessor. -/
def HashChain (history : List Fields) : Prop := ChainFrom 0 .none history

/-- The hash that the next publication of a history names. -/
def latestHash (history : List Fields) : PyValue :=
  (history.getLast?.map fun p => PyValue.get p "configuration_hash").getD .none

/-- A correctly signed publication of an endpoint by its owner, with a new identity, a new
configuration hash, the next sequence and the hash of the latest publication. -/
structure NextPublication [Runtime] [PublicationLibrary] (L : LedgerState) (endpointId : String)
    (env : Envelope) (declared : Fields) (p : PublishedEndpointConfiguration) : Prop where
  signed : publicationOf env = .ok (declared, p)
  endpoint : p.endpointId = endpointId
  newId : ∀ existing ∈ L.operations.filterMap committedPublication,
    PyValue.get existing "publication_id" ≠ .str p.publicationId
  newHash : ∀ existing ∈ publications L.operations endpointId,
    PyValue.get existing "configuration_hash" ≠ .str p.configurationHash
  sequence : p.sequence = (publications L.operations endpointId).length + 1
  previous : optText p.previousConfigurationHash = latestHash (publications L.operations endpointId)

/-- A declared `int` field and `int()` never make two different integers of one value. -/
def CoercesAsInt [Runtime] : Prop :=
  ∀ value n m, Runtime.coerceInt value = some n → value.toInt = .ok m → m = n

/-! ## Runs -/

/-- Every publication in the log was checked against the log before it. -/
def PublicationsChecked [Runtime] [PublicationLibrary] (operations : List LedgerOperationRecord) :
    Prop :=
  ∀ before r after existing, operations = before ++ r :: after →
    committedPublication r = some existing →
    ∃ p, modelValidate existing = some p ∧
      validateAgainstLog existing p before = .ok ()

section Runs

variable [Runtime] [PublicationLibrary]

variable {operations : List LedgerOperationRecord} {p : PublishedEndpointConfiguration}
  {existing : Fields}

theorem PublicationsChecked.append (h : PublicationsChecked operations) {r : LedgerOperationRecord}
    (hr : ∀ existing, committedPublication r = some existing → ∃ p,
      modelValidate existing = some p ∧
      validateAgainstLog existing p operations = .ok ()) :
    PublicationsChecked (operations ++ [r]) := by
  intro before x after existing hsplit hx
  rcases eq_nil_or_concat after with rfl | ⟨rest, y, rfl⟩
  · obtain ⟨rfl, hlast⟩ := append_inj' hsplit rfl
    cases hlast
    exact hr existing hx
  · rw [concat_eq_append, ← cons_append, ← append_assoc] at hsplit
    obtain ⟨rfl, -⟩ := append_inj' hsplit rfl
    exact h before x rest existing rfl hx

/-- The declared publication of an envelope is the one that its record commits. -/
theorem publicationOf_declared {env : Envelope} {declared : Fields}
    (h : publicationOf env = .ok (declared, p)) :
    PyValue.get env.payload "publication" = .dict declared ∧
      modelValidate declared = some p := by
  simp only [publicationOf, checks_eq_ok, requireDict_eq_ok, exists_and_left, exists_const] at h
  obtain ⟨-, -, -, -, found, hfound, h⟩ := h
  split at h
  · cases h
  · next publication hvalid =>
    simp only [checks_eq_ok, exists_and_left, exists_const] at h
    obtain ⟨-, -, -, -, -, -, -, h⟩ := h
    split at h
    · simp only [checks_eq_ok, exists_and_left, exists_const] at h
      obtain ⟨-, -, heq⟩ := h
      cases heq
      exact ⟨hfound, hvalid⟩
    · cases h

omit [Runtime] [PublicationLibrary] in
/-- Publications are recorded only by their own operation. -/
theorem ConsensusOp.eq_endpointPublish {op : ConsensusOp}
    (h : "ENDPOINT_PUBLISH" ∈ op.operationTypes) :
    ∃ finalized, op = .recorded .endpointPublish op.envelope finalized := by
  cases op with
  | recorded kind env finalized =>
    cases kind with
    | endpointPublish => exact ⟨finalized, rfl⟩
    | _ => simp [operationTypes, RecordedKind.operationTypes] at h
  | development kind env finalized =>
    cases kind <;> simp [operationTypes, DevelopmentKind.operationType] at h
  | developmentPayment kind env finalized =>
    cases kind <;> simp [operationTypes, PaymentKind.operationType] at h
  | _ => simp [operationTypes] at h

variable (rules : LedgerRules)

/-- The validation behind a recorded publication. -/
theorem ConsensusOp.records_publication (op : ConsensusOp) :
    letI := publicationRules rules
    Records op.apply op.envelope fun L => op.envelope.operationType = "ENDPOINT_PUBLISH" →
      ∃ p, validateEndpointPublish op.envelope L = .ok p := by
  let _ := publicationRules rules
  by_cases h : "ENDPOINT_PUBLISH" ∈ op.operationTypes
  · obtain ⟨finalized, hop⟩ := op.eq_endpointPublish h
    rw [hop]
    refine (writes_applyConsensus (fun L v hv _ => ?_) fun _ => keeps_pure _).commits.records
      fun _ _ h => h
    rw [validateRecorded, bind_eq_ok] at hv
    obtain ⟨⟨⟩, -, hv⟩ := hv
    obtain ⟨p, hp, -⟩ := bind_eq_ok.mp hv
    exact ⟨p, hp⟩
  · refine op.records.mono fun L htype heq => absurd ?_ h
    rw [← heq]
    exact htype

/-- Along every run the publications in the log were checked. -/
theorem publicationsChecked_of_reachable {L : LedgerState}
    (h : letI := publicationRules rules; Reachable L) : PublicationsChecked L.operations := by
  let _ := publicationRules rules
  refine Reachable.induct (P := fun L => PublicationsChecked L.operations) ?_ ?_ h
  · intro balances manifest before r after existing hsplit
    exact absurd hsplit (by simp [genesis])
  · intro L op hL
    show PublicationsChecked (op.after L).operations
    rw [op.after_eq_leaves]
    rcases op.records_publication rules L with hcore | ⟨events, next, hvalid, -, hcore⟩
    · rw [show (leaves op.apply L).operations = L.operations from
        congrArg LedgerCore.operations hcore]
      exact hL
    · rw [show (leaves op.apply L).operations = _ from congrArg LedgerCore.operations hcore]
      refine hL.append fun existing hexisting => ?_
      rw [committedPublication] at hexisting
      split at hexisting
      · cases hexisting
      · next htype =>
        obtain ⟨p, hp⟩ := hvalid (not_not.mp htype)
        obtain ⟨declared, hof, hlog⟩ := validateEndpointPublish_eq_ok.mp hp
        obtain ⟨hpayload, hmodel⟩ := publicationOf_declared hof
        rw [show (admittedRecord L op.envelope events next).payload = op.envelope.payload from rfl,
          hpayload] at hexisting
        cases hexisting
        exact ⟨p, hmodel, hlog⟩

/-! ## Histories -/

/-- What the model reads of a sequence is what `int()` reads. -/
theorem sequence_of_committed (coerces : CoercesAsInt)
    (hmodel : modelValidate existing = some p) {n : Int}
    (hsequence : committedSequence existing = .ok n) : p.sequence = n := by
  obtain ⟨value, hlookup, hlax⟩ :=
    bind_eq_some_iff.mp (modelValidate_reads hmodel).1
  rw [committedSequence, hlookup] at hsequence
  unfold laxInt at hlax
  split at hlax
  · cases hlax
    exact Except.ok.inj hsequence
  · exact (coerces value _ n hlax hsequence).symm

/-- A publication without a predecessor names none. -/
theorem previous_of_none (hmodel : modelValidate existing = some p)
    (hprevious : p.previousConfigurationHash = none) :
    PyValue.get existing "previous_configuration_hash" = .none := by
  have hread := (modelValidate_reads hmodel).2
  rw [hprevious, fieldOptText] at hread
  rw [PyValue.get]
  split at hread
  · next hlookup => rw [hlookup, getD_none]
  · next hlookup => rw [hlookup, getD_some]
  · cases hread
  · cases hread

/-- A committed publication with the sequence 1 names no predecessor. -/
theorem previous_of_first (coerces : CoercesAsInt) (h : PublicationsChecked operations)
    {endpointId : String} {first : Fields} (hmem : first ∈ publications operations endpointId)
    (hsequence : committedSequence first = .ok 1) :
    PyValue.get first "previous_configuration_hash" = .none := by
  obtain ⟨r, hr, hfirst⟩ := mem_filterMap.mp hmem
  obtain ⟨before, after, hsplit⟩ := append_of_mem hr
  obtain ⟨p, hmodel, hlog⟩ := h before r after first hsplit (filter_eq_some_iff.mp hfirst).1
  apply previous_of_none hmodel
  apply (validateAgainstLog_eq_ok.mp hlog).2.2
  exact sequence_of_committed coerces hmodel hsequence

end Runs

/-- The history of an endpoint is a chain, the latest publication is the canonical one and the
next publication is accepted, exactly when the endpoint has no publication yet, or one with the
sequence 1. -/
theorem publication_history_grows_iff [Runtime] [PublicationLibrary] {rules : LedgerRules}
    (coerces : CoercesAsInt) {L : LedgerState}
    (reachable : letI := publicationRules rules; Reachable L) {endpointId : String}
    {env : Envelope} {declared : Fields} {p : PublishedEndpointConfiguration}
    (next : NextPublication L endpointId env declared p) :
    (HashChain (publications L.operations endpointId) ∧
      canonicalEndpointPublication L endpointId =
        (publications L.operations endpointId).getLast? ∧
      validateEndpointPublish env L = .ok p) ↔
    publications L.operations endpointId = [] ∨
      ∃ first, publications L.operations endpointId = [first] ∧
        committedSequence first = .ok 1 := by
  have hchecked := publicationsChecked_of_reachable rules reachable
  constructor
  · rintro ⟨hchain, -, hvalid⟩
    obtain ⟨declared', hof, hlog⟩ := validateEndpointPublish_eq_ok.mp hvalid
    obtain ⟨-, hfollows, -⟩ := validateAgainstLog_eq_ok.mp hlog
    rw [next.endpoint] at hfollows
    have hsequence := next.sequence
    cases hpubs : publications L.operations endpointId with
    | nil => exact .inl rfl
    | cons first rest =>
      -- the new sequence follows the first one, so no second publication stands between them
      rw [hpubs] at hchain hfollows hsequence
      have hone : committedSequence first = .ok 1 := hchain.1
      have hnext := (hfollows first List.mem_cons_self).2.1
      rw [hone] at hnext
      have hlength : p.sequence = 2 := by
        have := Except.ok.inj hnext
        omega
      rw [List.length_cons] at hsequence
      have hrest : rest = [] := by
        rw [← List.length_eq_zero_iff]
        omega
      exact .inr ⟨first, by rw [hrest], hone⟩
  · intro hshort
    have hcanonical := canonicalEndpointPublication_eq L endpointId
    have hsequence := next.sequence
    have hprevious := next.previous
    rcases hshort with hnil | ⟨first, hone, hfirst⟩
    · rw [hnil] at hsequence hprevious ⊢
      refine ⟨trivial, by rw [hcanonical, hnil], validateEndpointPublish_eq_ok.mpr
        ⟨declared, next.signed, validateAgainstLog_eq_ok.mpr ⟨next.newId, ?_, ?_⟩⟩⟩
      · rw [next.endpoint, hnil]
        exact fun _ h => absurd h List.not_mem_nil
      · intro _
        cases hp : p.previousConfigurationHash with
        | none => rfl
        | some hash =>
          rw [hp] at hprevious
          cases hprevious
    · have hmem : first ∈ publications L.operations endpointId := by
        rw [hone]
        exact List.mem_cons_self
      have hstart := previous_of_first coerces hchecked hmem hfirst
      have hhash := next.newHash first hmem
      rw [hone] at hsequence hprevious ⊢
      refine ⟨⟨hfirst, hstart, trivial⟩, by rw [hcanonical, hone],
        validateEndpointPublish_eq_ok.mpr
          ⟨declared, next.signed, validateAgainstLog_eq_ok.mpr ⟨next.newId, ?_, ?_⟩⟩⟩
      · rw [next.endpoint, hone]
        rintro existing hexisting
        obtain rfl := List.mem_singleton.mp hexisting
        refine ⟨hhash, ?_, hprevious⟩
        rw [hfirst, hsequence]
        rfl
      · intro hsecond
        rw [hsequence] at hsecond
        cases hsecond

/-! ## Three publications of one owner -/

@[reducible] def ownerRuntime : Runtime where
  coerceInt _ := none
  fromisoformat _ := none
  ed25519Verify _ _ _ := true

@[reducible] def plainLibrary : PublicationLibrary where
  coerceBool _ := none
  marketplaceDescription _ := none

def ownerKey : String := "ed25519:d75a980182b10ab7d54bfed3c964073a0ee172f3daa62325af021a68f707511a"

/-- What one publication of the owner differs in from another. -/
structure OwnPublication where
  publicationId : String
  bundleHash : String
  configurationHash : String
  previous : Option String
  sequence : Nat
  walletSignature : String
  operationId : String
  signature : String

namespace OwnPublication

/-- The configuration that the publication commits to. -/
def payload (bundleHash : String) : Fields :=
  [("bundle_hash", .str bundleHash), ("model_class", .str "chat"), ("capabilities", .list []),
    ("runtime", .dict []), ("publication", .dict []), ("pricing", .dict []),
    ("session", .dict []), ("execution", .dict [])]

def declared (o : OwnPublication) : Fields :=
  [("publication_id", .str o.publicationId), ("endpoint_id", .str "endpoint-1"), ("owner_wallet",
    .str "wallet-2a39c1961d5e"), ("owner_public_key", .str ownerKey), ("node_id", .str "node-1"),
    ("configuration_hash", .str o.configurationHash), ("previous_configuration_hash",
    optText o.previous), ("bundle_id", .str "bundle-1"), ("bundle_hash", .str o.bundleHash),
    ("model_class", .str "chat"), ("published_at", .str "2026-01-01T00:00:00Z"), ("sequence",
    .int o.sequence), ("wallet_signature", .str o.walletSignature)]

def read (o : OwnPublication) : PublishedEndpointConfiguration where
  schemaVersion := "epcfg.v1"
  publicationId := o.publicationId
  endpointId := "endpoint-1"
  ownerWallet := "wallet-2a39c1961d5e"
  ownerPublicKey := some ownerKey
  nodeId := "node-1"
  configurationHash := o.configurationHash
  previousConfigurationHash := o.previous
  bundleId := "bundle-1"
  bundleHash := o.bundleHash
  modelClass := "chat"
  capabilities := []
  localAgentUse := none
  profile := []
  runtime := []
  publication := []
  pricing := []
  session := []
  execution := []
  runtimeParameterPolicy := []
  validationRequirement := []
  publishedAt := "2026-01-01T00:00:00Z"
  sequence := o.sequence
  status := "published"
  walletSignature := o.walletSignature

def envelope (o : OwnPublication) : Envelope where
  operationType := "ENDPOINT_PUBLISH"
  originType := .wallet
  initiatorId := some "endpoint-1"
  senderWallet := some "wallet-2a39c1961d5e"
  senderSequence := some o.sequence
  feePayer := some "wallet-2a39c1961d5e"
  createdAt := "2026-01-01T00:00:00Z"
  payload := [("publication", .dict o.declared)]
  signatures := [o.signature]
  operationId := o.operationId

theorem ownerKey_reads : walletIdOfPublicKey ownerKey = "wallet-2a39c1961d5e" ∧
    (ed25519Bytes ownerKey).isSome = true ∧ isEd25519 ownerKey = true := by
  rw [walletIdOfPublicKey]
  decide +kernel

theorem spacedText_payload (bundleHash : String) :
    spacedText (.dict (payload bundleHash)) =
      textChars "\x7b\"bundle_hash\": " ++ quoteText bundleHash ++
        textChars ", \"capabilities\": []" ++ textChars ", \"execution\": \x7b\x7d" ++
        textChars ", \"model_class\": " ++ textChars "\"chat\"" ++
        textChars ", \"pricing\": \x7b\x7d" ++ textChars ", \"publication\": \x7b\x7d" ++
        textChars ", \"runtime\": \x7b\x7d" ++ textChars ", \"session\": \x7b\x7d\x7d" := by
  have hsorted : sortMembers (spacedMembers (payload bundleHash)) =
      [("bundle_hash", quoteText bundleHash), ("capabilities", "[]".toList),
        ("execution", "\x7b\x7d".toList), ("model_class", quoteText "chat"),
        ("pricing", "\x7b\x7d".toList),
        ("publication", "\x7b\x7d".toList), ("runtime", "\x7b\x7d".toList),
        ("session", "\x7b\x7d".toList)] := by
    simp [sortMembers, spacedMembers, spacedText, spacedItems, payload, List.mergeSort,
      List.MergeSort.Internal.splitInTwo]
  rw [spacedText, hsorted]
  simp [textChars_eq, List.intercalate, List.intersperse, quoteText, escapeChar]

variable {o : OwnPublication}

/-- The model reads a publication with the hash of its configuration. -/
theorem modelValidate_declared
    (hash : configurationHashForPublication (payload o.bundleHash) = o.configurationHash)
    (positive : 1 ≤ o.sequence) :
    letI := ownerRuntime
    letI := plainLibrary
    modelValidate o.declared = some o.read := by
  have hpayload : o.read.canonicalConfigurationPayload = payload o.bundleHash := by
    simp [canonicalConfigurationPayload, commonPayload, describedPart, payload, read, PyValue.get]
  have hexpected : o.read.expectedHashes.contains o.configurationHash = true := by
    rw [expectedHashes, hpayload, hash]
    exact contains_iff_mem.mpr mem_cons_self
  have hprevious : fieldOptText o.declared "previous_configuration_hash" = some o.previous := by
    cases hprevious : o.previous <;> simp [fieldOptText, declared, lookup_cons, hprevious, optText]
  have hpositive : (1 : Int) ≤ o.sequence := by omega
  unfold modelValidate
  refine bind_eq_some_iff.mpr ⟨o.declared, rfl, ?_⟩
  -- the members in the order of the model, with the predecessor as the eighth
  iterate 7 refine bind_eq_some_iff.mpr ⟨_, rfl, ?_⟩
  refine bind_eq_some_iff.mpr ⟨o.previous, hprevious, ?_⟩
  iterate 17 refine bind_eq_some_iff.mpr ⟨_, rfl, ?_⟩
  refine bind_eq_some_iff.mpr ⟨(), if_pos hpositive, ?_⟩
  exact bind_eq_some_iff.mpr ⟨(), if_pos hexpected, rfl⟩

/-- A publication whose hash and signatures are those of the owner passes on its own. -/
structure Signed (o : OwnPublication) : Prop where
  hash : configurationHashForPublication (payload o.bundleHash) = o.configurationHash
  positive : 1 ≤ o.sequence
  texts : isEd25519 o.walletSignature = true ∧ isEd25519 o.signature = true
  bytes : (ed25519Bytes o.walletSignature).isSome = true ∧ (ed25519Bytes o.signature).isSome = true

theorem Signed.verifies {signature : String} (h : (ed25519Bytes signature).isSome = true)
    (message : Bytes) :
    letI := ownerRuntime
    ed25519Verifies ownerKey signature message = true := by
  obtain ⟨bytes, hbytes⟩ := isSome_iff_exists.mp h
  obtain ⟨key, hkey⟩ := isSome_iff_exists.mp ownerKey_reads.2.1
  simp only [ed25519Verifies, hbytes, hkey]
  rfl

theorem Signed.publicationOf (h : o.Signed) :
    letI := ownerRuntime
    letI := plainLibrary
    Ledger.publicationOf o.envelope = .ok (o.declared, o.read) := by
  let _ := ownerRuntime
  let _ := plainLibrary
  simp only [Ledger.publicationOf, checks_eq_ok, requireDict_eq_ok, exists_unit]
  refine ⟨rfl, rfl, rfl, rfl, o.declared, rfl, ?_⟩
  rw [modelValidate_declared h.hash h.positive]
  simp only [verifyPublicationSignature, checks_eq_ok, exists_unit]
  refine ⟨rfl, rfl, rfl, rfl, ?_, ⟨?_, verifies h.bytes.1 _⟩, ?_⟩
  · rw [show o.read.ownerPublicKey.getD "" = ownerKey from rfl, ownerKey_reads.1]
    rfl
  · rw [show o.read.walletSignature = o.walletSignature from rfl, h.texts.1, Bool.and_true]
    exact ownerKey_reads.2.2
  · show (do
      require (isEd25519 o.signature) "endpoint publication envelope signature is invalid"
      require (ed25519Verifies ownerKey o.signature o.envelope.signingBytes)
        "endpoint publication envelope signature verification failed"
      pure (o.declared, o.read)) = Except.ok (o.declared, o.read)
    rw [h.texts.2, verifies h.bytes.2]
    rfl

/-- The marks and the digits of signatures are read from their characters. -/
theorem signed_of_characters {a b c d : List Char}
    (hhash : configurationHashForPublication (payload o.bundleHash) = o.configurationHash)
    (hpositive : 1 ≤ o.sequence) (hwallet : o.walletSignature = .ofList a ++ .ofList b)
    (hsignature : o.signature = .ofList c ++ .ofList d)
    (hread : ∀ cs ∈ [a ++ b, c ++ d], (textChars "ed25519:").isPrefixOf cs = true ∧
      (fromHexChars (removePre (textChars "ed25519:") cs)).isSome = true) : o.Signed := by
  simp only [textChars_eq, forall_mem_cons] at hread
  obtain ⟨⟨hwalletText, hwalletBytes⟩, ⟨htext, hbytes⟩, -⟩ := hread
  refine ⟨hhash, hpositive, ?_, ?_⟩
  · simp only [isEd25519, hwallet, hsignature, String.toList_append, String.toList_ofList,
      hwalletText, htext, and_self]
  · simp only [ed25519Bytes, hwallet, hsignature, String.toList_append, String.toList_ofList,
      hwalletBytes, hbytes, and_self]

end OwnPublication

def firstPublication : OwnPublication where
  publicationId := "publication-1"
  bundleHash := "bundle-hash-1"
  configurationHash := "ed4bab7005746e26c7b4042351a50cb0ec2a18e5aabebb38cd44b67b56230f30"
  previous := none
  sequence := 1
  walletSignature := "ed25519:16c8e39080f99508e9382ce666fb942bfa355d39003485504a60a2e472b18077" ++
    "68a6a86acdb40b47183cf1ae964956fa340dfa8d8e5d6f8f253770b1eeebab0b"
  operationId := "2603917835f727ba7072fc0054cf13b231d12bc5a7c1116a4f72123148c21084"
  signature := "ed25519:b9bc3a97b828cb5b401e0f13d6db294ab8ecf3f13bfd926c87720144b9733ae4" ++
    "ced0e342da67090e8a2ce0444994896062b15a23b2bf61e7680730c2b5ed530e"

def secondPublication : OwnPublication where
  publicationId := "publication-2"
  bundleHash := "bundle-hash-2"
  configurationHash := "db5db0e489a54a5a5dbf7620ea265d3aa99fe7ff83f0fe65a907c195eef2a867"
  previous := some firstPublication.configurationHash
  sequence := 2
  walletSignature := "ed25519:64e4d4fd165a578b553b03ef5aa34bb3115dc915571ed64f8092cb8c731139c7" ++
    "295b1f91d80992e12356b96bb6af5cccca7c892cfeeba1d57a229d3cf36c0701"
  operationId := "9e5e0075105ce03b2688347d90f0ac2d70b2b10a6b7f670c97f9dacbfef4526b"
  signature := "ed25519:5d1f2f3220b5b3311dcd277df2c4898ada9d4bae6168421819bb2d85a11abc7e" ++
    "5c1f03d0af4078e297850669026eec4b3d416948560232a4ad582b479c745404"

/-- The third one, with the hash of the second. -/
def thirdPublication : OwnPublication where
  publicationId := "publication-3"
  bundleHash := "bundle-hash-3"
  configurationHash := "8f71693b2cb1d92c298d55c130c63383efbda5f723031d39572d7c40958a381b"
  previous := some secondPublication.configurationHash
  sequence := 3
  walletSignature := "ed25519:33685757769ff0f97efc911d31d72e6d0e2928e89fd019c7f59bfd9133c0195f" ++
    "13298008fd531733468647d3eeeaca4add0c643245ba08e64282e2e34d94e506"
  operationId := "177ad54b4efb1bc14a98e39b3a231c64283efc8146c602245eb9b444fe088ffe"
  signature := "ed25519:17b3b10a00e52a86593a79117ac65aaf872453a3cd416a79abc64c35bf015400" ++
    "e4da62e83dd0e7a071b4ee28465519ceae3be153158665972536b15eaf6e770d"

theorem signed_publications :
    firstPublication.Signed ∧ secondPublication.Signed ∧ thirdPublication.Signed := by
  refine ⟨?_, ?_, ?_⟩ <;>
    apply OwnPublication.signed_of_characters _ (by decide) rfl rfl (by decide +kernel) <;>
    rw [configurationHashForPublication, OwnPublication.spacedText_payload, ← forcedSha256_eq] <;>
    decide +kernel

theorem signed_firstPublication : firstPublication.Signed := signed_publications.1

theorem signed_secondPublication : secondPublication.Signed := signed_publications.2.1

theorem signed_thirdPublication : thirdPublication.Signed := signed_publications.2.2

def OwnPublication.op (o : OwnPublication) : ConsensusOp :=
  .recorded .endpointPublish o.envelope none

def publishedOnce : LedgerState :=
  (genesis .empty none).admitted firstPublication.envelope ["EndpointPublished"] (some 2)

def publishedTwice : LedgerState :=
  publishedOnce.admitted secondPublication.envelope ["EndpointPublished"] (some 3)

/-- A publication that the log does not stand against is recorded. -/
theorem OwnPublication.Signed.after {o : OwnPublication} (h : o.Signed) {L : LedgerState}
    {next : Option Nat} (admits : Admits L o.envelope next)
    (log : validateAgainstLog o.declared o.read L.operations = .ok ()) :
    letI := ownerRuntime
    letI := plainLibrary
    letI := publicationRules noRules
    o.op.after L = L.admitted o.envelope ["EndpointPublished"] next := by
  let _ := ownerRuntime
  let _ := plainLibrary
  let _ := publicationRules noRules
  have hvalid : validateEndpointPublish o.envelope L = .ok o.read :=
    validateEndpointPublish_eq_ok.mpr ⟨o.declared, h.publicationOf, log⟩
  have hrecorded : validateRecorded .endpointPublish o.envelope none L =
      .ok ["EndpointPublished"] := by
    rw [validateRecorded, bind_eq_ok]
    exact ⟨(), rfl, bind_eq_ok.mpr ⟨o.read, hvalid, rfl⟩⟩
  exact ConsensusOp.after_of_ok
    (applyConsensus_eq_ok.mpr ⟨_, _, hrecorded, admits.admitEnvelope _, rfl⟩)

theorem after_firstPublication :
    letI := ownerRuntime
    letI := plainLibrary
    letI := publicationRules noRules
    firstPublication.op.after (genesis .empty none) = publishedOnce :=
  let _ := ownerRuntime
  let _ := plainLibrary
  let _ := publicationRules noRules
  signed_firstPublication.after ⟨rfl, rfl, rfl, by decide, by decide, by decide, rfl⟩ rfl

theorem reachable_publishedTwice :
    letI := ownerRuntime
    letI := plainLibrary
    letI := publicationRules noRules
    Reachable publishedTwice := by
  let _ := ownerRuntime
  let _ := plainLibrary
  let _ := publicationRules noRules
  refine ⟨.empty, none, [firstPublication.op, secondPublication.op], ?_⟩
  have hfirst : firstPublication.op.after (genesis .empty none) = publishedOnce :=
    after_firstPublication
  have hsecond : secondPublication.op.after publishedOnce = publishedTwice :=
    signed_secondPublication.after ⟨rfl, rfl, rfl, by decide, by decide, by decide, rfl⟩ rfl
  rw [runOps, runOps, runOps, hfirst, hsecond]

/-- After two publications that form a chain, the third one is refused. -/
theorem third_publication_refused :
    letI := ownerRuntime
    letI := plainLibrary
    letI := publicationRules noRules
    Reachable publishedTwice ∧
      HashChain (publications publishedTwice.operations "endpoint-1") ∧
      NextPublication publishedTwice "endpoint-1" thirdPublication.envelope
        thirdPublication.declared thirdPublication.read ∧
      validateEndpointPublish thirdPublication.envelope publishedTwice =
        raiseValue "endpoint publication sequence is invalid" := by
  let _ := ownerRuntime
  let _ := plainLibrary
  let _ := publicationRules noRules
  have hlog : publications publishedTwice.operations "endpoint-1" =
      [firstPublication.declared, secondPublication.declared] := rfl
  have hsigned := signed_thirdPublication.publicationOf
  refine ⟨reachable_publishedTwice, ?_, ?_, ?_⟩
  · rw [hlog]
    exact ⟨rfl, rfl, rfl, rfl, trivial⟩
  · refine ⟨hsigned, rfl, ?_, ?_, rfl, rfl⟩
    · decide
    · rw [hlog]
      decide
  · rw [validateEndpointPublish, hsigned]
    rfl

/-- After the first publication the second one is accepted. -/
theorem second_publication_accepted :
    letI := ownerRuntime
    letI := plainLibrary
    letI := publicationRules noRules
    publications publishedOnce.operations "endpoint-1" = [firstPublication.declared] ∧
      Reachable publishedOnce ∧
      NextPublication publishedOnce "endpoint-1" secondPublication.envelope
        secondPublication.declared secondPublication.read ∧
      validateEndpointPublish secondPublication.envelope publishedOnce =
        .ok secondPublication.read := by
  let _ := ownerRuntime
  let _ := plainLibrary
  let _ := publicationRules noRules
  have hlog : publications publishedOnce.operations "endpoint-1" = [firstPublication.declared] :=
    rfl
  have hreachable : Reachable publishedOnce :=
    ⟨.empty, none, [firstPublication.op], after_firstPublication.symm⟩
  have hnext : NextPublication publishedOnce "endpoint-1" secondPublication.envelope
      secondPublication.declared secondPublication.read := by
    refine ⟨signed_secondPublication.publicationOf, rfl, ?_, ?_, rfl, rfl⟩
    · decide
    · rw [hlog]
      decide
  have hcoerces : CoercesAsInt := by
    intro value n m hcoerced
    cases hcoerced
  exact ⟨hlog, hreachable, hnext, ((publication_history_grows_iff hcoerces hreachable hnext).mpr
    (.inr ⟨_, hlog, rfl⟩)).2.2⟩

end AidnSpec.Ledger
