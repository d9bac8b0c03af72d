import AidnSpec.Base.Conversions
import AidnSpec.Ledger.Operation

/-!
# Endpoint publications

`endpoint_publications/models.py`, `endpoint_publications/signing.py` and
`ledger/service.py:2508–2626`: a publication is a signed configuration of an endpoint, and its
validation compares it with every publication in the log.
-/

namespace AidnSpec.Ledger

open Base Option

/-! ## The configuration hash -/

mutual
/-- The text of `json.dumps(value, sort_keys=True)`. -/
def spacedText : PyValue → List Char
  | .none => "null".toList
  | .bool b => (if b then "true" else "false").toList
  | .int n => (toString n).toList
  | .float repr _ => repr.toList
  | .nonFinite repr => repr.toList
  | .str s => quoteText s
  | .list items => '[' :: [',', ' '].intercalate (spacedItems items) ++ [']']
  | .dict members =>
    '\x7b' :: [',', ' '].intercalate ((sortMembers (spacedMembers members)).map
      fun m => quoteText m.1 ++ ':' :: ' ' :: m.2) ++ ['\x7d']
def spacedItems : List PyValue → List (List Char)
  | [] => []
  | item :: items => spacedText item :: spacedItems items
def spacedMembers : List (String × PyValue) → List (String × List Char)
  | [] => []
  | (key, value) :: members => (key, spacedText value) :: spacedMembers members
end

@[irreducible] def configurationHashForPublication (payload : Fields) : String :=
  hexEncode false (sha256 (asciiBytes (spacedText (.dict payload))))

/-! ## The model -/

/-- Behaviour that a publication rests on and the ledger does not contain. -/
class PublicationLibrary where
  /-- The boolean a declared `bool` field makes of a value that is not a `bool`. -/
  coerceBool : PyValue → Option Bool
  /-- `EndpointMarketplaceDescription.model_validate(value).model_dump(mode="json")`. -/
  marketplaceDescription : PyValue → Option PyValue

structure PublishedEndpointConfiguration where
  schemaVersion : String
  publicationId : String
  endpointId : String
  ownerWallet : String
  ownerPublicKey : Option String
  nodeId : String
  configurationHash : String
  previousConfigurationHash : Option String
  bundleId : String
  bundleHash : String
  modelClass : String
  capabilities : List String
  localAgentUse : Option Bool
  profile : Fields
  runtime : Fields
  publication : Fields
  pricing : Fields
  session : Fields
  execution : Fields
  runtimeParameterPolicy : Fields
  validationRequirement : Fields
  publishedAt : String
  sequence : Int
  status : String
  walletSignature : String

/-- A declared `dict` field with an empty default. -/
def fieldDict (fields : Fields) (key : String) : Option Fields :=
  match fields.lookup key with
  | none => some []
  | some (.dict members) => some members
  | some _ => none

/-- A declared `bool | None = None` field. -/
def fieldOptBool [PublicationLibrary] (fields : Fields) (key : String) : Option (Option Bool) :=
  match fields.lookup key with
  | none => some none
  | some .none => some none
  | some (.bool b) => some (some b)
  | some value => (PublicationLibrary.coerceBool value).map some

def sanitizeMarketplaceDescription [PublicationLibrary] (fields : Fields) : Option Fields :=
  match PyValue.get fields "profile" with
  | .dict profile =>
    match PyValue.get profile "marketplace_description" with
    | .none => some fields
    | description => do
      let normalized ← PublicationLibrary.marketplaceDescription description
      return Dict.put "profile" (.dict (Dict.put "marketplace_description" normalized profile))
        fields
  | _ => some fields

namespace PublishedEndpointConfiguration

def commonPayload (p : PublishedEndpointConfiguration) : Fields :=
  [("bundle_hash", .str p.bundleHash), ("model_class", .str p.modelClass), ("capabilities",
    .list ((p.capabilities.mergeSort (· ≤ ·)).map .str)), ("runtime", .dict p.runtime),
    ("publication", .dict p.publication), ("pricing", .dict p.pricing), ("session",
    .dict p.session), ("execution", .dict p.execution)]

/-- The marketplace description, where the profile has one. -/
def describedPart (p : PublishedEndpointConfiguration) : Fields :=
  match PyValue.get p.profile "marketplace_description" with
  | .none => []
  | description => [("marketplace_description", description)]

def canonicalConfigurationPayload (p : PublishedEndpointConfiguration) : Fields :=
  p.commonPayload ++ p.describedPart ++
    if p.runtimeParameterPolicy.isEmpty then []
    else [("runtime_parameter_policy", .dict p.runtimeParameterPolicy)]

/-- `expected_hashes`: the hash of the payload, and the two commitments of earlier versions. -/
def expectedHashes (p : PublishedEndpointConfiguration) : List String :=
  configurationHashForPublication p.canonicalConfigurationPayload ::
    ((if p.localAgentUse = some true then
        [configurationHashForPublication
          (Dict.put "local_agent_use" (.bool true) p.canonicalConfigurationPayload)]
      else []) ++
    if p.describedPart.isEmpty then []
      else [configurationHashForPublication p.commonPayload])

/-- `model_validate`; `none` stands for its `ValidationError`. -/
def modelValidate [Runtime] [PublicationLibrary] (declared : Fields) :
    Option PublishedEndpointConfiguration := do
  let fields ← sanitizeMarketplaceDescription declared
  let schemaVersion ← fieldTextD fields "schema_version" "epcfg.v1"
  let publicationId ← fieldText fields "publication_id" false
  let endpointId ← fieldText fields "endpoint_id" false
  let ownerWallet ← fieldText fields "owner_wallet" false
  let ownerPublicKey ← fieldOptText fields "owner_public_key"
  let nodeId ← fieldText fields "node_id" false
  let configurationHash ← fieldText fields "configuration_hash" false
  let previousConfigurationHash ← fieldOptText fields "previous_configuration_hash"
  let bundleId ← fieldText fields "bundle_id" false
  let bundleHash ← fieldText fields "bundle_hash" false
  let modelClass ← fieldText fields "model_class" false
  let capabilities ← fieldTexts fields "capabilities"
  let localAgentUse ← fieldOptBool fields "local_agent_use"
  let profile ← fieldDict fields "profile"
  let runtime ← fieldDict fields "runtime"
  let publication ← fieldDict fields "publication"
  let pricing ← fieldDict fields "pricing"
  let session ← fieldDict fields "session"
  let execution ← fieldDict fields "execution"
  let runtimeParameterPolicy ← fieldDict fields "runtime_parameter_policy"
  let validationRequirement ← fieldDict fields "validation_requirement"
  let publishedAt ← fieldText fields "published_at" false
  let sequence ← fieldInt fields "sequence"
  let status ← fieldLiteralD fields "status"
    (fun text => ["published", "superseded", "revoked"].find? (· == text)) "published"
  let walletSignature ← fieldText fields "wallet_signature" false
  let p : PublishedEndpointConfiguration :=
    { schemaVersion, publicationId, endpointId, ownerWallet, ownerPublicKey, nodeId,
      configurationHash, previousConfigurationHash, bundleId, bundleHash, modelClass,
      capabilities, localAgentUse, profile, runtime, publication, pricing, session, execution,
      runtimeParameterPolicy, validationRequirement, publishedAt, sequence, status,
      walletSignature }
  guard (1 ≤ sequence)
  guard (p.expectedHashes.contains configurationHash)
  return p

/-- `signed_payload`: the dump without the signature, and without an unset `local_agent_use`. -/
def signedPayload (p : PublishedEndpointConfiguration) : Fields :=
  [("schema_version", .str p.schemaVersion), ("publication_id", .str p.publicationId),
    ("endpoint_id", .str p.endpointId), ("owner_wallet", .str p.ownerWallet), ("owner_public_key",
    optText p.ownerPublicKey), ("node_id", .str p.nodeId), ("configuration_hash",
    .str p.configurationHash), ("previous_configuration_hash", optText p.previousConfigurationHash),
    ("bundle_id", .str p.bundleId), ("bundle_hash", .str p.bundleHash), ("model_class",
    .str p.modelClass), ("capabilities", .list (p.capabilities.map .str))] ++
  (if p.localAgentUse = some true then [("local_agent_use", .bool true)] else []) ++
  [("profile", .dict p.profile), ("runtime", .dict p.runtime), ("publication", .dict p.publication),
    ("pricing", .dict p.pricing), ("session", .dict p.session), ("execution", .dict p.execution),
    ("runtime_parameter_policy", .dict p.runtimeParameterPolicy), ("validation_requirement",
    .dict p.validationRequirement), ("published_at", .str p.publishedAt), ("sequence",
    .int p.sequence), ("status", .str p.status)]

end PublishedEndpointConfiguration

/-! ## What the model reads -/

variable {declared : Fields} {p : PublishedEndpointConfiguration}

/-- The marketplace description is a part of the profile. -/
theorem lookup_of_sanitize [PublicationLibrary] {fields : Fields} {key : String}
    (h : sanitizeMarketplaceDescription declared = some fields) (hkey : key ≠ "profile") :
    fields.lookup key = declared.lookup key := by
  unfold sanitizeMarketplaceDescription at h
  split at h
  · split at h
    · cases h
      rfl
    · simp only [bind_eq_bind, bind_eq_some_iff, pure_def,
        some.injEq] at h
      obtain ⟨normalized, -, rfl⟩ := h
      exact lookup_put_of_ne hkey
  · cases h
    rfl

namespace PublishedEndpointConfiguration

/-- The declared members that the sequence and the predecessor of a publication come from. -/
theorem modelValidate_reads [Runtime] [PublicationLibrary] {declared : Fields}
    {p : PublishedEndpointConfiguration} (h : modelValidate declared = some p) :
    fieldInt declared "sequence" = some p.sequence ∧
      fieldOptText declared "previous_configuration_hash" = some p.previousConfigurationHash := by
  unfold modelValidate at h
  obtain ⟨fields, hfields, h⟩ := bind_eq_some_iff.mp h
  iterate 7 obtain ⟨_, -, h⟩ := bind_eq_some_iff.mp h
  obtain ⟨previous, hprevious, h⟩ := bind_eq_some_iff.mp h
  iterate 14 obtain ⟨_, -, h⟩ := bind_eq_some_iff.mp h
  obtain ⟨sequence, hsequence, h⟩ := bind_eq_some_iff.mp h
  iterate 4 obtain ⟨_, -, h⟩ := bind_eq_some_iff.mp h
  cases h
  rw [fieldInt, lookup_of_sanitize hfields (by decide)] at hsequence
  rw [fieldOptText, lookup_of_sanitize hfields (by decide)] at hprevious
  exact ⟨hsequence, hprevious⟩

end PublishedEndpointConfiguration

/-! ## Signatures -/

/-- The bytes of `bytes.fromhex(text.removeprefix("ed25519:"))`; `none` stands for its
`ValueError`. -/
def ed25519Bytes (text : String) : Option Bytes :=
  fromHexChars (removePre "ed25519:".toList text.toList)

def ed25519Verifies [Runtime] (publicKey signature : String) (message : Bytes) : Bool :=
  match ed25519Bytes publicKey, ed25519Bytes signature with
  | some key, some bytes => Runtime.ed25519Verify key bytes message
  | _, _ => false

/-- `text.startswith("ed25519:")`. -/
def isEd25519 (text : String) : Bool := "ed25519:".toList.isPrefixOf text.toList

def publicationSigningPayload (payload : Fields) : Bytes :=
  asciiBytes (canonicalText (.dict
    [("domain", .str "aidn.endpoint-configuration-publication.v1"),
      ("publication", .dict payload)]))

def verifyPublicationSignature [Runtime] (publicKey signature : String) (payload : Fields) :
    Except PyError Unit := do
  require (isEd25519 publicKey && isEd25519 signature)
    "Endpoint publication requires an Ed25519 key and signature"
  require (ed25519Verifies publicKey signature (publicationSigningPayload payload))
    "Endpoint publication signature is invalid"

/-- `envelope.signing_bytes()`. -/
def Envelope.signingBytes (env : Envelope) : Bytes :=
  asciiBytes (canonicalText (env.toValue env.operationId []))

/-- `expected_wallet_id` of a public key. -/
@[irreducible] def walletIdOfPublicKey (publicKey : String) : String :=
  "wallet-" ++ String.ofList ((hexChars false (sha256 publicKey.toUTF8.toList)).take 12)

/-! ## The operation -/

/-- What `validate_consensus_endpoint_publish` checks before it reads the log: the declared
publication, and the publication. -/
def publicationOf [Runtime] [PublicationLibrary] (env : Envelope) :
    Except PyError (Fields × PublishedEndpointConfiguration) := do
  require (env.operationType == "ENDPOINT_PUBLISH") "endpoint publication requires ENDPOINT_PUBLISH"
  require (env.originType == .wallet) "endpoint publication requires wallet origin"
  require (env.feeClass == .standard) "endpoint publication requires standard fee class"
  require (env.senderWallet.isSome && env.feePayer == env.senderWallet)
    "endpoint publication requires one wallet fee payer"
  let declared ← requireDict env.payload "publication"
    "endpoint publication payload is missing publication"
  match PublishedEndpointConfiguration.modelValidate declared with
  | none => raiseValue "endpoint publication payload is invalid: "
  | some publication =>
    require (publication.status == "published") "endpoint publication status must be published"
    require (env.initiatorId == some publication.endpointId)
      "endpoint publication initiator does not match Endpoint"
    require (some publication.ownerWallet == env.senderWallet)
      "endpoint publication owner does not match sender wallet"
    let publicKey := publication.ownerPublicKey.getD ""
    require (!publicKey.isEmpty) "endpoint publication requires an owner public key"
    require (publication.ownerWallet == walletIdOfPublicKey publicKey)
      "endpoint publication owner wallet does not match public key"
    verifyPublicationSignature publicKey publication.walletSignature publication.signedPayload
    match env.signatures with
    | [signature] =>
      require (isEd25519 signature) "endpoint publication envelope signature is invalid"
      require (ed25519Verifies publicKey signature env.signingBytes)
        "endpoint publication envelope signature verification failed"
      return (declared, publication)
    | _ => raiseValue "endpoint publication requires exactly one wallet signature"

def committedPublication (operation : LedgerOperationRecord) : Option Fields :=
  if operation.operationType ≠ "ENDPOINT_PUBLISH" then none
  else
    match PyValue.get operation.payload "publication" with
    | .dict existing => some existing
    | _ => none

/-- `int(existing_publication.get("sequence", 0))`. -/
def committedSequence (existing : Fields) : Except PyError Int :=
  match existing.lookup "sequence" with
  | none => .ok 0
  | some value => value.toInt

/-- The comparison of a publication with one operation of the log. -/
def compareWithCommitted (declared : Fields) (publication : PublishedEndpointConfiguration)
    (operation : LedgerOperationRecord) : Except PyError Unit :=
  match committedPublication operation with
  | none => return ()
  | some existing =>
    if PyValue.get existing "publication_id" = .str publication.publicationId then
      if PyValue.eqv (.dict existing) (.dict declared) then
        raiseValue "endpoint publication is already committed"
      else raiseValue "endpoint publication id is already bound to another record"
    else if PyValue.get existing "endpoint_id" ≠ .str publication.endpointId then return ()
    else do
      require (PyValue.get existing "configuration_hash" != .str publication.configurationHash)
        "endpoint publication configuration is already committed"
      let sequence ← committedSequence existing
      require (publication.sequence == sequence + 1) "endpoint publication sequence is invalid"
      require (optText publication.previousConfigurationHash ==
          PyValue.get existing "configuration_hash")
        "endpoint publication previous hash is invalid"

/-- The part of `validate_consensus_endpoint_publish` that reads the log. -/
def validateAgainstLog (declared : Fields) (publication : PublishedEndpointConfiguration)
    (operations : List LedgerOperationRecord) : Except PyError Unit := do
  operations.forM (compareWithCommitted declared publication)
  require (!(publication.sequence == 1 && publication.previousConfigurationHash.isSome))
    "first endpoint publication cannot have a previous hash"

/-- `validate_consensus_endpoint_publish`. -/
def validateEndpointPublish [Runtime] [PublicationLibrary] (env : Envelope) (L : LedgerState) :
    Except PyError PublishedEndpointConfiguration := do
  let (declared, publication) ← publicationOf env
  validateAgainstLog declared publication L.operations
  return publication

def endpointPublication (endpointId : String) (operation : LedgerOperationRecord) :
    Option Fields :=
  (committedPublication operation).filter fun p => PyValue.get p "endpoint_id" == .str endpointId

/-- `canonical_endpoint_publication`; every record has the status `applied`. -/
def canonicalEndpointPublication (L : LedgerState) (endpointId : String) : Option Fields :=
  L.operations.reverse.findSome? (endpointPublication endpointId)

/-- The committed publications of an endpoint, in the order of the log. -/
def publications (operations : List LedgerOperationRecord) (endpointId : String) : List Fields :=
  operations.filterMap (endpointPublication endpointId)

/-- The rules of a ledger with the validation of publications as the source has it. -/
@[reducible] def publicationRules [Runtime] [PublicationLibrary] (rules : LedgerRules) :
    LedgerRules :=
  { rules with
    recorded := fun kind env finalized L =>
      match kind with
      | .endpointPublish => do
        let _ ← validateEndpointPublish env L
        return ["EndpointPublished"]
      | kind => rules.recorded kind env finalized L }

/-! ## What passes -/

theorem canonicalEndpointPublication_eq (L : LedgerState) (endpointId : String) :
    canonicalEndpointPublication L endpointId =
      (publications L.operations endpointId).getLast? := by
  rw [canonicalEndpointPublication, publications, ← List.head?_filterMap, List.filterMap_reverse,
    List.head?_reverse]

/-- A publication passes an operation of the log that does not stand against it. -/
def Follows (p : PublishedEndpointConfiguration) (existing : Fields) : Prop :=
  PyValue.get existing "configuration_hash" ≠ .str p.configurationHash ∧
    committedSequence existing = .ok (p.sequence - 1) ∧
    optText p.previousConfigurationHash = PyValue.get existing "configuration_hash"

theorem compareWithCommitted_eq_ok {operation : LedgerOperationRecord} :
    compareWithCommitted declared p operation = .ok () ↔
      (∀ existing, committedPublication operation = some existing →
        PyValue.get existing "publication_id" ≠ .str p.publicationId) ∧
      ∀ existing, endpointPublication p.endpointId operation = some existing →
        Follows p existing := by
  unfold compareWithCommitted endpointPublication
  cases h : committedPublication operation with
  | none => simp [pure, Except.pure]
  | some existing =>
    by_cases hid : PyValue.get existing "publication_id" = .str p.publicationId
    · by_cases heqv : PyValue.eqv (.dict existing) (.dict declared) = true
      · simp [raiseValue, hid, heqv]
      · simp [raiseValue, hid, heqv]
    by_cases hendpoint : PyValue.get existing "endpoint_id" = .str p.endpointId
    · have hsequence : ∀ n : Int, p.sequence = n + 1 ↔ n = p.sequence - 1 := by
        intro n
        omega
      simp [hid, hendpoint, Follows, bind_eq_ok, hsequence]
    · simp [hid, hendpoint, pure, Except.pure]

/-- A pass over a list returns exactly when it returns at every item. -/
theorem forM_eq_ok {ε α : Type} {f : α → Except ε Unit} {xs : List α} :
    xs.forM f = .ok () ↔ ∀ x ∈ xs, f x = .ok () := by
  induction xs with
  | nil => simp [pure, Except.pure]
  | cons x xs ih =>
    show (f x >>= fun _ => xs.forM f) = .ok () ↔ _
    rw [bind_eq_ok, List.forall_mem_cons, ← ih]
    exact ⟨fun ⟨(), hx, hrest⟩ => ⟨hx, hrest⟩, fun ⟨hx, hrest⟩ => ⟨(), hx, hrest⟩⟩

/-- The log stands against a publication by its identities and by the publications of its
endpoint, and a first publication has no predecessor. -/
theorem validateAgainstLog_eq_ok {operations : List LedgerOperationRecord} :
    validateAgainstLog declared p operations = .ok () ↔
      (∀ existing ∈ operations.filterMap committedPublication,
        PyValue.get existing "publication_id" ≠ .str p.publicationId) ∧
      (∀ existing ∈ publications operations p.endpointId, Follows p existing) ∧
      (p.sequence = 1 → p.previousConfigurationHash = none) := by
  have hfirst : (!(p.sequence == 1 && p.previousConfigurationHash.isSome)) = true ↔
      (p.sequence = 1 → p.previousConfigurationHash = none) := by
    simp [imp_iff_not_or]
  rw [validateAgainstLog, bind_eq_ok]
  simp only [require_eq_ok, hfirst, publications, List.mem_filterMap]
  constructor
  · rintro ⟨⟨⟩, hall, hprevious⟩
    have hall := forM_eq_ok.mp hall
    refine ⟨?_, ?_, hprevious⟩
    · rintro existing ⟨operation, hmem, hcommitted⟩
      exact (compareWithCommitted_eq_ok.mp (hall operation hmem)).1 existing hcommitted
    · rintro existing ⟨operation, hmem, hcommitted⟩
      exact (compareWithCommitted_eq_ok.mp (hall operation hmem)).2 existing hcommitted
  · rintro ⟨hids, hfollows, hprevious⟩
    refine ⟨(), forM_eq_ok.mpr fun operation hmem => ?_, hprevious⟩
    exact compareWithCommitted_eq_ok.mpr ⟨fun existing h => hids existing ⟨operation, hmem, h⟩,
      fun existing h => hfollows existing ⟨operation, hmem, h⟩⟩

theorem validateEndpointPublish_eq_ok [Runtime] [PublicationLibrary] {env : Envelope}
    {L : LedgerState} :
    validateEndpointPublish env L = .ok p ↔
      ∃ declared, publicationOf env = .ok (declared, p) ∧
        validateAgainstLog declared p L.operations = .ok () := by
  simp only [validateEndpointPublish, checks_eq_ok, Prod.exists]
  constructor
  · rintro ⟨declared, q, hof, ⟨⟩, hlog, rfl⟩
    exact ⟨declared, hof, hlog⟩
  · rintro ⟨declared, hof, hlog⟩
    exact ⟨declared, p, hof, (), hlog, rfl⟩

end AidnSpec.Ledger
