import AidnSpec.Base.CappedSelection
import AidnSpec.Ledger.EndpointPublish

/-!
# The quorum of the protocol authority

`consensus/protocol_authority.py:40–132, 201–241`: the policy with what its constructor checks, and
the loop that matches signatures with authorities. The constructor compares keys as texts and reads
hex or base64; the loop reads hex only. A policy asks for as many keys as its threshold exactly when
its hex keys are apart and every key has a hex text, up to thresholds that are too low or too high
to tell.
-/

namespace AidnSpec.Consensus

open Base Ledger List

/-! ## Keys and signatures -/

/-- The bytes of `value.removeprefix("ed25519:")`, in hex or else in base64. -/
def decodedBytes (value : String) : Option Bytes :=
  (ed25519Bytes value).or (b64Decode (String.ofList (removePre "ed25519:".toList value.toList)))

/-- `_decode_ed25519`. -/
def decodeEd25519 (label : String) (expectedSize : ℕ) (value : String) : Except PyError Bytes :=
  if isEd25519 value then
    match decodedBytes value with
    | some raw =>
      if raw.length = expectedSize then .ok raw
      else raiseValue s!"{label} must contain {expectedSize} bytes"
    | none => raiseValue s!"{label} is invalid"
  else raiseValue s!"{label} must use ed25519 encoding"

def keyBytes (authority : String × String) : Bytes := (decodedBytes authority.2).getD []

def signatureBytes : String → Except PyError Bytes :=
  decodeEd25519 "protocol authority signature" 64

/-! ## The policy -/

structure ProtocolAuthorityPolicy where
  threshold : ℤ
  authorities : List (String × String)
  version : String := "aidn.protocol-authority.v1"

namespace ProtocolAuthorityPolicy

variable (policy : ProtocolAuthorityPolicy)

def postInit : Except PyError Unit := do
  require (policy.version == "aidn.protocol-authority.v1")
    "unsupported protocol authority policy version"
  require (1 ≤ policy.threshold) "protocol authority threshold must be positive"
  require (policy.threshold ≤ 8)
    "protocol authority threshold exceeds envelope signature capacity"
  if policy.authorities.isEmpty then
    require (policy.threshold == 1) "empty protocol authority policy must use threshold one"
  else
    require (decide (policy.authorities.map Prod.fst).Nodup)
      "protocol authority IDs must be unique"
    require (decide (policy.authorities.map Prod.snd).Nodup)
      "protocol authority public keys must be unique"
    require (policy.threshold ≤ policy.authorities.length)
      "protocol authority threshold exceeds authority set"
    policy.authorities.forM fun a => do
      require (!isBlank a.1) "protocol authority ID is required"
      let _ ← decodeEd25519 s!"protocol authority public key for {a.1}" 32 a.2

def policyHash : String :=
  canonicalHash (.dict [
    ("authorities", .list (policy.authorities.map fun a =>
      .dict [("authority_id", .str a.1), ("public_key", .str a.2)])),
    ("threshold", .int policy.threshold),
    ("version", .str policy.version)])

end ProtocolAuthorityPolicy

/-! ## The verification -/

section Verification

variable (verify : Bytes → Bytes → Bytes → Bool) (message : Bytes)
  (authorities : List (String × String))

/-- `Ed25519PublicKey.from_public_bytes(bytes.fromhex(…)).verify(…)` raises nothing. -/
def signedBy (authority : String × String) (signature : Bytes) : Bool :=
  match ed25519Bytes authority.2 with
  | some key => key.length == 32 && verify key signature message
  | none => false

/-- The inner loop: the first authority that is not matched yet and signed. -/
def matchSignature (matched : List String) (signature : Bytes) : List String :=
  match authorities.find? fun a =>
      !matched.contains a.1 && signedBy verify message a signature with
  | some a => a.1 :: matched
  | none => matched

def matchSignatures (matched : List String) : List String → Except PyError (List String)
  | [] => .ok matched
  | signature :: rest => do
    let bytes ← signatureBytes signature
    matchSignatures (matchSignature verify message authorities matched bytes) rest

def verifyProtocolOperation (policy : ProtocolAuthorityPolicy) (env : Envelope)
    (operationType operationLabel policyHashField : String) : Except PyError Unit := do
  require (env.operationType == operationType) s!"protocol authority requires {operationType}"
  require (env.originType == .protocol && env.senderWallet.isNone)
    s!"{operationLabel} requires protocol origin"
  require (!policy.authorities.isEmpty) s!"{operationType}_AUTHORITY_POLICY_REQUIRED"
  require (PyValue.get env.payload policyHashField == .str policy.policyHash)
    s!"{operationType}_AUTHORITY_POLICY_HASH_MISMATCH"
  require (policy.threshold ≤ env.signatures.length)
    s!"{operationType}_AUTHORITY_SIGNATURE_REQUIRED"
  let matched ← matchSignatures verify env.signingBytes policy.authorities [] env.signatures
  require (policy.threshold ≤ matched.length) s!"{operationType}_AUTHORITY_QUORUM_NOT_MET"

end Verification

/-! ## The law of the quorum -/

/-- Some well-formed signature of the envelope is valid for the key. -/
def SignedWith (verify : Bytes → Bytes → Bytes → Bool) (env : Envelope) (key : Bytes) : Prop :=
  ∃ signature ∈ env.signatures, ∃ bytes,
    signatureBytes signature = .ok bytes ∧ verify key bytes env.signingBytes = true

/-- As many authorities as the threshold, with distinct keys, signed an envelope of the right type
and origin that carries the hash of the policy and well-formed signatures only. -/
structure Authorized (verify : Bytes → Bytes → Bytes → Bool) (policy : ProtocolAuthorityPolicy)
    (env : Envelope) (operationType policyHashField : String) : Prop where
  operation : env.operationType = operationType
  origin : env.originType = .protocol ∧ env.senderWallet = none
  bound : PyValue.get env.payload policyHashField = .str policy.policyHash
  wellFormed : ∀ signature ∈ env.signatures, ∃ bytes, signatureBytes signature = .ok bytes
  quorum : ∃ keys ⊆ policy.authorities.map keyBytes, keys.Nodup ∧
    policy.threshold ≤ keys.length ∧ ∀ key ∈ keys, SignedWith verify env key

/-- A signature of a message is valid for at most one key. -/
def OneKeyed (verify : Bytes → Bytes → Bytes → Bool) : Prop :=
  ∀ key key' signature message, verify key signature message = true →
    verify key' signature message = true → key = key'

/-- The verification asks for the quorum, in whichever order the signatures are. -/
def KeepsQuorum (policy : ProtocolAuthorityPolicy)
    (operationType operationLabel policyHashField : String) : Prop :=
  ∀ verify, OneKeyed verify → ∀ env,
    (verifyProtocolOperation verify policy env operationType operationLabel policyHashField =
        .ok () ↔
      Authorized verify policy env operationType policyHashField) ∧
    ∀ signatures, env.signatures.Perm signatures →
      (verifyProtocolOperation verify policy { env with signatures := signatures } operationType
          operationLabel policyHashField = .ok () ↔
        verifyProtocolOperation verify policy env operationType operationLabel policyHashField =
          .ok ())

def hexAuthorities (authorities : List (String × String)) : List (String × String) :=
  authorities.filter fun a => (ed25519Bytes a.2).isSome

/-- The texts of the keys do not change how many keys are counted. -/
structure CountsKeys (policy : ProtocolAuthorityPolicy) : Prop where
  apart : 2 ≤ policy.threshold →
    policy.threshold ≤ (hexAuthorities policy.authorities).length →
      ((hexAuthorities policy.authorities).map keyBytes).Nodup
  read : policy.threshold ≤ (policy.authorities.map keyBytes).dedup.length →
    ∀ a ∈ policy.authorities, keyBytes a ∈ (hexAuthorities policy.authorities).map keyBytes

/-! ## Matching -/

section Matching

variable {verify : Bytes → Bytes → Bytes → Bool} {message : Bytes}
  {authorities : List (String × String)} {matched : List String} {seen : List Bytes}

theorem mem_hexAuthorities {a : String × String} : a ∈ hexAuthorities authorities ↔
    a ∈ authorities ∧ ed25519Bytes a.2 = some (keyBytes a) := by
  rw [hexAuthorities, mem_filter, keyBytes, decodedBytes]
  cases ed25519Bytes a.2 <;> simp

theorem hexAuthorities_sublist : (hexAuthorities authorities).Sublist authorities :=
  filter_sublist

/-- An authority with a key of 32 bytes signed when its key is in hex and verifies. -/
theorem signedBy_iff (sized : ∀ a ∈ authorities, (keyBytes a).length = 32)
    {a : String × String} (ha : a ∈ authorities) (signature : Bytes) :
    signedBy verify message a signature = true ↔
      a ∈ hexAuthorities authorities ∧ verify (keyBytes a) signature message = true := by
  have hsize := sized a ha
  rw [mem_hexAuthorities, and_iff_right ha, signedBy]
  rw [keyBytes, decodedBytes] at hsize ⊢
  cases hkey : ed25519Bytes a.2 with
  | none => simp
  | some key =>
    rw [hkey] at hsize
    simpa using fun _ => hsize

theorem matchSignature_cases (verify : Bytes → Bytes → Bytes → Bool) (message : Bytes)
    (sized : ∀ a ∈ authorities, (keyBytes a).length = 32)
    (matched : List String) (signature : Bytes) :
    (∃ a ∈ hexAuthorities authorities, verify (keyBytes a) signature message = true ∧
        a.1 ∉ matched ∧
        matchSignature verify message authorities matched signature = a.1 :: matched) ∨
      (matchSignature verify message authorities matched signature = matched ∧
        ∀ a ∈ hexAuthorities authorities, verify (keyBytes a) signature message = true →
          a.1 ∈ matched) := by
  unfold matchSignature
  cases hfind : authorities.find? fun a =>
      !matched.contains a.1 && signedBy verify message a signature with
  | none =>
    refine .inr ⟨rfl, fun a ha hverify => ?_⟩
    have hmem := hexAuthorities_sublist.mem ha
    have hnone := find?_eq_none.mp hfind a hmem
    rw [(signedBy_iff sized hmem signature).mpr ⟨ha, hverify⟩] at hnone
    simpa using hnone
  | some a =>
    have hmem := mem_of_find?_eq_some hfind
    have hsigned := find?_some hfind
    rw [Bool.and_eq_true, signedBy_iff sized hmem] at hsigned
    exact .inl ⟨a, hsigned.2.1, hsigned.2.2, by simpa using hsigned.1, rfl⟩

/-- What the loop has matched after the signatures that it has seen. -/
structure Matching (verify : Bytes → Bytes → Bytes → Bool) (message : Bytes)
    (authorities : List (String × String)) (seen : List Bytes) (matched : List String) : Prop where
  nodup : matched.Nodup
  named : ∀ name ∈ matched, ∃ a ∈ hexAuthorities authorities, a.1 = name ∧
    ∃ s ∈ seen, verify (keyBytes a) s message = true
  found : ∀ s ∈ seen, ∀ a ∈ hexAuthorities authorities, verify (keyBytes a) s message = true →
    ∃ b ∈ hexAuthorities authorities, b.1 ∈ matched ∧ verify (keyBytes b) s message = true
  atMost : matched.length ≤ (seen.filter fun s =>
    (hexAuthorities authorities).any fun a => verify (keyBytes a) s message).length

theorem matching_empty : Matching verify message authorities [] [] where
  nodup := nodup_nil
  named _ h := absurd h not_mem_nil
  found _ h := absurd h not_mem_nil
  atMost := le_rfl

namespace Matching

theorem step (h : Matching verify message authorities seen matched)
    (sized : ∀ a ∈ authorities, (keyBytes a).length = 32) (signature : Bytes) :
    Matching verify message authorities (seen ++ [signature])
      (matchSignature verify message authorities matched signature) := by
  have hold : ∀ {name}, name ∈ matched → ∃ a ∈ hexAuthorities authorities, a.1 = name ∧
      ∃ s ∈ seen ++ [signature], verify (keyBytes a) s message = true := by
    intro name hname
    obtain ⟨a, ha, rfl, s, hs, hverify⟩ := h.named name hname
    exact ⟨a, ha, rfl, s, mem_append_left _ hs, hverify⟩
  have hatMost := h.atMost
  rcases matchSignature_cases verify message sized matched signature with
    ⟨a, ha, hverify, hfresh, heq⟩ | ⟨heq, hfull⟩ <;> rw [heq]
  · refine ⟨nodup_cons.mpr ⟨hfresh, h.nodup⟩, ?_, ?_, ?_⟩
    · intro name hname
      rcases mem_cons.mp hname with rfl | hname
      · exact ⟨a, ha, rfl, signature, by simp, hverify⟩
      · exact hold hname
    · intro s hs b hb hsigned
      rcases mem_append.mp hs with hs | hs
      · obtain ⟨c, hc, hmem, hcs⟩ := h.found s hs b hb hsigned
        exact ⟨c, hc, mem_cons_of_mem _ hmem, hcs⟩
      · rw [mem_singleton.mp hs]
        exact ⟨a, ha, mem_cons_self, hverify⟩
    · have hany : ((hexAuthorities authorities).any fun a =>
          verify (keyBytes a) signature message) = true := any_eq_true.mpr ⟨a, ha, hverify⟩
      rw [filter_append, length_append, filter_cons, if_pos hany]
      simpa using hatMost
  · refine ⟨h.nodup, fun _ => hold, ?_, ?_⟩
    · intro s hs b hb hsigned
      rcases mem_append.mp hs with hs | hs
      · exact h.found s hs b hb hsigned
      · rw [mem_singleton.mp hs] at hsigned ⊢
        exact ⟨b, hb, hfull b hb hsigned, hsigned⟩
    · rw [filter_append, length_append]
      omega

theorem run (h : Matching verify message authorities seen matched)
    (sized : ∀ a ∈ authorities, (keyBytes a).length = 32) (rest : List Bytes) :
    Matching verify message authorities (seen ++ rest)
      (rest.foldl (matchSignature verify message authorities) matched) := by
  induction rest generalizing seen matched with
  | nil => simpa using h
  | cons signature rest ih => simpa using ih (h.step sized signature)

/-- A signature of no authority leaves fewer names than signatures. -/
theorem length_lt (h : Matching verify message authorities seen matched) {s : Bytes} (hs : s ∈ seen)
    (unread : ∀ a ∈ hexAuthorities authorities, ¬ verify (keyBytes a) s message = true) :
    matched.length < seen.length := by
  refine h.atMost.trans_lt (length_filter_lt_length_iff_exists.mpr ⟨s, hs, fun hany => ?_⟩)
  obtain ⟨a, ha, hverify⟩ := any_eq_true.mp hany
  exact unread a ha hverify

end Matching

def matchedAuthorities (authorities : List (String × String)) (matched : List String) :
    List (String × String) :=
  (hexAuthorities authorities).filter fun a => a.1 ∈ matched

theorem mem_matchedAuthorities {a : String × String} :
    a ∈ matchedAuthorities authorities matched ↔
      a ∈ hexAuthorities authorities ∧ a.1 ∈ matched := by
  simp [matchedAuthorities]

theorem Matching.length_eq (h : Matching verify message authorities seen matched)
    (names : (authorities.map Prod.fst).Nodup) :
    (matchedAuthorities authorities matched).length = matched.length := by
  have hsub : ((matchedAuthorities authorities matched).map Prod.fst).Sublist
      (authorities.map Prod.fst) :=
    (filter_sublist.trans hexAuthorities_sublist).map _
  rw [← length_map (f := Prod.fst)]
  apply List.Perm.length_eq
  apply (perm_ext_iff_of_nodup (names.sublist hsub) h.nodup).mpr
  intro name
  rw [mem_map]
  constructor
  · rintro ⟨a, ha, rfl⟩
    exact (mem_matchedAuthorities.mp ha).2
  · intro hname
    obtain ⟨a, ha, rfl, -⟩ := h.named name hname
    exact ⟨a, mem_matchedAuthorities.mpr ⟨ha, hname⟩, rfl⟩

theorem matchSignatures_eq_ok {signatures result : List String} :
    matchSignatures verify message authorities matched signatures = .ok result ↔
      ∃ seen : List Bytes, signatures.map signatureBytes = seen.map .ok ∧
        seen.foldl (matchSignature verify message authorities) matched = result := by
  induction signatures generalizing matched with
  | nil =>
    rw [matchSignatures, Except.ok.injEq]
    constructor
    · rintro rfl
      exact ⟨[], rfl, rfl⟩
    · rintro ⟨seen, hseen, rfl⟩
      rw [map_nil, eq_comm, map_eq_nil_iff] at hseen
      rw [hseen, foldl_nil]
  | cons signature rest ih =>
    rw [matchSignatures, bind_eq_ok]
    constructor
    · rintro ⟨bytes, hbytes, hrest⟩
      obtain ⟨seen, hseen, rfl⟩ := ih.mp hrest
      exact ⟨bytes :: seen, by rw [map_cons, map_cons, hbytes, hseen], rfl⟩
    · rintro ⟨seen, hseen, rfl⟩
      cases seen with
      | nil => cases hseen
      | cons bytes seen =>
        obtain ⟨hbytes, hrest⟩ := List.cons.inj hseen
        exact ⟨bytes, hbytes, ih.mpr ⟨seen, hrest, rfl⟩⟩

end Matching

/-! ## The quorum -/

theorem decodeEd25519_eq_ok {label value : String} {expectedSize : ℕ} {raw : Bytes} :
    decodeEd25519 label expectedSize value = .ok raw ↔
      isEd25519 value = true ∧ decodedBytes value = some raw ∧ raw.length = expectedSize := by
  unfold decodeEd25519
  by_cases hprefix : isEd25519 value
  · rw [if_pos hprefix, and_iff_right hprefix]
    cases decodedBytes value with
    | none => simp [raiseValue]
    | some bytes =>
      dsimp only
      split_ifs with hsize
      · rw [Except.ok.injEq, Option.some.injEq]
        exact ⟨fun h => ⟨h, h ▸ hsize⟩, And.left⟩
      · rw [Option.some.injEq]
        exact ⟨by simp [raiseValue], fun h => absurd (h.1 ▸ h.2) hsize⟩
  · rw [if_neg hprefix]
    exact ⟨by simp [raiseValue], fun h => absurd h.1 hprefix⟩

/-- What the constructor grants. -/
structure ProtocolAuthorityPolicy.Accepted (policy : ProtocolAuthorityPolicy) : Prop where
  positive : 1 ≤ policy.threshold
  names : (policy.authorities.map Prod.fst).Nodup
  sized : ∀ a ∈ policy.authorities, (keyBytes a).length = 32

theorem ProtocolAuthorityPolicy.accepted_of_postInit {policy : ProtocolAuthorityPolicy}
    (h : policy.postInit = .ok ()) : policy.Accepted := by
  simp only [postInit, checks_eq_ok, exists_unit, decide_eq_true_eq] at h
  obtain ⟨-, hpositive, -, h⟩ := h
  split_ifs at h with hempty
  · rw [List.isEmpty_iff] at hempty
    exact ⟨hpositive, by simp [hempty], by simp [hempty]⟩
  · simp only [checks_eq_ok, exists_unit, decide_eq_true_eq] at h
    obtain ⟨hnames, -, -, hkeys⟩ := h
    refine ⟨hpositive, hnames, fun a ha => ?_⟩
    have hone := forM_eq_ok.mp hkeys a ha
    simp only [bind_eq_ok] at hone
    obtain ⟨-, -, raw, hraw, -⟩ := hone
    obtain ⟨-, hdecoded, hsize⟩ := decodeEd25519_eq_ok.mp hraw
    rw [keyBytes, hdecoded]
    exact hsize

section Quorum

variable {verify : Bytes → Bytes → Bytes → Bool} {policy : ProtocolAuthorityPolicy}
  {env : Envelope} {operationType operationLabel policyHashField : String} {seen : List Bytes}

theorem verifyProtocolOperation_eq_ok :
    verifyProtocolOperation verify policy env operationType operationLabel policyHashField =
        .ok () ↔
      env.operationType = operationType ∧
      (env.originType = .protocol ∧ env.senderWallet = none) ∧ policy.authorities ≠ [] ∧
      PyValue.get env.payload policyHashField = .str policy.policyHash ∧
      policy.threshold ≤ env.signatures.length ∧
      ∃ seen : List Bytes, env.signatures.map signatureBytes = seen.map .ok ∧
        policy.threshold ≤
          (seen.foldl (matchSignature verify env.signingBytes policy.authorities) []).length := by
  simp only [verifyProtocolOperation, checks_eq_ok, matchSignatures_eq_ok, exists_unit,
    Bool.and_eq_true, beq_iff_eq, Option.isNone_iff_eq_none, Bool.not_eq_true', decide_eq_true_eq,
    isEmpty_eq_false_iff]
  have hswap : ∀ p : List String → Prop, (∃ matched, (∃ seen : List Bytes,
      env.signatures.map signatureBytes = seen.map .ok ∧
        seen.foldl (matchSignature verify env.signingBytes policy.authorities) [] = matched) ∧
          p matched) ↔
      ∃ seen : List Bytes, env.signatures.map signatureBytes = seen.map .ok ∧
        p (seen.foldl (matchSignature verify env.signingBytes policy.authorities) []) := by
    intro p
    constructor
    · rintro ⟨_, ⟨seen, hseen, rfl⟩, hp⟩
      exact ⟨seen, hseen, hp⟩
    · rintro ⟨seen, hseen, hp⟩
      exact ⟨_, ⟨seen, hseen, rfl⟩, hp⟩
  rw [hswap]

theorem signedWith_iff (hseen : env.signatures.map signatureBytes = seen.map .ok) (key : Bytes) :
    SignedWith verify env key ↔ ∃ s ∈ seen, verify key s env.signingBytes = true := by
  constructor
  · rintro ⟨signature, hmem, bytes, hbytes, hverify⟩
    have hin : signatureBytes signature ∈ seen.map Except.ok :=
      hseen ▸ mem_map_of_mem hmem
    obtain ⟨s, hs, heq⟩ := mem_map.mp hin
    rw [hbytes, Except.ok.injEq] at heq
    exact ⟨s, hs, heq ▸ hverify⟩
  · rintro ⟨s, hs, hverify⟩
    have hin : Except.ok s ∈ env.signatures.map signatureBytes :=
      hseen ▸ mem_map_of_mem hs
    obtain ⟨signature, hmem, heq⟩ := mem_map.mp hin
    exact ⟨signature, hmem, s, heq, hverify⟩

/-- As many names are matched as the threshold exactly when as many keys signed. -/
theorem Matching.quorum_iff {message : Bytes} {matched : List String}
    (h : Matching verify message policy.authorities seen matched) (accepted : policy.Accepted)
    (single : OneKeyed verify) (counts : CountsKeys policy) :
    policy.threshold ≤ matched.length ↔
      ∃ keys ⊆ policy.authorities.map keyBytes, keys.Nodup ∧ policy.threshold ≤ keys.length ∧
        ∀ key ∈ keys, ∃ s ∈ seen, verify key s message = true := by
  have hlength := h.length_eq accepted.names
  have hmatched : (matchedAuthorities policy.authorities matched).Sublist
      (hexAuthorities policy.authorities) := filter_sublist
  constructor
  · intro hmet
    by_cases hone : policy.threshold ≤ 1
    · have hpositive := accepted.positive
      obtain ⟨name, hname⟩ := exists_mem_of_length_pos (l := matched) (by omega)
      obtain ⟨a, ha, -, hsigned⟩ := h.named name hname
      have ha := mem_map_of_mem (f := keyBytes) (hexAuthorities_sublist.mem ha)
      exact ⟨[keyBytes a], by simpa using ha, nodup_singleton _, by simpa using hone,
        by simpa using hsigned⟩
    · have hless := hmatched.length_le
      have hapart := counts.apart (by omega) (by omega)
      refine ⟨(matchedAuthorities policy.authorities matched).map keyBytes,
        ((hmatched.trans hexAuthorities_sublist).map _).subset, hapart.sublist (hmatched.map _),
        by rw [length_map]; omega, ?_⟩
      intro key hkey
      obtain ⟨a, ha, rfl⟩ := mem_map.mp hkey
      obtain ⟨b, hb, hname, hsigned⟩ := h.named a.1 (mem_matchedAuthorities.mp ha).2
      have heq := inj_on_of_nodup_map accepted.names (hexAuthorities_sublist.mem hb)
        (hexAuthorities_sublist.mem (hmatched.mem ha)) hname
      exact heq ▸ hsigned
  · rintro ⟨keys, hkeys, hnodup, hmet, hsigned⟩
    have hdistinct : keys.length ≤ (policy.authorities.map keyBytes).dedup.length :=
      (subperm_of_subset hnodup fun k hk => mem_dedup.mpr (hkeys hk)).length_le
    have hread := counts.read (by omega)
    have hfound : keys ⊆ (matchedAuthorities policy.authorities matched).map keyBytes := by
      intro key hkey
      obtain ⟨a, ha, rfl⟩ := mem_map.mp (hkeys hkey)
      obtain ⟨b, hb, heq⟩ := mem_map.mp (hread a ha)
      obtain ⟨s, hs, hverify⟩ := hsigned _ hkey
      obtain ⟨c, hc, hmem, hcs⟩ := h.found s hs b hb (heq ▸ hverify)
      rw [single _ _ _ _ hverify hcs]
      exact mem_map_of_mem (mem_matchedAuthorities.mpr ⟨hc, hmem⟩)
    have hless := (subperm_of_subset hnodup hfound).length_le
    rw [length_map] at hless
    omega

theorem exists_map_ok {α β : Type} {f : α → Except PyError β} {xs : List α}
    (h : ∀ x ∈ xs, ∃ y, f x = .ok y) : ∃ ys : List β, xs.map f = ys.map .ok := by
  induction xs with
  | nil => exact ⟨[], rfl⟩
  | cons x xs ih =>
    rw [forall_mem_cons] at h
    obtain ⟨⟨y, hy⟩, hrest⟩ := h
    obtain ⟨ys, hys⟩ := ih hrest
    exact ⟨y :: ys, by rw [map_cons, map_cons, hy, hys]⟩

theorem verifies_iff_authorized (accepted : policy.Accepted) (counts : CountsKeys policy)
    (single : OneKeyed verify) :
    verifyProtocolOperation verify policy env operationType operationLabel policyHashField =
        .ok () ↔
      Authorized verify policy env operationType policyHashField := by
  rw [verifyProtocolOperation_eq_ok]
  have hmatching : ∀ seen, Matching verify env.signingBytes policy.authorities seen
      (seen.foldl (matchSignature verify env.signingBytes policy.authorities) []) := by
    intro seen
    exact matching_empty.run accepted.sized seen
  constructor
  · rintro ⟨hoperation, horigin, -, hbound, -, seen, hseen, hmet⟩
    obtain ⟨keys, hkeys, hnodup, hlength, hsigned⟩ :=
      ((hmatching seen).quorum_iff accepted single counts).mp hmet
    refine ⟨hoperation, horigin, hbound, fun signature hmem => ?_, keys, hkeys, hnodup, hlength,
      fun key hkey => (signedWith_iff hseen key).mpr (hsigned key hkey)⟩
    have hin : signatureBytes signature ∈ seen.map Except.ok := hseen ▸ mem_map_of_mem hmem
    obtain ⟨s, -, heq⟩ := mem_map.mp hin
    exact ⟨s, heq.symm⟩
  · rintro ⟨hoperation, horigin, hbound, hformed, keys, hkeys, hnodup, hlength, hsigned⟩
    obtain ⟨seen, hseen⟩ := exists_map_ok hformed
    have hmet := ((hmatching seen).quorum_iff accepted single counts).mpr
      ⟨keys, hkeys, hnodup, hlength,
        fun key hkey => (signedWith_iff hseen key).mp (hsigned key hkey)⟩
    have hpositive := accepted.positive
    have hatMost := (hmatching seen).atMost.trans (length_filter_le _ _)
    have hcount := congrArg List.length hseen
    rw [length_map, length_map] at hcount
    refine ⟨hoperation, horigin, ?_, hbound, by omega, seen, hseen, hmet⟩
    rintro hempty
    rw [hempty, map_nil, subset_nil] at hkeys
    rw [hkeys, length_nil] at hlength
    omega

theorem Authorized.perm {signatures : List String}
    (h : Authorized verify policy env operationType policyHashField)
    (perm : env.signatures.Perm signatures) :
    Authorized verify policy { env with signatures := signatures } operationType
      policyHashField := by
  obtain ⟨keys, hkeys, hnodup, hlength, hsigned⟩ := h.quorum
  refine ⟨h.operation, h.origin, h.bound, fun s hs => h.wellFormed s (perm.mem_iff.mpr hs), keys,
    hkeys, hnodup, hlength, fun key hkey => ?_⟩
  obtain ⟨s, hs, hverify⟩ := hsigned key hkey
  exact ⟨s, perm.mem_iff.mp hs, hverify⟩

theorem keepsQuorum_of_countsKeys (accepted : policy.Accepted) (counts : CountsKeys policy) :
    KeepsQuorum policy operationType operationLabel policyHashField := by
  intro verify single env
  refine ⟨verifies_iff_authorized accepted counts single, fun signatures perm => ?_⟩
  rw [verifies_iff_authorized accepted counts single,
    verifies_iff_authorized accepted counts single]
  exact ⟨fun h => h.perm perm.symm, fun h => h.perm perm⟩

end Quorum

/-! ## Keys that are counted twice or not at all -/

/-- A key signs everything as itself. -/
def echo (key : Bytes) : Bytes := key ++ List.replicate 32 0

def echoVerify (key signature _ : Bytes) : Bool := signature == echo key

def echoText (key : Bytes) : String := "ed25519:" ++ hexEncode false (echo key)

def echoEnvelope (policy : ProtocolAuthorityPolicy) (operationType policyHashField : String)
    (keys : List Bytes) : Envelope where
  operationType := operationType
  originType := .protocol
  createdAt := "2026-01-01T00:00:00Z"
  payload := [(policyHashField, .str policy.policyHash)]
  signatures := keys.map echoText
  operationId := ""

theorem isEd25519_append (text : String) : isEd25519 ("ed25519:" ++ text) = true := by
  rw [isEd25519, String.toList_append]
  exact isPrefixOf_iff_prefix.mpr (prefix_append _ _)

theorem ed25519Bytes_hexEncode (bytes : Bytes) :
    ed25519Bytes ("ed25519:" ++ hexEncode false bytes) = some bytes := by
  have hmarked := isEd25519_append (hexEncode false bytes)
  rw [isEd25519] at hmarked
  rw [ed25519Bytes, removePre, if_pos hmarked, String.toList_append, drop_left, hexEncode,
    String.toList_ofList, fromHexChars_hexChars]

theorem echoVerify_iff {key key' message : Bytes} :
    echoVerify key (echo key') message = true ↔ key' = key := by
  rw [echoVerify, beq_iff_eq, echo, echo, append_left_inj]

theorem oneKeyed_echoVerify : OneKeyed echoVerify := by
  intro key key' signature message h h'
  rw [echoVerify, beq_iff_eq] at h h'
  exact append_cancel_right (h.symm.trans h')

theorem signatureBytes_echoText {key : Bytes} (sized : key.length = 32) :
    signatureBytes (echoText key) = .ok (echo key) := by
  apply decodeEd25519_eq_ok.mpr
  refine ⟨isEd25519_append _, ?_, by rw [echo, length_append, sized]; rfl⟩
  rw [decodedBytes, echoText, ed25519Bytes_hexEncode, Option.some_or]

section Echo

variable {policy : ProtocolAuthorityPolicy}
  {operationType operationLabel policyHashField : String} {keys : List Bytes}

theorem echoEnvelope_signatures (policy : ProtocolAuthorityPolicy)
    (operationType policyHashField : String) (sized : ∀ key ∈ keys, key.length = 32) :
    (echoEnvelope policy operationType policyHashField keys).signatures.map signatureBytes =
      (keys.map echo).map .ok := by
  rw [echoEnvelope, map_map, map_map]
  exact map_congr_left fun key hkey => signatureBytes_echoText (sized key hkey)

theorem get_echoEnvelope :
    PyValue.get (echoEnvelope policy operationType policyHashField keys).payload policyHashField =
      .str policy.policyHash := by
  rw [echoEnvelope, PyValue.get_cons, if_pos rfl]

/-- The policy verifies the envelope when the loop matches enough names. -/
theorem verifies_echoEnvelope (sized : ∀ key ∈ keys, key.length = 32)
    (authorities : policy.authorities ≠ []) (enough : policy.threshold ≤ keys.length) :
    verifyProtocolOperation echoVerify policy
        (echoEnvelope policy operationType policyHashField keys) operationType operationLabel
        policyHashField = .ok () ↔
      policy.threshold ≤ ((keys.map echo).foldl (matchSignature echoVerify
        (echoEnvelope policy operationType policyHashField keys).signingBytes policy.authorities)
          []).length := by
  rw [verifyProtocolOperation_eq_ok]
  have hseen := echoEnvelope_signatures policy operationType policyHashField sized
  constructor
  · rintro ⟨-, -, -, -, -, seen, hseen', hmet⟩
    rw [hseen] at hseen'
    have heq := map_injective_iff.mpr (fun _ _ h => Except.ok.inj h) hseen'
    exact heq ▸ hmet
  · intro hmet
    refine ⟨rfl, ⟨rfl, rfl⟩, authorities, get_echoEnvelope, ?_, _, hseen, hmet⟩
    rw [echoEnvelope, length_map]
    exact enough

/-- The envelope is authorized when enough distinct keys of the policy signed it. -/
theorem authorized_echoEnvelope (sized : ∀ key ∈ keys, key.length = 32) :
    Authorized echoVerify policy (echoEnvelope policy operationType policyHashField keys)
        operationType policyHashField ↔
      ∃ signed ⊆ policy.authorities.map keyBytes, signed.Nodup ∧
        policy.threshold ≤ signed.length ∧ signed ⊆ keys := by
  have hseen := echoEnvelope_signatures policy operationType policyHashField sized
  have hsigned : ∀ key, SignedWith echoVerify
      (echoEnvelope policy operationType policyHashField keys) key ↔ key ∈ keys := by
    intro key
    rw [signedWith_iff hseen]
    constructor
    · rintro ⟨s, hs, hverify⟩
      obtain ⟨key', hkey', rfl⟩ := mem_map.mp hs
      exact echoVerify_iff.mp hverify ▸ hkey'
    · intro hkey
      exact ⟨echo key, mem_map_of_mem hkey, echoVerify_iff.mpr rfl⟩
  constructor
  · intro h
    obtain ⟨signed, hsub, hnodup, hlength, hall⟩ := h.quorum
    exact ⟨signed, hsub, hnodup, hlength, fun key hkey => (hsigned key).mp (hall key hkey)⟩
  · rintro ⟨signed, hsub, hnodup, hlength, hall⟩
    refine ⟨rfl, ⟨rfl, rfl⟩, get_echoEnvelope, fun signature hmem => ?_, signed, hsub, hnodup,
      hlength, fun key hkey => (hsigned key).mpr (hall hkey)⟩
    obtain ⟨key, hkey, rfl⟩ := mem_map.mp hmem
    exact ⟨echo key, signatureBytes_echoText (sized key hkey)⟩

end Echo

section Matched

variable {authorities : List (String × String)} {message : Bytes} {matched : List String}

theorem matchedAuthorities_cons (names : (authorities.map Prod.fst).Nodup) {a : String × String}
    (ha : a ∈ hexAuthorities authorities) (fresh : a.1 ∉ matched) :
    (matchedAuthorities authorities (a.1 :: matched)).Perm
      (a :: matchedAuthorities authorities matched) := by
  have hhex : (hexAuthorities authorities).Nodup := names.of_map.sublist hexAuthorities_sublist
  have hnew : a ∉ matchedAuthorities authorities matched := fun h =>
    fresh (mem_matchedAuthorities.mp h).2
  apply (perm_ext_iff_of_nodup (hhex.filter _)
    (nodup_cons.mpr ⟨hnew, hhex.filter _⟩)).mpr
  intro x
  rw [mem_cons, ← matchedAuthorities, mem_matchedAuthorities, mem_matchedAuthorities,
    mem_cons]
  constructor
  · rintro ⟨hx, hname | hname⟩
    · exact .inl (inj_on_of_nodup_map names (hexAuthorities_sublist.mem hx)
        (hexAuthorities_sublist.mem ha) hname)
    · exact .inr ⟨hx, hname⟩
  · rintro (rfl | ⟨hx, hname⟩)
    · exact ⟨ha, .inl rfl⟩
    · exact ⟨hx, .inr hname⟩

/-- Signatures of distinct hex authorities are all matched, whether their keys are distinct or not:
an authority of the key is free as long as fewer signatures of it were seen. -/
theorem length_foldl_echo (names : (authorities.map Prod.fst).Nodup)
    (sized : ∀ a ∈ authorities, (keyBytes a).length = 32) {rest done : List (String × String)}
    (nodup : (rest ++ done).Nodup) (subset : rest ++ done ⊆ hexAuthorities authorities)
    (keys : ((matchedAuthorities authorities matched).map keyBytes).Perm (done.map keyBytes)) :
    (((rest.map keyBytes).map echo).foldl (matchSignature echoVerify message authorities)
      matched).length = rest.length + matched.length := by
  induction rest generalizing done matched with
  | nil => simp
  | cons a rest ih =>
    have hperm : (a :: (rest ++ done)).Perm (rest ++ a :: done) := perm_middle.symm
    have hsub : rest ++ a :: done ⊆ hexAuthorities authorities := fun x hx =>
      subset (hperm.mem_iff.mpr hx)
    have hdone : (a :: done).Nodup ∧ a :: done ⊆ hexAuthorities authorities :=
      ⟨(hperm.nodup_iff.mp nodup).sublist (sublist_append_right _ _),
        fun x hx => hsub (mem_append_right _ hx)⟩
    obtain ⟨b, hb, hfree, hkey⟩ := exists_free (names.of_map.sublist hexAuthorities_sublist) keys
      hdone.1 hdone.2
    rw [map_cons, map_cons, foldl_cons]
    rcases matchSignature_cases echoVerify message sized matched (echo (keyBytes a)) with
      ⟨c, hc, hverify, hfresh, heq⟩ | ⟨-, hfull⟩
    · rw [heq, ih (hperm.nodup_iff.mp nodup) hsub, length_cons, length_cons]
      · omega
      · refine ((matchedAuthorities_cons names hc hfresh).map keyBytes).trans ?_
        rw [map_cons, map_cons, ← echoVerify_iff.mp hverify]
        exact keys.cons _
    · have hmatched := hfull b hb (echoVerify_iff.mpr hkey.symm)
      exact absurd (mem_matchedAuthorities.mpr ⟨hb, hmatched⟩) hfree

theorem length_foldl_echo_empty (names : (authorities.map Prod.fst).Nodup)
    (sized : ∀ a ∈ authorities, (keyBytes a).length = 32) {chosen : List (String × String)}
    (nodup : chosen.Nodup) (subset : chosen ⊆ hexAuthorities authorities) :
    (((chosen.map keyBytes).map echo).foldl (matchSignature echoVerify message authorities)
      []).length = chosen.length := by
  rw [← append_nil chosen] at nodup subset
  rw [length_foldl_echo names sized nodup subset]
  · rfl
  · simp [matchedAuthorities]

end Matched

section Necessary

variable {policy : ProtocolAuthorityPolicy}
  {operationType operationLabel policyHashField : String}

/-- Hex keys are apart when the policy keeps the quorum: two authorities with one key would both be
matched by the signatures of that key. -/
theorem apart_of_keepsQuorum (accepted : policy.Accepted)
    (keeps : KeepsQuorum policy operationType operationLabel policyHashField)
    (two : 2 ≤ policy.threshold)
    (enough : policy.threshold ≤ (hexAuthorities policy.authorities).length) :
    ((hexAuthorities policy.authorities).map keyBytes).Nodup := by
  have hhex : (hexAuthorities policy.authorities).Nodup :=
    accepted.names.of_map.sublist hexAuthorities_sublist
  refine List.Nodup.map_on (fun a ha b hb hkey => ?_) hhex
  by_contra hne
  have hpair : (hexAuthorities policy.authorities).Perm
      (a :: b :: ((hexAuthorities policy.authorities).erase a).erase b) :=
    (perm_cons_erase ha).trans
      ((perm_cons_erase ((mem_erase_of_ne (Ne.symm hne)).mpr hb)).cons a)
  generalize ((hexAuthorities policy.authorities).erase a).erase b = others at hpair
  -- a threshold of authorities, the two of one key among them
  obtain ⟨chosen, hchosen⟩ : ∃ chosen, chosen = others.take (policy.threshold.toNat - 2) := ⟨_, rfl⟩
  have hsublist : (a :: b :: chosen).Sublist (a :: b :: others) :=
    hchosen ▸ ((take_sublist _ _).cons_cons b).cons_cons a
  have hlength : ((a :: b :: chosen).length : ℤ) = policy.threshold := by
    have hless := hpair.length_eq
    rw [length_cons, length_cons] at hless ⊢
    rw [hchosen, length_take]
    omega
  have hsub : a :: b :: chosen ⊆ hexAuthorities policy.authorities := fun x hx =>
    hpair.mem_iff.mpr (hsublist.mem hx)
  have hsized : ∀ key ∈ (a :: b :: chosen).map keyBytes, key.length = 32 := by
    intro key hmem
    obtain ⟨x, hx, rfl⟩ := mem_map.mp hmem
    exact accepted.sized x (hexAuthorities_sublist.mem (hsub hx))
  have hnodup : (a :: b :: chosen).Nodup := (hpair.nodup_iff.mp hhex).sublist hsublist
  have hverified : verifyProtocolOperation echoVerify policy (echoEnvelope policy operationType
      policyHashField ((a :: b :: chosen).map keyBytes)) operationType operationLabel
        policyHashField = .ok () := by
    apply (verifies_echoEnvelope hsized (ne_nil_of_mem (hexAuthorities_sublist.mem ha)) ?_).mpr
    · rw [length_foldl_echo_empty accepted.names accepted.sized hnodup hsub, hlength]
    · rw [length_map, hlength]
  obtain ⟨signed, -, hnodup, hmet, hsigned⟩ :=
    (authorized_echoEnvelope hsized).mp ((keeps _ oneKeyed_echoVerify _).1.mp hverified)
  have hfewer : signed ⊆ (b :: chosen).map keyBytes := by
    intro key hmem
    have hin := hsigned hmem
    rw [map_cons, map_cons, hkey] at hin
    simpa using hin
  have hless := (subperm_of_subset hnodup hfewer).length_le
  rw [length_map] at hless
  rw [length_cons] at hlength
  omega

/-- Every key has a hex text when the policy keeps the quorum: the signature of another key would
match nobody. -/
theorem read_of_keepsQuorum (accepted : policy.Accepted)
    (keeps : KeepsQuorum policy operationType operationLabel policyHashField)
    (enough : policy.threshold ≤ (policy.authorities.map keyBytes).dedup.length)
    {a : String × String} (ha : a ∈ policy.authorities) :
    keyBytes a ∈ (hexAuthorities policy.authorities).map keyBytes := by
  by_contra hunread
  have hpositive := accepted.positive
  have hmem : keyBytes a ∈ (policy.authorities.map keyBytes).dedup :=
    mem_dedup.mpr (mem_map_of_mem ha)
  have hperm := perm_cons_erase hmem
  generalize (policy.authorities.map keyBytes).dedup.erase (keyBytes a) = others at hperm
  obtain ⟨chosen, hchosen⟩ : ∃ chosen, chosen = others.take (policy.threshold.toNat - 1) := ⟨_, rfl⟩
  have hsublist : (keyBytes a :: chosen).Sublist (keyBytes a :: others) :=
    hchosen ▸ (take_sublist _ _).cons_cons _
  have hlength : ((keyBytes a :: chosen).length : ℤ) = policy.threshold := by
    have hless := hperm.length_eq
    rw [length_cons] at hless ⊢
    rw [hchosen, length_take]
    omega
  have hsub : keyBytes a :: chosen ⊆ policy.authorities.map keyBytes := fun key hkey =>
    mem_dedup.mp (hperm.mem_iff.mpr (hsublist.mem hkey))
  have hsized : ∀ key ∈ keyBytes a :: chosen, key.length = 32 := by
    intro key hkey
    obtain ⟨x, hx, rfl⟩ := mem_map.mp (hsub hkey)
    exact accepted.sized x hx
  have hauthorized : Authorized echoVerify policy (echoEnvelope policy operationType
      policyHashField (keyBytes a :: chosen)) operationType policyHashField :=
    (authorized_echoEnvelope hsized).mpr ⟨_, hsub,
      (hperm.nodup_iff.mp (nodup_dedup _)).sublist hsublist, by omega, List.Subset.refl _⟩
  have hverified := (keeps _ oneKeyed_echoVerify _).1.mpr hauthorized
  have hmet := (verifies_echoEnvelope hsized (ne_nil_of_mem ha) (by omega)).mp hverified
  have hmatching : Matching echoVerify (echoEnvelope policy operationType policyHashField
      (keyBytes a :: chosen)).signingBytes policy.authorities _ _ :=
    matching_empty.run accepted.sized ((keyBytes a :: chosen).map echo)
  have hfewer := hmatching.length_lt (mem_map_of_mem mem_cons_self) fun b hb hverify =>
    hunread (echoVerify_iff.mp hverify ▸ mem_map_of_mem hb)
  rw [nil_append, length_map] at hfewer
  omega

/-- The policies that are accepted keep the quorum exactly when they count keys. -/
theorem keepsQuorum_iff (h : policy.postInit = .ok ()) :
    KeepsQuorum policy operationType operationLabel policyHashField ↔ CountsKeys policy :=
  have accepted := ProtocolAuthorityPolicy.accepted_of_postInit h
  ⟨fun keeps => ⟨apart_of_keepsQuorum accepted keeps,
      fun enough _ ha => read_of_keepsQuorum accepted keeps enough ha⟩,
    keepsQuorum_of_countsKeys accepted⟩

end Necessary

/-- Two of two authorities, with different keys. -/
def pairPolicy : ProtocolAuthorityPolicy where
  threshold := 2
  authorities := [("first",
    "ed25519:aaaaaaaaaaaaaaaaaaaaaaaaaaaaaaaaaaaaaaaaaaaaaaaaaaaaaaaaaaaaaaaa"), ("second",
    "ed25519:bbbbbbbbbbbbbbbbbbbbbbbbbbbbbbbbbbbbbbbbbbbbbbbbbbbbbbbbbbbbbbbb")]

theorem keepsQuorum_pairPolicy :
    KeepsQuorum pairPolicy "EPOCH_TRANSITION" "epoch transition" "protocol_authority_policy_hash" :=
  (keepsQuorum_iff (by decide +kernel)).mpr
    ⟨fun _ => by decide +kernel, fun _ => by decide +kernel⟩

/-- A policy of two authorities with one key in two spellings. -/
def twinPolicy : ProtocolAuthorityPolicy where
  threshold := 2
  authorities := [("first",
    "ed25519:aaaaaaaaaaaaaaaaaaaaaaaaaaaaaaaaaaaaaaaaaaaaaaaaaaaaaaaaaaaaaaaa"), ("second",
    "ed25519:AAAAAAAAAAAAAAAAAAAAAAAAAAAAAAAAAAAAAAAAAAAAAAAAAAAAAAAAAAAAAAAA")]

def twinKeyBytes : Bytes := List.replicate 32 170

/-- One signature, twice, passes for the quorum of two keys. -/
theorem one_key_passes_for_two :
    twinPolicy.postInit = .ok () ∧ OneKeyed echoVerify ∧
      let env := echoEnvelope twinPolicy "EPOCH_TRANSITION" "protocol_authority_policy_hash"
        [twinKeyBytes, twinKeyBytes]
      verifyProtocolOperation echoVerify twinPolicy env "EPOCH_TRANSITION" "epoch transition"
          "protocol_authority_policy_hash" = .ok () ∧
        ¬ Authorized echoVerify twinPolicy env "EPOCH_TRANSITION"
          "protocol_authority_policy_hash" := by
  have haccepted : twinPolicy.postInit = .ok () := by decide +kernel
  have accepted := ProtocolAuthorityPolicy.accepted_of_postInit haccepted
  have hkeys : twinPolicy.authorities.map keyBytes = [twinKeyBytes, twinKeyBytes] := by
    decide +kernel
  have hhex : hexAuthorities twinPolicy.authorities = twinPolicy.authorities := by decide +kernel
  have hsized : ∀ key ∈ [twinKeyBytes, twinKeyBytes], key.length = 32 := by decide
  refine ⟨haccepted, oneKeyed_echoVerify, ?_, fun h => ?_⟩
  · apply (verifies_echoEnvelope hsized (by decide) (by decide)).mpr
    rw [← hkeys, length_foldl_echo_empty accepted.names accepted.sized accepted.names.of_map
      (by rw [hhex]; exact List.Subset.refl _)]
    decide
  · obtain ⟨signed, -, hnodup, hmet, hsigned⟩ := (authorized_echoEnvelope hsized).mp h
    have hone : signed ⊆ [twinKeyBytes] := fun key hkey => by simpa using hsigned hkey
    have hless := (List.subperm_of_subset hnodup hone).length_le
    exact absurd (hmet.trans (Int.ofNat_le.mpr hless)) (by decide)

end AidnSpec.Consensus
