import AidnSpec.Base.Overlay
import AidnSpec.Consensus.Finality

/-!
# The validator set of CometBFT

CometBFT keeps its own map from consensus keys to powers and changes it by the updates that every
finalized block returns (`consensus/abci.py:700–723`, `consensus/abci_socket.py:282–304`). The
ledger compares keys as texts, CometBFT as the bytes that they decode to. The map mirrors the active
set as long as no addition brings in bytes that are active under another text, and the updates of a
block name no bytes twice as long as the schedules that it opens have no key in common.
-/

namespace AidnSpec.Consensus

open Base Ledger MembershipChange List

/-! ## The map and the updates -/

def decodedKey (publicKey : String) : Bytes :=
  match decodeConsensusPublicKey (.str publicKey) with
  | .ok key => key
  | .error _ => []

/-- The validators of CometBFT: the power of every key. -/
abbrev PowerMap := Bytes → Option Int

/-- What an update does to the map: the power 0 deletes the key. -/
def pointUpdate (u : ValidatorUpdate) : Bytes × Option Int :=
  (decodedKey u.publicKey, if u.power = 0 then none else some u.power)

def applyUpdates (m : PowerMap) (updates : List ValidatorUpdate) : PowerMap :=
  overlay m (updates.map pointUpdate)

def namedKeys (updates : List ValidatorUpdate) : List Bytes :=
  updates.map fun u => decodedKey u.publicKey

/-- The map holds exactly the decoded keys of the active set with their powers; every key
decodes to 32 bytes, and no two of them to the same. -/
structure Mirrors (m : PowerMap) (active : Dict String Fields) : Prop where
  decodes : ∀ {n e}, active.get? n = some e →
    decodeConsensusPublicKey (.str (consensusKey e)) = .ok (decodedKey (consensusKey e)) ∧
      (decodedKey (consensusKey e)).length = 32
  distinct : ∀ {n n' e e'}, active.get? n = some e → active.get? n' = some e' →
    decodedKey (consensusKey e) = decodedKey (consensusKey e') → n = n'
  powers : ∀ k p, m k = some p ↔ ∃ n e, active.get? n = some e ∧
    decodedKey (consensusKey e) = k ∧ e.int "voting_power" = p

theorem mirrors_empty : Mirrors (fun _ => none) .empty where
  decodes h := by cases h
  distinct h := by cases h
  powers k p := by
    constructor
    · intro h
      cases h
    · rintro ⟨n, e, h, -⟩
      cases h

theorem map_fst_pointUpdate (updates : List ValidatorUpdate) :
    (updates.map pointUpdate).map Prod.fst = namedKeys updates := by
  rw [map_map, namedKeys]
  rfl

variable {m : PowerMap} {updates : List ValidatorUpdate} {epoch : Int} {ids : List String}
  {L L' : LedgerState}

/-- A key that is not named keeps its power. -/
theorem applyUpdates_of_notMem {k : Bytes} (h : k ∉ namedKeys updates) :
    applyUpdates m updates k = m k := by
  apply overlay_of_notMem
  rw [map_fst_pointUpdate]
  exact h

/-- A key that is named once has the power of its update. -/
theorem applyUpdates_of_mem {u : ValidatorUpdate} (distinct : (namedKeys updates).Nodup)
    (h : u ∈ updates) : applyUpdates m updates (decodedKey u.publicKey) = (pointUpdate u).2 := by
  have hmem : pointUpdate u ∈ updates.map pointUpdate := mem_map.mpr ⟨u, h, rfl⟩
  rw [← map_fst_pointUpdate] at distinct
  exact overlay_of_mem distinct hmem

/-! ## One schedule -/

/-- The additions of a change bring in keys that are new as bytes. -/
structure NewKeys (c : MembershipChange) (active : Dict String Fields) : Prop where
  fresh : ∀ a ∈ c.additions, ∀ e ∈ active.values,
    decodedKey (consensusKey e) ≠ decodedKey (consensusKey a.2)
  distinct : (c.additions.map fun a => decodedKey (consensusKey a.2)).Nodup

/-- The active nodes that a change removes or gives another power. -/
def changedNodes (c : MembershipChange) : List String := c.removals ++ c.powerUpdates.map Prod.fst

/-- The keys that a change names: those it adds and those of the nodes it changes. -/
theorem namedKeys_updatesOn (c : MembershipChange) (active : Dict String Fields) :
    namedKeys (c.updatesOn active) =
      (c.additions.map fun a => decodedKey (consensusKey a.2)) ++
        (changedNodes c).map fun n => decodedKey (keyOf active n) := by
  simp only [namedKeys, updatesOn, changedNodes, map_append, map_map, append_assoc]
  rfl

section Schedule

variable {c : MembershipChange} {active : Dict String Fields} {m : PowerMap}

variable {n : String} {e : Fields}

theorem changed_active (fits : c.Fits active) (h : n ∈ changedNodes c) :
    ∃ e, active.get? n = some e := by
  rcases mem_append.mp h with hremoved | hpowered
  · exact Option.isSome_iff_exists.mp (fits.removable n hremoved)
  · obtain ⟨u, hu, rfl⟩ := mem_map.mp hpowered
    exact Option.isSome_iff_exists.mp (fits.powered u hu)

/-- The key of a changed node is active. -/
theorem exists_of_mem_changedKeys (fits : c.Fits active) {k : Bytes}
    (h : k ∈ (changedNodes c).map fun n => decodedKey (keyOf active n)) :
    ∃ n e, n ∈ changedNodes c ∧ active.get? n = some e ∧ decodedKey (consensusKey e) = k := by
  obtain ⟨n, hn, rfl⟩ := mem_map.mp h
  obtain ⟨e, he⟩ := changed_active fits hn
  exact ⟨n, e, hn, he, by rw [keyOf_of_get? he]⟩

/-- A change names no key twice. -/
theorem nodup_namedKeys (s : c.Separate) (fits : c.Fits active) (mirrors : Mirrors m active)
    (new : NewKeys c active) : (namedKeys (c.updatesOn active)).Nodup := by
  rw [namedKeys_updatesOn, nodup_append]
  refine ⟨new.distinct, ?_, ?_⟩
  · have hnodes : (changedNodes c).Nodup := by
      rw [changedNodes, nodup_append]
      refine ⟨s.removals, s.powerUpdates, ?_⟩
      rintro n hn n' hn' rfl
      exact s.powered_not_removed n hn' hn
    refine hnodes.map_on ?_
    intro n hn n' hn' hkey
    obtain ⟨e, he⟩ := changed_active fits hn
    obtain ⟨e', he'⟩ := changed_active fits hn'
    rw [keyOf_of_get? he, keyOf_of_get? he'] at hkey
    exact mirrors.distinct he he' hkey
  · rintro k hadded k' hchanged rfl
    obtain ⟨a, ha, hkey⟩ := mem_map.mp hadded
    obtain ⟨n, e, -, he, hkey'⟩ := exists_of_mem_changedKeys fits hchanged
    exact new.fresh a ha e (Dict.mem_values.mpr ⟨n, he⟩) (hkey'.trans hkey.symm)

theorem consensusKey_withPower (e : Fields) (power : Int) :
    consensusKey (withPower e power) = consensusKey e := by
  rw [consensusKey, Fields.text, withPower, get_setMember, if_neg (by decide), consensusKey,
    Fields.text]

theorem power_withPower (e : Fields) (power : Int) :
    (withPower e power).int "voting_power" = power := by
  apply Fields.int_of_get
  rw [withPower, get_setMember, if_pos rfl]

/-- What the set hash could read has a key of 32 bytes and a positive power. -/
theorem decodes_of_readIdentity {v : ValidatorIdentity} (h : readIdentity e = .ok v) :
    decodeConsensusPublicKey (.str (consensusKey e)) = .ok (decodedKey (consensusKey e)) ∧
      (decodedKey (consensusKey e)).length = 32 ∧ 0 < e.int "voting_power" := by
  obtain ⟨htexts, hkey, -, -, hpower, hpos, -⟩ := readIdentity_eq_ok.mp h
  have hget := Fields.get_of_hasText (htexts "consensus_public_key" (by simp))
  rw [hget] at hkey
  rw [Fields.int_of_get hpower]
  simp only [validateEd25519PublicKey, bind_eq_ok] at hkey
  obtain ⟨key, hdecoded, -⟩ := hkey
  have hok : decodeConsensusPublicKey (.str (consensusKey e)) = .ok key ∧ key.length = 32 := by
    unfold decodeEd25519PublicKey at hdecoded
    dsimp only at hdecoded
    split_ifs at hdecoded with hprefixed
    · split at hdecoded
      · next decoded hb64 =>
        split_ifs at hdecoded with hlength
        · cases hdecoded
          refine ⟨?_, hlength⟩
          unfold decodeConsensusPublicKey decodeEd25519PublicKey
          rw [consensusKey]
          simp only [hprefixed, hb64, hlength, if_true]
        · cases hdecoded
      · cases hdecoded
    · cases hdecoded
  have hkey : decodedKey (consensusKey e) = key := by
    rw [decodedKey, hok.1]
  rw [hkey]
  exact ⟨hok.1, hok.2, hpos⟩

/-- The entry of a node after a change: it is added, it was there and got another power, or it
was there and is not named. -/
theorem applyTo_cases (s : c.Separate) (h : (c.applyTo active).get? n = some e) :
    (n, e) ∈ c.additions ∨
      (∃ u ∈ c.powerUpdates, u.1 = n ∧ ∃ e₀, active.get? n = some e₀ ∧ e = withPower e₀ u.2) ∨
      n ∉ c.names ∧ active.get? n = some e := by
  rcases c.names_cases n with ⟨a, ha, rfl⟩ | hr | ⟨u, hu, rfl⟩ | hn
  · rw [s.get?_applyTo_of_added ha] at h
    cases h
    exact .inl ha
  · rw [s.get?_applyTo_of_removed hr] at h
    cases h
  · rw [s.get?_applyTo_of_powered hu] at h
    obtain ⟨e₀, he₀, rfl⟩ := Option.map_eq_some_iff.mp h
    exact .inr (.inl ⟨u, hu, rfl, e₀, he₀, rfl⟩)
  · rw [get?_applyTo_of_unnamed hn] at h
    exact .inr (.inr ⟨hn, h⟩)

/-- A node that was there before a change and is there afterwards has kept its key. -/
theorem applyTo_added_or_kept (s : c.Separate) (h : (c.applyTo active).get? n = some e) :
    (n, e) ∈ c.additions ∨ ∃ e₀, active.get? n = some e₀ ∧ consensusKey e = consensusKey e₀ := by
  rcases applyTo_cases s h with hadded | ⟨u, -, -, e₀, he₀, rfl⟩ | ⟨-, he⟩
  · exact .inl hadded
  · exact .inr ⟨e₀, he₀, consensusKey_withPower e₀ u.2⟩
  · exact .inr ⟨e, he, rfl⟩

/-- New keys keep the active keys distinct. -/
theorem NewKeys.distinct_applyTo (new : NewKeys c active) (s : c.Separate)
    (mirrors : Mirrors m active) {n' : String} {e' : Fields}
    (h : (c.applyTo active).get? n = some e) (h' : (c.applyTo active).get? n' = some e')
    (hkey : decodedKey (consensusKey e) = decodedKey (consensusKey e')) : n = n' := by
  have hinj : ∀ a ∈ c.additions, ∀ b ∈ c.additions,
      decodedKey (consensusKey a.2) = decodedKey (consensusKey b.2) → a = b :=
    fun a ha b hb => inj_on_of_nodup_map new.distinct ha hb
  rcases applyTo_added_or_kept s h with hadded | ⟨e₀, he₀, hsame⟩
  · rcases applyTo_added_or_kept s h' with hadded' | ⟨e₀', he₀', hsame'⟩
    · exact congrArg Prod.fst (hinj _ hadded _ hadded' hkey)
    · rw [hsame'] at hkey
      exact absurd hkey.symm (new.fresh _ hadded _ (Dict.mem_values.mpr ⟨_, he₀'⟩))
  · rw [hsame] at hkey
    rcases applyTo_added_or_kept s h' with hadded' | ⟨e₀', he₀', hsame'⟩
    · exact absurd hkey (new.fresh _ hadded' _ (Dict.mem_values.mpr ⟨_, he₀⟩))
    · rw [hsame'] at hkey
      exact mirrors.distinct he₀ he₀' hkey

/-- A node that keeps its entry keeps its power in the map: no update names its key. -/
theorem notMem_of_unnamed (fits : c.Fits active) (mirrors : Mirrors m active)
    (new : NewKeys c active) (hn : n ∉ c.names) (he : active.get? n = some e) :
    decodedKey (consensusKey e) ∉ namedKeys (c.updatesOn active) := by
  rw [namedKeys_updatesOn, mem_append]
  rintro (hadded | hchanged)
  · obtain ⟨a, ha, hkey⟩ := mem_map.mp hadded
    exact new.fresh a ha e (Dict.mem_values.mpr ⟨n, he⟩) hkey.symm
  · obtain ⟨n', e', hn', he', hkey⟩ := exists_of_mem_changedKeys fits hchanged
    have hsame := mirrors.distinct he' he hkey
    subst hsame
    apply hn
    rw [names, append_assoc]
    exact mem_append_right _ hn'

/-- The updates of a change take the map of a set to the map of the changed set. -/
theorem Mirrors.applyTo (mirrors : Mirrors m active) (s : c.Separate) (fits : c.Fits active)
    (new : NewKeys c active)
    (readable : ∀ {n e}, (c.applyTo active).get? n = some e → ∃ v, readIdentity e = .ok v)
    {updates : List ValidatorUpdate} (perm : updates.Perm (c.updatesOn active)) :
    Mirrors (applyUpdates m updates) (c.applyTo active) := by
  have hkeys : (namedKeys updates).Perm (namedKeys (c.updatesOn active)) := perm.map _
  have hnodup : (namedKeys updates).Nodup :=
    hkeys.nodup_iff.mpr (nodup_namedKeys s fits mirrors new)
  refine ⟨?_, fun h h' => new.distinct_applyTo s mirrors h h', ?_⟩
  · intro n e he
    obtain ⟨v, hv⟩ := readable he
    obtain ⟨hok, hlength, -⟩ := decodes_of_readIdentity hv
    exact ⟨hok, hlength⟩
  intro k p
  constructor
  · intro hp
    by_cases hmem : k ∈ namedKeys updates
    · obtain ⟨u, hu, rfl⟩ := mem_map.mp hmem
      rw [applyUpdates_of_mem hnodup hu, pointUpdate] at hp
      split_ifs at hp with hzero
      cases hp
      simp only [updatesOn, perm.mem_iff, mem_append, mem_map] at hu
      rcases hu with (⟨a, ha, rfl⟩ | ⟨n, -, rfl⟩) | ⟨w, hw, rfl⟩
      · exact ⟨a.1, a.2, s.get?_applyTo_of_added ha, rfl, rfl⟩
      · exact absurd rfl hzero
      · obtain ⟨e, he⟩ := Option.isSome_iff_exists.mp (fits.powered w hw)
        refine ⟨w.1, withPower e w.2, ?_, ?_, power_withPower e w.2⟩
        · rw [s.get?_applyTo_of_powered hw, he]
          rfl
        · rw [consensusKey_withPower, keyOf_of_get? he]
    · rw [applyUpdates_of_notMem hmem] at hp
      obtain ⟨n, e, he, rfl, hpower⟩ := (mirrors.powers k p).mp hp
      refine ⟨n, e, ?_, rfl, hpower⟩
      rw [get?_applyTo_of_unnamed, he]
      intro hn
      apply hmem
      rw [hkeys.mem_iff, namedKeys_updatesOn, mem_append]
      rw [names, append_assoc, mem_append] at hn
      rcases hn with hadded | hchanged
      · obtain ⟨a, ha, rfl⟩ := mem_map.mp hadded
        rw [fits.absent a ha] at he
        cases he
      · refine .inr (mem_map.mpr ⟨n, hchanged, ?_⟩)
        rw [keyOf_of_get? he]
  · rintro ⟨n, e, he, rfl, rfl⟩
    obtain ⟨v, hv⟩ := readable he
    obtain ⟨-, -, hpos⟩ := decodes_of_readIdentity hv
    have hnonzero : e.int "voting_power" ≠ 0 := by omega
    -- an update that names the key of the entry carries the power of the entry
    have hnamed : ⟨consensusKey e, e.int "voting_power"⟩ ∈ updates →
        applyUpdates m updates (decodedKey (consensusKey e)) = some (e.int "voting_power") := by
      intro hu
      rw [show decodedKey (consensusKey e) =
        decodedKey (⟨consensusKey e, e.int "voting_power"⟩ : ValidatorUpdate).publicKey from rfl,
        applyUpdates_of_mem hnodup hu, pointUpdate]
      exact if_neg hnonzero
    rcases applyTo_cases s he with hadded | ⟨u, hu, rfl, e₀, he₀, rfl⟩ | ⟨hn, he₀⟩
    · apply hnamed
      simp only [perm.mem_iff, updatesOn, mem_append, mem_map]
      exact .inl (.inl ⟨(n, e), hadded, rfl⟩)
    · apply hnamed
      simp only [perm.mem_iff, updatesOn, mem_append, mem_map]
      refine .inr ⟨u, hu, ?_⟩
      rw [keyOf_of_get? he₀, consensusKey_withPower, power_withPower]
    · have hunnamed := notMem_of_unnamed fits mirrors new hn he₀
      rw [← hkeys.mem_iff] at hunnamed
      rw [applyUpdates_of_notMem hunnamed]
      exact (mirrors.powers _ _).mpr ⟨n, e, he₀, rfl, rfl⟩

theorem Mirrors.sortKeys (mirrors : Mirrors m active) (le : String → String → Bool) :
    Mirrors m (active.sortKeys le) where
  decodes := by
    simp only [Dict.get?_sortKeys]
    exact mirrors.decodes
  distinct := by
    simp only [Dict.get?_sortKeys]
    exact mirrors.distinct
  powers := by
    simp only [Dict.get?_sortKeys]
    exact mirrors.powers

end Schedule

/-! ## The activations of a block -/

/-- The change that opening an epoch activates, if one is pending. -/
def pendingChange (L : LedgerState) (epoch : Int) : Option MembershipChange :=
  if epoch ∈ L.activatedValidatorSetEpochs then none
  else
    (validatorSetUpdateCommitment L epoch).bind fun r =>
      match readSchedule r.toEnvelope with
      | .ok (_, c) => some c
      | .error _ => none

def openedKeys (L : LedgerState) (epoch : Int) : List Bytes :=
  (pendingChange L epoch).elim [] fun c => namedKeys (c.updatesOn L.activeValidatorSet)

/-- The epochs of a block may be opened one after the other: what each of them adds is new as
bytes, and no key is named by two of them. -/
def KeysApart (ids : List String) : List Bytes → LedgerState → List Int → Prop
  | _, _, [] => True
  | named, L, epoch :: rest =>
    (∀ c, pendingChange L epoch = some c → NewKeys c L.activeValidatorSet) ∧
    (∀ k ∈ openedKeys L epoch, k ∉ named) ∧
    ∀ updates L', activateValidatorSetUpdate epoch ids L = .ok (updates, L') →
      KeysApart ids (named ++ openedKeys L epoch) L' rest

/-- What an activation does, by the pending change. -/
theorem activate_cases (h : activateValidatorSetUpdate epoch ids L = .ok (updates, L')) :
    pendingChange L epoch = none ∧ updates = [] ∧ L' = L ∨
      ∃ c, pendingChange L epoch = some c ∧ c.Separate ∧ c.Fits L.activeValidatorSet ∧
        updates = c.returnedUpdates L.activeValidatorSet ∧ L' = L.activated epoch c := by
  obtain ⟨-, ⟨hidle, rfl, rfl⟩ | ⟨r, e, c, hpending, hr, -, hvalid, rfl, rfl⟩⟩ :=
    activateValidatorSetUpdate_eq_ok.mp h
  · refine .inl ⟨?_, rfl, rfl⟩
    unfold pendingChange
    split_ifs with hdone
    · rfl
    · rw [hidle.resolve_left hdone]
      rfl
  · obtain ⟨hread, -, hfits, -⟩ := validateValidatorSetUpdate_eq_ok.mp hvalid
    have hseparate := separate_of_nodup
      (names_nodup_of_readChange (readSchedule_spec hread).2.2.2)
    refine .inr ⟨c, ?_, hseparate, hfits, rfl, rfl⟩
    simp only [pendingChange, if_neg hpending, hr, Option.bind_some, hread]

/-- The keys that an activation names. -/
theorem namedKeys_of_activate (h : activateValidatorSetUpdate epoch ids L = .ok (updates, L')) :
    (namedKeys updates).Perm (openedKeys L epoch) := by
  rcases activate_cases h with ⟨hnone, rfl, -⟩ | ⟨c, hc, -, -, rfl, -⟩
  · rw [openedKeys, hnone]
    exact List.Perm.nil
  · rw [openedKeys, hc]
    exact (mergeSort_perm _ _).map _

/-- An activation whose additions are new as bytes keeps the mirror, and names no key twice. -/
theorem Mirrors.activate (mirrors : Mirrors m L.activeValidatorSet)
    (wellFormed : ValidatorsWellFormed L)
    (h : activateValidatorSetUpdate epoch ids L = .ok (updates, L'))
    (new : ∀ c, pendingChange L epoch = some c → NewKeys c L.activeValidatorSet) :
    Mirrors (applyUpdates m updates) L'.activeValidatorSet ∧ (namedKeys updates).Nodup := by
  have hafter := wellFormed.activate h
  rcases activate_cases h with ⟨-, rfl, rfl⟩ | ⟨c, hc, hseparate, hfits, rfl, rfl⟩
  · exact ⟨mirrors, nodup_nil⟩
  · have hperm : (c.returnedUpdates L.activeValidatorSet).Perm
        (c.updatesOn L.activeValidatorSet) := mergeSort_perm _ _
    have hreadable : ∀ {n e}, (c.applyTo L.activeValidatorSet).get? n = some e →
        ∃ v, readIdentity e = .ok v := by
      intro n e he
      rw [← Dict.get?_sortKeys (· ≤ ·)] at he
      exact hafter.readable he
    have hmirrors := mirrors.applyTo hseparate hfits (new c hc) hreadable hperm
    refine ⟨hmirrors.sortKeys (· ≤ ·), ?_⟩
    exact (hperm.map _).nodup_iff.mpr (nodup_namedKeys hseparate hfits mirrors (new c hc))

/-- The activations of a block keep the mirror, and together name no key twice. -/
theorem Mirrors.activateEpochs {epochs : List Int} {named : List Bytes}
    (mirrors : Mirrors m L.activeValidatorSet) (wellFormed : ValidatorsWellFormed L)
    (h : activateEpochs ids L epochs = .ok (updates, L')) (apart : KeysApart ids named L epochs) :
    Mirrors (applyUpdates m updates) L'.activeValidatorSet ∧ ValidatorsWellFormed L' ∧
      (namedKeys updates).Nodup ∧ ∀ k ∈ namedKeys updates, k ∉ named := by
  induction epochs generalizing L m updates named with
  | nil =>
    cases h
    exact ⟨mirrors, wellFormed, nodup_nil, fun k hk => absurd hk not_mem_nil⟩
  | cons epoch epochs ih =>
    simp only [Consensus.activateEpochs, checks_eq_ok, Prod.exists, Prod.mk.injEq] at h
    obtain ⟨first, L₁, hfirst, more, L₂, hmore, rfl, rfl⟩ := h
    obtain ⟨hnew, happart, hrest⟩ := apart
    obtain ⟨hmirrors, hnodup⟩ := mirrors.activate wellFormed hfirst hnew
    have hkeys := namedKeys_of_activate hfirst
    obtain ⟨hmirrors₂, hwell₂, hnodup₂, happart₂⟩ :=
      ih hmirrors (wellFormed.activate hfirst) hmore (hrest first L₁ hfirst)
    have happend : namedKeys (first ++ more) = namedKeys first ++ namedKeys more :=
      map_append
    refine ⟨?_, hwell₂, ?_, ?_⟩
    · rw [applyUpdates, map_append, overlay_append]
      exact hmirrors₂
    · rw [happend, nodup_append]
      refine ⟨hnodup, hnodup₂, ?_⟩
      rintro k hk k' hk' rfl
      exact happart₂ k hk' (mem_append_right _ (hkeys.mem_iff.mp hk))
    · intro k hk
      rw [happend] at hk
      rcases mem_append.mp hk with hk | hk
      · exact happart k (hkeys.mem_iff.mp hk)
      · exact fun hnamed => happart₂ k hk (mem_append_left _ hnamed)

/-! ## Runs -/

section Runs

variable [Runtime] [LedgerRules]

variable {config : ApplicationConfig} {app app' : Application} {results : List ABCIResult}
  {m : PowerMap}

/-- Transactions keep the shape of the active set. -/
theorem wellFormed_executeAll {block : BlockContext} {txs : List Transaction}
    (h : ValidatorsWellFormed app.ledger)
    (run : executeAll config block app txs = .ok (results, app')) :
    ValidatorsWellFormed app'.ledger := by
  induction txs generalizing app results with
  | nil =>
    cases run
    exact h
  | cons tx txs ih =>
    obtain ⟨result, app₁, more, hone, hall, rfl⟩ := executeAll_cons.mp run
    refine ih ?_ hall
    rcases executeOne_cases hone with ⟨rfl, -⟩ | ⟨env, -, -, -, happly⟩
    · exact h
    · have hrecords := h.records (records_applyEnvelope config.strictOperationCoverage env
        block.finalizedIds)
      rw [leaves] at hrecords
      rcases executeApply_cases happly with ⟨record, L, hL, -, rfl⟩ | ⟨e, L, hL, -, rfl⟩
      · rw [hL] at hrecords
        exact hrecords
      · rw [hL] at hrecords
        exact hrecords

def BlockKeysApart (config : ApplicationConfig) (app : Application) (block : Block) : Prop :=
  ∀ results executed,
    executeAll config (blockContext app block.txs) app block.txs = .ok (results, executed) →
    KeysApart (finalizedOperationIds app.ledger) [] executed.ledger
      (openedEpochs block.txs results)

/-- A run whose blocks all open schedules with keys apart. -/
def RunKeysApart (config : ApplicationConfig) : Application → List Block → Prop
  | _, [] => True
  | app, block :: rest => BlockKeysApart config app block ∧
      ∀ result results app', finalizeBlock config app block = .ok (.finalized result results app') →
        RunKeysApart config app' rest

/-- A run beside CometBFT: the map starts with what it holds and takes in the updates of every
block. -/
inductive MirroredRun (config : ApplicationConfig) :
    PowerMap → Application → List Block → PowerMap → Application → Prop
  | nil (m : PowerMap) (app : Application) : MirroredRun config m app [] m app
  | cons {m m' : PowerMap} {app app₁ app₂ : Application} {block : Block} {rest : List Block}
      {result : ABCIResult} {results : List ABCIResult}
      (finalized : finalizeBlock config app block = .ok (.finalized result results app₁))
      (run : MirroredRun config (applyUpdates m result.validatorUpdates) app₁ rest m' app₂) :
      MirroredRun config m app (block :: rest) m' app₂

/-- A block whose keys are apart keeps the mirror, and its updates name no key twice. -/
theorem Mirrors.block {block : Block} {result : ABCIResult}
    (mirrors : Mirrors m app.ledger.activeValidatorSet)
    (wellFormed : ValidatorsWellFormed app.ledger)
    (finalized : finalizeBlock config app block = .ok (.finalized result results app'))
    (apart : BlockKeysApart config app block) :
    Mirrors (applyUpdates m result.validatorUpdates) app'.ledger.activeValidatorSet ∧
      ValidatorsWellFormed app'.ledger ∧ (namedKeys result.validatorUpdates).Nodup := by
  obtain ⟨executed, updates, L, hexecuted, hactivated, rfl, rfl⟩ :=
    finalizeBlock_eq_finalized.mp finalized
  rw [← (grows_executeAll hexecuted).active] at mirrors
  obtain ⟨hmirrors, hwell, hnodup, -⟩ := mirrors.activateEpochs
    (wellFormed_executeAll wellFormed hexecuted) hactivated (apart results executed hexecuted)
  exact ⟨hmirrors, hwell, hnodup⟩

/-- A run whose keys are apart keeps the mirror. -/
theorem Mirrors.run {m' : PowerMap} {blocks : List Block}
    (mirrors : Mirrors m app.ledger.activeValidatorSet)
    (wellFormed : ValidatorsWellFormed app.ledger) (run : MirroredRun config m app blocks m' app')
    (apart : RunKeysApart config app blocks) :
    Mirrors m' app'.ledger.activeValidatorSet ∧
      ∀ before block after app₁ result results app₂, blocks = before ++ block :: after →
        Finalizes config app before app₁ →
        finalizeBlock config app₁ block = .ok (.finalized result results app₂) →
        (namedKeys result.validatorUpdates).Nodup := by
  induction run with
  | nil m app =>
    refine ⟨mirrors, ?_⟩
    intro before block after app₁ result results app₂ hsplit
    cases before <;> cases hsplit
  | cons finalized run ih =>
    obtain ⟨hmirrors, hwell, hnodup⟩ := mirrors.block wellFormed finalized apart.1
    obtain ⟨hend, hblocks⟩ := ih hmirrors hwell (apart.2 _ _ _ finalized)
    refine ⟨hend, ?_⟩
    intro before block after app₁ result results app₂ hsplit hbefore hblock
    cases before with
    | nil =>
      cases hsplit
      cases hbefore
      rw [finalized] at hblock
      cases hblock
      exact hnodup
    | cons first before =>
      rw [cons_append, List.cons.injEq] at hsplit
      obtain ⟨rfl, rfl⟩ := hsplit
      cases hbefore with
      | cons hfirst _ hrest =>
        rw [finalized] at hfirst
        cases hfirst
        exact hblocks before block after app₁ result results app₂ rfl hrest hblock

/-- In every run from genesis whose blocks open schedules with keys apart, the map of CometBFT
mirrors the active set after every block, and no block names a key twice. -/
theorem cometbft_mirrors_active_set {config : ApplicationConfig} {balances : Dict String Int}
    {manifest : Option Fields} {app app' : Application} {blocks : List Block} {m : PowerMap}
    (start : app.ledger = genesis balances manifest)
    (run : MirroredRun config (fun _ => none) app blocks m app')
    (apart : RunKeysApart config app blocks) :
    Mirrors m app'.ledger.activeValidatorSet ∧
      ∀ before block after app₁ result results app₂, blocks = before ++ block :: after →
        Finalizes config app before app₁ →
        finalizeBlock config app₁ block = .ok (.finalized result results app₂) →
        (namedKeys result.validatorUpdates).Nodup := by
  have hempty : Mirrors (fun _ => none) app.ledger.activeValidatorSet := by
    rw [start]
    exact mirrors_empty
  have hwell : ValidatorsWellFormed app.ledger := by
    rw [start]
    exact .genesis balances manifest
  exact hempty.run hwell run apart

end Runs

/-! ## One schedule and the transition that opens it -/

/-- A schedule of additions for epoch 1 that is valid while no validator is active. -/
structure FirstSchedule (env : Envelope) (c : MembershipChange) : Prop where
  shape : ∃ additions setHash operationId, env = scheduleEnvelope 1 additions [] setHash operationId
  read : readSchedule env = .ok (1, c)
  fits : c.Fits .empty
  declared : computeValidatorSetHash (c.applyTo .empty).values =
    .ok (env.payload.text "validator_set_hash")
  named : isBlank env.operationId = false
  other : env.operationId ≠ firstTransition.operationId
  short : dumpsLength (.dict env.payload) ≤ 65536

def scheduledLedger (env : Envelope) : LedgerState :=
  (genesis .empty none).admitted env ["ValidatorSetUpdateScheduled"] none

def openingLedger (env : Envelope) : LedgerState :=
  (scheduledLedger env).admitted firstTransition ["EpochTransition"] none

def schedulingBlock (env : Envelope) : Block := zeroBlock 0 [.ok env]

def openingBlock : Block := zeroBlock 1 [.ok firstTransition]

def afterScheduling [Runtime] (env : Envelope) : Application :=
  (freshApplication.noted env (scheduledLedger env)).sealed (schedulingBlock env)
    (scheduledLedger env)

def afterOpening [Runtime] (env : Envelope) (c : MembershipChange) : Application :=
  ((afterScheduling env).noted firstTransition (openingLedger env)).sealed openingBlock
    ((openingLedger env).activated 1 c)

theorem activeSet_afterOpening [Runtime] (env : Envelope) (c : MembershipChange) :
    (afterOpening env c).ledger.activeValidatorSet = (c.applyTo .empty).sortKeys (· ≤ ·) :=
  rfl

namespace FirstSchedule

variable [Runtime] [LedgerRules] {env : Envelope} {c : MembershipChange}

variable (h : FirstSchedule env c)

include h

omit [Runtime] [LedgerRules] in
theorem valid {rejectExisting : Bool} {L : LedgerState}
    (new : rejectExisting = true → validatorSetUpdateCommitment L 1 = none)
    (empty : L.activeValidatorSet = .empty) :
    validateValidatorSetUpdate env rejectExisting L = .ok (1, c) := by
  refine validateValidatorSetUpdate_eq_ok.mpr ⟨h.read, new, ?_, ?_⟩
  · rw [empty]
    exact h.fits
  · rw [empty]
    exact h.declared

theorem finalize_scheduling :
    finalizeBlock defaultConfig freshApplication (schedulingBlock env) =
      .ok (.finalized (blockResult (schedulingBlock env) [executedResult env] [])
        [executedResult env] (afterScheduling env)) := by
  obtain ⟨additions, setHash, operationId, rfl⟩ := h.shape
  have hvalid : validateValidatorSetUpdate (scheduleEnvelope 1 additions [] setHash operationId)
      true (genesis .empty none) = .ok (1, c) := h.valid (fun _ => rfl) rfl
  have hadmits : Admits (genesis .empty none) (scheduleEnvelope 1 additions [] setHash operationId)
      none :=
    ⟨rfl, rfl, by simpa [scheduleEnvelope] using ne_empty_of_isBlank h.named, h.named,
      (by decide : isBlank "CONSENSUS_VALIDATOR_SET_UPDATE" = false), Nat.le_refl 1, rfl⟩
  have happly : applyValidatorSetUpdate (scheduleEnvelope 1 additions [] setHash operationId)
      (genesis .empty none) = .ok (admittedRecord (genesis .empty none)
        (scheduleEnvelope 1 additions [] setHash operationId) ["ValidatorSetUpdateScheduled"] none)
        (scheduledLedger (scheduleEnvelope 1 additions [] setHash operationId)) :=
    applyConsensus_eq_ok.mpr ⟨_, _, hvalid, hadmits.admitEnvelope _, rfl⟩
  have hadmitted : freshApplication.admission.validate defaultConfig.admission
      (scheduleEnvelope 1 additions [] setHash operationId) = .ok none :=
    AdmissionState.validate_of_passes rfl rfl rfl (if_neg (Nat.not_lt.mpr h.short))
  have hspecial : specialOperationError defaultConfig freshApplication
      (scheduleEnvelope 1 additions [] setHash operationId) [] = .ok none := by
    show ledgerComplaint freshApplication (scheduleEnvelope 1 additions [] setHash operationId)
      (.validatorSetUpdate (scheduleEnvelope 1 additions [] setHash operationId)) = .ok none
    rw [ledgerComplaint, validateOperation,
      show freshApplication.ledger = genesis .empty none from rfl, hvalid]
    rfl
  have hone := @executeOne_of_applied _ _ defaultConfig (blockContext freshApplication
    (schedulingBlock (scheduleEnvelope 1 additions [] setHash operationId)).txs)
    _ _ _ _ hadmitted rfl rfl hspecial rfl happly
  exact finalizeBlock_eq_finalized.mpr ⟨_, [], _, executeAll_single hone, rfl, rfl, rfl⟩

theorem execute_opening :
    executeAll defaultConfig (blockContext (afterScheduling env) openingBlock.txs)
        (afterScheduling env) openingBlock.txs =
      .ok ([executedResult firstTransition],
        (afterScheduling env).noted firstTransition (openingLedger env)) := by
  obtain ⟨additions, setHash, operationId, rfl⟩ := h.shape
  have hadmits : Admits (scheduledLedger (scheduleEnvelope 1 additions [] setHash operationId))
      firstTransition none := by
    refine ⟨?_, rfl, rfl, by decide, by decide, Nat.le_add_left 1 1, rfl⟩
    have hother : firstTransition.operationId ≠ operationId := h.other.symm
    show (Dict.set _ operationId _).get? firstTransition.operationId = none
    rw [Dict.get?_set_of_ne _ _ hother]
    rfl
  refine executeAll_single (executeOne_firstTransition hadmits rfl rfl ?_ rfl rfl)
  show [operationId].contains firstTransition.operationId = false
  rw [contains_cons, contains_nil, Bool.or_false, beq_eq_false_iff_ne]
  exact h.other.symm

omit [Runtime] [LedgerRules] in
theorem activate_opening :
    activateEpochs [env.operationId] (openingLedger env) [1] =
      .ok (c.returnedUpdates .empty, (openingLedger env).activated 1 c) := by
  obtain ⟨additions, setHash, operationId, rfl⟩ := h.shape
  have hvalid : validateValidatorSetUpdate (scheduleEnvelope 1 additions [] setHash operationId)
      false (openingLedger (scheduleEnvelope 1 additions [] setHash operationId)) = .ok (1, c) :=
    h.valid (by simp) rfl
  have hactivate : activateValidatorSetUpdate 1 [operationId]
      (openingLedger (scheduleEnvelope 1 additions [] setHash operationId)) =
        .ok (c.returnedUpdates .empty, (openingLedger
          (scheduleEnvelope 1 additions [] setHash operationId)).activated 1 c) :=
    activateValidatorSetUpdate_eq_ok.mpr ⟨by decide, .inr ⟨_, 1, c, not_mem_nil, rfl,
      mem_cons_self, hvalid, rfl, rfl⟩⟩
  simp only [activateEpochs, checks_eq_ok, Prod.exists, Prod.mk.injEq]
  exact ⟨_, _, hactivate, [], _, rfl, append_nil _, rfl⟩

theorem finalize_opening :
    finalizeBlock defaultConfig (afterScheduling env) openingBlock =
      .ok (.finalized (blockResult openingBlock [executedResult firstTransition]
        (c.returnedUpdates .empty)) [executedResult firstTransition] (afterOpening env c)) :=
  finalizeBlock_eq_finalized.mpr ⟨_, _, _, h.execute_opening, h.activate_opening, rfl, rfl⟩

/-- The two blocks beside CometBFT. -/
theorem run :
    MirroredRun defaultConfig (fun _ => none) freshApplication [schedulingBlock env, openingBlock]
      (applyUpdates (applyUpdates (fun _ => none) []) (c.returnedUpdates .empty))
      (afterOpening env c) :=
  .cons h.finalize_scheduling (.cons h.finalize_opening (.nil _ _))

/-- The keys of the run are apart when the additions are new as bytes. -/
theorem keysApart (new : NewKeys c .empty) :
    RunKeysApart defaultConfig freshApplication [schedulingBlock env, openingBlock] := by
  obtain ⟨executed, updates, L, hexecuted, -⟩ :=
    finalizeBlock_eq_finalized.mp h.finalize_scheduling
  refine ⟨?_, ?_⟩
  · intro results executed' hexecuted'
    rw [hexecuted] at hexecuted'
    cases hexecuted'
    obtain ⟨additions, setHash, operationId, rfl⟩ := h.shape
    exact trivial
  intro result results app' hfinalized
  rw [h.finalize_scheduling] at hfinalized
  cases hfinalized
  refine ⟨?_, fun _ _ _ _ => trivial⟩
  intro results executed' hexecuted'
  rw [h.execute_opening] at hexecuted'
  cases hexecuted'
  refine ⟨?_, fun k _ => not_mem_nil, fun _ _ _ => trivial⟩
  -- the pending change is the one of the schedule
  intro c' hc'
  obtain ⟨additions, setHash, operationId, rfl⟩ := h.shape
  have hread : readSchedule (admittedRecord (genesis .empty none)
      (scheduleEnvelope 1 additions [] setHash operationId) ["ValidatorSetUpdateScheduled"]
      none).toEnvelope = .ok (1, c) := h.read
  have hpending : pendingChange
      (openingLedger (scheduleEnvelope 1 additions [] setHash operationId)) 1 = some c := by
    unfold pendingChange
    rw [if_neg (show (1 : Int) ∉ (openingLedger (scheduleEnvelope 1 additions [] setHash
      operationId)).activatedValidatorSetEpochs from not_mem_nil),
      show validatorSetUpdateCommitment
      (openingLedger (scheduleEnvelope 1 additions [] setHash operationId)) 1 =
        some (admittedRecord (genesis .empty none)
          (scheduleEnvelope 1 additions [] setHash operationId) ["ValidatorSetUpdateScheduled"]
          none) from rfl, Option.bind_some, hread]
  have hsame : pendingChange
      (openingLedger (scheduleEnvelope 1 additions [] setHash operationId)) 1 = some c' := hc'
  rw [hpending] at hsame
  cases hsame
  exact new

end FirstSchedule

theorem firstSchedule_first : FirstSchedule firstSchedule addFirst where
  shape := ⟨_, _, _, rfl⟩
  read := readSchedule_addFirst (by decide)
  fits := (validateValidatorSetUpdate_eq_ok.mp
    (@validate_addFirst 1 "" false (genesis .empty none) (by decide) (by simp) rfl)).2.2.1
  declared := (validateValidatorSetUpdate_eq_ok.mp
    (@validate_addFirst 1 "" false (genesis .empty none) (by decide) (by simp) rfl)).2.2.2
  named := by decide
  other := by decide
  short := dumpsLength_firstSchedule

/-- One validator: the map holds its key with its power. -/
theorem one_validator_mirrored :
    letI := sampleRuntime
    letI := noRules
    RunKeysApart defaultConfig freshApplication [schedulingBlock firstSchedule, openingBlock] ∧
      ∃ m app', MirroredRun defaultConfig (fun _ => none) freshApplication
          [schedulingBlock firstSchedule, openingBlock] m app' ∧
        Mirrors m app'.ledger.activeValidatorSet ∧
        (app'.ledger.activeValidatorSet.get? "node-1").isSome = true := by
  let _ := sampleRuntime
  let _ := noRules
  have hnew : NewKeys addFirst .empty := ⟨fun a _ e he => (by cases he), List.nodup_singleton _⟩
  have hapart := firstSchedule_first.keysApart hnew
  have hrun := firstSchedule_first.run
  refine ⟨hapart, _, _, hrun, ?_, ?_⟩
  · exact (cometbft_mirrors_active_set
      (show freshApplication.ledger = genesis .empty none from rfl) hrun hapart).1
  · rw [activeSet_afterOpening, Dict.get?_sortKeys]
    rfl

/-! ## One key under two texts -/

/-- Another text for the zero key: its last character has two bits that no byte takes. -/
def twinKey : String := "ed25519:AAAAAAAAAAAAAAAAAAAAAAAAAAAAAAAAAAAAAAAAAAB="

def twinValidator : Fields :=
  [("node_id", .str "node-2"), ("operator_id", .str "operator-2"),
    ("consensus_address", .str "address-2"), ("consensus_public_key", .str twinKey),
    ("stake", .int 100), ("voting_power", .int 5)]

def twinIdentity : ValidatorIdentity := ⟨"node-2", "operator-2", "address-2", twinKey, 100, 5⟩

def addTwins : MembershipChange :=
  ⟨[("node-1", firstValidator), ("node-2", twinValidator)], [], []⟩

def twinSchedule : Envelope :=
  scheduleEnvelope 1 [.dict firstValidator, .dict twinValidator] []
    (identitiesHash [firstIdentity, twinIdentity])
    "ad91be3badfaa6b1702ce07248edf34f9e160d9202da7094ca6ef469a026589d"

theorem dumpsLength_twinSchedule : dumpsLength (.dict twinSchedule.payload) ≤ 65536 := by
  have hlength : dumpsLength (.dict twinSchedule.payload) = 2 + joinedLength [21, 422, 24, 26,
      22 + (quoteText (identitiesHash [firstIdentity, twinIdentity])).length, 49] := rfl
  have hquoted := length_quoteText_le (identitiesHash [firstIdentity, twinIdentity])
  rw [length_identitiesHash] at hquoted
  simp only [joinedLength, sum_cons, sum_nil, length_cons, length_nil]
    at hlength
  omega

theorem firstSchedule_twin : FirstSchedule twinSchedule addTwins where
  shape := ⟨_, _, _, rfl⟩
  read := readSchedule_scheduleEnvelope (by decide) (isBlank_identitiesHash _) (.inl (by simp)) rfl
    rfl rfl (by decide)
  fits :=
    { absent := fun a _ => rfl
      fresh := fun a _ e he => (by cases he)
      distinct := by decide
      removable := fun n hn => (by cases hn)
      powered := fun u hu => (by cases hu) }
  declared := by
    refine computeValidatorSetHash_eq_ok.mpr ⟨[firstIdentity, twinIdentity], rfl, ?_, rfl⟩
    rw [pairwise_pair]
    exact ⟨by decide, by decide⟩
  named := by decide
  other := by decide
  short := dumpsLength_twinSchedule

/-- Two validators share the bytes of their keys, and the block names these bytes twice. -/
theorem twin_keys_activated :
    letI := sampleRuntime
    letI := noRules
    ∃ m app' updates, MirroredRun defaultConfig (fun _ => none) freshApplication
        [schedulingBlock twinSchedule, openingBlock] m app' ∧
      ¬ Mirrors m app'.ledger.activeValidatorSet ∧
      finalizeBlock defaultConfig (afterScheduling twinSchedule) openingBlock =
        .ok (.finalized (blockResult openingBlock [executedResult firstTransition] updates)
          [executedResult firstTransition] app') ∧
      ¬ (namedKeys updates).Nodup := by
  let _ := sampleRuntime
  let _ := noRules
  have hsame : decodedKey zeroKey = decodedKey twinKey := rfl
  refine ⟨_, _, _, firstSchedule_twin.run, ?_, firstSchedule_twin.finalize_opening, ?_⟩
  · intro hmirrors
    rw [activeSet_afterOpening] at hmirrors
    have hfirst : ((addTwins.applyTo .empty).sortKeys (· ≤ ·)).get? "node-1" =
        some firstValidator := by
      rw [Dict.get?_sortKeys]
      rfl
    have htwin : ((addTwins.applyTo .empty).sortKeys (· ≤ ·)).get? "node-2" =
        some twinValidator := by
      rw [Dict.get?_sortKeys]
      rfl
    exact absurd (hmirrors.distinct hfirst htwin hsame) (by decide)
  · intro hnodup
    have hperm : (namedKeys (addTwins.returnedUpdates .empty)).Perm
        (namedKeys (addTwins.updatesOn .empty)) := (List.mergeSort_perm _ _).map _
    rw [hperm.nodup_iff] at hnodup
    have hkeys : [decodedKey zeroKey, decodedKey twinKey].Nodup := hnodup
    rw [hsame] at hkeys
    simp at hkeys

end AidnSpec.Consensus
