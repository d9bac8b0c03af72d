import AidnSpec.Snapshot.FailClosed
import AidnSpec.Snapshot.OneHonestProvider
import AidnSpec.Snapshot.RestoredState

/-!
# Produced snapshots are applied

With honest providers a produced snapshot comes through every stage of an application up to the
checks on the restored state: the references between its records and the invariants. What passes
these becomes active.
-/

namespace AidnSpec.Snapshot

open Base FileSnapshotChunkStore CompressionHandler Application List

/-! ## The download -/

section Honest

variable {providers : List String}

/-- Only providers of the list stand in a plan. -/
theorem mem_of_mem_plan {total : ℕ} {inventory : String → List Int} {provider : String} {i : ℕ}
    (h : provider ∈ (plan total providers inventory)[i]?.getD []) : provider ∈ providers := by
  have hassigned : ∀ (candidates : List String) (turn : ℕ),
      provider ∈ assigned providers candidates turn → provider ∈ candidates := by
    intro candidates turn hmem
    cases candidates with
    | nil => cases hmem
    | cons first rest =>
      have hfold : ∀ (cs known : List String), (∀ c ∈ known, c ∈ first :: rest) →
          (∀ c ∈ cs, c ∈ first :: rest) →
          ∀ c ∈ cs.foldl (fun known c => if c ∈ known then known else known ++ [c]) known,
            c ∈ first :: rest := by
        intro cs
        induction cs with
        | nil => exact fun known hknown _ => hknown
        | cons c cs ih =>
          intro known hknown hcs
          refine ih _ ?_ fun d hd => hcs d (mem_cons_of_mem c hd)
          intro d hd
          dsimp only at hd
          split at hd
          · exact hknown d hd
          · rcases mem_append.mp hd with hd | hd
            · exact hknown d hd
            · rw [mem_singleton.mp hd]
              exact hcs c mem_cons_self
      refine hfold (first :: rest) _ ?_ (fun c hc => hc) provider hmem
      intro c hc
      rw [mem_singleton.mp hc]
      split
      · assumption
      · exact mem_cons_self
  have hfrom : ∀ (count index turn k : ℕ),
      provider ∈ (planFrom providers inventory count index turn)[k]?.getD [] →
      provider ∈ providers := by
    intro count
    induction count with
    | zero => exact fun index turn k hk => by cases hk
    | succ count ih =>
      intro index turn k hk
      rw [planFrom] at hk
      cases k with
      | zero => exact (mem_filter.mp (hassigned _ _ hk)).1
      | succ k => exact ih _ _ k hk
  exact hfrom total 0 0 i h

/-- What honest providers serve is taken. -/
theorem firstAnswer_honest {answers : Answers} {accepts : SnapshotChunk → Bool}
    {maxRetryCount index : ℕ} (hne : providers ≠ []) {chunk : SnapshotChunk}
    (havailable : ∀ p ∈ providers, answers.available p index = true)
    (hserves : ∀ p ∈ providers, answers.chunk p index 0 = some chunk)
    (haccepts : accepts chunk = true) :
    firstAnswer answers accepts maxRetryCount index providers = some chunk := by
  obtain ⟨first, rest, rfl⟩ := exists_cons_of_ne_nil hne
  rw [firstAnswer, if_pos (havailable first mem_cons_self), firstAccepted,
    hserves first mem_cons_self, Option.filter_some, if_pos haccepts]

/-- There are providers, all of them honest, and the disk has no faults. -/
structure AllHonest (answers : Answers) (providers : List String) (chunks : List SnapshotChunk) :
    Prop where
  faultless : answers.Faultless
  nonempty : providers ≠ []
  honest : ∀ provider ∈ providers, answers.Honest chunks provider

variable {m : SnapshotManifest} {chunks : List SnapshotChunk} {answers : Answers}
  {providers : List String}

/-- From honest providers the chunks of the snapshot are taken. -/
theorem Genuine.takes_of_allHonest (h : Genuine m chunks)
    (honest : AllHonest answers providers chunks) (maxRetryCount : ℕ) : ∃ taken,
      Takes answers maxRetryCount m.snapshotId m.chunkCount providers taken ∧
        takenChunks taken m.chunkCount = chunks := by
  have hanswer : ∀ i < m.chunkCount,
      answerFor answers maxRetryCount m.snapshotId m.chunkCount providers i = chunks[i]? := by
    intro i hi
    have hlt : i < chunks.length := h.count ▸ hi
    obtain ⟨provider, hprovider⟩ := exists_mem_of_ne_nil _ honest.nonempty
    have hplan := mem_plan hprovider hi ((honest.honest provider hprovider).listed i hlt)
    rw [getElem?_eq_getElem hlt]
    exact firstAnswer_honest (ne_nil_of_mem hplan)
      (fun p hp => (honest.honest p (mem_of_mem_plan hp)).available i hlt)
      (fun p hp => (honest.honest p (mem_of_mem_plan hp)).serves i _ 0
        (getElem?_eq_getElem hlt))
      (h.matching i _ (getElem?_eq_getElem hlt))
  refine ⟨fun i => (chunks[i]?).getD (chunks.head h.nonempty),
    ⟨honest.faultless, fun i hi => ?_⟩, ?_⟩
  · rw [hanswer i hi, getElem?_eq_getElem (h.count ▸ hi), Option.getD_some]
  · apply ext_getElem?
    intro i
    rw [takenChunks, getElem?_map]
    by_cases hi : i < m.chunkCount
    · rw [getElem?_range hi, Option.map_some, getElem?_eq_getElem (h.count ▸ hi),
        Option.getD_some]
    · rw [getElem?_eq_none (by rw [length_range]; omega),
        getElem?_eq_none (by rw [h.count]; omega), Option.map_none]

/-- From honest providers the first call succeeds, and the chunks are loaded. -/
theorem Genuine.download_honest [Runtime] [FloatReader] (h : Genuine m chunks)
    (honest : AllHonest answers providers chunks) (maxRetryCount : ℕ) (now : String)
    (store : FileSnapshotChunkStore) : ∃ result store',
      download maxRetryCount answers now m.snapshotId m providers store = (.ok result, store') ∧
        result.success = true ∧ loadVerifiedChunks store' result.session = .ok chunks := by
  obtain ⟨taken, htakes, htaken⟩ := h.takes_of_allHonest honest maxRetryCount
  have hstorable : ∀ i < m.chunkCount, Snapshot.storable (taken i) = true := fun i hi => by
    have hmem : taken i ∈ takenChunks taken m.chunkCount :=
      mem_map_of_mem (mem_range.mpr hi)
    exact h.storable _ (htaken ▸ hmem)
  have hroot := isEmpty_of_rootHash h.rootHash_payloads
  have hactual := h.root
  rw [← htaken] at hactual
  obtain ⟨⟨result, hresult, hended⟩, hstore⟩ := htakes.ends_download h.pos hstorable hroot hactual
    now store
  rw [if_pos rfl, htaken] at hended
  have hcomplete : Complete m (takenChunks taken m.chunkCount)
      (placeAll taken store (List.range m.chunkCount)) := htakes.complete hstorable
  rw [htaken, ← hstore] at hcomplete
  exact ⟨result, _, Prod.ext hresult rfl, hended.1, hcomplete.load hended.2 h.pos hroot h.root⟩

end Honest

/-! ## Verification and decoding -/

section Content

variable [Gzip] [FloatDivision]

/-- What was compressed is decompressed by a handler of its size. -/
theorem decompress_sized (gzip : GzipRoundTrip) {encoded compressed : Bytes}
    {algorithm : CompressionAlgorithm} (hne : compressed ≠ [])
    (h : compress {} encoded algorithm = .ok compressed) :
    (sized {} encoded.length compressed.length).decompress compressed algorithm =
      .ok encoded := by
  unfold compress at h
  split at h
  · split at h
    · cases h
    · cases h
      rfl
  · split at h
    · cases h
    · dsimp only at h
      split at h
      · cases h
      · cases h
        have hmax : max 1 (Gzip.compress encoded).length = (Gzip.compress encoded).length :=
          max_eq_right (length_pos_of_ne_nil hne)
        unfold decompress
        rw [gzip.decompress_compress]
        simp [sized, bind, Except.bind, hmax]
  · cases h

variable {config : SnapshotProducerConfig} {state : Fields} {encoded compressed : Bytes}
  {r : ProduceResult}

omit [FloatDivision] in
theorem Produced.length_encoded (h : Produced config state encoded compressed r) :
    encoded.length ≤ 10737418240 := by
  have hcompress := h.compresses
  unfold compress at hcompress
  split at hcompress
  · split at hcompress
    · cases hcompress
    next hle => exact Nat.le_of_not_lt hle
  · split at hcompress
    · cases hcompress
    next hle => exact Nat.le_of_not_lt hle
  · cases hcompress

/-- The chunks of a produced snapshot pass the verifier. -/
theorem Produced.verifyComplete (h : Produced config state encoded compressed r)
    (gzip : GzipRoundTrip) : ∃ verification, Snapshot.verifyComplete r.manifest r.chunks
      r.manifest.applicationStateHash = .ok verification ∧ verification.valid = true := by
  obtain ⟨hgenuine, hreassemble⟩ := h.genuine gzip
  obtain ⟨hne, -⟩ := h.length_compressed gzip
  have hempty : ¬ r.chunks.isEmpty = true := by
    rw [List.isEmpty_iff]
    exact hgenuine.nonempty
  have hroot : verifyChunkRoot r.chunks r.manifest.chunkRoot = .ok true := by
    have hany : ¬ r.chunks.any (!verifyChunk ·) = true := by
      rw [any_eq_true]
      rintro ⟨chunk, hmem, hfalse⟩
      rw [hgenuine.verified chunk hmem] at hfalse
      cases hfalse
    rw [verifyChunkRoot, if_neg hempty, if_neg hany, hgenuine.root]
    exact congrArg Except.ok (beq_self_eq_true _)
  have hcontent : contentOf {} r.chunks r.manifest.compression r.manifest.snapshotContentSize =
      .ok encoded := by
    rw [contentOf, hreassemble, h.compression, h.size]
    exact decompress_sized gzip hne h.compresses
  have hhash : verifyContentHash r.chunks r.manifest.snapshotContentHash r.manifest.compression
      r.manifest.snapshotContentSize = .ok true := by
    have hsize : ¬ r.manifest.snapshotContentSize > 10737418240 := by
      rw [h.size]
      exact Nat.not_lt.mpr h.length_encoded
    unfold verifyContentHash
    rw [if_neg hempty, if_neg hsize, hcontent, h.size, h.contentHash]
    simp
  have hcount : r.chunks.length = r.manifest.chunkCount := hgenuine.count
  unfold Snapshot.verifyComplete
  rw [hroot]
  simp only [hhash, bind, Except.bind, pure, Except.pure]
  exact ⟨_, rfl, by simp [hcount]⟩

/-- The content of a produced snapshot is the encoded state. -/
theorem Produced.decodeContent (h : Produced config state encoded compressed r)
    (gzip : GzipRoundTrip) : Application.decodeContent r.manifest r.chunks = .ok encoded := by
  obtain ⟨-, hreassemble⟩ := h.genuine gzip
  obtain ⟨hne, -⟩ := h.length_compressed gzip
  have hsize : ¬ r.manifest.snapshotContentSize > 10737418240 := by
    rw [h.size]
    exact Nat.not_lt.mpr h.length_encoded
  unfold Application.decodeContent
  rw [hreassemble]
  dsimp only
  rw [if_neg hsize, h.size, h.compression, decompress_sized gzip hne h.compresses]
  exact if_neg (not_not.mpr rfl)

end Content

/-! ## Application -/

section Applied

variable [Runtime] [FloatReader] [Conversions] [Gzip] [FloatDivision] [FloatSum]

/-- An application of a produced snapshot with honest providers. -/
structure Application.Fetches (x : Application) (r : ProduceResult) : Prop where
  manifest : x.manifest = r.manifest
  fresh : x.session = none
  trusted : x.canonicalStateHash = r.manifest.applicationStateHash
  honest : AllHonest x.answers x.providers r.chunks

variable {config : SnapshotProducerConfig} {state : Fields} {encoded compressed : Bytes}
  {r : ProduceResult} {x : Application}

/-- A produced snapshot with valid references comes to its activation. -/
theorem Produced.apply_eq (h : Produced config state encoded compressed r) (gzip : GzipRoundTrip)
    (wellFormed : (PyValue.dict state).WellFormed)
    (references : validateReferences (stagedState state) = .ok ()) (fetches : x.Fetches r)
    (a : AtomicActivator) (store : FileSnapshotChunkStore) : ∃ soFar : SnapshotApplyResult,
      soFar.success = false ∧
      (x.apply a store).1 = (x.activateStaging soFar (stagedState state) a).1 ∧
      (x.apply a store).2.1 = (x.activateStaging soFar (stagedState state) a).2 := by
  obtain ⟨hgenuine, -⟩ := h.genuine gzip
  obtain ⟨result, store', hdownload, hsuccess, hload⟩ :=
    hgenuine.download_honest fetches.honest x.maxRetryCount x.now store
  obtain ⟨verification, hverification, hvalid⟩ := h.verifyComplete gzip
  obtain ⟨restoration, hrestore, hhash⟩ := restore_encoded wellFormed h.encodes references
  have hfetched : x.fetched store = (.ok result, store') := by
    rw [fetched, fetches.fresh, fetches.manifest]
    exact hdownload
  have hrestored : restored r.manifest r.chunks =
      .ok (restoration, stagedState state) := by
    rw [restored, h.decodeContent gzip]
    exact lifted_eq_ok.mpr hrestore
  have hnotInvalid : ¬ (!verification.valid) = true := by rw [hvalid]; decide
  have hsame : ¬ restoration.applicationStateHash ≠ x.canonicalStateHash := by
    rw [not_not, fetches.trusted, h.stateHash, hhash]
  obtain ⟨soFar, hfailed, hchunks⟩ : ∃ soFar : SnapshotApplyResult, soFar.success = false ∧
      x.applyChunks result r.chunks a = x.activateStaging soFar (stagedState state) a := by
    refine ⟨{
      success := false
      phase := "verification"
      download := some result
      verification := some verification
      restoration := some restoration }, rfl, ?_⟩
    unfold applyChunks
    rw [fetches.manifest, fetches.trusted, hverification]
    dsimp only
    rw [if_neg hnotInvalid, hrestored]
    dsimp only
    rw [← fetches.trusted, if_neg hsame]
  have happly : x.apply a store = ((x.applyChunks result r.chunks a).1,
      (x.applyChunks result r.chunks a).2, store') := by
    unfold Application.apply
    rw [hfetched]
    dsimp only
    rw [if_neg (by rw [hsuccess]; decide), hload]
  refine ⟨soFar, hfailed, ?_, ?_⟩
  · rw [happly, ← hchunks]
  · rw [happly, ← hchunks]

variable {staging : StagingStateStore} {invariants : InvariantCheckResult}

section

omit [Runtime] [FloatReader] [Gzip] [FloatDivision]

/-- A state with a hash that passes the invariant checks becomes active. -/
theorem activateStaging_valid (hinvariants : checkAll staging = .ok invariants)
    (hvalid : invariants.valid = true) (hne : staging.isEmpty = false)
    (hhash : staging.calculateStateHash = .ok x.canonicalStateHash) (soFar : SnapshotApplyResult)
    (a : AtomicActivator) :
    Activates staging.namespaces x.canonicalStateHash (x.activateStaging soFar staging a) := by
  have hprepare : a.prepare staging x.canonicalStateHash =
      (.ok true, { a with stagingData := some staging.namespaces, state := .ready }) := by
    unfold AtomicActivator.prepare
    rw [if_neg (by rw [hne]; decide), hhash]
    exact if_neg (not_not.mpr rfl)
  obtain ⟨hsuccess, hactive, hdata⟩ := activate_prepared a hhash x.activatedAt x.activationId
  unfold activateStaging
  rw [hinvariants]
  dsimp only
  rw [if_neg (by rw [hvalid]; decide), hprepare]
  exact ⟨⟨_, rfl, hsuccess⟩, hactive, hdata, hhash⟩

/-- A state that violates an invariant is refused. -/
theorem activateStaging_invalid (hinvariants : checkAll staging = .ok invariants)
    (hvalid : invariants.valid = false) {soFar : SnapshotApplyResult}
    (hfailed : soFar.success = false) (a : AtomicActivator) :
    Refused a (x.activateStaging soFar staging a) := by
  unfold activateStaging
  rw [hinvariants]
  dsimp only
  rw [if_pos (by rw [hvalid]; rfl)]
  exact refused_result a hfailed

end

/-- A produced snapshot whose restored state passes every check is activated. -/
theorem Produced.activates (h : Produced config state encoded compressed r) (gzip : GzipRoundTrip)
    (wellFormed : (PyValue.dict state).WellFormed) (references : ReferencesResolve state)
    (invariants : ∃ found, checkAll (stagedState state) = .ok found ∧ found.valid = true)
    (fetches : x.Fetches r) (a : AtomicActivator) (store : FileSnapshotChunkStore) :
    Activates (stagedState state).namespaces x.canonicalStateHash
      ((x.apply a store).1, (x.apply a store).2.1) := by
  obtain ⟨soFar, -, hresult, hactivator⟩ := h.apply_eq gzip wellFormed
    (validateReferences_stagedState wellFormed references) fetches a store
  obtain ⟨found, hfound, hvalid⟩ := invariants
  have hhash : (stagedState state).calculateStateHash = .ok x.canonicalStateHash := by
    rw [fetches.trusted, h.stateHash]
    exact calculateStateHash_stagedState wellFormed h.encodes
  rw [hresult, hactivator]
  exact activateStaging_valid hfound hvalid (by rfl) hhash soFar a

/-- A produced snapshot of a state whose references resolve and whose invariants hold is applied by
honest providers, and the state becomes active. -/
theorem produced_applied (gzip : GzipRoundTrip) {signingKey : Bytes} {i : ProduceInputs}
    {creationTime : String} (wellFormed : (PyValue.dict state).WellFormed)
    (references : ReferencesResolve state)
    (invariants : ∃ found, checkAll (stagedState state) = .ok found ∧ found.valid = true)
    (produced : produce config signingKey i creationTime state = .ok r)
    (fetches : x.Fetches r) (a : AtomicActivator) (store : FileSnapshotChunkStore) :
    (∃ result, (x.apply a store).1 = .ok result ∧ result.success = true) ∧
      (x.apply a store).2.1.activeStateHash = r.manifest.applicationStateHash ∧
      ∃ data, (x.apply a store).2.1.activeStateData = some data ∧
        (PyValue.dict data).eqv (.dict (completed state)) = true := by
  obtain ⟨encoded, compressed, h⟩ := exists_produced produced
  have hactivates := h.activates gzip wellFormed references invariants fetches a store
  exact ⟨hactivates.succeeded, hactivates.activeHash.trans fetches.trusted, _,
    hactivates.activeData, eqv_stagedState wellFormed⟩

end Applied

/-! ## A wallet and a node that references it -/

/-- A state that declares a supply, of which a wallet holds one atom. -/
def walletState (supply : Int) : Fields :=
  [("wallets", .dict [("owner", .dict [("balance", .int 1)])]),
    ("hypervisors", .dict [("node", .dict [("wallet", .str "owner")])]),
    ("protocol_parameters", .dict [("total_supply", .int supply), ("version", .str "1")])]

/-- An application of a produced snapshot with one honest provider. -/
def applicationOf (r : ProduceResult) : Application where
  maxRetryCount := 3
  answers := honestAnswers r.chunks
  now := "2026-01-01T00:00:00+00:00"
  activatedAt := "2026-01-01T00:00:00+00:00"
  activationId := "a"
  manifest := r.manifest
  providers := ["b"]
  canonicalStateHash := r.manifest.applicationStateHash
  session := none

theorem fetches_applicationOf (r : ProduceResult) : (applicationOf r).Fetches r where
  manifest := rfl
  fresh := rfl
  trusted := rfl
  honest := {
    faultless := fun _ _ _ => rfl
    nonempty := cons_ne_nil _ _
    honest := fun _ _ => honest_of_chunk rfl rfl fun _ _ => rfl }

theorem referencesResolve_walletState (supply : Int) : ReferencesResolve (walletState supply) where
  hypervisors := by
    intro record hrecord value hvalue
    cases (mem_singleton.mp hrecord : record = ("node", .dict [("wallet", .str "owner")]))
    exact ⟨"owner", mem_cons_self, (Option.some.inj hvalue).symm⟩
  services record hrecord := absurd hrecord not_mem_nil
  stakes items hitems := by cases (hitems : PyValue.dict [] = .list items)

theorem wellFormed_walletState [FloatReader] (supply : Int) :
    (PyValue.dict (walletState supply)).WellFormed := by
  have hone : ∀ (key : String) {value : PyValue}, value.WellFormed →
      (PyValue.dict [(key, value)]).WellFormed := by
    intro key value h
    refine .dict (nodup_singleton _) fun member hmember => ?_
    rwa [mem_singleton.mp hmember]
  refine .dict (show ["wallets", "hypervisors", "protocol_parameters"].Nodup by decide) ?_
  simp only [walletState, forall_mem_cons]
  refine ⟨hone _ (hone _ (.int 1)), hone _ (hone _ (.str "owner")), ?_, forall_mem_nil _⟩
  refine .dict (show ["total_supply", "version"].Nodup by decide) ?_
  simp only [forall_mem_cons]
  exact ⟨.int supply, .str "1", forall_mem_nil _⟩

/-- The members of the state are in order. -/
theorem sorted_walletState (supply : Int) : ∀ m ∈ walletState supply, m.2.sorted = m.2 := by
  have hone : ∀ (key : String) {value : PyValue}, value.sorted = value →
      (PyValue.dict [(key, value)]).sorted = .dict [(key, value)] := by
    intro key value h
    rw [PyValue.sorted_dict, mergeSort_singleton, map_singleton, h]
  simp only [walletState, forall_mem_cons]
  refine ⟨hone _ (hone _ rfl), hone _ (hone _ rfl), ?_, forall_mem_nil _⟩
  rw [PyValue.sorted_dict, mergeSort_of_pairwise]
  · rfl
  · exact pairwise_pair.mpr (show decide ("total_supply" ≤ "version") = true by decide)

/-- A snapshot of a state in order is produced. -/
theorem exists_produce_sorted {state : Fields} (hsorted : ∀ m ∈ state, m.2.sorted = m.2)
    (wellFormed : letI := floatlessReader; (PyValue.dict state).WellFormed)
    (dumpable : (PyValue.dict (stateNamespaces.map fun ns => (ns, namespaceOf state ns))).dumpable =
      true)
    (length_le : (plainBytes (stateNamespaces.map fun ns => (ns, namespaceOf state ns))).length ≤
      8388608)
    (known : unknownNamespaces state = []) :
    letI := floatlessReader
    letI := framedStreams
    stagedState state = ⟨completed state⟩ ∧
      ∃ r, produce plainConfig [] firstBlock "2026-01-01T00:00:00+00:00" state = .ok r := by
  let _ := floatlessReader
  let _ := framedStreams
  have hnamespace : ∀ ns, orderedNamespace state ns = namespaceOf state ns := by
    intro ns
    rw [orderedNamespace_eq, namespaceOf]
    cases hlookup : state.lookup ns with
    | none => rw [Option.getD_none, PyValue.sorted_dict, mergeSort_nil, map_nil]
    | some value => exact hsorted (ns, value) (mem_of_lookup hlookup)
  have hordered : orderedState state =
      stateNamespaces.map fun ns => (ns, namespaceOf state ns) := by
    rw [orderedState_eq]
    exact map_congr_left fun ns _ => congrArg (Prod.mk ns) (hnamespace ns)
  have hencode := encode_eq_ok.mpr ⟨known, by rwa [hordered], rfl⟩
  rw [hordered] at hencode
  refine ⟨congrArg StagingStateStore.mk (map_congr_left fun ns _ =>
    congrArg (Prod.mk ns) (hnamespace ns)), ?_⟩
  obtain ⟨r, hproduce, -⟩ := exists_produce [] "2026-01-01T00:00:00+00:00" wellFormed hencode
    length_le
  exact ⟨r, hproduce⟩

/-- A snapshot of the state whose wallet holds the supply is produced, and what is restored of it
passes every check. -/
theorem wallet_produced :
    letI := floatlessReader
    letI := recordConversions
    letI := framedStreams
    letI := floatlessSum
    (∃ found, checkAll (stagedState (walletState 1)) = .ok found ∧ found.valid = true) ∧
      ∃ r, produce plainConfig [] firstBlock "2026-01-01T00:00:00+00:00" (walletState 1) =
        .ok r := by
  let _ := floatlessReader
  let _ := recordConversions
  let _ := framedStreams
  let _ := floatlessSum
  obtain ⟨hstaged, hproduce⟩ := exists_produce_sorted (sorted_walletState 1)
    (wellFormed_walletState 1) (by decide) (by decide +kernel) (by decide)
  refine ⟨?_, hproduce⟩
  rw [hstaged]
  exact ⟨_, rfl, rfl⟩

/-- The state whose wallet holds the supply is applied. -/
theorem wallet_applied :
    letI := recordRuntime
    letI := floatlessReader
    letI := recordConversions
    letI := framedStreams
    letI := exactDivision
    letI := floatlessSum
    ∃ r, produce plainConfig [] firstBlock "2026-01-01T00:00:00+00:00" (walletState 1) = .ok r ∧
      (∃ result, ((applicationOf r).apply {} {}).1 = .ok result ∧ result.success = true) ∧
      ((applicationOf r).apply {} {}).2.1.activeStateHash = r.manifest.applicationStateHash ∧
      ∃ data, ((applicationOf r).apply {} {}).2.1.activeStateData = some data ∧
        (PyValue.dict data).eqv (.dict (completed (walletState 1))) = true := by
  let _ := recordRuntime
  let _ := floatlessReader
  let _ := recordConversions
  let _ := framedStreams
  let _ := exactDivision
  let _ := floatlessSum
  obtain ⟨hinvariants, r, hproduce⟩ := wallet_produced
  exact ⟨r, hproduce, produced_applied gzipRoundTrip_framedStreams (wellFormed_walletState 1)
    (referencesResolve_walletState 1) hinvariants hproduce (fetches_applicationOf r) {} {}⟩

/-- The application downloads the chunks of the state and activates what they are
restored to, the only state with the hash. -/
theorem wallet_failClosed :
    letI := recordRuntime
    letI := floatlessReader
    letI := recordConversions
    letI := framedStreams
    letI := exactDivision
    letI := floatlessSum
    ∃ r, produce plainConfig [] firstBlock "2026-01-01T00:00:00+00:00" (walletState 1) = .ok r ∧
      let x := applicationOf r
      (∃ data chunks, RestoredFrom r.manifest chunks data ∧
        Activates data x.canonicalStateHash ((x.apply {} {}).1, (x.apply {} {}).2.1) ∧
        OnlyState data x.canonicalStateHash) ∧
      ∃ result, (x.fetched {}).1 = .ok result ∧ result.success = true ∧
        result.session.Proven (x.apply {} {}).2.2 r.manifest.snapshotId r.manifest.chunkCount := by
  let _ := recordRuntime
  let _ := floatlessReader
  let _ := recordConversions
  let _ := framedStreams
  let _ := exactDivision
  let _ := floatlessSum
  have floats : ReadsFloats := fun _ => ⟨.none, rfl⟩
  obtain ⟨hinvariants, r, hproduce⟩ := wallet_produced
  obtain ⟨encoded, compressed, h⟩ := exists_produced hproduce
  obtain ⟨hgenuine, -⟩ := h.genuine gzipRoundTrip_framedStreams
  have hfetches := fetches_applicationOf r
  have hactive := h.activates gzipRoundTrip_framedStreams (wellFormed_walletState 1)
    (referencesResolve_walletState 1) hinvariants hfetches {} {}
  obtain ⟨result, store', hdownload, hsuccess, -⟩ :=
    hgenuine.download_honest hfetches.honest 3 "2026-01-01T00:00:00+00:00" {}
  obtain ⟨happlied, hproven⟩ := (applicationOf r).apply_failClosed floats {} {}
  have hfetched : ((applicationOf r).fetched {}).1 = .ok result := congrArg Prod.fst hdownload
  refine ⟨r, hproduce, ?_, result, hfetched, hsuccess, hproven .empty result hfetched⟩
  rcases happlied with hrefused | hactivated
  · obtain ⟨applied, hresult, hsucceeded⟩ := hactive.succeeded
    rw [hrefused.failed applied hresult] at hsucceeded
    cases hsucceeded
  · exact hactivated

/-- The state that declares a supply of two atoms is refused: the wallet holds one. -/
theorem unheld_supply_refused :
    letI := recordRuntime
    letI := floatlessReader
    letI := recordConversions
    letI := framedStreams
    letI := exactDivision
    letI := floatlessSum
    ∃ r, produce plainConfig [] firstBlock "2026-01-01T00:00:00+00:00" (walletState 2) = .ok r ∧
      ReferencesResolve (walletState 2) ∧ (applicationOf r).Fetches r ∧
      Refused {} (((applicationOf r).apply {} {}).1, ((applicationOf r).apply {} {}).2.1) := by
  let _ := recordRuntime
  let _ := floatlessReader
  let _ := recordConversions
  let _ := framedStreams
  let _ := exactDivision
  let _ := floatlessSum
  obtain ⟨hstaged, r, hproduce⟩ := exists_produce_sorted (sorted_walletState 2)
    (wellFormed_walletState 2) (by decide) (by decide +kernel) (by decide)
  obtain ⟨encoded, compressed, h⟩ := exists_produced hproduce
  obtain ⟨soFar, hfailed, hresult, hactivator⟩ := h.apply_eq gzipRoundTrip_framedStreams
    (wellFormed_walletState 2) (validateReferences_stagedState (wellFormed_walletState 2)
      (referencesResolve_walletState 2)) (fetches_applicationOf r) {} {}
  have hinvariants : ∃ found, checkAll (stagedState (walletState 2)) = .ok found ∧
      found.valid = false := by
    rw [hstaged]
    exact ⟨_, rfl, rfl⟩
  obtain ⟨found, hfound, hinvalid⟩ := hinvariants
  refine ⟨r, hproduce, referencesResolve_walletState 2, fetches_applicationOf r, ?_⟩
  rw [hresult, hactivator]
  exact activateStaging_invalid hfound hinvalid hfailed {}

end AidnSpec.Snapshot
