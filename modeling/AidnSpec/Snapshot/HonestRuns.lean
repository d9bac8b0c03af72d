import AidnSpec.Snapshot.HonestDownload

/-!
# Downloads that are resumed until they succeed

A caller downloads a snapshot and resumes the session it has, over and over. One honest provider is
not enough: with a provider before it in the plan that answers another chunk, consistent in itself,
in every round, no round succeeds.
-/

namespace AidnSpec.Snapshot

open Base FileSnapshotChunkStore List

/-- A download and its resumptions: the answers and the time of every call, over one list of
providers. -/
structure Campaign where
  maxRetryCount : ℕ
  answers : ℕ → Answers
  now : ℕ → String
  manifest : SnapshotManifest
  providers : List String
  store : FileSnapshotChunkStore

/-- What the caller has behind a call: its outcome, the last session that was returned, and the
store. -/
structure CallerState where
  outcome : Except SnapshotError DownloadResult
  session : Option DownloadSession
  store : FileSnapshotChunkStore

/-- The session of an outcome; a call that raises returns none. -/
def sessionOf : Except SnapshotError DownloadResult → Option DownloadSession
  | .ok result => some result.session
  | .error _ => none

namespace Campaign

section Calls

variable [Runtime] [FloatReader]

/-- The caller behind the download and `n` resumptions. A call that raises leaves the session. -/
def after (x : Campaign) : ℕ → CallerState
  | 0 =>
    let (outcome, store) := download x.maxRetryCount (x.answers 0) (x.now 0) x.manifest.snapshotId
      x.manifest x.providers x.store
    ⟨outcome, sessionOf outcome, store⟩
  | n + 1 =>
    let before := x.after n
    match before.session with
    | none => before
    | some session =>
      let (outcome, store) := resume x.maxRetryCount (x.answers (n + 1)) (x.now (n + 1)) session
        x.providers before.store
      ⟨outcome, (sessionOf outcome).or (some session), store⟩

/-- Some call returns success, and the chunks that its session proves are these. -/
def Delivers (x : Campaign) (chunks : List SnapshotChunk) : Prop :=
  ∃ n result, (x.after n).outcome = .ok result ∧ result.success = true ∧
    loadVerifiedChunks (x.after n).store result.session = .ok chunks

end Calls

/-- The first answer for a chunk in a round that proves itself, in the order of the plan. -/
def answer (x : Campaign) (round index : ℕ) : Option SnapshotChunk :=
  answerFor (x.answers round) x.maxRetryCount x.manifest.snapshotId x.manifest.chunkCount
    x.providers index

/-- The first answers of a round are these chunks. -/
def Gives (x : Campaign) (chunks : List SnapshotChunk) (round : ℕ) : Prop :=
  ∀ i < x.manifest.chunkCount, x.answer round i = chunks[i]?

/-- One of the first answers of a round cannot be stored. -/
def Stops (x : Campaign) (round : ℕ) : Prop :=
  ∃ i < x.manifest.chunkCount, ∃ chunk, x.answer round i = some chunk ∧ storable chunk = false

/-- One of the first answers of a round has another payload. -/
def Differs (x : Campaign) (chunks : List SnapshotChunk) (round : ℕ) : Prop :=
  ∃ i < x.manifest.chunkCount, ∃ chunk other, x.answer round i = some other ∧
    chunks[i]? = some chunk ∧ other.payload ≠ chunk.payload

/-- The rounds reach one whose first answers are these chunks: the first round can store what it is
given, and every round before is given something that cannot be stored or another payload. -/
def Reaches (x : Campaign) (chunks : List SnapshotChunk) : Prop :=
  ¬ x.Stops 0 ∧ ∃ n, x.Gives chunks n ∧ ∀ k < n, x.Stops k ∨ x.Differs chunks k

/-- An honest provider is in the list throughout, and the disk has no faults. -/
structure HasHonest (x : Campaign) (chunks : List SnapshotChunk) : Prop where
  faultless : ∀ n, (x.answers n).Faultless
  honest : ∃ provider ∈ x.providers, ∀ n, (x.answers n).Honest chunks provider

def payloads (x : Campaign) (round : ℕ) : List Bytes :=
  (List.range x.manifest.chunkCount).filterMap fun i => (x.answer round i).map (·.payload)

/-- SHA-256 tells apart what is hashed over the chunks and over the first answers of any round. -/
def Apart (x : Campaign) (chunks : List SnapshotChunk) : Prop :=
  ∀ round, CollisionFree (treeMessages (chunks.map (·.payload)) ++ treeMessages (x.payloads round))

/-! ## Single rounds -/

section Rounds

variable [Runtime] [FloatReader] {x : Campaign} {chunks : List SnapshotChunk}

omit [Runtime] [FloatReader] in
theorem exists_takes (genuine : Genuine x.manifest chunks) (h : x.HasHonest chunks) (round : ℕ) :
    ∃ taken, Takes (x.answers round) x.maxRetryCount x.manifest.snapshotId x.manifest.chunkCount
      x.providers taken := by
  obtain ⟨provider, hmem, honest⟩ := h.honest
  exact genuine.exists_takes (h.faultless round) hmem (honest round) x.maxRetryCount

variable {round n : ℕ} {taken : ℕ → SnapshotChunk} {m : SnapshotManifest}
  {found : List SnapshotChunk}

section

omit [Runtime] [FloatReader]

variable (h : Takes (x.answers round) x.maxRetryCount x.manifest.snapshotId x.manifest.chunkCount
  x.providers taken)

include h

theorem payloads_of_takes :
    x.payloads round = (takenChunks taken x.manifest.chunkCount).map (·.payload) := by
  rw [payloads, takenChunks, map_map, ← filterMap_eq_map]
  refine filterMap_congr fun i hi => ?_
  rw [answer, h.answer i (mem_range.mp hi)]
  rfl

theorem stops_iff : x.Stops round ↔ ∃ i < x.manifest.chunkCount, storable (taken i) = false := by
  constructor
  · rintro ⟨i, hi, chunk, hanswer, hfalse⟩
    rw [answer, h.answer i hi] at hanswer
    cases hanswer
    exact ⟨i, hi, hfalse⟩
  · rintro ⟨i, hi, hfalse⟩
    exact ⟨i, hi, taken i, h.answer i hi, hfalse⟩

theorem storable_of_not_stops (hstops : ¬ x.Stops round) :
    ∀ i < x.manifest.chunkCount, storable (taken i) = true := by
  intro i hi
  by_contra hfalse
  exact hstops ((stops_iff h).mpr ⟨i, hi, by simpa using hfalse⟩)

/-- A round whose first answers have the payloads of the chunks has their root, and no other round
has it. -/
theorem root_iff (genuine : Genuine x.manifest chunks) (apart : x.Apart chunks) {actual : String}
    (hactual : rootHash ((takenChunks taken x.manifest.chunkCount).map (·.chunkHash)) =
      .ok actual) :
    actual = x.manifest.chunkRoot ↔ ¬ x.Differs chunks round := by
  have hlength : (takenChunks taken x.manifest.chunkCount).length = chunks.length := by
    rw [takenChunks, length_map, length_range, genuine.count]
  rw [map_chunkHash h.verified] at hactual
  have hpayloads : (takenChunks taken x.manifest.chunkCount).map (·.payload) =
      chunks.map (·.payload) ↔ ¬ x.Differs chunks round := by
    constructor
    · rintro heq ⟨i, hi, chunk, other, hother, hchunk, hne⟩
      rw [answer, h.answer i hi] at hother
      cases hother
      have hsame := congrArg (·[i]?) heq
      simp only [takenChunks, getElem?_map, getElem?_range hi, hchunk,
        Option.map_some] at hsame
      exact hne (Option.some.inj hsame)
    · intro hsame
      apply ext_getElem?
      intro i
      rw [getElem?_map, getElem?_map]
      by_cases hi : i < x.manifest.chunkCount
      · obtain ⟨chunk, hchunk⟩ : ∃ chunk, chunks[i]? = some chunk :=
          ⟨_, getElem?_eq_getElem (genuine.count ▸ hi)⟩
        rw [takenChunks, getElem?_map, getElem?_range hi, hchunk]
        by_contra hne
        exact hsame ⟨i, hi, chunk, taken i, h.answer i hi, hchunk, fun heq => hne (by simp [heq])⟩
      · rw [getElem?_eq_none (by rw [hlength, genuine.count]; omega),
          getElem?_eq_none (by rw [genuine.count]; omega)]
  rw [← hpayloads]
  constructor
  · rintro rfl
    refine (payloads_of_rootHash ?_ ?_ genuine.rootHash_payloads hactual).symm
    · rw [← payloads_of_takes h]
      exact apart round
    · rw [length_map, length_map, hlength]
  · intro heq
    rw [heq, genuine.rootHash_payloads] at hactual
    exact (Except.ok.inj hactual).symm

end

/-! ## The caller behind a call -/

/-- No session was ever returned. -/
structure Lost (c : CallerState) : Prop where
  session : c.session = none
  failed : ∀ result, c.outcome = .ok result → result.success = false

/-- The last call failed, and the session holds no chunk. -/
structure Waiting (m : SnapshotManifest) (c : CallerState) : Prop where
  session : ∃ s, c.session = some s ∧ s.Blank m
  failed : ∀ result, c.outcome = .ok result → result.success = false

/-- The last call succeeded with a complete set of chunks. -/
structure Done (m : SnapshotManifest) (found : List SnapshotChunk) (c : CallerState) : Prop where
  returned : ∃ result, c.outcome = .ok result ∧ result.success = true ∧
    c.session = some result.session ∧ result.session.Full m found
  complete : Complete m found c.store
  root : rootHash (found.map (·.chunkHash)) = .ok m.chunkRoot

/-- A done caller has the chunks. -/
theorem Done.load {c : CallerState} (h : Done m found c) (hpos : 0 < m.chunkCount)
    (hroot : m.chunkRoot.isEmpty = false) {result : DownloadResult}
    (hresult : c.outcome = .ok result) : loadVerifiedChunks c.store result.session = .ok found := by
  obtain ⟨other, hother, -, -, hfull⟩ := h.returned
  obtain rfl := Except.ok.inj (hresult.symm.trans hother)
  exact h.complete.load hfull hpos hroot h.root

/-- A round that ends with a set of chunks under a root. -/
theorem waiting_or_done {m : SnapshotManifest} {found : List SnapshotChunk} {actual : String}
    {outcome : Except SnapshotError DownloadResult} {store : FileSnapshotChunkStore}
    {before : Option DownloadSession} (hends : Ends m found actual outcome)
    (hcomplete : Complete m found store)
    (hactual : rootHash (found.map (·.chunkHash)) = .ok actual) :
    (actual ≠ m.chunkRoot → Waiting m ⟨outcome, (sessionOf outcome).or before, store⟩) ∧
      (actual = m.chunkRoot → Done m found ⟨outcome, (sessionOf outcome).or before, store⟩) := by
  obtain ⟨result, rfl, hresult⟩ := hends
  constructor
  · intro hne
    rw [if_neg hne] at hresult
    exact ⟨⟨_, rfl, hresult.2⟩, fun other hother => Except.ok.inj hother ▸ hresult.1⟩
  · rintro rfl
    rw [if_pos rfl] at hresult
    exact ⟨⟨result, rfl, hresult.1, rfl, hresult.2⟩, hcomplete, hactual⟩

variable (x) in
/-- What a round makes of a caller that waits for it. -/
structure Advances (chunks : List SnapshotChunk) (round : ℕ) (c : CallerState) : Prop where
  differs : ¬ x.Stops round → x.Differs chunks round → Waiting x.manifest c
  agrees : ¬ x.Stops round → ¬ x.Differs chunks round → ∃ found, Done x.manifest found c ∧
    ∀ i < x.manifest.chunkCount, x.answer round i = found[i]?

/-- A round whose chunks can be stored, by what it takes. -/
theorem advances_of_ends (genuine : Genuine x.manifest chunks) (apart : x.Apart chunks)
    {round : ℕ} {taken : ℕ → SnapshotChunk}
    (h : Takes (x.answers round) x.maxRetryCount x.manifest.snapshotId x.manifest.chunkCount
      x.providers taken) {outcome : Except SnapshotError DownloadResult}
    {store store' : FileSnapshotChunkStore} {before : Option DownloadSession}
    (hends : ¬ x.Stops round → ∀ actual,
      rootHash ((takenChunks taken x.manifest.chunkCount).map (·.chunkHash)) = .ok actual →
      Ends x.manifest (takenChunks taken x.manifest.chunkCount) actual outcome ∧
        store' = placeAll taken store (List.range x.manifest.chunkCount)) :
    x.Advances chunks round ⟨outcome, (sessionOf outcome).or before, store'⟩ := by
  have hne : (takenChunks taken x.manifest.chunkCount).map (·.payload) ≠ [] := by
    intro hnil
    have hlength := congrArg List.length hnil
    rw [takenChunks, map_map, length_map, length_range, length_nil] at hlength
    exact absurd genuine.pos (by omega)
  obtain ⟨actual, hactual⟩ := exists_rootHash hne
  rw [← map_chunkHash h.verified] at hactual
  have hiff := root_iff h genuine apart hactual
  have hround : ¬ x.Stops round → _ := fun hstops => by
    obtain ⟨hended, hstore⟩ := hends hstops actual hactual
    exact @waiting_or_done _ _ _ _ _ _ _ before hended
      (hstore ▸ h.complete (storable_of_not_stops h hstops)) hactual
  constructor
  · exact fun hstops hdiffers => (hround hstops).1 fun heq => hiff.mp heq hdiffers
  · intro hstops hagrees
    refine ⟨_, (hround hstops).2 (hiff.mpr hagrees), fun i hi => ?_⟩
    rw [answer, h.answer i hi, takenChunks, getElem?_map, getElem?_range hi]
    rfl

/-! ## The calls one by one -/

theorem after_succ_of_session {session : DownloadSession} (h : (x.after n).session = some session) :
    x.after (n + 1) =
      ⟨(resume x.maxRetryCount (x.answers (n + 1)) (x.now (n + 1)) session x.providers
          (x.after n).store).1,
        (sessionOf (resume x.maxRetryCount (x.answers (n + 1)) (x.now (n + 1)) session x.providers
          (x.after n).store).1).or (some session),
        (resume x.maxRetryCount (x.answers (n + 1)) (x.now (n + 1)) session x.providers
          (x.after n).store).2⟩ := by
  rw [after]
  simp only [h]

theorem lost_succ (h : Lost (x.after n)) : Lost (x.after (n + 1)) := by
  have hsame : x.after (n + 1) = x.after n := by
    rw [after]
    simp only [h.session]
  rw [hsame]
  exact h

theorem done_succ (genuine : Genuine x.manifest chunks) (h : Done x.manifest found (x.after n)) :
    Done x.manifest found (x.after (n + 1)) := by
  obtain ⟨result, -, -, hsession, hfull⟩ := h.returned
  have hresume := h.complete.resume hfull genuine.pos x.maxRetryCount (x.answers (n + 1))
    (x.now (n + 1)) x.providers
  rw [after_succ_of_session hsession, hresume]
  exact ⟨⟨_, rfl, rfl, rfl, hfull⟩, h.complete, h.root⟩

theorem done_of_le (genuine : Genuine x.manifest chunks) {k : ℕ}
    (h : Done x.manifest found (x.after n)) (hle : n ≤ k) : Done x.manifest found (x.after k) := by
  induction k, hle using Nat.le_induction with
  | base => exact h
  | succ k _ ih => exact done_succ genuine ih

omit [Runtime] [FloatReader] in
/-- Sets of chunks of one manifest are equal when their items are. -/
theorem eq_of_getElem? (hfound : found.length = m.chunkCount)
    (hchunks : chunks.length = m.chunkCount) (h : ∀ i < m.chunkCount, found[i]? = chunks[i]?) :
    found = chunks := by
  apply ext_getElem?
  intro i
  by_cases hi : i < m.chunkCount
  · exact h i hi
  · rw [getElem?_eq_none (by omega), getElem?_eq_none (by omega)]

variable (genuine : Genuine x.manifest chunks) (h : x.HasHonest chunks)

include genuine h

theorem lost_zero (hstops : x.Stops 0) : Lost (x.after 0) := by
  obtain ⟨taken, htakes⟩ := exists_takes genuine h 0
  obtain ⟨e, store', hdownload⟩ := htakes.download_error genuine.pos ((stops_iff htakes).mp hstops)
    (x.now 0) x.store
  rw [after, hdownload]
  exact ⟨rfl, fun result hresult => by cases hresult⟩

theorem waiting_of_stops (hwaiting : Waiting x.manifest (x.after n)) (hstops : x.Stops (n + 1)) :
    Waiting x.manifest (x.after (n + 1)) := by
  obtain ⟨session, hsession, hblank⟩ := hwaiting.session
  obtain ⟨taken, htakes⟩ := exists_takes genuine h (n + 1)
  obtain ⟨e, store', hresume⟩ := htakes.resume_error hblank genuine.pos
    ((stops_iff htakes).mp hstops) (x.now (n + 1)) (x.after n).store
  rw [after_succ_of_session hsession, hresume]
  exact ⟨⟨session, rfl, hblank⟩, fun result hresult => by cases hresult⟩

theorem lost_of_stops (hstops : x.Stops 0) (n : ℕ) : Lost (x.after n) := by
  induction n with
  | zero => exact lost_zero genuine h hstops
  | succ n ih => exact lost_succ ih

variable (apart : x.Apart chunks)

include apart

theorem advances_zero : x.Advances chunks 0 (x.after 0) := by
  obtain ⟨taken, htakes⟩ := exists_takes genuine h 0
  have hadvances := @advances_of_ends _ _ _ _ genuine apart _ _ htakes _ _ _ none
    fun hstops actual hactual =>
      htakes.ends_download genuine.pos (storable_of_not_stops htakes hstops)
        (isEmpty_of_rootHash genuine.rootHash_payloads) hactual (x.now 0) x.store
  rw [Option.or_none] at hadvances
  exact hadvances

theorem advances_succ (hwaiting : Waiting x.manifest (x.after n)) :
    x.Advances chunks (n + 1) (x.after (n + 1)) := by
  obtain ⟨session, hsession, hblank⟩ := hwaiting.session
  obtain ⟨taken, htakes⟩ := exists_takes genuine h (n + 1)
  rw [after_succ_of_session hsession]
  exact advances_of_ends genuine apart htakes fun hstops actual hactual =>
    htakes.ends_resume hblank genuine.pos (storable_of_not_stops htakes hstops)
      (isEmpty_of_rootHash genuine.rootHash_payloads) hactual (x.now (n + 1)) (x.after n).store

/-! ## Every run -/

/-- While every round stops or differs, the caller waits. -/
theorem waiting_of_missed (hfirst : ¬ x.Stops 0)
    (hmissed : ∀ k ≤ n, x.Stops k ∨ x.Differs chunks k) : Waiting x.manifest (x.after n) := by
  induction n with
  | zero =>
    exact (advances_zero genuine h apart).differs hfirst
      ((hmissed 0 (Nat.le_refl 0)).resolve_left hfirst)
  | succ n ih =>
    have hwaiting := ih fun k hk => hmissed k (Nat.le_succ_of_le hk)
    by_cases hstops : x.Stops (n + 1)
    · exact waiting_of_stops genuine h hwaiting hstops
    · exact (advances_succ genuine h apart hwaiting).differs hstops
        ((hmissed (n + 1) (Nat.le_refl _)).resolve_left hstops)

/-- The first round that neither stops nor differs ends the run with what it took. -/
theorem done_of_agrees (hfirst : ¬ x.Stops 0)
    (hmissed : ∀ k < n, x.Stops k ∨ x.Differs chunks k) (hstops : ¬ x.Stops n)
    (hagrees : ¬ x.Differs chunks n) : ∃ found, Done x.manifest found (x.after n) ∧
      ∀ i < x.manifest.chunkCount, x.answer n i = found[i]? := by
  cases n with
  | zero => exact (advances_zero genuine h apart).agrees hstops hagrees
  | succ n =>
    exact (advances_succ genuine h apart (waiting_of_missed genuine h apart hfirst
      fun k hk => hmissed k (Nat.lt_succ_of_le hk))).agrees hstops hagrees

/-- A run with an honest provider delivers the chunks exactly when its rounds reach them. -/
theorem delivers_iff : x.Delivers chunks ↔ x.Reaches chunks := by
  have hroot := isEmpty_of_rootHash genuine.rootHash_payloads
  constructor
  · rintro ⟨n, result, hresult, hsuccess, hload⟩
    have hfirst : ¬ x.Stops 0 := fun hstops => by
      rw [(lost_of_stops genuine h hstops n).failed result hresult] at hsuccess
      cases hsuccess
    have hexists : ∃ k, k ≤ n ∧ ¬ x.Stops k ∧ ¬ x.Differs chunks k := by
      by_contra hnone
      have hwaiting := waiting_of_missed genuine h apart hfirst (n := n) fun k hk => by
        by_contra hmissed
        exact hnone ⟨k, hk, not_or.mp hmissed⟩
      rw [hwaiting.failed result hresult] at hsuccess
      cases hsuccess
    classical
    obtain ⟨hle, hstops, hagrees⟩ := Nat.find_spec hexists
    have hmissed : ∀ k < Nat.find hexists, x.Stops k ∨ x.Differs chunks k := fun k hk => by
      by_contra hnot
      exact Nat.find_min hexists hk ⟨hk.le.trans hle, not_or.mp hnot⟩
    obtain ⟨found, hdone, hanswers⟩ :=
      done_of_agrees genuine h apart hfirst hmissed hstops hagrees
    have hsame : found = chunks := by
      have hloaded := (done_of_le genuine hdone hle).load genuine.pos hroot hresult
      exact Except.ok.inj (hloaded.symm.trans hload)
    exact ⟨hfirst, Nat.find hexists, hsame ▸ hanswers, hmissed⟩
  · rintro ⟨hfirst, n, hgives, hmissed⟩
    have hstops : ¬ x.Stops n := by
      rintro ⟨i, hi, chunk, hanswer, hfalse⟩
      rw [hgives i hi] at hanswer
      rw [genuine.storable chunk (mem_of_getElem? hanswer)] at hfalse
      cases hfalse
    have hagrees : ¬ x.Differs chunks n := by
      rintro ⟨i, hi, chunk, other, hother, hchunk, hne⟩
      rw [hgives i hi, hchunk] at hother
      exact hne (congrArg SnapshotChunk.payload (Option.some.inj hother)).symm
    obtain ⟨found, hdone, hanswers⟩ :=
      done_of_agrees genuine h apart hfirst hmissed hstops hagrees
    have hsame : found = chunks := eq_of_getElem? hdone.complete.count genuine.count
      fun i hi => (hanswers i hi).symm.trans (hgives i hi)
    obtain ⟨result, hresult, hsuccess, -, -⟩ := hdone.returned
    exact ⟨n, result, hresult, hsuccess, hsame ▸ hdone.load genuine.pos hroot hresult⟩

end Rounds

end Campaign

end AidnSpec.Snapshot
