import AidnSpec.Snapshot.HonestRuns
import AidnSpec.Snapshot.ProducedSnapshots

/-!
# One honest provider

When a produced snapshot is downloaded with an honest provider among others, what decides is which
answer comes first. A provider that stands before the honest one in the plan and answers another
chunk, consistent in itself, keeps every round from success.
-/

namespace AidnSpec.Snapshot

open Base

/-- A produced snapshot is delivered with an honest provider exactly when the rounds reach one whose
first answers are the chunks of the producer. -/
theorem delivers_produced_iff [Runtime] [FloatReader] [Gzip] (gzip : GzipRoundTrip)
    {config : SnapshotProducerConfig} {signingKey : Bytes} {i : ProduceInputs}
    {creationTime : String} {state : Fields} {r : ProduceResult}
    (produced : produce config signingKey i creationTime state = .ok r) {x : Campaign}
    (manifest : x.manifest = r.manifest) (honest : x.HasHonest r.chunks)
    (apart : x.Apart r.chunks) : x.Delivers r.chunks ↔ x.Reaches r.chunks := by
  obtain ⟨encoded, compressed, h⟩ := exists_produced produced
  exact Campaign.delivers_iff (manifest ▸ (h.genuine gzip).1) honest apart

/-! ## With and without a provider before the honest one -/

def honestAnswers (chunks : List SnapshotChunk) : Answers where
  inventory _ := (List.range chunks.length).map Int.ofNat
  available _ _ := true
  chunk _ index _ := chunks[index]?
  faults _ _ _ := {}

/-- Another chunk for the same place, consistent in itself. -/
def forged (chunk : SnapshotChunk) : SnapshotChunk := { chunk with
  compressedSize := chunk.payload.length + 1
  chunkHash := hexDigest (0 :: chunk.payload)
  payload := 0 :: chunk.payload }

/-- Provider `a` serves forged chunks, all others serve the chunks. -/
def outbidAnswers (chunks : List SnapshotChunk) : Answers := { honestAnswers chunks with
  chunk provider index _ := if provider = "a" then chunks[index]?.map forged else chunks[index]? }

def campaignOf (r : ProduceResult) (providers : List String) (answers : Answers) : Campaign where
  maxRetryCount := 3
  answers _ := answers
  now _ := "2026-01-01T00:00:00+00:00"
  manifest := r.manifest
  providers := providers
  store := {}

variable {answers : Answers} {provider snapshotId : String} {chunk : SnapshotChunk}
  {r : ProduceResult} {providers : List String}

theorem honest_of_chunk {chunks : List SnapshotChunk}
    (hinventory : answers.inventory = (honestAnswers chunks).inventory)
    (havailable : answers.available = (honestAnswers chunks).available)
    (hchunk : ∀ index attempt, answers.chunk provider index attempt = chunks[index]?) :
    answers.Honest chunks provider where
  listed i hi := by
    rw [hinventory]
    exact List.mem_map_of_mem (List.mem_range.mpr hi)
  available i _ := by
    rw [havailable]
    rfl
  serves i chunk attempt hi := (hchunk i attempt).trans hi

def emptyStateBytes : Bytes := plainBytes (orderedState [])

theorem encode_emptyState : encode [] = .ok emptyStateBytes :=
  encode_eq_ok.mpr ⟨rfl, by decide, rfl⟩

theorem length_emptyStateBytes : emptyStateBytes.length ≤ 8388608 := by decide +kernel

theorem gzipRoundTrip_framedStreams : letI := framedStreams; GzipRoundTrip := by
  let _ := framedStreams
  exact ⟨fun _ => rfl, fun _ => List.cons_ne_nil _ _⟩

/-- What the first provider in the plan answers is taken when it proves itself. -/
theorem answerFor_first {maxRetryCount : ℕ} {rest : List String}
    (hplan : plan 1 (provider :: rest) answers.inventory = [provider :: rest])
    (havailable : answers.available provider 0 = true)
    (hserves : answers.chunk provider 0 0 = some chunk)
    (hmatches : chunkMatches snapshotId 1 0 chunk = true) :
    answerFor answers maxRetryCount snapshotId 1 (provider :: rest) 0 = some chunk := by
  rw [answerFor, hplan, List.getElem?_cons_zero, Option.getD_some, firstAnswer, if_pos havailable,
    firstAccepted, hserves, Option.filter_some, if_pos hmatches]

theorem chunkMatches_forged {total index : ℕ}
    (h : chunkMatches snapshotId total index chunk = true) :
    chunkMatches snapshotId total index (forged chunk) = true := by
  obtain ⟨hid, hindex, htotal, -, -⟩ := chunkMatches_iff.mp h
  exact chunkMatches_iff.mpr ⟨hid, hindex, htotal, rfl, beq_self_eq_true _⟩

theorem treeMessages_singleton (payload : Bytes) : treeMessages [payload] = [payload] := rfl

/-- A snapshot of one chunk with the bytes of the empty state. -/
structure EmptySnapshot (r : ProduceResult) (chunk : SnapshotChunk) : Prop where
  chunks : r.chunks = [chunk]
  payload : chunk.payload = emptyStateBytes
  count : r.manifest.chunkCount = 1
  genuine : Genuine r.manifest r.chunks
  matching : chunkMatches r.manifest.snapshotId 1 0 chunk = true

theorem exists_emptySnapshot :
    letI := floatlessReader
    letI := framedStreams
    ∃ r chunk, produce plainConfig [] firstBlock "2026-01-01T00:00:00+00:00" [] = .ok r ∧
      EmptySnapshot r chunk := by
  let _ := floatlessReader
  let _ := framedStreams
  obtain ⟨r, hproduce, hpayloads, -⟩ := @exists_produce _ _ [] "2026-01-01T00:00:00+00:00" []
    emptyStateBytes (.dict List.nodup_nil fun m hm => by cases hm) encode_emptyState
    length_emptyStateBytes
  obtain ⟨encoded, compressed, h⟩ := exists_produced hproduce
  obtain ⟨hgenuine, -⟩ := h.genuine gzipRoundTrip_framedStreams
  obtain ⟨chunk, hchunk⟩ : ∃ chunk, r.chunks = [chunk] := by
    have hcount := congrArg List.length hpayloads
    rw [List.length_map] at hcount
    exact List.length_eq_one_iff.mp hcount
  have hcount : r.manifest.chunkCount = 1 := by
    rw [← hgenuine.count, hchunk, List.length_singleton]
  rw [hchunk] at hpayloads
  refine ⟨r, chunk, hproduce, hchunk, (List.cons.inj hpayloads).1, hcount, hgenuine, ?_⟩
  rw [← hcount]
  exact hgenuine.matching 0 chunk (by rw [hchunk]; rfl)

/-- A list that starts with one provider and ends with an honest one. -/
theorem hasHonest_of_mem (hmem : "b" ∈ providers) (faultless : answers.Faultless)
    (honest : answers.Honest r.chunks "b") : (campaignOf r providers answers).HasHonest r.chunks :=
  ⟨fun _ => faultless, "b", hmem, fun _ => honest⟩

/-- What is hashed over the snapshot and over one first answer is told apart. -/
theorem EmptySnapshot.apart {other : SnapshotChunk} (h : EmptySnapshot r chunk)
    (hanswer : (campaignOf r providers answers).answer 0 0 = some other)
    (free : CollisionFree [emptyStateBytes, other.payload]) :
    (campaignOf r providers answers).Apart r.chunks := by
  intro round
  have hpayloads : (campaignOf r providers answers).payloads round = [other.payload] := by
    have hsame : (campaignOf r providers answers).answer round 0 = some other := hanswer
    rw [Campaign.payloads, show (campaignOf r providers answers).manifest.chunkCount = 1 from
      h.count]
    simp [hsame]
  rw [hpayloads, h.chunks, List.map_singleton, h.payload, treeMessages_singleton,
    treeMessages_singleton]
  exact free

/-- With the honest provider before the one of forged chunks the empty state is delivered. -/
theorem emptyState_delivered_first :
    letI := recordRuntime
    letI := floatlessReader
    letI := framedStreams
    ∃ r, produce plainConfig [] firstBlock "2026-01-01T00:00:00+00:00" [] = .ok r ∧
      (campaignOf r ["b", "a"] (outbidAnswers r.chunks)).Delivers r.chunks := by
  let _ := recordRuntime
  let _ := floatlessReader
  let _ := framedStreams
  obtain ⟨r, chunk, hproduce, h⟩ := exists_emptySnapshot
  have hanswer : (campaignOf r ["b", "a"] (outbidAnswers r.chunks)).answer 0 0 = some chunk := by
    rw [Campaign.answer,
      show (campaignOf r ["b", "a"] (outbidAnswers r.chunks)).manifest.chunkCount = 1 from h.count]
    exact answerFor_first (by rw [h.chunks]; rfl) rfl (by rw [h.chunks]; rfl) h.matching
  have hhonest : (outbidAnswers r.chunks).Honest r.chunks "b" :=
    honest_of_chunk rfl rfl fun _ _ => rfl
  have hfree : CollisionFree [emptyStateBytes, chunk.payload] := by
    rw [h.payload]
    intro m hm m' hm' _
    simp only [List.mem_cons, List.not_mem_nil, or_false, or_self] at hm hm'
    rw [hm, hm']
  refine ⟨r, hproduce, (delivers_produced_iff gzipRoundTrip_framedStreams hproduce rfl
    (hasHonest_of_mem List.mem_cons_self (fun _ _ _ => rfl) hhonest)
    (h.apart hanswer hfree)).mpr ⟨?_, 0, ?_, fun k hk => absurd hk (Nat.not_lt_zero k)⟩⟩
  · rintro ⟨i, hi, other, hother, hfalse⟩
    obtain rfl : i = 0 := Nat.lt_one_iff.mp (h.count ▸ hi)
    obtain rfl := Option.some.inj (hanswer.symm.trans hother)
    rw [h.genuine.storable chunk (by rw [h.chunks]; exact List.mem_cons_self)] at hfalse
    cases hfalse
  · intro i hi
    obtain rfl : i = 0 := Nat.lt_one_iff.mp (h.count ▸ hi)
    rw [hanswer, h.chunks]
    rfl

/-- With a provider of forged chunks before the honest one it is never delivered. -/
theorem forged_chunks_never_delivered :
    letI := recordRuntime
    letI := floatlessReader
    letI := framedStreams
    ∃ r, produce plainConfig [] firstBlock "2026-01-01T00:00:00+00:00" [] = .ok r ∧
      (outbidAnswers r.chunks).Honest r.chunks "b" ∧
      ¬ (campaignOf r ["a", "b"] (outbidAnswers r.chunks)).Delivers r.chunks := by
  let _ := recordRuntime
  let _ := floatlessReader
  let _ := framedStreams
  obtain ⟨r, chunk, hproduce, h⟩ := exists_emptySnapshot
  have hhonest : (outbidAnswers r.chunks).Honest r.chunks "b" :=
    honest_of_chunk rfl rfl fun _ _ => rfl
  have hanswer : (campaignOf r ["a", "b"] (outbidAnswers r.chunks)).answer 0 0 =
      some (forged chunk) := by
    rw [Campaign.answer,
      show (campaignOf r ["a", "b"] (outbidAnswers r.chunks)).manifest.chunkCount = 1 from h.count]
    exact answerFor_first (by rw [h.chunks]; rfl) rfl (by rw [h.chunks]; rfl)
      (chunkMatches_forged h.matching)
  have hfree : CollisionFree [emptyStateBytes, (forged chunk).payload] := by
    have hbytes : CollisionFree [emptyStateBytes, 0 :: emptyStateBytes] := by decide +kernel
    rw [← h.payload] at hbytes ⊢
    exact hbytes
  refine ⟨r, hproduce, hhonest, fun hdelivers => ?_⟩
  obtain ⟨-, n, hgives, -⟩ := (Campaign.delivers_iff h.genuine
    (hasHonest_of_mem (List.mem_cons_of_mem _ List.mem_cons_self) (fun _ _ _ => rfl) hhonest)
    (h.apart hanswer hfree)).mp hdelivers
  have hgiven := hgives 0 (h.count ▸ Nat.one_pos)
  have hsame : (campaignOf r ["a", "b"] (outbidAnswers r.chunks)).answer n 0 =
      some (forged chunk) := hanswer
  rw [hsame, h.chunks] at hgiven
  have hlength := congrArg (fun c : SnapshotChunk => c.payload.length) (Option.some.inj hgiven)
  exact absurd hlength (Nat.succ_ne_self _)

end AidnSpec.Snapshot
