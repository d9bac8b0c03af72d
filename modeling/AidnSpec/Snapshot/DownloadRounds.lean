import AidnSpec.Snapshot.DownloadSessions

/-!
# What one round of a download takes

On a disk without faults a round takes for every chunk the first answer that proves itself, in the
order of the plan. A record with an integer that has no text cannot be stored, and stops the round.
-/

namespace AidnSpec.Snapshot

open Base FileSnapshotChunkStore List

/-! ## The answer that is taken -/

def firstAccepted (answers : Answers) (accepts : SnapshotChunk → Bool) (provider : String)
    (index : ℕ) : (left attempt : ℕ) → Option SnapshotChunk
  | 0, _ => none
  | left + 1, attempt =>
    match (answers.chunk provider index attempt).filter accepts with
    | some chunk => some chunk
    | none => firstAccepted answers accepts provider index left (attempt + 1)

/-- The first answer of available providers that is accepted. -/
def firstAnswer (answers : Answers) (accepts : SnapshotChunk → Bool) (maxRetryCount index : ℕ) :
    List String → Option SnapshotChunk
  | [] => none
  | provider :: rest =>
    match if answers.available provider index then
      firstAccepted answers accepts provider index (maxRetryCount + 1) 0 else none with
    | some chunk => some chunk
    | none => firstAnswer answers accepts maxRetryCount index rest

/-- The answer for a chunk, providers in the order of the plan. -/
def answerFor (answers : Answers) (maxRetryCount : ℕ) (snapshotId : String) (total : ℕ)
    (providers : List String) (index : ℕ) : Option SnapshotChunk :=
  firstAnswer answers (chunkMatches snapshotId total index) maxRetryCount index
    ((plan total providers answers.inventory)[index]?.getD [])

/-- Every integer of the record of a chunk has a text. -/
def storable (chunk : SnapshotChunk) : Bool := (PyValue.dict (chunkRecord chunk)).dumpable

def filePath (chunk : SnapshotChunk) : StorePath :=
  [directoryName chunk.snapshotId, fileName chunk.chunkIndex chunk.payload]

def place (chunk : SnapshotChunk) (store : FileSnapshotChunkStore) : FileSnapshotChunkStore where
  files := store.files.set (filePath chunk) (recordBytes chunk)

/-- What an answer leads to on a disk without faults. -/
def takeAnswer (store : FileSnapshotChunkStore) : Option SnapshotChunk →
    Except SnapshotError (Option (SnapshotChunk × String)) × FileSnapshotChunkStore
  | none => (.ok none, store)
  | some chunk =>
    if storable chunk then (.ok (some (chunk, keyFor chunk)), place chunk store)
    else (.error (.python ⟨.value,
      "Exceeds the limit (4300 digits) for integer string conversion"⟩), store)

/-- No file operation fails. -/
def Answers.Faultless (answers : Answers) : Prop :=
  ∀ provider index attempt, answers.faults provider index attempt = {}

theorem put_faultless {chunk : SnapshotChunk} (verified : verifyChunk chunk = true)
    (store : FileSnapshotChunkStore) : store.put chunk {} =
      if storable chunk then (.ok (keyFor chunk), place chunk store)
      else (.error (.python ⟨.value,
        "Exceeds the limit (4300 digits) for integer string conversion"⟩), store) := by
  rw [put, pathFor_keyFor verified]
  rfl

variable {answers : Answers} {accepts : SnapshotChunk → Bool} {index : ℕ}

theorem attempts_eq (faultless : answers.Faultless)
    (haccepts : ∀ chunk, accepts chunk = true → verifyChunk chunk = true) (provider : String)
    (left attempt : ℕ) (store : FileSnapshotChunkStore) :
    attempts answers accepts provider index left attempt store =
      takeAnswer store (firstAccepted answers accepts provider index left attempt) := by
  induction left generalizing attempt with
  | zero => rfl
  | succ left ih =>
    rw [attempts, firstAccepted]
    cases hanswer : answers.chunk provider index attempt with
    | none => exact ih (attempt + 1)
    | some chunk =>
      rw [Option.filter_some]
      dsimp only
      by_cases haccept : accepts chunk = true
      · rw [if_pos haccept, if_pos haccept, faultless, put_faultless (haccepts chunk haccept)]
        dsimp only [takeAnswer]
        by_cases hstorable : storable chunk = true
        · rw [if_pos hstorable, if_pos hstorable]
        · rw [if_neg hstorable, if_neg hstorable]
      · rw [if_neg haccept, if_neg haccept]
        exact ih (attempt + 1)

theorem fetch_eq (faultless : answers.Faultless)
    (haccepts : ∀ chunk, accepts chunk = true → verifyChunk chunk = true) (maxRetryCount : ℕ)
    (providers : List String) (store : FileSnapshotChunkStore) :
    fetch answers accepts maxRetryCount index providers store =
      takeAnswer store (firstAnswer answers accepts maxRetryCount index providers) := by
  induction providers with
  | nil => rfl
  | cons provider rest ih =>
    rw [fetch, firstAnswer]
    by_cases havailable : answers.available provider index = true
    · rw [if_pos havailable, if_pos havailable, attempts_eq faultless haccepts]
      cases firstAccepted answers accepts provider index (maxRetryCount + 1) 0 with
      | none => exact ih
      | some chunk =>
        by_cases hstorable : storable chunk = true
        · simp only [takeAnswer, if_pos hstorable]
        · simp only [takeAnswer, if_neg hstorable]
    · rw [if_neg havailable, if_neg havailable]
      exact ih

/-- What is taken is accepted. -/
theorem accepts_of_firstAnswer {maxRetryCount : ℕ} {providers : List String} {chunk : SnapshotChunk}
    (h : firstAnswer answers accepts maxRetryCount index providers = some chunk) :
    accepts chunk = true := by
  have hfirst : ∀ (provider : String) (left attempt : ℕ),
      firstAccepted answers accepts provider index left attempt = some chunk →
      accepts chunk = true := by
    intro provider left
    induction left with
    | zero => exact fun attempt h => by cases h
    | succ left ih =>
      intro attempt h
      rw [firstAccepted] at h
      split at h
      · next found hfound =>
        cases h
        exact (Option.filter_eq_some_iff.mp hfound).2
      · exact ih (attempt + 1) h
  induction providers with
  | nil => cases h
  | cons provider rest ih =>
    rw [firstAnswer] at h
    split at h
    · next found hfound =>
      cases h
      split at hfound
      · exact hfirst provider _ _ hfound
      · cases hfound
    · exact ih h

/-! ## One round -/

/-- The chunks that a round takes for all indices below a total. -/
structure Takes (answers : Answers) (maxRetryCount : ℕ) (snapshotId : String) (total : ℕ)
    (providers : List String) (taken : ℕ → SnapshotChunk) : Prop where
  faultless : answers.Faultless
  answer : ∀ i < total,
    answerFor answers maxRetryCount snapshotId total providers i = some (taken i)

variable {maxRetryCount total : ℕ} {snapshotId : String} {providers : List String}
  {taken : ℕ → SnapshotChunk}

variable (h : Takes answers maxRetryCount snapshotId total providers taken)

include h

theorem Takes.chunkMatches {i : ℕ} (hi : i < total) :
    chunkMatches snapshotId total i (taken i) = true :=
  accepts_of_firstAnswer (h.answer i hi)

def recordAll (taken : ℕ → SnapshotChunk) (p : Progress) (indices : List ℕ) : Progress :=
  indices.foldl (fun p i => p.record i (some (taken i, keyFor (taken i)))) p

def placeAll (taken : ℕ → SnapshotChunk) (store : FileSnapshotChunkStore) (indices : List ℕ) :
    FileSnapshotChunkStore :=
  indices.foldl (fun store i => place (taken i) store) store

/-- A round whose chunks can be stored takes them all. -/
theorem Takes.transfer_eq {indices : List ℕ} (hindices : ∀ i ∈ indices, i < total ∧ storable
    (taken i) = true)
    (p : Progress) (store : FileSnapshotChunkStore) :
    transfer answers (Snapshot.chunkMatches snapshotId total) maxRetryCount
        (plan total providers answers.inventory) indices p store =
      (.ok (recordAll taken p indices), placeAll taken store indices) := by
  induction indices generalizing p store with
  | nil => rfl
  | cons index rest ih =>
    obtain ⟨hindex, hstorable⟩ := hindices index mem_cons_self
    have hanswer := h.answer index hindex
    rw [answerFor] at hanswer
    rw [transfer, fetch_eq h.faultless fun chunk hchunk =>
      (accepted_chunkMatches _ _ _ chunk hchunk).2, hanswer, takeAnswer, if_pos hstorable]
    exact ih (fun i hi => hindices i (mem_cons_of_mem index hi)) _ _

/-- A round with a chunk that cannot be stored raises. -/
theorem Takes.transfer_error {indices : List ℕ} (hindices : ∀ i ∈ indices, i < total)
    (hbad : ∃ i ∈ indices, storable (taken i) = false) (p : Progress)
    (store : FileSnapshotChunkStore) :
    ∃ e store', transfer answers (Snapshot.chunkMatches snapshotId total) maxRetryCount
      (plan total providers answers.inventory) indices p store = (.error e, store') := by
  induction indices generalizing p store with
  | nil =>
    obtain ⟨i, hi, -⟩ := hbad
    cases hi
  | cons index rest ih =>
    have hanswer := h.answer index (hindices index mem_cons_self)
    rw [answerFor] at hanswer
    rw [transfer, fetch_eq h.faultless fun chunk hchunk =>
      (accepted_chunkMatches _ _ _ chunk hchunk).2, hanswer, takeAnswer]
    by_cases hstorable : storable (taken index) = true
    · rw [if_pos hstorable]
      refine ih (fun i hi => hindices i (mem_cons_of_mem index hi)) ?_ _ _
      obtain ⟨i, hi, hfalse⟩ := hbad
      rcases mem_cons.mp hi with rfl | hi
      · rw [hstorable] at hfalse
        cases hfalse
      · exact ⟨i, hi, hfalse⟩
    · rw [if_neg hstorable]
      exact ⟨_, _, rfl⟩

omit h

def slotOf (chunk : SnapshotChunk) : Slot := ⟨chunk.chunkHash, keyFor chunk⟩

theorem slots_recordAll (p : Progress) (indices : List ℕ) (i : ℕ) :
    (recordAll taken p indices).slots[i]? =
      if i ∈ indices ∧ i < p.slots.length then some (some (slotOf (taken i))) else p.slots[i]? := by
  induction indices generalizing p with
  | nil => simp [recordAll]
  | cons index rest ih =>
    rw [show recordAll taken p (index :: rest) =
      recordAll taken (p.record index (some (taken index, keyFor (taken index)))) rest from rfl,
      ih, length_record]
    have hslots : (p.record index (some (taken index, keyFor (taken index)))).slots =
      p.slots.set index (some (slotOf (taken index))) := rfl
    rw [hslots, getElem?_set]
    by_cases hrest : i ∈ rest ∧ i < p.slots.length
    · rw [if_pos hrest, if_pos ⟨mem_cons_of_mem index hrest.1, hrest.2⟩]
    · rw [if_neg hrest]
      by_cases hindex : index = i
      · subst hindex
        by_cases hlt : index < p.slots.length
        · rw [if_pos rfl, if_pos hlt, if_pos ⟨mem_cons_self, hlt⟩]
        · rw [if_pos rfl, if_neg hlt, if_neg fun h => hlt h.2, getElem?_eq_none (by omega)]
      · rw [if_neg hindex, if_neg]
        rintro ⟨hmem, hlt⟩
        rcases mem_cons.mp hmem with rfl | hmem
        · exact hindex rfl
        · exact hrest ⟨hmem, hlt⟩

theorem failed_recordAll (p : Progress) (indices : List ℕ) :
    (recordAll taken p indices).failed = p.failed.filter (· ∉ indices.map Int.ofNat) := by
  induction indices generalizing p with
  | nil => simp [recordAll]
  | cons index rest ih =>
    rw [show recordAll taken p (index :: rest) =
      recordAll taken (p.record index (some (taken index, keyFor (taken index)))) rest from rfl, ih]
    have hfailed : (p.record index (some (taken index, keyFor (taken index)))).failed =
      p.failed.filter (· ≠ (index : Int)) := rfl
    rw [hfailed, filter_filter]
    refine filter_congr fun i _ => ?_
    simp [Bool.and_comm]

theorem get?_placeAll (store : FileSnapshotChunkStore) {indices : List ℕ}
    (hindex : ∀ i ∈ indices, (taken i).chunkIndex = i) {i : ℕ} (hi : (taken i).chunkIndex = i)
    (h : i ∈ indices ∨ store.files.get? (filePath (taken i)) = some (recordBytes (taken i))) :
    (placeAll taken store indices).files.get? (filePath (taken i)) =
      some (recordBytes (taken i)) := by
  induction indices generalizing store with
  | nil => exact h.resolve_left not_mem_nil
  | cons index rest ih =>
    refine ih (place (taken index) store) (fun j hj => hindex j (mem_cons_of_mem index hj)) ?_
    by_cases hsame : i = index
    · subst hsame
      exact .inr (Dict.get?_set_self _ _ _)
    · have hne : filePath (taken i) ≠ filePath (taken index) := by
        intro heq
        have hnames := (List.cons.inj (List.cons.inj heq).2).1
        have hsameIndex := index_of_fileName hnames
        rw [hi, hindex index mem_cons_self] at hsameIndex
        exact hsame hsameIndex
      exact (h.imp_left fun hmem =>
        (mem_cons.mp hmem).resolve_left hsame).imp_right fun hget =>
        (Dict.get?_set_of_ne _ _ hne).trans hget

end AidnSpec.Snapshot
