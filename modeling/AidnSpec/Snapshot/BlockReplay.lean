import AidnSpec.Base.Schema
import Mathlib.Data.Int.Order.Basic

/-!
# Later-block replay

`snapshot/replay.py:19–199`. A source numbers its calls, since it may answer the same call in
another way later. The time that a run takes is left out.
-/

namespace AidnSpec.Snapshot

open Base List

/-- `ReplayBlock`; the replay reads nothing else of it. -/
structure ReplayBlock where
  applicationStateHash : String
  validatorSetHash : Option String := none

structure ReplayConfig where
  startHeight : ℤ
  targetHeight : ℤ
  verifyStateHash : Bool := true
  verifyValidatorSet : Bool := true

structure BlockSource where
  getBlock : ℕ → ℤ → Option ReplayBlock
  executeBlock : ℕ → Fields → ReplayBlock → Fields

/-- `str(value)` and the hash of a state that has none of its own. -/
class ReplayText where
  text : PyValue → String
  computeStateHash : Fields → String

inductive ReplayError where
  | unavailable (height : ℤ)
  | stateHash (height : ℤ) (expected : String) (computed : PyValue)
  | validatorSet (height : ℤ) (expected : String) (computed : PyValue)

namespace ReplayError

def height : ReplayError → ℤ
  | unavailable height | stateHash height _ _ | validatorSet height _ _ => height

def toText [ReplayText] : ReplayError → String
  | unavailable height => s!"Block at height {height} not available"
  | stateHash height expected computed =>
    s!"State hash mismatch at height {height}: expected {expected}, got {ReplayText.text computed}"
  | validatorSet height expected computed =>
    s!"Validator set mismatch at height {height}: expected {expected}, " ++
      s!"got {ReplayText.text computed}"

end ReplayError

structure ReplayResult where
  startHeight : ℤ
  endHeight : ℤ
  blocksReplayed : ℕ
  finalStateHash : String
  errors : List ReplayError

def ReplayResult.success (r : ReplayResult) : Bool := r.errors.isEmpty

/-- What the loop leaves: the state, the blocks that were counted, the calls of the callback and the
error that ended it. -/
structure Replayed where
  state : Fields
  count : ℕ := 0
  reported : List (ℤ × String) := []
  error : Option ReplayError := none

namespace BlockReplayer

variable (config : ReplayConfig) (source : BlockSource)

/-- `range(start, target + 1)`. -/
def heights (start target : ℤ) : List ℤ :=
  (List.range (target + 1 - start).toNat).map fun i : ℕ => start + i

/-- `state.get(key, "")`. -/
def hashIn (state : Fields) (key : String) : PyValue :=
  (state.lookup key).getD (.str "")

def mismatches (block : ReplayBlock) (state : Fields) : Bool :=
  config.verifyStateHash && hashIn state "state_hash" != .str block.applicationStateHash

def loop : ℕ → List ℤ → Fields → Replayed
  | _, [], state => { state }
  | call, height :: rest, state =>
    match source.getBlock call height with
    | none => { state, error := some (.unavailable height) }
    | some block =>
      let executed := source.executeBlock call state block
      if mismatches config block executed then
        { state := executed
          error := some (.stateHash height block.applicationStateHash
            (hashIn executed "state_hash")) }
      else
        let later := loop (call + 1) rest executed
        { later with
          count := later.count + 1
          reported := (height, block.applicationStateHash) :: later.reported }

def replayRange : List ℤ :=
  if config.startHeight < config.targetHeight then
    heights config.startHeight config.targetHeight
  else []

/-- The check of the validator set after the loop. -/
def validatorError (call : ℕ) (state : Fields) : Option ReplayError :=
  if config.verifyValidatorSet then
    match (source.getBlock call config.targetHeight).bind (·.validatorSetHash) with
    | none => none
    | some expected =>
      let computed := hashIn state "validator_set_hash"
      if expected ≠ "" ∧ computed ≠ .str expected then
        some (.validatorSet config.targetHeight expected computed)
      else none
  else none

variable [ReplayText]

/-- The hash that a replay reports; the model of the result takes a text only. -/
def finalHash (state : Fields) : PyValue :=
  (state.lookup "state_hash").getD (.str (ReplayText.computeStateHash state))

/-- `_do_replay`, with the calls of the callback. -/
def replay (initial : Fields) :
    Except PyError ReplayResult × List (ℤ × String) :=
  let done := loop config source 0 (replayRange config) initial
  let errors := match done.error with
    | some error => [error]
    | none => (validatorError config source done.count done.state).toList
  (match finalHash done.state with
    | .str hash => .ok {
        startHeight := config.startHeight
        endHeight :=
          if done.count = 0 then config.startHeight else config.startHeight + done.count - 1
        blocksReplayed := done.count
        finalStateHash := hash
        errors }
    | _ => raiseValue "final_state_hash: Input should be a valid string", done.reported)

/-! ## What a replay says of its run -/

omit [ReplayText] in
/-- Every block of the heights is fetched and executed, one after the other, and every hash that is
verified is the one of its block. -/
def Replays : ℕ → List ℤ → Fields → Fields → Prop
  | _, [], state, final => final = state
  | call, height :: rest, state, final =>
    ∃ block, source.getBlock call height = some block ∧
      mismatches config block (source.executeBlock call state block) = false ∧
      Replays (call + 1) rest (source.executeBlock call state block) final

/-- A success covers every height and reports that run. After a failure the callback was called
for the heights before the one that failed. -/
def Covers (initial : Fields) : Prop :=
  let covered := heights config.startHeight config.targetHeight
  ∀ r, (replay config source initial).1 = .ok r →
    if r.success then
      ∃ final, Replays config source 0 covered initial final ∧
        r.startHeight = config.startHeight ∧
        r.endHeight = covered.getLastD config.startHeight ∧
        r.blocksReplayed = covered.length ∧ finalHash final = .str r.finalStateHash
    else ∃ error, r.errors = [error] ∧ (replay config source initial).2.map Prod.fst =
      heights config.startHeight (error.height - 1)

/-- A replay from a state returns. -/
def Returns (final : Fields) : Prop := ∃ hash, finalHash final = .str hash

variable {config source} {initial final : Fields} {call : ℕ} {hs : List ℤ}

section

omit [ReplayText]

theorem loop_of_replays (h : Replays config source call hs initial final) :
    (loop config source call hs initial).error = none ∧
      (loop config source call hs initial).state = final ∧
      (loop config source call hs initial).count = hs.length ∧
      (loop config source call hs initial).reported.map Prod.fst = hs := by
  induction hs generalizing call initial with
  | nil => exact ⟨rfl, h.symm, rfl, rfl⟩
  | cons height rest ih =>
    obtain ⟨block, hblock, hmatch, hrest⟩ := h
    obtain ⟨herror, hstate, hcount, hreported⟩ := ih hrest
    rw [loop, hblock]
    simp [hmatch, herror, hstate, hcount, hreported]

/-- The loop runs over all heights, or it ends at the height of its error. -/
theorem loop_cases (call : ℕ) (hs : List ℤ) (initial : Fields) :
    (∃ final, Replays config source call hs initial final) ∨
      ∃ error later, (loop config source call hs initial).error = some error ∧
        hs = (loop config source call hs initial).reported.map Prod.fst ++
          error.height :: later := by
  induction hs generalizing call initial with
  | nil => exact .inl ⟨initial, rfl⟩
  | cons height rest ih =>
    rw [loop]
    cases hblock : source.getBlock call height with
    | none => exact .inr ⟨_, rest, rfl, rfl⟩
    | some block =>
      dsimp only
      split_ifs with hmatch
      · exact .inr ⟨_, rest, rfl, rfl⟩
      · obtain ⟨final, hfinal⟩ | ⟨error, later, herror, hsplit⟩ :=
          ih (call + 1) (source.executeBlock call initial block)
        · exact .inl ⟨final, block, hblock, by simpa using hmatch, hfinal⟩
        · refine .inr ⟨error, later, herror, ?_⟩
          rw [map_cons, cons_append, ← hsplit]

theorem heights_of_split {start target height : ℤ} {before later : List ℤ}
    (h : heights start target = before ++ height :: later) :
    before = heights start (height - 1) := by
  have hlength := congrArg List.length h
  have hheight := congrArg (·[before.length]?) h
  have htake := congrArg (List.take before.length) h
  simp only [heights, length_map, length_range, length_append,
    length_cons] at hlength
  simp only [heights, getElem?_map, getElem?_range (show before.length <
    (target + 1 - start).toNat by omega), Option.map_some,
    getElem?_append_right (Nat.le_refl _), Nat.sub_self, getElem?_cons_zero,
      Option.some.injEq] at hheight
  simp only [heights, ← map_take, take_range, take_left] at htake
  rw [← htake, heights, Nat.min_eq_left (by omega),
    show height - 1 + 1 - start = before.length by omega, Int.toNat_natCast]

@[simp] theorem length_heights (start target : ℤ) :
    (heights start target).length = (target + 1 - start).toNat := by
  rw [heights, length_map, length_range]

theorem getLastD_heights {start target : ℤ} (h : start < target) :
    (heights start target).getLastD start = target := by
  obtain ⟨n, hn⟩ : ∃ n : ℕ, (target + 1 - start).toNat = n + 1 :=
    ⟨(target - start).toNat, by omega⟩
  rw [heights, hn, range_succ, map_append, map_singleton, getLastD_concat]
  omega

theorem heights_of_lt {start target : ℤ} (h : target < start) : heights start target = [] := by
  rw [← length_eq_zero_iff, length_heights]
  omega

theorem replayRange_of_ne (h : config.startHeight ≠ config.targetHeight) :
    replayRange config = heights config.startHeight config.targetHeight := by
  unfold replayRange
  split_ifs with hlt
  · rfl
  · rw [heights_of_lt (by omega)]

end

/-- What the replay answers after a loop without an error. -/
theorem replay_of_replays (h : Replays config source 0 (replayRange config) initial final)
    {r : ReplayResult} (hr : (replay config source initial).1 = .ok r) :
    r.startHeight = config.startHeight ∧ r.blocksReplayed = (replayRange config).length ∧
      r.endHeight = (if (replayRange config).length = 0 then config.startHeight
        else config.startHeight + (replayRange config).length - 1) ∧
      finalHash final = .str r.finalStateHash ∧
      r.errors = (validatorError config source (replayRange config).length final).toList ∧
      (replay config source initial).2.map Prod.fst = replayRange config := by
  obtain ⟨herror, hstate, hcount, hreported⟩ := loop_of_replays h
  rw [replay, hstate, hcount, herror] at hr
  dsimp only at hr
  split at hr
  · next hash hhash =>
    cases hr
    exact ⟨rfl, rfl, rfl, hhash, rfl, hreported⟩
  · cases hr

omit [ReplayText] in
theorem height_of_validatorError {error : ReplayError}
    (h : validatorError config source call final = some error) :
    error.height = config.targetHeight := by
  unfold validatorError at h
  split at h
  · split at h
    · cases h
    · dsimp only at h
      split_ifs at h
      cases h
      rfl
  · cases h

/-- After a full run, the replay covers its heights unless it counted too few of them or the check
of the validator set failed behind the callback of the last one. -/
theorem covers_iff_of_replays (h : Replays config source 0 (replayRange config) initial final) :
    Covers config source initial ↔ (Returns final →
      (validatorError config source (replayRange config).length final = none ∧
        config.startHeight ≠ config.targetHeight) ∨
      validatorError config source (replayRange config).length final ≠ none ∧
        config.targetHeight ≤ config.startHeight) := by
  constructor
  · rintro hcovers ⟨hash, hhash⟩
    obtain ⟨r, hr⟩ : ∃ r, (replay config source initial).1 = .ok r := by
      rw [replay, (loop_of_replays h).2.1, hhash]
      exact ⟨_, rfl⟩
    obtain ⟨-, hcount, -, -, herrors, hreported⟩ := replay_of_replays h hr
    have hr' := hcovers r hr
    cases hvalid : validatorError config source (replayRange config).length final with
    | none =>
      rw [hvalid] at herrors
      rw [if_pos (by simp [ReplayResult.success, herrors])] at hr'
      obtain ⟨_, -, -, -, hblocks, -⟩ := hr'
      refine .inl ⟨rfl, fun heq => ?_⟩
      rw [hcount, replayRange, if_neg (by omega), length_heights] at hblocks
      simp only [length_nil] at hblocks
      omega
    | some error =>
      rw [hvalid, Option.toList_some] at herrors
      rw [if_neg (by simp [ReplayResult.success, herrors])] at hr'
      obtain ⟨error', herror', hcalls⟩ := hr'
      obtain rfl : error = error' := by simpa using herrors.symm.trans herror'
      refine .inr ⟨nofun, not_lt.mp fun hlt => ?_⟩
      rw [hreported, height_of_validatorError hvalid, replayRange, if_pos hlt] at hcalls
      have hlength := congrArg List.length hcalls
      simp only [length_heights] at hlength
      omega
  · intro hcondition r hr
    obtain ⟨hstart, hcount, hend, hhash, herrors, hreported⟩ := replay_of_replays h hr
    obtain ⟨hvalid, hne⟩ | ⟨hinvalid, hle⟩ := hcondition ⟨_, hhash⟩
    · rw [if_pos (by simp [ReplayResult.success, herrors, hvalid])]
      rw [replayRange_of_ne hne] at h hcount hend
      refine ⟨final, h, hstart, ?_, hcount, hhash⟩
      rw [hend, length_heights]
      by_cases hlt : config.startHeight < config.targetHeight
      · rw [if_neg (by omega), getLastD_heights hlt]
        omega
      · rw [if_pos (by omega), heights_of_lt (by omega)]
        rfl
    · obtain ⟨error, herror⟩ := Option.ne_none_iff_exists'.mp hinvalid
      rw [herror, Option.toList_some] at herrors
      rw [if_neg (by simp [ReplayResult.success, herrors])]
      refine ⟨error, herrors, ?_⟩
      rw [hreported, height_of_validatorError herror, heights_of_lt (by omega), replayRange,
        if_neg (not_lt.mpr hle)]

/-- A replay covers every block unless it has one block only, which it does not fetch, or the
validator set after a full run of several blocks is not that of the last one. -/
theorem replay_covers_iff (config : ReplayConfig) (source : BlockSource) (initial : Fields) :
    Covers config source initial ↔
      (config.startHeight = config.targetHeight → Returns initial →
        validatorError config source 0 initial ≠ none) ∧
      (config.startHeight < config.targetHeight → ∀ final,
        Replays config source 0 (heights config.startHeight config.targetHeight) initial final →
        Returns final → validatorError config source
          (heights config.startHeight config.targetHeight).length final = none) := by
  by_cases hlt : config.startHeight < config.targetHeight
  · have hrange : replayRange config = heights config.startHeight config.targetHeight := if_pos hlt
    obtain ⟨final, hfinal⟩ | ⟨error, later, herror, hsplit⟩ :=
      @loop_cases config source 0 (replayRange config) initial
    · have hunique : ∀ other, Replays config source 0 (replayRange config) initial other →
          other = final := fun other h =>
        (loop_of_replays h).2.1.symm.trans (loop_of_replays hfinal).2.1
      rw [covers_iff_of_replays hfinal, ← hrange]
      constructor
      · intro h
        refine ⟨fun heq => absurd heq (ne_of_lt hlt), fun _ other hother hreturns => ?_⟩
        obtain rfl := hunique other hother
        exact (h hreturns).elim And.left fun h => absurd h.2 (not_le.mpr hlt)
      · exact fun h hreturns => .inl ⟨h.2 hlt final hfinal hreturns, ne_of_lt hlt⟩
    · constructor
      · refine fun _ => ⟨fun heq => absurd heq (ne_of_lt hlt), fun _ final hfinal => ?_⟩
        rw [← hrange] at hfinal
        rw [(loop_of_replays hfinal).1] at herror
        cases herror
      · intro _ r hr
        -- the loop ended at the height of its error
        have herrors : r.errors = [error] := by
          rw [replay, herror] at hr
          dsimp only at hr
          split at hr
          · cases hr
            rfl
          · cases hr
        rw [if_neg (by simp [ReplayResult.success, herrors])]
        exact ⟨error, herrors, heights_of_split (hrange.symm.trans hsplit)⟩
  · have hrange : replayRange config = [] := if_neg hlt
    have hnone : Replays config source 0 (replayRange config) initial initial := by
      rw [hrange]
      rfl
    rw [covers_iff_of_replays hnone, hrange, List.length_nil]
    constructor
    · refine fun h => ⟨fun heq hreturns => ?_, fun h => absurd h hlt⟩
      exact (h hreturns).elim (fun h => absurd heq h.2) And.left
    · intro h hreturns
      by_cases heq : config.startHeight = config.targetHeight
      · exact .inr ⟨h.1 heq hreturns, not_lt.mp hlt⟩
      · by_cases hvalid : validatorError config source 0 initial = none
        · exact .inl ⟨hvalid, heq⟩
        · exact .inr ⟨hvalid, not_lt.mp hlt⟩

omit [ReplayText] in
/-- The block after a snapshot of height 9 is the target. The replay succeeds without it, though no
source has it. -/
theorem single_block_skipped :
    letI : ReplayText := ⟨fun _ => "", fun _ => ""⟩
    ¬ Covers { startHeight := 10, targetHeight := 10 }
      ⟨fun _ _ => none, fun _ state _ => state⟩ [] := by
  intro h
  let _ : ReplayText := ⟨fun _ => "", fun _ => ""⟩
  have hcovers := h _ rfl
  rw [if_pos (by decide)] at hcovers
  obtain ⟨-, -, -, -, hblocks, -⟩ := hcovers
  exact absurd hblocks (by decide)

end BlockReplayer

end AidnSpec.Snapshot
