import AidnSpec.Consensus.Finality

/-!
# Prepared proposals

`prepare_proposal` of `consensus/abci.py` beside `process_proposal`. The one looks for a schedule
commit among all transactions that are offered, the other among those that were selected; the
selection is accepted all the same, and nothing but the transitions of the first schedule could have
been added to it.
-/

namespace AidnSpec.Consensus

open Base Ledger List

section Checks

variable [Runtime] [LedgerRules]

/-- The checks of `prepare_proposal` on an envelope. -/
def proposable (config : ApplicationConfig) (app : Application) (selectedIds : List String)
    (env : Envelope) : Except PyError Bool :=
  if selectedIds.contains env.operationId then .ok false
  else do
    match ← canonicalFinalizedOperationError config app env with
    | some _ => return false
    | none =>
      match ← app.admission.validate config.admission env with
      | some _ => return false
      | none =>
        match ← specialOperationError config app env (finalizedOperationIds app.ledger) with
        | some _ => return false
        | none => return true

/-- The loop of `prepare_proposal`; `parse` is `_parse_envelope`. An exception passes over its
transaction. -/
def prepareTransactions (parse : Bytes → Transaction) (config : ApplicationConfig)
    (block : BlockContext) (app : Application) (maximumBytes : Int) (selectedIds : List String)
    (totalBytes : Int) : List Bytes → List Bytes
  | [] => []
  | txData :: rest =>
    let passOver := prepareTransactions parse config block app maximumBytes selectedIds totalBytes
      rest
    match parse txData with
    | .error _ => passOver
    | .ok env =>
      match block.sameBlockComplaint env with
      | some _ => passOver
      | none =>
        match proposable config app selectedIds env with
        | .ok true =>
          if 0 < maximumBytes ∧ maximumBytes < totalBytes + txData.length then passOver
          else
            txData :: prepareTransactions parse config block app maximumBytes
              (env.operationId :: selectedIds) (totalBytes + txData.length) rest
        | _ => passOver

def prepareProposal (parse : Bytes → Transaction) (config : ApplicationConfig) (app : Application)
    (txs : List Bytes) (maximumBytes : Int) : List Bytes :=
  prepareTransactions parse config (blockContext app (txs.map parse)) app maximumBytes [] 0 txs

/-- A proposal that `process_proposal` accepts. -/
def Accepted (config : ApplicationConfig) (app : Application) (txs : List Transaction) : Prop :=
  ∃ result, processProposal config app txs = .ok result ∧ result.code = .ok

def proposalBytes (txs : List Bytes) : Int := (txs.map fun txData => (txData.length : Int)).sum

/-! ## What is accepted -/

/-- An envelope passes the checks that do not depend on the other transactions. -/
structure Passes (config : ApplicationConfig) (app : Application) (env : Envelope) : Prop where
  unfinalized : canonicalFinalizedOperationError config app env = .ok none
  admitted : app.admission.validate config.admission env = .ok none
  valid : specialOperationError config app env (finalizedOperationIds app.ledger) = .ok none

variable {config : ApplicationConfig} {app : Application}

variable {env : Envelope} {block : BlockContext} {seen : List String}
  {txs selected : List Transaction}

theorem proposable_eq_true {selectedIds : List String} :
    proposable config app selectedIds env = .ok true ↔
      env.operationId ∉ selectedIds ∧ Passes config app env := by
  unfold proposable
  split_ifs with hseen
  · simp at hseen
    simp [hseen]
  · have hnew : env.operationId ∉ selectedIds := by simpa using hseen
    constructor
    · intro h
      refine ⟨hnew, ?_⟩
      obtain ⟨finalized, hfinalized, h⟩ := bind_eq_ok.mp h
      cases finalized with
      | some complaint => cases h
      | none =>
        obtain ⟨reason, hadmission, h⟩ := bind_eq_ok.mp h
        cases reason with
        | some reason => cases h
        | none =>
          obtain ⟨complaint, hspecial, h⟩ := bind_eq_ok.mp h
          cases complaint with
          | some text => cases h
          | none => exact ⟨hfinalized, hadmission, hspecial⟩
    · rintro ⟨-, hpasses⟩
      simp only [hpasses.unfinalized, hpasses.admitted, hpasses.valid]
      rfl

/-- `process_proposal` goes on while the transactions are new, placed and pass. -/
theorem processTransactions_cons_ok {rest : List Transaction}
    (hids : block.finalizedIds = finalizedOperationIds app.ledger) :
    (∃ result, processTransactions config block app seen (.ok env :: rest) = .ok result ∧
      result.code = .ok) ↔
    env.operationId ∉ seen ∧ block.sameBlockComplaint env = none ∧ Passes config app env ∧
      ∃ result, processTransactions config block app (env.operationId :: seen) rest = .ok result ∧
        result.code = .ok := by
  rw [processTransactions]
  split_ifs with hseen
  · have hmem : env.operationId ∈ seen := by simpa using hseen
    simp [hmem]
  · have hnew : env.operationId ∉ seen := by simpa using hseen
    cases hplaced : block.sameBlockComplaint env with
    | some complaint => simp
    | none =>
      simp only [hids]
      constructor
      · rintro ⟨result, h, hcode⟩
        obtain ⟨finalized, hfinalized, h⟩ := bind_eq_ok.mp h
        cases finalized with
        | some complaint =>
          cases h
          cases hcode
        | none =>
          obtain ⟨reason, hadmission, h⟩ := bind_eq_ok.mp h
          cases reason with
          | some reason =>
            cases h
            cases hcode
          | none =>
            obtain ⟨complaint, hspecial, h⟩ := bind_eq_ok.mp h
            cases complaint with
            | some text =>
              cases h
              cases hcode
            | none => exact ⟨hnew, trivial, ⟨hfinalized, hadmission, hspecial⟩, result, h, hcode⟩
      · rintro ⟨-, -, hpasses, result, h, hcode⟩
        refine ⟨result, ?_, hcode⟩
        rw [hpasses.unfinalized, hpasses.admitted, hpasses.valid]
        exact h

omit [Runtime] [LedgerRules] in
/-- Envelopes that are new and apart from each other, one after another. -/
theorem apart_cons_iff {P : Envelope → Prop} {env : Envelope} {envs : List Envelope} :
    (∀ other ∈ env :: envs, other.operationId ∉ seen ∧ P other) ∧
        ((env :: envs).map (·.operationId)).Nodup ↔
      (env.operationId ∉ seen ∧ P env) ∧
        (∀ other ∈ envs, other.operationId ∉ env.operationId :: seen ∧ P other) ∧
        (envs.map (·.operationId)).Nodup := by
  rw [forall_mem_cons, map_cons, nodup_cons, mem_map]
  simp only [not_exists, not_and, mem_cons, not_or]
  constructor
  · rintro ⟨⟨hnew, hall⟩, hfresh, hnodup⟩
    exact ⟨hnew, fun other hother => ⟨⟨hfresh other hother, (hall other hother).1⟩,
      (hall other hother).2⟩, hnodup⟩
  · rintro ⟨hnew, hall, hnodup⟩
    exact ⟨⟨hnew, fun other hother => ⟨(hall other hother).1.2, (hall other hother).2⟩⟩,
      fun other hother => (hall other hother).1.1, hnodup⟩

/-- The transactions that the loop of `process_proposal` accepts. -/
theorem processTransactions_ok_iff (hids : block.finalizedIds = finalizedOperationIds app.ledger) :
    (∃ result, processTransactions config block app seen txs = .ok result ∧ result.code = .ok) ↔
      ∃ envs : List Envelope, txs = envs.map .ok ∧
        (∀ env ∈ envs, env.operationId ∉ seen ∧ block.sameBlockComplaint env = none ∧
          Passes config app env) ∧ (envs.map (·.operationId)).Nodup := by
  induction txs generalizing seen with
  | nil => exact ⟨fun _ => ⟨[], rfl, by simp, by simp⟩, fun _ => ⟨_, rfl, rfl⟩⟩
  | cons tx rest ih =>
    cases tx with
    | error complaint =>
      constructor
      · rintro ⟨result, h, hcode⟩
        cases h
        cases hcode
      · rintro ⟨envs, hmap, -⟩
        cases envs <;> simp at hmap
    | ok env =>
      rw [processTransactions_cons_ok hids, ih]
      constructor
      · rintro ⟨hnew, hplaced, hpasses, envs, rfl, hothers⟩
        exact ⟨env :: envs, rfl, apart_cons_iff.mpr ⟨⟨hnew, hplaced, hpasses⟩, hothers⟩⟩
      · rintro ⟨envs, hmap, hall⟩
        cases envs with
        | nil => simp at hmap
        | cons first others =>
          rw [map_cons, List.cons.injEq, Except.ok.injEq] at hmap
          obtain ⟨rfl, rfl⟩ := hmap
          obtain ⟨⟨hnew, hplaced, hpasses⟩, hothers⟩ := apart_cons_iff.mp hall
          exact ⟨hnew, hplaced, hpasses, others, rfl, hothers⟩

/-! ## What is selected -/

section Selection

variable {parse : Bytes → Transaction} {block : BlockContext} {maximumBytes : Int}

/-- The two cases of the loop: the transaction is taken, or there is a reason not to. -/
theorem prepareTransactions_cons (parse : Bytes → Transaction) (config : ApplicationConfig)
    (block : BlockContext) (app : Application) (maximumBytes : Int) (ids : List String)
    (total : Int) (txData : Bytes) (rest : List Bytes) :
    (∃ env, parse txData = .ok env ∧ block.sameBlockComplaint env = none ∧
        env.operationId ∉ ids ∧ Passes config app env ∧
        ¬ (0 < maximumBytes ∧ maximumBytes < total + txData.length) ∧
        prepareTransactions parse config block app maximumBytes ids total (txData :: rest) =
          txData :: prepareTransactions parse config block app maximumBytes
            (env.operationId :: ids) (total + txData.length) rest) ∨
    ((∀ env, parse txData = .ok env → block.sameBlockComplaint env = none →
        env.operationId ∉ ids → Passes config app env →
        0 < maximumBytes ∧ maximumBytes < total + txData.length) ∧
      prepareTransactions parse config block app maximumBytes ids total (txData :: rest) =
        prepareTransactions parse config block app maximumBytes ids total rest) := by
  rw [prepareTransactions]
  cases hparse : parse txData with
  | error complaint => exact .inr ⟨fun env h => (by cases h), rfl⟩
  | ok env =>
    simp only
    cases hplaced : block.sameBlockComplaint env with
    | some complaint =>
      refine .inr ⟨fun other h hnone => ?_, rfl⟩
      cases h
      rw [hplaced] at hnone
      cases hnone
    | none =>
      by_cases hproposable : proposable config app ids env = .ok true
      · obtain ⟨hnew, hpasses⟩ := proposable_eq_true.mp hproposable
        simp only [hproposable]
        split_ifs with hsize
        · exact .inr ⟨fun _ _ _ _ _ => hsize, rfl⟩
        · exact .inl ⟨env, rfl, hplaced, hnew, hpasses, hsize, rfl⟩
      · refine .inr ⟨fun other h _ hnew hpasses => ?_, ?_⟩
        · cases h
          exact absurd (proposable_eq_true.mpr ⟨hnew, hpasses⟩) hproposable
        · simp only

variable {ids : List String} {total : Int} {txs : List Bytes}

theorem prepareTransactions_sublist :
    (prepareTransactions parse config block app maximumBytes ids total txs).Sublist txs := by
  induction txs generalizing ids total with
  | nil => exact List.Sublist.refl []
  | cons txData rest ih =>
    obtain ⟨env, -, -, -, -, -, heq⟩ | ⟨-, heq⟩ := prepareTransactions_cons parse config block app
      maximumBytes ids total txData rest
    · rw [heq]
      exact ih.cons_cons txData
    · rw [heq]
      exact ih.cons txData

omit [Runtime] [LedgerRules] in
theorem proposalBytes_cons (txData : Bytes) (txs : List Bytes) :
    proposalBytes (txData :: txs) = txData.length + proposalBytes txs := by
  rw [proposalBytes, map_cons, sum_cons, proposalBytes]

omit [Runtime] [LedgerRules] in
theorem proposalBytes_nonneg (txs : List Bytes) : 0 ≤ proposalBytes txs := by
  induction txs with
  | nil => exact le_refl 0
  | cons txData txs ih =>
    rw [proposalBytes_cons]
    omega

theorem prepareTransactions_bytes (positive : 0 < maximumBytes) (room : total ≤ maximumBytes) :
    total + proposalBytes (prepareTransactions parse config block app maximumBytes ids total txs) ≤
      maximumBytes := by
  induction txs generalizing ids total with
  | nil => simpa [prepareTransactions, proposalBytes] using room
  | cons txData rest ih =>
    obtain ⟨env, -, -, -, -, hsize, heq⟩ | ⟨-, heq⟩ := prepareTransactions_cons parse config block
      app maximumBytes ids total txData rest
    · have hroom : total + txData.length ≤ maximumBytes := by
        by_contra hover
        exact hsize ⟨positive, not_le.mp hover⟩
      rw [heq, proposalBytes_cons, ← add_assoc]
      exact ih hroom
    · rw [heq]
      exact ih room

/-- The selected transactions are new, placed and pass. -/
theorem prepareTransactions_envelopes :
    ∃ envs : List Envelope,
      (prepareTransactions parse config block app maximumBytes ids total txs).map parse =
        envs.map .ok ∧
      (∀ env ∈ envs, env.operationId ∉ ids ∧ block.sameBlockComplaint env = none ∧
        Passes config app env) ∧ (envs.map (·.operationId)).Nodup := by
  induction txs generalizing ids total with
  | nil => exact ⟨[], rfl, by simp, by simp⟩
  | cons txData rest ih =>
    obtain ⟨env, hparse, hplaced, hnew, hpasses, -, heq⟩ | ⟨-, heq⟩ := prepareTransactions_cons
      parse config block app maximumBytes ids total txData rest
    · obtain ⟨envs, hmap, hothers⟩ := @ih (env.operationId :: ids) (total + txData.length)
      exact ⟨env :: envs, by rw [heq, map_cons, hparse, hmap, map_cons],
        apart_cons_iff.mpr ⟨⟨hnew, hplaced, hpasses⟩, hothers⟩⟩
    · rw [heq]
      exact ih

/-- A placed envelope that passes and is not selected was too long. -/
theorem prepareTransactions_maximal {envs : List Envelope}
    (hmap : (prepareTransactions parse config block app maximumBytes ids total txs).map parse =
      envs.map .ok)
    {tx : Bytes} (htx : tx ∈ txs) {env : Envelope} (hparse : parse tx = .ok env)
    (hplaced : block.sameBlockComplaint env = none) (hpasses : Passes config app env)
    (hunseen : env.operationId ∉ ids) (hnew : env.operationId ∉ envs.map (·.operationId)) :
    maximumBytes <
      total + proposalBytes
        (prepareTransactions parse config block app maximumBytes ids total txs) +
        tx.length := by
  induction txs generalizing ids total envs with
  | nil => cases htx
  | cons txData rest ih =>
    obtain ⟨first, hfirst, -, -, -, -, heq⟩ | ⟨hdropped, heq⟩ := prepareTransactions_cons
      parse config block app maximumBytes ids total txData rest
    · rw [heq, map_cons, hfirst] at hmap
      cases envs with
      | nil => simp at hmap
      | cons head others =>
        rw [map_cons, List.cons.injEq, Except.ok.injEq] at hmap
        obtain ⟨rfl, hmap⟩ := hmap
        rw [map_cons, mem_cons, not_or] at hnew
        rcases mem_cons.mp htx with rfl | hrest
        · rw [hfirst] at hparse
          cases hparse
          exact absurd rfl hnew.1
        · rw [heq, proposalBytes_cons, ← add_assoc]
          refine ih hmap hrest ?_ hnew.2
          rw [mem_cons, not_or]
          exact ⟨hnew.1, hunseen⟩
    · rw [heq] at hmap ⊢
      rcases mem_cons.mp htx with rfl | hrest
      · have hsize := (hdropped env hparse hplaced hunseen hpasses).2
        have hnonneg := proposalBytes_nonneg
          (prepareTransactions parse config block app maximumBytes ids total rest)
        omega
      · exact ih hmap hrest hunseen hnew

end Selection

/-! ## The proposal of a node -/

omit [Runtime] [LedgerRules] in
/-- A schedule commit that is selected was offered. -/
theorem containsScheduleCommit_of_sublist (h : selected.Sublist txs)
    (hcontains : containsScheduleCommit selected = true) : containsScheduleCommit txs = true := by
  rw [containsScheduleCommit, any_eq_true] at hcontains ⊢
  obtain ⟨tx, htx, hcommit⟩ := hcontains
  exact ⟨tx, h.subset htx, hcommit⟩

omit [Runtime] [LedgerRules] in
/-- What is placed among all offered transactions is placed among the selected ones. -/
theorem placed_of_sublist (h : selected.Sublist txs)
    (hplaced : (blockContext app txs).sameBlockComplaint env = none) :
    (blockContext app selected).sameBlockComplaint env = none := by
  unfold BlockContext.sameBlockComplaint blockContext at hplaced ⊢
  split_ifs at hplaced with hoffered
  refine if_neg fun hselected => hoffered ⟨hselected.1, ?_, hselected.2.2⟩
  exact containsScheduleCommit_of_sublist h hselected.2.1

/-- A node accepts what it prepares: the selection keeps the order of the offered transactions,
the bound and one transaction for each operation; only transitions of the first schedule could
have been added. -/
theorem prepared_proposals_accepted (parse : Bytes → Transaction) (config : ApplicationConfig)
    (app : Application) (txs : List Bytes) {maximumBytes : Int} (positive : 0 < maximumBytes) :
    let selected := prepareProposal parse config app txs maximumBytes
    Accepted config app (selected.map parse) ∧ selected.Sublist txs ∧
      proposalBytes selected ≤ maximumBytes ∧
      (∃ envs : List Envelope, selected.map parse = envs.map .ok ∧
        (envs.map (·.operationId)).Nodup) ∧
      ∀ tx ∈ txs, proposalBytes (selected ++ [tx]) ≤ maximumBytes →
        Accepted config app ((selected ++ [tx]).map parse) →
        ∃ env, parse tx = .ok env ∧ env.operationType = "EPOCH_TRANSITION" ∧
          containsScheduleCommit (txs.map parse) = true ∧
          epochScheduleCommitted app.ledger = false := by
  intro selected
  have hsublist : selected.Sublist txs := prepareTransactions_sublist
  obtain ⟨envs, hmap, hall, hnodup⟩ :
      ∃ envs : List Envelope, selected.map parse = envs.map .ok ∧
        (∀ env ∈ envs, env.operationId ∉ [] ∧
          (blockContext app (txs.map parse)).sameBlockComplaint env = none ∧
          Passes config app env) ∧ (envs.map (·.operationId)).Nodup := prepareTransactions_envelopes
  have hbytes : 0 + proposalBytes selected ≤ maximumBytes :=
    prepareTransactions_bytes positive positive.le
  refine ⟨?_, hsublist, by simpa using hbytes, ⟨envs, hmap, hnodup⟩,
    fun tx htx hroom haccepted => ?_⟩
  · refine (processTransactions_ok_iff rfl).mpr ⟨envs, hmap, fun env henv => ?_, hnodup⟩
    obtain ⟨-, hplaced, hpasses⟩ := hall env henv
    exact ⟨List.not_mem_nil, placed_of_sublist (hsublist.map parse) hplaced, hpasses⟩
  · obtain ⟨more, hmore, hpasses, hnodup'⟩ := (processTransactions_ok_iff rfl).mp haccepted
    obtain ⟨env, hparse, hlast⟩ : ∃ env, parse tx = .ok env ∧ more = envs ++ [env] := by
      rw [List.map_append, hmap] at hmore
      obtain ⟨first, last, rfl, hfirst, hlast⟩ := List.append_eq_map_iff.mp hmore
      have hsame : first = envs := List.map_injective_iff.mpr (fun _ _ => Except.ok.inj) hfirst
      subst hsame
      cases last with
      | nil => simp at hlast
      | cons env others =>
        rw [List.map_singleton, List.map_cons, List.cons.injEq, List.map_eq_nil_iff] at hlast
        exact ⟨env, hlast.1.symm, by rw [hlast.2]⟩
    have henv : env ∈ more := hlast ▸ List.mem_append_right envs List.mem_cons_self
    have hnew : env.operationId ∉ envs.map (·.operationId) := by
      rw [hlast, List.map_append, List.nodup_append] at hnodup'
      exact fun h => hnodup'.2.2 _ h _ List.mem_cons_self rfl
    refine ⟨env, hparse, ?_⟩
    by_contra hother
    -- placed among the offered transactions, it was dropped for its length
    have hplaced : (blockContext app (txs.map parse)).sameBlockComplaint env = none :=
      if_neg fun h => hother h
    have hlong := prepareTransactions_maximal hmap htx hparse hplaced (hpasses env henv).2.2
      List.not_mem_nil hnew
    have happend : proposalBytes (selected ++ [tx]) = proposalBytes selected + tx.length := by
      simp [proposalBytes]
    have hselected : 0 + proposalBytes selected + tx.length ≤ maximumBytes := by
      rw [zero_add, ← happend]
      exact hroom
    exact absurd hselected (not_le.mpr hlong)

end Checks

def firstTransitionData : Bytes :=
  asciiBytes (canonicalText
    (firstTransition.toValue firstTransition.operationId firstTransition.signatures))

def parseFirstTransition (txData : Bytes) : Transaction :=
  if txData = firstTransitionData then .ok firstTransition
  else .error "Expecting value: line 1 column 1 (char 0)"

theorem first_transition_proposal_accepted :
    letI := sampleRuntime
    letI := noRules
    Accepted defaultConfig freshApplication
      ((prepareProposal parseFirstTransition defaultConfig freshApplication
        [firstTransitionData, [], firstTransitionData] 1048576).map parseFirstTransition) := by
  let _ := sampleRuntime
  let _ := noRules
  exact (prepared_proposals_accepted parseFirstTransition defaultConfig freshApplication
    [firstTransitionData, [], firstTransitionData] (show (0 : Int) < 1048576 by decide)).1

end AidnSpec.Consensus
