import AidnSpec.Ledger.OperationSteps
import AidnSpec.Ledger.PublicationHistory

/-!
# What the operation log keeps

Over any run of consensus operations the log only grows, its records are numbered without gap, no
identity is recorded twice, and a recorded operation is refused ever after.
-/

namespace AidnSpec.Ledger

open Base List

/-- No identity occurs twice in the log, and the registry refers to every record. -/
structure LogBooks (C : LedgerCore) : Prop where
  distinct : (C.operations.map (·.operationId)).Nodup
  registered : ∀ r ∈ C.operations,
    C.finalizedOperationRegistry.get? r.operationId = some r.reference

/-- The records of the log are numbered from one. -/
def Numbered (C : LedgerCore) : Prop :=
  C.operations.map (·.sequenceId) = range' 1 C.operations.length ∧
    C.nextSequenceId = C.operations.length + 1

theorem logBooks_genesis (balances : Dict String Int) (manifest : Option Fields) :
    LogBooks (genesis balances manifest).core where
  distinct := nodup_nil
  registered _ h := absurd h not_mem_nil

section

variable {L : LedgerState} {env : Envelope} {events : List String} {next : Option Nat}

/-- An envelope that is admitted has an identity of its own. -/
theorem LogBooks.not_mem (h : LogBooks L.core) (admits : Admits L env next) :
    env.operationId ∉ L.operations.map (·.operationId) := by
  intro hmem
  obtain ⟨r, hr, hid⟩ := mem_map.mp hmem
  have hregistered := h.registered r hr
  rw [hid, LedgerState.core, admits.fresh] at hregistered
  cases hregistered

theorem LogBooks.admitted (h : LogBooks L.core) (admits : Admits L env next) :
    LogBooks (L.admitted env events next).core := by
  have hfresh := h.not_mem admits
  constructor
  · show ((L.operations ++ [_]).map _).Nodup
    rw [map_append, map_singleton, nodup_append]
    refine ⟨h.distinct, nodup_singleton _, ?_⟩
    rintro id hid other hother rfl
    rw [mem_singleton.mp hother] at hid
    exact hfresh hid
  · intro r hr
    show (L.finalizedOperationRegistry.set _ _).get? _ = _
    rcases mem_append.mp hr with hr | hr
    · have hne : r.operationId ≠ env.operationId := fun heq => hfresh (heq ▸ mem_map_of_mem hr)
      rw [Dict.get?_set_of_ne _ _ hne]
      exact h.registered r hr
    · obtain rfl := mem_singleton.mp hr
      exact Dict.get?_set_self ..

theorem Numbered.admitted (h : Numbered L.core) :
    Numbered (L.admitted env events next).core := by
  obtain ⟨hnumbers, hnext⟩ := h
  have hlength : (L.operations ++ [admittedRecord L env events next]).length =
      L.operations.length + 1 := length_append
  constructor
  · have hlast : L.nextSequenceId = 1 + 1 * L.operations.length := by
      rw [Nat.one_mul, Nat.add_comm]
      exact hnext
    show map _ (L.operations ++ [_]) = range' 1 (L.operations ++ [_]).length
    rw [hlength, range'_concat, map_append, ← hlast]
    exact congrArg (· ++ [_]) hnumbers
  · show L.nextSequenceId + 1 = (L.operations ++ [_]).length + 1
    rw [hlength]
    exact congrArg (· + 1) hnext

end

section Runs

variable [Runtime] [LedgerRules] {L : LedgerState}

/-- One operation appends its record at most. -/
theorem ConsensusOp.appends (op : ConsensusOp) (L : LedgerState) :
    (op.after L).core = L.core ∨ ∃ events next, Admits L op.envelope next ∧
      (op.after L).core = (L.admitted op.envelope events next).core := by
  rw [op.after_eq_leaves]
  rcases op.records L with hcore | ⟨events, next, -, hadmits, hcore⟩
  · exact .inl hcore
  · exact .inr ⟨events, next, hadmits, hcore⟩

theorem LogBooks.after (h : LogBooks L.core) (op : ConsensusOp) : LogBooks (op.after L).core := by
  rcases op.appends L with hcore | ⟨events, next, hadmits, hcore⟩
  · rwa [hcore]
  · rw [hcore]
    exact h.admitted hadmits

theorem Numbered.after (h : Numbered L.core) (op : ConsensusOp) : Numbered (op.after L).core := by
  rcases op.appends L with hcore | ⟨events, next, -, hcore⟩
  · rwa [hcore]
  · rw [hcore]
    exact h.admitted

theorem prefix_runOps (L : LedgerState) (ops : List ConsensusOp) :
    L.operations <+: (runOps L ops).operations := by
  induction ops generalizing L with
  | nil => exact prefix_rfl
  | cons op ops ih =>
    refine IsPrefix.trans ?_ (ih (op.after L))
    rcases op.appends L with hcore | ⟨events, next, -, hcore⟩
    · exact ⟨[], (append_nil _).trans (congrArg LedgerCore.operations hcore).symm⟩
    · exact ⟨_, (congrArg LedgerCore.operations hcore).symm⟩

theorem Reachable.runOps (h : Reachable L) (ops : List ConsensusOp) :
    Reachable (runOps L ops) := by
  obtain ⟨balances, manifest, earlier, rfl⟩ := h
  exact ⟨balances, manifest, earlier ++ ops, (runOps_append ..).symm⟩

/-- Over any run the log only grows, with numbered records of distinct identities, and an
operation that was recorded raises ever after and changes nothing. -/
theorem operations_recorded_once (reachable : Reachable L) (ops : List ConsensusOp) :
    L.operations <+: (runOps L ops).operations ∧ Numbered (runOps L ops).core ∧
      LogBooks (runOps L ops).core ∧
      ∀ op : ConsensusOp, op.envelope.operationId ∈ L.operations.map (·.operationId) →
        ∃ e, op.apply (runOps L ops) = .error e (runOps L ops) := by
  have hreachable := reachable.runOps ops
  have hbooks : LogBooks (runOps L ops).core :=
    hreachable.induct (P := fun L => LogBooks L.core) logBooks_genesis fun _ op h => h.after op
  have hgrows := prefix_runOps L ops
  refine ⟨hgrows, hreachable.induct (P := fun L => Numbered L.core) (fun _ _ => ⟨rfl, rfl⟩)
    fun _ op h => h.after op, hbooks, fun op hmem => ?_⟩
  rcases op.raises_or_records (runOps L ops) with hraised | ⟨events, next, hadmits, -⟩
  · exact hraised
  · exact absurd ((hgrows.map _).subset hmem) (hbooks.not_mem hadmits)

end Runs

/-- After two publications the first one is refused when it is sent again. -/
theorem publication_recorded_once :
    letI := ownerRuntime
    letI := plainLibrary
    letI := publicationRules noRules
    publishedTwice.operations.length = 2 ∧
      Numbered (runOps publishedTwice [firstPublication.op]).core ∧
      LogBooks (runOps publishedTwice [firstPublication.op]).core ∧
      ∃ e, firstPublication.op.apply (runOps publishedTwice [firstPublication.op]) =
        .error e (runOps publishedTwice [firstPublication.op]) := by
  let _ := ownerRuntime
  let _ := plainLibrary
  let _ := publicationRules noRules
  obtain ⟨-, hnumbered, hbooks, hrefused⟩ :=
    operations_recorded_once reachable_publishedTwice [firstPublication.op]
  exact ⟨rfl, hnumbered, hbooks, hrefused _ mem_cons_self⟩

end AidnSpec.Ledger
