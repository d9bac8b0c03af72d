import AidnSpec.Ledger.Atomicity

/-!
# The books of a session over whole runs

What the ledger paid for a session and what it locked for it, along any run of consensus operations.
In runs without a forced settlement that raises late, the credits of each party are what the account
says it was paid, all of them come out of what was locked, and a settled account and its credits
stay as they are.
-/

namespace AidnSpec.Ledger

open Base

variable [Runtime] [LedgerRules]

variable {op : ConsensusOp} {L : LedgerState} {s : String} {a : SessionFundingAccount}
  {ops : List ConsensusOp}

/-- An operation that does not raise late keeps the books. -/
theorem ConsensusOp.books_after (wf : L.economy.WellFormed) (books : Economy.Books L.economy)
    (h : ¬ op.RaisesLate L) : Economy.Books (op.after L).economy := by
  rcases op.after_cases wf with ⟨-, -, hstep⟩ | ⟨-, hL⟩ | ⟨hlate, -⟩
  · exact hstep.books books
  · rw [hL]
    exact books
  · exact absurd hlate h

/-- An operation that does not raise late leaves a settled account alone. -/
theorem ConsensusOp.settled_after (wf : L.economy.WellFormed) (h : ¬ op.RaisesLate L)
    (stored : L.sessionFundingAccounts.get? s = some a) (settled : a.fundingState.isFinal = true) :
    Economy.Keeps s L.economy (op.after L).economy := by
  rcases op.after_cases wf with ⟨-, -, hstep⟩ | ⟨-, hL⟩ | ⟨hlate, -⟩
  · exact hstep.settled wf stored settled
  · rw [hL]
    exact ⟨rfl, rfl⟩
  · exact absurd hlate h

omit [Runtime] [LedgerRules] in
/-- The books are in order at genesis. -/
theorem books_genesis (balances : Dict String Int) (manifest : Option Fields) :
    Economy.Books (genesis balances manifest).economy := by
  constructor
  · intro s _
    exact ⟨rfl, rfl⟩
  · intro s a ha
    cases ha
  · intro s a ha
    cases ha
  · intro s a ha
    cases ha

/-- The shape and the books of every state of a run without late exceptions. -/
theorem books_runOps (run : EachStep (fun op L => ¬ op.RaisesLate L) L ops)
    (wf : L.economy.WellFormed) (books : Economy.Books L.economy) :
    (runOps L ops).economy.WellFormed ∧ Economy.Books (runOps L ops).economy := by
  refine runOps_induct (I := fun L => L.economy.WellFormed ∧ Economy.Books L.economy) ?_ run
    ⟨wf, books⟩
  rintro L op hlate ⟨wf, books⟩
  exact ⟨op.wellFormed_after wf, ConsensusOp.books_after wf books hlate⟩

/-- A settled account and its credits stay as they are along a run without late
exceptions. -/
theorem settled_runOps (run : EachStep (fun op L => ¬ op.RaisesLate L) L ops)
    (wf : L.economy.WellFormed) (stored : L.sessionFundingAccounts.get? s = some a)
    (settled : a.fundingState.isFinal = true) :
    Economy.Keeps s L.economy (runOps L ops).economy := by
  -- the invariant carries the account itself, so that each step starts from a settled one
  have hkept : (runOps L ops).economy.WellFormed ∧
      (runOps L ops).sessionFundingAccounts.get? s = some a ∧
      creditsOf s (runOps L ops).sessionCredits = creditsOf s L.sessionCredits := by
    refine runOps_induct (I := fun L' => L'.economy.WellFormed ∧
      L'.sessionFundingAccounts.get? s = some a ∧
      creditsOf s L'.sessionCredits = creditsOf s L.sessionCredits) ?_ run ⟨wf, stored, rfl⟩
    rintro L' op hlate ⟨wf', stored', hcredits⟩
    obtain ⟨haccount, hkeeps⟩ := ConsensusOp.settled_after wf' hlate stored' settled
    exact ⟨op.wellFormed_after wf', haccount.trans stored', hkeeps.trans hcredits⟩
  exact ⟨hkept.2.1.trans stored.symm, hkept.2.2⟩

/-- The steps of a part of a run. -/
theorem EachStep.append {P : ConsensusOp → LedgerState → Prop} {more : List ConsensusOp}
    (h : EachStep P L (ops ++ more)) : EachStep P L ops ∧ EachStep P (runOps L ops) more := by
  induction ops generalizing L with
  | nil => exact ⟨trivial, h⟩
  | cons op ops ih =>
    obtain ⟨hfirst, hrest⟩ := h
    exact ⟨⟨hfirst, (ih hrest).1⟩, (ih hrest).2⟩

/-- The credits of a session against its account and what was locked for it. -/
structure SettledOnce (L : LedgerState) (s : String) (a : SessionFundingAccount) : Prop where
  endpoint : paidTo .endpoint (creditsOf s L.sessionCredits) = a.releasedToEndpoint
  consumer : paidTo .consumer (creditsOf s L.sessionCredits) =
    a.consumerPaymentRefund + a.consumerFeeRefund
  within : paidTo .endpoint (creditsOf s L.sessionCredits) +
    paidTo .consumer (creditsOf s L.sessionCredits) + a.consumedNetworkFees ≤
      lockedFor s L.sessionLocks

/-- In every run in which no forced settlement raises late, each session is paid what its
account says, out of what was locked for it; sessions without an account are paid nothing;
and from the moment a session is settled its account and its credits never change. -/
theorem no_double_settlement (balances : Dict String Int) (manifest : Option Fields)
    (ops : List ConsensusOp)
    (run : EachStep (fun op L => ¬ op.RaisesLate L) (genesis balances manifest) ops) :
    (∀ s a, (runOps (genesis balances manifest) ops).sessionFundingAccounts.get? s = some a →
      SettledOnce (runOps (genesis balances manifest) ops) s a) ∧
    (∀ s, (runOps (genesis balances manifest) ops).sessionFundingAccounts.get? s = none →
      creditsOf s (runOps (genesis balances manifest) ops).sessionCredits = []) ∧
    ∀ done more, ops = done ++ more → ∀ s a,
      (runOps (genesis balances manifest) done).sessionFundingAccounts.get? s = some a →
      a.fundingState = .released ∨ a.fundingState = .refunded →
      (runOps (genesis balances manifest) ops).sessionFundingAccounts.get? s = some a ∧
        creditsOf s (runOps (genesis balances manifest) ops).sessionCredits =
          creditsOf s (runOps (genesis balances manifest) done).sessionCredits := by
  have hgenesis : Reachable (genesis balances manifest) := ⟨balances, manifest, [], rfl⟩
  have wf := hgenesis.wellFormed
  obtain ⟨-, books⟩ := books_runOps run wf (books_genesis balances manifest)
  refine ⟨?_, ?_, ?_⟩
  · intro s a stored
    exact ⟨books.endpoint stored, books.consumer stored, books.within stored⟩
  · intro s hnone
    exact (books.absent hnone).1
  · rintro done more rfl s a stored hstate
    obtain ⟨hdone, hmore⟩ := run.append
    obtain ⟨wfDone, -⟩ := books_runOps hdone wf (books_genesis balances manifest)
    have settled : a.fundingState.isFinal = true := by
      rcases hstate with h | h <;> rw [h] <;> rfl
    obtain ⟨haccount, hcredits⟩ := settled_runOps hmore wfDone stored settled
    rw [runOps_append]
    exact ⟨haccount.trans stored, hcredits⟩

omit [Runtime] [LedgerRules]

/-- After the forced settlement that raised, the endpoint has been paid five Q atoms of
which its account knows nothing. -/
theorem forced_fee_unbooked :
    letI := sampleRuntime
    letI := noRules
    ∃ (balances : Dict String Int) (ops : List ConsensusOp) (a : SessionFundingAccount),
      (runOps (genesis balances none) ops).sessionFundingAccounts.get? "session-1" = some a ∧
      paidTo .endpoint (creditsOf "session-1"
        (runOps (genesis balances none) ops).sessionCredits) = 5 ∧
      a.releasedToEndpoint = 0 ∧
      ¬ SettledOnce (runOps (genesis balances none) ops) "session-1" a := by
  let _ := sampleRuntime
  let _ := noRules
  have hrun : runOps (genesis (Dict.empty.set "consumer" 100) none)
      ([lockOp .escrowPrepaid prepaidId, .sessionFailureEvidence (evidenceEnvelope evidenceId)] ++
        [.forceSettle (forceEnvelope true) none]) = forcedLedger := by
    rw [runOps_append]
    show runOps (runOps hundredAtoms _) _ = forcedLedger
    rw [runOps_evidencedLedger]
    exact ConsensusOp.after_of_error apply_forceEnvelope
  refine ⟨_, _, tenAtoms .escrowPrepaid, by rw [hrun]; rfl, by rw [hrun]; decide, rfl, ?_⟩
  rw [hrun]
  intro hsettled
  exact absurd hsettled.endpoint (by decide)

end AidnSpec.Ledger
