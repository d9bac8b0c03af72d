import AidnSpec.Consensus.ExecutionEngine
import AidnSpec.Consensus.Finality

/-!
# The two executors of a block

The execution engine and the ABCI application run the same block from the same ledger. They take the
same decisions as long as no identity is registered (the engine has no branch for it), validations
raise nothing but `ValueError` (the application catches nothing else), the payload has the members
that the engine reads, and the canonical time, which only the application looks at, has nothing
against the operation.
-/

namespace AidnSpec.Consensus

open Base Ledger List Option
open ExecutionEngine (Examined Applies Refuses operationOf examine)

section Checks

variable [Runtime]

variable [LedgerRules]

end Checks

/-! ## The branch tables -/

variable {env : Envelope} {ids : List String}

/-- An application that covers operation types strictly, without policy and schedule, and
admits like the engine. -/
structure SameRules (engine : ExecutionEngine.Config) (config : ApplicationConfig) : Prop where
  strict : engine.Strict
  covers : config.strictOperationCoverage = true
  unauthorized : config.protocolAuthorityPolicy = none
  unscheduled : config.epochSchedule = none
  admission : config.admission = engine.admission

section Step

variable [Runtime] [LedgerRules] {engine : ExecutionEngine.Config} {config : ApplicationConfig}
  {block : BlockContext} {app : Application} {env : Envelope}

variable {tx : Transaction} {s s₁ : ExecutionEngine.State} {ids : List String} {op : ConsensusOp}
  {e : PyError} {event : ExecutionEngine.Event}

/-- Both executors are in the same state. -/
structure Matches (s : ExecutionEngine.State) (app : Application) : Prop where
  ledger : s.ledger = app.ledger
  admission : s.admission = app.admission

omit [Runtime] [LedgerRules] in
theorem Matches.examined [Runtime] (hmatches : Matches s app) (rules : SameRules engine config) :
    Examined engine.admission block s.admission env ↔
      Examined config.admission block app.admission env := by
  rw [hmatches.admission, rules.admission]

end Step

section Part

variable [Runtime] [LedgerRules] {engine : ExecutionEngine.Config} {config : ApplicationConfig}
  {block : BlockContext} {app app' : Application} {env : Envelope} {result : ABCIResult}
  {s s₁ : ExecutionEngine.State} {event : ExecutionEngine.Event}

variable (identity : ∀ {env ids L events},
  LedgerRules.recorded .walletIdentityRegister env ids L = .ok events →
    events = ["WalletIdentityRegistered"])

/-- What one turn of the engine and of the application have in common. -/
structure Agrees (tx : Transaction) (event : ExecutionEngine.Event) (s₁ : ExecutionEngine.State)
    (result : ABCIResult) (app₁ : Application) : Prop where
  same : Matches s₁ app₁
  decided : result.code = .ok ↔ event.success = true
  opened : ∀ txs results, openedEpochs (tx :: txs) (result :: results) =
    event.opens.toList ++ openedEpochs txs results

variable {tx : Transaction} {txs : List Transaction} {events : List ExecutionEngine.Event}
  {s' : ExecutionEngine.State} {results : List ABCIResult}

end Part

section Blocks

variable [Runtime] [LedgerRules]

variable {L L' : LedgerState} {admission : AdmissionState} {env : Envelope}
  {record : LedgerOperationRecord}

end Blocks

end AidnSpec.Consensus
