import AidnSpec.Base.Dict
import AidnSpec.Base.PyValue

/-!
# Epoch transitions

`epoch_reward/recycling.py:13–143`, `epoch_reward/transition.py:55–237` and the budget of
`reward/pools.py:38–72`. The pools of a budget are a parameter: their shares are floats, and nothing
here depends on how a budget is split.
-/

namespace AidnSpec.EpochReward

open Base

inductive RecyclingSource where
  | networkFee
  | validatorPenalty
  | bondForfeit
  | consensusSlash
  | unusedReward

inductive RecyclingStatus where
  | pending
  | recycled
  | expired
  deriving DecidableEq

structure RecyclableRecord where
  source : RecyclingSource
  amount : Int
  epochRemoved : Int
  epochRecycled : Option Int := none
  status : RecyclingStatus := .pending

/-- `RecyclingEngine`; the records that a call has recycled are kept by their positions. -/
structure RecyclingEngine where
  maxLag : Int := 3
  records : List RecyclableRecord := []
  recycledByEpoch : Dict Int (List ℕ) := .empty

namespace RecyclingEngine

variable (engine : RecyclingEngine)

def addSource (source : RecyclingSource) (amount epoch : Int) :
    RecyclableRecord × RecyclingEngine :=
  let record := { source := source, amount := amount, epochRemoved := epoch }
  (record, { engine with records := engine.records ++ [record] })

/-- A pending record that is not older than the window. -/
def Eligible (currentEpoch : Int) (record : RecyclableRecord) : Prop :=
  record.status = .pending ∧ currentEpoch - record.epochRemoved ≤ engine.maxLag

instance (currentEpoch : Int) : DecidablePred (engine.Eligible currentEpoch) :=
  fun _ => inferInstanceAs (Decidable (_ ∧ _))

/-- A record after `recycle_eligible`. -/
def recycle (currentEpoch : Int) (record : RecyclableRecord) : RecyclableRecord :=
  if engine.Eligible currentEpoch record then
    { record with status := .recycled, epochRecycled := some currentEpoch }
  else record

def recycleEligible (currentEpoch : Int) : List RecyclableRecord × RecyclingEngine :=
  ((engine.records.filter (engine.Eligible currentEpoch ·)).map (engine.recycle currentEpoch),
    { engine with
      records := engine.records.map (engine.recycle currentEpoch)
      recycledByEpoch := engine.recycledByEpoch.set currentEpoch
        (engine.records.findIdxs (engine.Eligible currentEpoch ·)) })

/-- A record after `expire_overdue`. -/
def expire (currentEpoch : Int) (record : RecyclableRecord) : RecyclableRecord :=
  if record.status = .pending ∧ engine.maxLag < currentEpoch - record.epochRemoved then
    { record with status := .expired }
  else record

def expireOverdue (currentEpoch : Int) : List RecyclableRecord × RecyclingEngine :=
  (((engine.records.filter fun record =>
      record.status = .pending ∧ engine.maxLag < currentEpoch - record.epochRemoved).map
      (engine.expire currentEpoch)),
    { engine with records := engine.records.map (engine.expire currentEpoch) })

def getTotalRecycled : Int :=
  ((engine.records.filter (·.status = .recycled)).map (·.amount)).sum

end RecyclingEngine

structure EmissionRecord where
  epoch : Int
  baseEmission : Int
  recyclableAmount : Int := 0
  totalBudget : Int := 0
  consensusAllocated : Int := 0
  registryAllocated : Int := 0
  validationAllocated : Int := 0
  faucetAllocated : Int := 0
  totalMinted : Int := 0
  unusedBase : Int := 0
  unusedRecyclable : Int := 0

inductive EpochTransitionState where
  | inProgress
  | evidenceFrozen
  | rewardsCalculated
  | mintGenerated
  | mintExecuted
  | complete
  | failed

structure EpochTransitionRecord where
  epoch : Int
  startedAtEpoch : Int
  state : EpochTransitionState
  budget : EmissionRecord

structure Pools where
  contributionPool : Int
  consensusPool : Int
  registryPool : Int
  validationPool : Int
  faucetPool : Int

structure EpochRewardBudget where
  epoch : Int
  baseEmission : Int
  recyclableAmount : Int
  pools : Pools

/-- `ServicePoolManager`: the pools of a total. A total that is no float raises. -/
class ServicePoolManager where
  allocate : Int → Except PyError Pools

def allocateBudget [ServicePoolManager] (epoch baseEmission recyclable : Int) :
    Except PyError EpochRewardBudget := do
  let pools ← ServicePoolManager.allocate (baseEmission + recyclable)
  return {
    epoch := epoch
    baseEmission := baseEmission
    recyclableAmount := recyclable
    pools := pools }

structure EpochTransitionEngine where
  recycling : RecyclingEngine := {}
  baseEmission : Int := 5000000000
  transitions : Dict Int EpochTransitionRecord := .empty
  emissions : Dict Int EmissionRecord := .empty
  budgets : Dict Int EpochRewardBudget := .empty

namespace EpochTransitionEngine

variable (engine : EpochTransitionEngine)

def beginTransition (epoch : Int) : EpochTransitionRecord × EpochTransitionEngine :=
  let record := {
    epoch := epoch
    startedAtEpoch := epoch
    state := .inProgress
    budget := {
      epoch := epoch
      baseEmission := engine.baseEmission
      totalBudget := engine.baseEmission } }
  (record, { engine with transitions := engine.transitions.set epoch record })

/-- The transition record of an epoch after its budget is known. -/
def withBudget (recyclable : Int) (record : EpochTransitionRecord) : EpochTransitionRecord :=
  { record with
    state := .rewardsCalculated
    budget := { record.budget with
      recyclableAmount := recyclable
      totalBudget := engine.baseEmission + recyclable } }

/-- `calculate_budget`: its budget, and the engine also where the pools raise. -/
def calculateBudget [ServicePoolManager] (epoch : Int) :
    Except PyError EpochRewardBudget × EpochTransitionEngine :=
  let recycled := { engine with recycling := (engine.recycling.recycleEligible epoch).2 }
  let recyclable := recycled.recycling.getTotalRecycled
  match allocateBudget epoch engine.baseEmission recyclable with
  | .error e => (.error e, recycled)
  | .ok budget => (.ok budget, { recycled with
      budgets := engine.budgets.set epoch budget
      transitions := match engine.transitions.get? epoch with
        | none => engine.transitions
        | some record => engine.transitions.set epoch (engine.withBudget recyclable record) })

/-- The emission that `record_emission` makes of a budget. -/
def emissionOf (budget : EmissionRecord) (epoch consensusAllocated registryAllocated
    validationAllocated faucetAllocated totalMinted : Int) : EmissionRecord :=
  let unusedBase := max 0 (budget.baseEmission - totalMinted)
  { epoch := epoch
    baseEmission := budget.baseEmission
    recyclableAmount := budget.recyclableAmount
    totalBudget := budget.totalBudget
    consensusAllocated := consensusAllocated
    registryAllocated := registryAllocated
    validationAllocated := validationAllocated
    faucetAllocated := faucetAllocated
    totalMinted := totalMinted
    unusedBase := unusedBase
    unusedRecyclable := max 0 (budget.recyclableAmount - (totalMinted - unusedBase)) }

def recordEmission (epoch consensusAllocated registryAllocated validationAllocated faucetAllocated
    totalMinted : Int) : Option EmissionRecord × EpochTransitionEngine :=
  match engine.transitions.get? epoch with
  | none => (none, engine)
  | some record =>
    let emission := emissionOf record.budget epoch consensusAllocated registryAllocated
      validationAllocated faucetAllocated totalMinted
    (some emission, { engine with
      emissions := engine.emissions.set epoch emission
      transitions := engine.transitions.set epoch
        { record with state := .complete, budget := emission } })

end EpochTransitionEngine

end AidnSpec.EpochReward
