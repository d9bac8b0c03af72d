import AidnSpec.Base.Runs
import AidnSpec.EpochReward.Transition
import Mathlib.Tactic.Linarith
import Mathlib.Tactic.Ring

/-!
# Budgets of recycled amounts

Runs of the recycling and the transition engine. A budget takes in everything that was ever
recycled, so an amount enters once only when all of it is recycled in one epoch. The unused parts of
an emission add up with what was minted only for some amounts.
-/

namespace AidnSpec.EpochReward

open Base RecyclingEngine List

/-- An engine with the records that the last budget of each epoch has counted, the emissions that
were recorded and the amount that was added. -/
structure BudgetHistory where
  engine : EpochTransitionEngine
  counted : Dict Int (List ℕ) := .empty
  emitted : List EmissionRecord := []
  added : Int := 0

/-- The calls of the two engines. -/
inductive BudgetCall where
  | addSource (source : RecyclingSource) (amount epoch : Int)
  | expireOverdue (epoch : Int)
  | beginTransition (epoch : Int)
  | calculateBudget (epoch : Int)
  | recordEmission (epoch consensusAllocated registryAllocated validationAllocated faucetAllocated
      totalMinted : Int)

namespace BudgetHistory

/-- Engines without records, with any base emission and window. -/
def start (baseEmission maxLag : Int) : BudgetHistory where
  engine := { baseEmission := baseEmission, recycling := { maxLag := maxLag } }

variable (h : BudgetHistory)

def step [ServicePoolManager] (h : BudgetHistory) : BudgetCall → BudgetHistory
  | .addSource source amount epoch => { h with
      engine := { h.engine with recycling := (h.engine.recycling.addSource source amount epoch).2 }
      added := h.added + amount }
  | .expireOverdue epoch => { h with
      engine := { h.engine with recycling := (h.engine.recycling.expireOverdue epoch).2 } }
  | .beginTransition epoch => { h with engine := (h.engine.beginTransition epoch).2 }
  | .calculateBudget epoch =>
    match h.engine.calculateBudget epoch with
    | (.error _, engine) => { h with engine := engine }
    | (.ok _, engine) => { h with
        engine := engine
        counted := h.counted.set epoch
          (engine.recycling.records.findIdxs (·.status = .recycled)) }
  | .recordEmission epoch consensus registry validation faucet totalMinted =>
    match h.engine.recordEmission epoch consensus registry validation faucet totalMinted with
    | (none, engine) => { h with engine := engine }
    | (some emission, engine) => { h with
        engine := engine
        emitted := h.emitted ++ [emission] }

/-- What was minted of a budget and its unused parts are the budget. -/
def Exact (emission : EmissionRecord) : Prop :=
  emission.totalMinted + emission.unusedBase + emission.unusedRecyclable = emission.totalBudget

/-- Recycled amounts enter one budget once. -/
structure EntersOnce : Prop where
  drawn : h.engine.budgets.sum (fun _ budget => budget.recyclableAmount) ≤ h.added
  counted : ∀ epoch positions epoch' positions' i, h.counted.get? epoch = some positions →
    h.counted.get? epoch' = some positions' → i ∈ positions → i ∈ positions' → epoch = epoch'
  exact : ∀ emission ∈ h.emitted, emission.totalMinted ≤ emission.totalBudget → Exact emission

/-- The amounts that `record_emission` splits: up to the base emission half of it, or at least half
when nothing is recyclable; above it the whole budget, or anything when there is no base. -/
def Splits (budget : EmissionRecord) (totalMinted : Int) : Prop :=
  if totalMinted ≤ budget.baseEmission then
    budget.baseEmission = 2 * totalMinted ∨
      budget.recyclableAmount = 0 ∧ budget.baseEmission ≤ 2 * totalMinted
  else 0 ≤ budget.baseEmission ∧ totalMinted = budget.totalBudget ∨ budget.baseEmission = 0

/-- A call draws on what no other epoch has drawn, and mints an amount that is split. -/
def Sparing : BudgetCall → Prop
  | .addSource _ amount _ => 0 ≤ amount
  | .calculateBudget epoch => ∀ record ∈ h.engine.recycling.records, record.status = .recycled →
      record.epochRecycled = some epoch
  | .recordEmission epoch _ _ _ _ totalMinted => ∀ record ∈ h.engine.transitions.get? epoch,
      totalMinted ≤ record.budget.totalBudget → Splits record.budget totalMinted
  | .expireOverdue _ => True
  | .beginTransition _ => True

instance (budget : EmissionRecord) (totalMinted : Int) : Decidable (Splits budget totalMinted) :=
  inferInstanceAs (Decidable (if totalMinted ≤ budget.baseEmission then _ ∨ _ ∧ _ else _ ∧ _ ∨ _))

instance : ∀ call, Decidable (Sparing h call)
  | .addSource _ amount _ => inferInstanceAs (Decidable (0 ≤ amount))
  | .calculateBudget epoch => inferInstanceAs (Decidable (∀ record ∈ h.engine.recycling.records,
      record.status = .recycled → record.epochRecycled = some epoch))
  | .recordEmission epoch _ _ _ _ totalMinted =>
    inferInstanceAs (Decidable (∀ record ∈ h.engine.transitions.get? epoch,
      totalMinted ≤ record.budget.totalBudget → Splits record.budget totalMinted))
  | .expireOverdue _ => inferInstanceAs (Decidable True)
  | .beginTransition _ => inferInstanceAs (Decidable True)

/-! ## The parts of an emission -/

variable {epoch consensus registry validation faucet totalMinted : Int}
  {change : RecyclableRecord → RecyclableRecord} {records : List RecyclableRecord}
  {engine : RecyclingEngine}

theorem exact_emissionOf_iff {budget : EmissionRecord}
    (htotal : budget.totalBudget = budget.baseEmission + budget.recyclableAmount)
    (hnonneg : 0 ≤ budget.recyclableAmount) (hle : totalMinted ≤ budget.totalBudget) :
    Exact (EpochTransitionEngine.emissionOf budget epoch consensus registry validation faucet
      totalMinted) ↔ Splits budget totalMinted := by
  simp only [Exact, EpochTransitionEngine.emissionOf, Splits]
  split_ifs with hbase
  · rw [max_eq_right (by omega : 0 ≤ budget.baseEmission - totalMinted)]
    omega
  · rw [max_eq_left (by omega : budget.baseEmission - totalMinted ≤ 0), sub_zero]
    by_cases hall : totalMinted ≤ budget.recyclableAmount
    · rw [max_eq_right (by omega)]
      omega
    · rw [max_eq_left (by omega)]
      omega

/-! ## What an epoch has drawn -/

def Unspent (record : RecyclableRecord) : Prop :=
  record.status = .pending → record.epochRecycled = none

/-- The amount of a record, when an epoch has recycled it. -/
def drawnBy (epoch : Int) (record : RecyclableRecord) : Int :=
  if record.epochRecycled = some epoch then record.amount else 0

/-- A change of records keeps their amounts, and what an epoch has recycled. -/
structure Advances (change : RecyclableRecord → RecyclableRecord) : Prop where
  amount : ∀ record, (change record).amount = record.amount
  recycled : ∀ record, Unspent record → ∀ epoch, record.epochRecycled = some epoch →
    (change record).epochRecycled = some epoch
  unspent : ∀ record, Unspent record → Unspent (change record)

theorem advances_recycle (engine : RecyclingEngine) (epoch : Int) :
    Advances (engine.recycle epoch) := by
  constructor
  · intro record
    unfold recycle
    split_ifs <;> rfl
  · intro record hunspent e he
    unfold recycle
    split_ifs with heligible
    · rw [hunspent heligible.1] at he
      cases he
    · exact he
  · intro record hunspent
    unfold recycle
    split_ifs with heligible
    · exact nofun
    · exact hunspent

theorem advances_expire (engine : RecyclingEngine) (epoch : Int) :
    Advances (engine.expire epoch) := by
  constructor
  · intro record
    unfold expire
    split_ifs <;> rfl
  · intro record hunspent e he
    unfold expire
    split_ifs
    · exact he
    · exact he
  · intro record hunspent
    unfold expire
    split_ifs
    · exact nofun
    · exact hunspent

def drawn (records : List RecyclableRecord) (epoch : Int) : Int :=
  (records.map (drawnBy epoch)).sum

theorem Advances.drawn_le (h : Advances change) (hunspent : ∀ record ∈ records, Unspent record)
    (hnonneg : ∀ record ∈ records, 0 ≤ record.amount) (epoch : Int) :
    drawn records epoch ≤ drawn (records.map change) epoch := by
  unfold drawn
  rw [map_map]
  apply List.sum_le_sum
  intro record hrecord
  simp only [Function.comp, drawnBy, h.amount]
  split_ifs with hold hnew
  · exact le_refl _
  · exact absurd (h.recycled record (hunspent record hrecord) epoch hold) hnew
  · exact hnonneg record hrecord
  · exact le_refl _

/-- Different epochs draw at most what there is. -/
theorem sum_drawn_le {epochs : List Int} (hepochs : epochs.Nodup)
    (hnonneg : ∀ record ∈ records, 0 ≤ record.amount) :
    (epochs.map (drawn records)).sum ≤ (records.map (·.amount)).sum := by
  induction records with
  | nil =>
    apply le_of_eq
    apply List.sum_eq_zero
    intro x hx
    obtain ⟨epoch, _, rfl⟩ := mem_map.mp hx
    rfl
  | cons record records ih =>
    have hfirst : (epochs.map fun epoch => drawnBy epoch record).sum ≤ record.amount := by
      have hrecord := hnonneg record mem_cons_self
      clear ih
      induction epochs with
      | nil => simpa using hrecord
      | cons epoch epochs ihe =>
        rw [nodup_cons] at hepochs
        rw [map_cons, sum_cons]
        by_cases he : record.epochRecycled = some epoch
        · have hrest : (epochs.map fun epoch => drawnBy epoch record).sum = 0 := by
            apply List.sum_eq_zero
            intro x hx
            obtain ⟨e, hmem, rfl⟩ := mem_map.mp hx
            rw [drawnBy, if_neg]
            rw [he, Option.some.injEq]
            rintro rfl
            exact hepochs.1 hmem
          rw [hrest, drawnBy, if_pos he, add_zero]
        · rw [drawnBy, if_neg he, zero_add]
          exact ihe hepochs.2
    have hrest := ih fun record hrecord => hnonneg record (mem_cons_of_mem _ hrecord)
    have hsplit : (epochs.map (drawn (record :: records))).sum =
        (epochs.map fun epoch => drawnBy epoch record).sum + (epochs.map (drawn records)).sum := by
      rw [← sum_map_add]
      rfl
    rw [hsplit, map_cons, sum_cons]
    exact add_le_add hfirst hrest

/-! ## Steps -/

/-- What an epoch has budgeted it has recycled, and every budget adds up. -/
structure Invariant : Prop where
  nonneg : ∀ record ∈ h.engine.recycling.records, 0 ≤ record.amount
  unspent : ∀ record ∈ h.engine.recycling.records, Unspent record
  added : (h.engine.recycling.records.map (·.amount)).sum = h.added
  budgets : ∀ epoch budget, h.engine.budgets.get? epoch = some budget →
    budget.recyclableAmount ≤ drawn h.engine.recycling.records epoch
  counted : ∀ epoch positions, h.counted.get? epoch = some positions → ∀ i ∈ positions,
    ∃ record, h.engine.recycling.records[i]? = some record ∧ record.epochRecycled = some epoch
  totals : ∀ epoch record, h.engine.transitions.get? epoch = some record →
    record.budget.baseEmission = h.engine.baseEmission ∧ 0 ≤ record.budget.recyclableAmount ∧
      record.budget.totalBudget = record.budget.baseEmission + record.budget.recyclableAmount
  exact : ∀ emission ∈ h.emitted, emission.totalMinted ≤ emission.totalBudget → Exact emission

variable {h}

theorem invariant_start (baseEmission maxLag : Int) : Invariant (start baseEmission maxLag) := by
  constructor <;> simp [start]

/-- Records that advance keep what is said about records. -/
theorem Invariant.advance (hinv : Invariant h) (hchange : Advances change)
    (recycling : RecyclingEngine)
    (hrecords : recycling.records = h.engine.recycling.records.map change) :
    Invariant { h with engine := { h.engine with recycling := recycling } } := by
  constructor
  · intro record hrecord
    simp only [hrecords, mem_map] at hrecord
    obtain ⟨old, hold, rfl⟩ := hrecord
    rw [hchange.amount]
    exact hinv.nonneg old hold
  · intro record hrecord
    simp only [hrecords, mem_map] at hrecord
    obtain ⟨old, hold, rfl⟩ := hrecord
    exact hchange.unspent old (hinv.unspent old hold)
  · simp only [hrecords, map_map, Function.comp_def, hchange.amount]
    exact hinv.added
  · intro epoch budget hbudget
    simp only [hrecords]
    exact (hinv.budgets epoch budget hbudget).trans
      (hchange.drawn_le hinv.unspent hinv.nonneg epoch)
  · intro epoch positions hpositions i hi
    obtain ⟨record, hrecord, hepoch⟩ := hinv.counted epoch positions hpositions i hi
    refine ⟨change record, ?_, ?_⟩
    · simp [hrecords, hrecord]
    · have hmem := mem_of_getElem? hrecord
      exact hchange.recycled record (hinv.unspent record hmem) epoch hepoch
  · exact hinv.totals
  · exact hinv.exact

/-- The total of what was recycled is what the epoch has drawn, when no other epoch has recycled. -/
theorem getTotalRecycled_le_drawn (hnonneg : ∀ record ∈ engine.records, 0 ≤ record.amount)
    (hepoch : ∀ record ∈ engine.records, record.status = .recycled → record.epochRecycled =
      some epoch) :
    engine.getTotalRecycled ≤ drawn engine.records epoch := by
  unfold getTotalRecycled drawn
  revert hnonneg hepoch
  induction engine.records with
  | nil => simp
  | cons record records ih =>
    intro hnonneg hepoch
    have hrest := ih (fun r hr => hnonneg r (mem_cons_of_mem _ hr))
      fun r hr => hepoch r (mem_cons_of_mem _ hr)
    rw [map_cons, sum_cons]
    by_cases hrecycled : record.status = .recycled
    · rw [filter_cons_of_pos (by simpa using hrecycled), map_cons, sum_cons, drawnBy,
        if_pos (hepoch record mem_cons_self hrecycled)]
      omega
    · rw [filter_cons_of_neg (by simpa using hrecycled)]
      have hfirst : 0 ≤ drawnBy epoch record := by
        unfold drawnBy
        split_ifs
        · exact hnonneg record mem_cons_self
        · exact le_refl 0
      omega

theorem getTotalRecycled_nonneg (hnonneg : ∀ record ∈ engine.records, 0 ≤ record.amount) :
    0 ≤ engine.getTotalRecycled := by
  apply List.sum_nonneg
  intro x hx
  obtain ⟨record, hrecord, rfl⟩ := mem_map.mp hx
  exact hnonneg record (mem_of_mem_filter hrecord)

theorem Invariant.addSource (hinv : Invariant h) (source : RecyclingSource) {amount : Int}
    (epoch : Int) (hamount : 0 ≤ amount) : Invariant { h with
      engine := { h.engine with recycling := (h.engine.recycling.addSource source amount epoch).2 }
      added := h.added + amount } := by
  constructor
  · intro record hrecord
    simp only [RecyclingEngine.addSource, mem_append, mem_singleton] at hrecord
    rcases hrecord with hrecord | rfl
    · exact hinv.nonneg record hrecord
    · exact hamount
  · intro record hrecord
    simp only [RecyclingEngine.addSource, mem_append, mem_singleton] at hrecord
    rcases hrecord with hrecord | rfl
    · exact hinv.unspent record hrecord
    · exact fun _ => rfl
  · simp [RecyclingEngine.addSource, hinv.added]
  · intro e budget hbudget
    have hold := hinv.budgets e budget hbudget
    simpa [RecyclingEngine.addSource, drawn, drawnBy] using hold
  · intro e positions hpositions i hi
    obtain ⟨record, hrecord, hepoch⟩ := hinv.counted e positions hpositions i hi
    have hlt := (List.getElem?_eq_some_iff.mp hrecord).1
    refine ⟨record, ?_, hepoch⟩
    rw [RecyclingEngine.addSource, getElem?_append_left hlt, hrecord]
  · exact hinv.totals
  · exact hinv.exact

theorem Invariant.beginTransition (hinv : Invariant h) (epoch : Int) :
    Invariant { h with engine := (h.engine.beginTransition epoch).2 } where
  nonneg := hinv.nonneg
  unspent := hinv.unspent
  added := hinv.added
  budgets := hinv.budgets
  counted := hinv.counted
  exact := hinv.exact
  totals := by
    intro e record hrecord
    simp only [EpochTransitionEngine.beginTransition, Dict.get?_set] at hrecord
    split_ifs at hrecord with he
    · cases hrecord
      exact ⟨rfl, le_refl 0, (add_zero _).symm⟩
    · exact hinv.totals e record hrecord

variable [ServicePoolManager]

/-- Whether or not the pools raise, eligible records are recycled; a budget takes in all of them. -/
theorem calculateBudget_cases (engine : EpochTransitionEngine) (epoch : Int) :
    let recycled := (engine.recycling.recycleEligible epoch).2
    (∃ e, engine.calculateBudget epoch = (.error e, { engine with recycling := recycled })) ∨
      ∃ budget transitions, engine.calculateBudget epoch =
          (.ok budget, { engine with
            recycling := recycled
            budgets := engine.budgets.set epoch budget
            transitions := transitions }) ∧
        budget.recyclableAmount = recycled.getTotalRecycled ∧
        ∀ e record, transitions.get? e = some record → engine.transitions.get? e = some record ∨
          ∃ old, engine.transitions.get? e = some old ∧
            record = engine.withBudget recycled.getTotalRecycled old := by
  unfold EpochTransitionEngine.calculateBudget allocateBudget
  cases hpools : ServicePoolManager.allocate (engine.baseEmission +
      (engine.recycling.recycleEligible epoch).2.getTotalRecycled) with
  | error e =>
    left
    simp only [hpools]
    exact ⟨e, rfl⟩
  | ok pools =>
    right
    simp only [hpools]
    refine ⟨_, _, rfl, rfl, ?_⟩
    intro e record hrecord
    cases htransition : engine.transitions.get? epoch with
    | none =>
      simp only [htransition] at hrecord
      exact .inl hrecord
    | some old =>
      simp only [htransition, Dict.get?_set] at hrecord
      split_ifs at hrecord with he
      · subst he
        cases hrecord
        exact .inr ⟨old, htransition, rfl⟩
      · exact .inl hrecord

theorem Invariant.calculateBudget (hinv : Invariant h)
    (hepoch : Sparing h (.calculateBudget epoch)) :
    Invariant (h.step (.calculateBudget epoch)) := by
  have hadvanced := hinv.advance (advances_recycle h.engine.recycling epoch)
    (h.engine.recycling.recycleEligible epoch).2 rfl
  have hrecycled : ∀ record ∈ (h.engine.recycling.recycleEligible epoch).2.records,
      record.status = .recycled → record.epochRecycled = some epoch := by
    intro record hrecord hstatus
    obtain ⟨old, hold, rfl⟩ := mem_map.mp hrecord
    unfold recycle at hstatus ⊢
    split_ifs at hstatus ⊢
    · rfl
    · exact hepoch old hold hstatus
  have hcases := calculateBudget_cases h.engine epoch
  simp only at hcases
  obtain ⟨e, heq⟩ | ⟨budget, transitions, heq, hbudget, htransitions⟩ := hcases
  · simp only [BudgetHistory.step, heq]
    exact hadvanced
  · simp only [BudgetHistory.step, heq]
    constructor
    · exact hadvanced.nonneg
    · exact hadvanced.unspent
    · exact hadvanced.added
    · intro e b hb
      simp only [Dict.get?_set] at hb
      split_ifs at hb with he
      · cases hb
        rw [hbudget, he]
        exact getTotalRecycled_le_drawn hadvanced.nonneg hrecycled
      · exact hadvanced.budgets e b hb
    · intro e positions hpositions i hi
      simp only [Dict.get?_set] at hpositions
      split_ifs at hpositions with he
      · cases hpositions
        obtain ⟨hlt, hstatus⟩ := mem_findIdxs_iff_exists_getElem_pos.mp hi
        refine ⟨_, getElem?_eq_getElem hlt, ?_⟩
        rw [he]
        exact hrecycled _ (getElem_mem hlt) (by simpa using hstatus)
      · exact hadvanced.counted e positions hpositions i hi
    · intro e record hrecord
      obtain hold | ⟨old, hold, rfl⟩ := htransitions e record hrecord
      · exact hinv.totals e record hold
      · obtain ⟨hbase, -, -⟩ := hinv.totals e old hold
        refine ⟨hbase, getTotalRecycled_nonneg hadvanced.nonneg, ?_⟩
        simp only [EpochTransitionEngine.withBudget, hbase]
    · exact hinv.exact

theorem Invariant.recordEmission (hinv : Invariant h)
    (hsplits : Sparing h (.recordEmission epoch consensus registry validation faucet totalMinted)) :
    Invariant
      (h.step (.recordEmission epoch consensus registry validation faucet totalMinted)) := by
  simp only [BudgetHistory.step, EpochTransitionEngine.recordEmission]
  cases htransition : h.engine.transitions.get? epoch with
  | none => exact hinv
  | some record =>
    obtain ⟨hbase, hnonneg, htotal⟩ := hinv.totals epoch record htransition
    refine ⟨hinv.nonneg, hinv.unspent, hinv.added, hinv.budgets, hinv.counted, ?_, ?_⟩
    · intro e t ht
      simp only [Dict.get?_set] at ht
      split_ifs at ht
      · cases ht
        exact ⟨hbase, hnonneg, htotal⟩
      · exact hinv.totals e t ht
    · intro emission hemission hle
      rw [mem_append, mem_singleton] at hemission
      rcases hemission with hemission | rfl
      · exact hinv.exact emission hemission hle
      · exact (exact_emissionOf_iff htotal hnonneg hle).mpr (hsplits record htransition hle)

theorem Invariant.step (hinv : Invariant h) {call : BudgetCall} (hsparing : Sparing h call) :
    Invariant (h.step call) := by
  cases call with
  | addSource source amount epoch => exact hinv.addSource source epoch hsparing
  | expireOverdue epoch =>
    exact hinv.advance (advances_expire h.engine.recycling epoch)
      (h.engine.recycling.expireOverdue epoch).2 rfl
  | beginTransition epoch => exact hinv.beginTransition epoch
  | calculateBudget epoch => exact hinv.calculateBudget hsparing
  | recordEmission epoch consensus registry validation faucet totalMinted =>
    exact hinv.recordEmission hsparing

omit [ServicePoolManager] in
theorem Invariant.entersOnce (hinv : Invariant h) : EntersOnce h where
  drawn := by
    have hle : h.engine.budgets.sum (fun _ budget => budget.recyclableAmount) ≤
        h.engine.budgets.sum fun epoch _ => drawn h.engine.recycling.records epoch :=
      Dict.sum_le_sum hinv.budgets
    have hkeys : h.engine.budgets.sum (fun epoch _ => drawn h.engine.recycling.records epoch) =
        (h.engine.budgets.keys.map (drawn h.engine.recycling.records)).sum := by
      rw [Dict.sum, Dict.keys, map_map]
      rfl
    rw [← hinv.added]
    exact hle.trans (hkeys.trans_le (sum_drawn_le h.engine.budgets.nodup hinv.nonneg))
  counted := by
    intro epoch positions epoch' positions' i hpositions hpositions' hi hi'
    obtain ⟨record, hrecord, hepoch⟩ := hinv.counted epoch positions hpositions i hi
    obtain ⟨record', hrecord', hepoch'⟩ := hinv.counted epoch' positions' hpositions' i hi'
    rw [hrecord, Option.some.injEq] at hrecord'
    subst hrecord'
    rw [hepoch, Option.some.injEq] at hepoch'
    exact hepoch'
  exact := hinv.exact

/-- Recycled amounts enter one budget once in a run of sparing calls. -/
theorem enters_once_sparing {baseEmission maxLag : Int} {calls : List BudgetCall}
    (hsparing : Careful step Sparing (start baseEmission maxLag) calls) :
    EntersOnce (run step (start baseEmission maxLag) calls) := by
  apply Invariant.entersOnce
  exact run_keeps (I := Invariant) (fun h call hinv hcall => hinv.step hcall)
    (invariant_start baseEmission maxLag) hsparing

omit [ServicePoolManager]

/-- The default shares in exact arithmetic. -/
@[reducible] def exactPools : ServicePoolManager where
  allocate total :=
    let contribution := total * 60 / 100
    let service := total * 12 / 100
    .ok {
      contributionPool := contribution
      consensusPool := service
      registryPool := service
      validationPool := service
      faucetPool := total - contribution - service - service - service }

/-- An epoch that recycles what was added and mints all of its budget. -/
theorem enters_once_one_epoch : letI := exactPools
    EntersOnce (run step (start 5000000000 3) [.beginTransition 1, .addSource .networkFee 10 1,
      .calculateBudget 1, .calculateBudget 1, .expireOverdue 9,
      .recordEmission 1 600000001 600000001 600000001 200000001 5000000010]) := by
  apply @enters_once_sparing exactPools
  decide +kernel

/-- What the first epoch has recycled is in the budget of the second one too; and one atom minted of
the base emission leaves unused parts of nearly twice the budget. -/
theorem enters_twice : letI := exactPools
    ¬ EntersOnce (run step (start 5000000000 3)
        [.addSource .networkFee 10 1, .calculateBudget 1, .calculateBudget 2]) ∧
      ¬ EntersOnce (run step (start 5000000000 3)
        [.beginTransition 1, .recordEmission 1 1 0 0 0 1]) := by
  refine ⟨fun h => absurd h.drawn ?_, fun h => absurd h.exact ?_⟩
  · decide +kernel
  · unfold Exact
    decide +kernel

end BudgetHistory

end AidnSpec.EpochReward
