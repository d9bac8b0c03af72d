import AidnSpec.Settlement.Evaluation

/-!
# The settlement law of a request

What the amounts of a record add up to, when a record is disputed, and that a capped charge does not
fall when integer usage rises.
-/

namespace AidnSpec.Settlement

open Base Ledger Nat

/-- The usage chain is refused before a component is charged. -/
def RequestSettlementInput.refused (request : RequestSettlementInput) : Bool :=
  request.usageChainConflicted ||
    (!request.usageChainValid && request.finalUsageReportHash.isSome)

/-- What holds of the record of a request. -/
structure SettlesRequest (request : RequestSettlementInput) (terms : SettlementAccountingTerms)
    (record : RequestSettlementRecord) : Prop where
  adjusted : record.cappedRequestCharge + record.endpointAbsorbedAmount =
    record.policyAdjustedCharge
  within : record.cappedRequestCharge + record.disputedAmount ≤ request.requestChargeCeiling
  disputed : record.disputed = true ↔ request.refused = true ∨ 0 < record.disputedAmount ∨
    (∃ c ∈ record.billableComponents, c.disputed = true) ∨
    (terminalPolicy request terms).mode = .disputeReview

variable {request : RequestSettlementInput} {terms : SettlementAccountingTerms} {hash : String}
  {record : RequestSettlementRecord} {tally tally' : Tally}
  {components : List SettlementChargeComponent} {component : SettlementChargeComponent}

theorem evaluateRequest_cases (h : evaluateRequest request terms hash = .ok record) :
    (request.refused = true ∧ ∃ limitation, record = disputedRecord request limitation) ∨
    (request.refused = false ∧ ∃ tally, terms.components.foldlM (Tally.add request.dimensions)
      { limitations := request.limitations } = .ok tally ∧
        record = chargedRecord request terms hash tally) := by
  simp only [evaluateRequest, bind_eq_ok, ensure_eq_ok, exists_unit] at h
  obtain ⟨-, h⟩ := h
  unfold RequestSettlementInput.refused
  split_ifs at h with hconflicted hinvalid
  · cases h
    exact .inl ⟨by simp [hconflicted], _, rfl⟩
  · cases h
    exact .inl ⟨by simp [hinvalid], _, rfl⟩
  · obtain ⟨tally, htally, h⟩ := bind_eq_ok.mp h
    cases h
    exact .inr ⟨by simp [hconflicted, hinvalid], tally, htally, rfl⟩

/-! ## Disputes -/

/-- The loop is disputed when one of its results is. -/
theorem disputed_of_tally {dimensions : List UsageDimensionEvidence}
    (htally : tally.disputed = tally.results.any (·.disputed))
    (h : components.foldlM (Tally.add dimensions) tally = .ok tally') :
    tally'.disputed = tally'.results.any (·.disputed) := by
  induction components generalizing tally with
  | nil =>
    cases h
    exact htally
  | cons component components ih =>
    rw [List.foldlM_cons] at h
    obtain ⟨next, hnext, h⟩ := bind_eq_ok.mp h
    refine ih ?_ h
    unfold Tally.add at hnext
    split at hnext
    · cases hnext
      simp [htally]
    · obtain ⟨c, -, hnext⟩ := bind_eq_ok.mp hnext
      cases hnext
      simp [htally]

theorem applyTerminalPolicy_disputed (rawCharge : ℕ) (policy : TerminalChargePolicy) :
    (applyTerminalPolicy rawCharge policy).2 = true ↔ policy.mode = .disputeReview := by
  unfold applyTerminalPolicy
  cases policy.mode <;> simp

theorem settlesRequest_of_evaluateRequest (h : evaluateRequest request terms hash = .ok record) :
    SettlesRequest request terms record := by
  obtain ⟨hrefused, limitation, rfl⟩ | ⟨hrefused, tally, htally, rfl⟩ := evaluateRequest_cases h
  · exact ⟨rfl, (zero_add _).le, by simp [hrefused, disputedRecord]⟩
  · have hany := disputed_of_tally rfl htally
    have hpolicy := applyTerminalPolicy_disputed tally.rawCharge (terminalPolicy request terms)
    constructor
    · simp only [chargedRecord]
      omega
    · simp only [chargedRecord]
      split_ifs <;> omega
    · simp only [chargedRecord, hrefused, ← hpolicy, Bool.or_eq_true, hany, List.any_eq_true]
      split_ifs <;> simp_all

/-! ## Usage that rises -/

/-- The evidence is the same, or it gives a greater integer. -/
def Raised (d d' : UsageDimensionEvidence) : Prop :=
  ∃ v, d' = { d with value := v } ∧
    (v = d.value ∨ ∃ m n : Int, d.value = .int m ∧ v = .int n ∧ m ≤ n)

/-- The second charge is not below the first. -/
def Rises (x y : Except EngineError ComponentCharge) : Prop :=
  ∀ c c', x = .ok c → y = .ok c' → c.charge ≤ c'.charge

theorem rises_self (x : Except EngineError ComponentCharge) : Rises x x := by
  rintro c c' rfl hc
  cases hc
  exact le_refl _

variable {dimensionId : String} {scale k k' : ℕ} {rounding : Rounding} {n n' : Int}

/-- The integer of a dimension, and none but zero is negative. -/
theorem scaledIntegerValue_int
    (h : scaledIntegerValue (.int n) dimensionId scale rounding = .ok k) :
    k = contextRound (n.natAbs * scale) ∧ (n < 0 → k = 0) := by
  rw [scaledIntegerValue] at h
  split at h
  · cases h
  unfold scaleDecimal at h
  split at h
  · cases h
  next scaled hmul =>
  split at h
  · cases h
  next hnegative =>
  have hsign := Decimal.negative_of_mul hmul
  cases h
  constructor
  · rw [Decimal.toIntegral_mul_ofInt hmul, Int.natAbs_natCast]
  · intro hn
    have hzero : scaled.coefficient = 0 := by
      by_contra hne
      simp [Decimal.isNegative, hsign, Decimal.ofInt, hn, hne] at hnegative
    exact Decimal.toIntegral_of_zero hzero rounding

theorem scaledIntegerValue_mono (hle : n ≤ n')
    (h : scaledIntegerValue (.int n) dimensionId scale rounding = .ok k)
    (h' : scaledIntegerValue (.int n') dimensionId scale rounding = .ok k') : k ≤ k' := by
  obtain ⟨hk, hzero⟩ := scaledIntegerValue_int h
  obtain ⟨hk', -⟩ := scaledIntegerValue_int h'
  by_cases hn : n < 0
  · rw [hzero hn]
    exact zero_le _
  · rw [hk, hk']
    exact contextRound_mono (mul_le_mul_right _ (by omega))

theorem rises_meteredCharge {v v' : AccountingValue} (limitation : Option String)
    (h : v' = v ∨ ∃ m n : Int, v = .int m ∧ v' = .int n ∧ m ≤ n) :
    Rises (meteredCharge component v dimensionId limitation)
      (meteredCharge component v' dimensionId limitation) := by
  rcases h with rfl | ⟨m, n, rfl, rfl, hle⟩
  · exact rises_self _
  · intro c c' hc hc'
    obtain ⟨k, hk, hc⟩ := bind_eq_ok.mp hc
    obtain ⟨k', hk', hc'⟩ := bind_eq_ok.mp hc'
    cases hc
    cases hc'
    exact roundRatio_mono _ (mul_le_mul_right _ (scaledIntegerValue_mono hle hk hk'))

section Dimensions

variable {dimensions dimensions' : List UsageDimensionEvidence}
  (h : List.Forall₂ Raised dimensions dimensions')

include h

theorem findDimension_raised (i : Option String) :
    Option.Rel Raised (findDimension dimensions i) (findDimension dimensions' i) := by
  cases i with
  | none => exact .none
  | some i =>
    show Option.Rel Raised (dimensions.find? (·.dimensionId == i)) (dimensions'.find? _)
    induction h with
    | nil => exact .none
    | @cons d d' _ _ hd _ ih =>
      have hid : d'.dimensionId = d.dimensionId := by
        obtain ⟨v, rfl, -⟩ := hd
        rfl
      by_cases hfound : (d.dimensionId == i) = true
      · simp only [List.find?_cons, hid, hfound]
        exact .some hd
      · simp only [List.find?_cons, hid, hfound]
        exact ih

theorem rises_fallbackComponent (reason : String) :
    Rises (fallbackComponent component dimensions reason)
      (fallbackComponent component dimensions' reason) := by
  unfold fallbackComponent
  cases component.unavailableValuePolicy with
  | observableFallback =>
    have hrel := findDimension_raised h component.fallbackDimensionId
    unfold observableFallback
    generalize findDimension dimensions component.fallbackDimensionId = x at hrel ⊢
    generalize findDimension dimensions' component.fallbackDimensionId = y at hrel ⊢
    cases hrel with
    | none => exact rises_self _
    | some hd =>
      obtain ⟨v, rfl, hv⟩ := hd
      simp only [Option.filter]
      split_ifs
      · exact rises_meteredCharge _ hv
      · exact rises_self _
  | _ => exact rises_self _

theorem rises_evaluateComponent (dimensionId : String) :
    Rises (evaluateComponent component dimensionId dimensions)
      (evaluateComponent component dimensionId dimensions') := by
  have hrel := findDimension_raised h (some dimensionId)
  unfold evaluateComponent
  generalize findDimension dimensions (some dimensionId) = x at hrel ⊢
  generalize findDimension dimensions' (some dimensionId) = y at hrel ⊢
  cases hrel with
  | none => exact rises_fallbackComponent h _
  | some hd =>
    obtain ⟨v, rfl, hv⟩ := hd
    dsimp only
    split_ifs
    · exact rises_fallbackComponent h _
    · exact rises_self _
    · exact rises_fallbackComponent h _
    · exact rises_fallbackComponent h _
    · exact rises_meteredCharge _ hv

theorem rawCharge_mono {out out' : Tally} (hle : tally.rawCharge ≤ tally'.rawCharge)
    (hout : components.foldlM (Tally.add dimensions) tally = .ok out)
    (hout' : components.foldlM (Tally.add dimensions') tally' = .ok out') :
    out.rawCharge ≤ out'.rawCharge := by
  induction components generalizing tally tally' with
  | nil =>
    cases hout
    cases hout'
    exact hle
  | cons component components ih =>
    rw [List.foldlM_cons] at hout hout'
    obtain ⟨next, hnext, hout⟩ := bind_eq_ok.mp hout
    obtain ⟨next', hnext', hout'⟩ := bind_eq_ok.mp hout'
    refine ih ?_ hout hout'
    unfold Tally.add at hnext hnext'
    cases hid : component.dimensionId with
    | none =>
      rw [hid] at hnext hnext'
      cases hnext
      cases hnext'
      exact Nat.add_le_add_right hle _
    | some dimensionId =>
      rw [hid] at hnext hnext'
      obtain ⟨c, hc, hnext⟩ := bind_eq_ok.mp hnext
      obtain ⟨c', hc', hnext'⟩ := bind_eq_ok.mp hnext'
      cases hnext
      cases hnext'
      exact Nat.add_le_add hle (rises_evaluateComponent h dimensionId c c' hc hc')

end Dimensions

theorem applyTerminalPolicy_mono {r r' : ℕ} (hle : r ≤ r') (policy : TerminalChargePolicy) :
    (applyTerminalPolicy r policy).1 ≤ (applyTerminalPolicy r' policy).1 ∧
      (applyTerminalPolicy r policy).2 = (applyTerminalPolicy r' policy).2 := by
  unfold applyTerminalPolicy
  cases policy.mode with
  | proportionalBps => exact ⟨roundRatio_mono _ (mul_le_mul_right _ hle), rfl⟩
  | _ => exact ⟨by first | exact hle | exact le_refl _, rfl⟩

def RequestSettlementInput.withDimensions (request : RequestSettlementInput)
    (dimensions : List UsageDimensionEvidence)
    (nodup : (dimensions.map (·.dimensionId)).Nodup) : RequestSettlementInput :=
  { request with dimensions := dimensions, dimensions_nodup := nodup }

theorem capped_mono {dimensions : List UsageDimensionEvidence}
    {nodup : (dimensions.map (·.dimensionId)).Nodup} {record' : RequestSettlementRecord}
    (hraised : List.Forall₂ Raised request.dimensions dimensions)
    (h : evaluateRequest request terms hash = .ok record)
    (h' : evaluateRequest (request.withDimensions dimensions nodup) terms hash = .ok record') :
    record.cappedRequestCharge ≤ record'.cappedRequestCharge := by
  obtain ⟨-, _, rfl⟩ | ⟨hrefused, tally, htally, rfl⟩ := evaluateRequest_cases h
  · exact zero_le _
  obtain ⟨hrefused', -⟩ | ⟨-, tally', htally', rfl⟩ := evaluateRequest_cases h'
  · cases hrefused.symm.trans hrefused'
  have hraw : tally.rawCharge ≤ tally'.rawCharge :=
    rawCharge_mono hraised (le_refl _) htally htally'
  obtain ⟨hadjusted, hpolicy⟩ := applyTerminalPolicy_mono hraw (terminalPolicy request terms)
  have hsame : terminalPolicy (request.withDimensions dimensions nodup) terms =
      terminalPolicy request terms := rfl
  simp only [chargedRecord, hsame, ← hpolicy]
  refine min_le_min_right _ ?_
  split_ifs with hmin hmin'
  · omega
  · exact absurd ⟨hmin.1, by omega, hmin.2.2⟩ hmin'
  · omega
  · omega

/-! ## The law -/

/-- What the settlement of requests keeps to. -/
structure SettlementLaw : Prop where
  settles : ∀ {request terms hash record}, evaluateRequest request terms hash = .ok record →
    SettlesRequest request terms record
  monotone : ∀ {request : RequestSettlementInput} {terms hash dimensions nodup record record'},
    List.Forall₂ Raised request.dimensions dimensions →
    evaluateRequest request terms hash = .ok record →
    evaluateRequest (request.withDimensions dimensions nodup) terms hash = .ok record' →
    record.cappedRequestCharge ≤ record'.cappedRequestCharge
  effectiveTerms : ∀ {a evidence e}, evaluateSession a evidence = .ok e →
    ∀ record ∈ e.inputSet.requestSettlementRecords, ∃ request ∈ evidence.requestInputs,
      evaluateInput a evidence request = .ok record ∧
        (request.refused = false ∨ request.effectiveTermsHash.isSome = true →
          record.effectiveTermsHash = some evidence.effectiveTermsHash)

/-- Requests settle by the law. -/
theorem requests_settle_by_law : SettlementLaw where
  settles := settlesRequest_of_evaluateRequest
  monotone := capped_mono
  effectiveTerms := by
    intro a evidence e h record hrecord
    simp only [evaluateSession, checks_eq_ok, exists_unit] at h
    obtain ⟨-, -, records, hrecords, inputSet, hset, split, -, proposal, -, transition, -, rfl⟩ := h
    unfold declareInputSet at hset
    split_ifs at hset with hnodup hempty
    cases hset
    obtain ⟨request, hrequest, hinput⟩ := exists_of_mem_mapM hrecords hrecord
    refine ⟨request, hrequest, hinput, fun hbound => ?_⟩
    simp only [evaluateInput, bind_eq_ok, ensure_eq_ok, exists_unit] at hinput
    obtain ⟨-, hown, hinput⟩ := hinput
    split at hinput
    · cases hinput
    · obtain ⟨hrefused, limitation, rfl⟩ | ⟨-, tally, -, rfl⟩ := evaluateRequest_cases hinput
      · -- the record of a refused chain carries the hash that the request brings
        rcases hbound with haccepted | hsome
        · cases haccepted.symm.trans hrefused
        · obtain ⟨own, hhash⟩ := Option.isSome_iff_exists.mp hsome
          rw [hhash, Option.all_some, beq_iff_eq] at hown
          exact hhash.trans (congrArg some hown)
      · simp only [List.any_cons, Bool.or_eq_true, not_or] at hempty
        simp [chargedRecord, hempty.2.2.1]

/-- A refused chain is disputed also when the ceiling leaves no amount for the dispute, and no
component or policy is. -/
theorem refused_without_amount : ∃ request terms record,
    evaluateRequest request terms "t" = .ok record ∧
      ¬ (record.disputed = true ↔ 0 < record.disputedAmount ∨
        (∃ c ∈ record.billableComponents, c.disputed = true) ∨
        (terminalPolicy request terms).mode = .disputeReview) :=
  ⟨{ sessionId := "s", requestId := "r", requestChargeCeiling := 0, accountingContractHash := "c",
     terminalState := .completed, usageChainConflicted := true },
    { accountingContractHash := "c" }, _, rfl, by decide⟩

end AidnSpec.Settlement
