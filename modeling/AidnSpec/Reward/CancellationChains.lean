import AidnSpec.Base.HashChain
import AidnSpec.Reward.Cancellation

/-!
# Cancellation chains

A chain of cancellations takes every record from the balances that the records before it leave. What
the validation accepts are the orders of the chains, and what the construction returns continues a
chain.
-/

namespace AidnSpec.Reward

open Base Ledger DevelopmentRewardCancellationRecord List

/-! ## What the checks of a record say -/

namespace DevelopmentRewardCancellationRecord

/-- What `validate_record` checks. -/
structure Valid (r : DevelopmentRewardCancellationRecord) : Prop where
  fields : ∀ check ∈ r.fieldChecks, check.met = true
  version : r.cancellationVersion = Reward.cancellationVersion
  operation : isBlank r.cancellationOperationId = false
  amount : r.cancelledQAtoms = r.cancelledUnpaidMaturityStageOneQAtoms +
    r.cancelledUnpaidMaturityStageTwoQAtoms + r.cancelledUnclaimedQAtoms
  returned : r.returnedToPoolQAtoms = r.cancelledQAtoms
  paid : r.paidAfterQAtoms = r.paidBeforeQAtoms
  immediate : r.unpaidImmediateAfterQAtoms = r.unpaidImmediateBeforeQAtoms
  stageOne : r.unpaidMaturityStageOneAfterQAtoms =
    r.unpaidMaturityStageOneBeforeQAtoms - r.cancelledUnpaidMaturityStageOneQAtoms
  stageTwo : r.unpaidMaturityStageTwoAfterQAtoms =
    r.unpaidMaturityStageTwoBeforeQAtoms - r.cancelledUnpaidMaturityStageTwoQAtoms
  unclaimed : r.unclaimedAfterQAtoms = r.unclaimedBeforeQAtoms - r.cancelledUnclaimedQAtoms
  cancelled : r.cancelledAfterQAtoms = r.cancelledBeforeQAtoms + r.cancelledQAtoms
  liabilityBefore : r.rewardLiabilityBeforeQAtoms = r.paidBeforeQAtoms +
    r.unpaidImmediateBeforeQAtoms + r.unpaidMaturityStageOneBeforeQAtoms +
    r.unpaidMaturityStageTwoBeforeQAtoms + r.unclaimedBeforeQAtoms
  liabilityAfter : r.rewardLiabilityAfterQAtoms = r.paidAfterQAtoms +
    r.unpaidImmediateAfterQAtoms + r.unpaidMaturityStageOneAfterQAtoms +
    r.unpaidMaturityStageTwoAfterQAtoms + r.unclaimedAfterQAtoms
  liabilityDrop : r.rewardLiabilityBeforeQAtoms - r.rewardLiabilityAfterQAtoms =
    r.returnedToPoolQAtoms
  dumpable : (PyValue.dict r.identity).dumpable = true
  id : r.cancellationId = developmentHash (.dict r.identity)

variable {r : DevelopmentRewardCancellationRecord}

theorem validateRecord_eq_ok : r.validateRecord = .ok () ↔ r.Valid := by
  unfold validateRecord
  simp only [bind_eq_ok, checkFields_eq_ok, require_eq_ok, dumpHash_eq_ok, exists_unit, beq_iff_eq,
    Bool.not_eq_true']
  constructor
  · rintro ⟨h1, h2, h3, h4, h5, h6, h7, h8, h9, h10, h11, h12, h13, h14, id, ⟨hdump, rfl⟩, hid⟩
    exact ⟨h1, h2, h3, h4, h5, h6, h7, h8, h9, h10, h11, h12, h13, h14, hdump, hid⟩
  · intro h
    exact ⟨h.fields, h.version, h.operation, h.amount, h.returned, h.paid, h.immediate,
      h.stageOne, h.stageTwo, h.unclaimed, h.cancelled, h.liabilityBefore, h.liabilityAfter,
      h.liabilityDrop, _, ⟨h.dumpable, rfl⟩, h.id⟩

/-- A valid record with its own hash. -/
structure Intact (r : DevelopmentRewardCancellationRecord) : Prop extends Valid r where
  payloadDumpable : (PyValue.dict r.unsignedPayload).dumpable = true
  hash : r.recordHash = developmentHash (.dict r.unsignedPayload)

theorem verifyIntegrity_eq_true : r.verifyIntegrity = .ok true ↔ r.Intact := by
  unfold verifyIntegrity
  cases hvalid : r.validateRecord with
  | error e =>
    have hinvalid : ¬ r.Valid := by
      intro h
      rw [validateRecord_eq_ok.mpr h] at hvalid
      cases hvalid
    simp only [Except.ok.injEq, Bool.false_eq_true, false_iff]
    exact fun h => hinvalid h.toValid
  | ok u =>
    have hr := validateRecord_eq_ok.mp hvalid
    simp only [bind_eq_ok, dumpHash_eq_ok, pure_eq_ok, beq_iff_eq]
    constructor
    · rintro ⟨hash, ⟨hdump, rfl⟩, hhash⟩
      exact ⟨hr, hdump, hhash⟩
    · intro h
      exact ⟨_, ⟨h.payloadDumpable, rfl⟩, h.hash⟩

/-- The bounds that the accounting uses. -/
theorem Valid.bounds (h : r.Valid) :
    0 ≤ r.cancellationEpoch ∧ 0 ≤ r.unpaidMaturityStageOneAfterQAtoms ∧
      0 ≤ r.unpaidMaturityStageTwoAfterQAtoms ∧ 0 ≤ r.unclaimedAfterQAtoms ∧
      0 ≤ r.cancelledUnpaidMaturityStageOneQAtoms ∧
      0 ≤ r.cancelledUnpaidMaturityStageTwoQAtoms ∧ 0 ≤ r.cancelledUnclaimedQAtoms ∧
      0 < r.cancelledQAtoms ∧ r.state = "CANCELLED_UNVESTED" := by
  have hfields := h.fields
  simp only [fieldChecks, mem_cons, not_mem_nil, or_false, forall_eq_or_imp, forall_eq,
    FieldCheck.met_atLeast, FieldCheck.met_nonEmpty, beq_iff_eq] at hfields
  obtain ⟨-, -, -, -, -, -, -, -, hepoch, -, -, -, -, -, hone, -, htwo, -, hunclaimed, -, -, -, -,
    hcone, hctwo, hcunclaimed, hcancelled, -, hstate, -⟩ := hfields
  exact ⟨hepoch, hone, htwo, hunclaimed, hcone, hctwo, hcunclaimed, hcancelled, hstate⟩

end DevelopmentRewardCancellationRecord

open DevelopmentRewardCancellationRecord

/-- A record names the source that it is checked against. -/
structure Sourced (source : DevelopmentRewardStateSnapshot)
    (r : DevelopmentRewardCancellationRecord) : Prop where
  snapshot : r.sourceSnapshotId = source.snapshotId
  hash : r.sourceSnapshotHash = source.snapshotHash
  evidence : r.sourceEvidenceRoot = source.sourceEvidenceRoot
  reward : r.rewardId = source.rewardId
  contribution : r.contributionId = source.contributionId

section Loops

variable {source : DevelopmentRewardStateSnapshot}
  {byId records before : List DevelopmentRewardCancellationRecord}
  {r : DevelopmentRewardCancellationRecord}

theorem checkSourced_eq_ok {u : Unit} : checkSourced source r = .ok u ↔ Sourced source r := by
  simp only [checkSourced, bind_eq_ok, require_eq_ok, exists_unit, beq_iff_eq, Bool.and_eq_true]
  constructor
  · rintro ⟨h1, h2, h3, h4, h5⟩
    exact ⟨h1, h2, h3, h4, h5⟩
  · exact fun h => ⟨h.snapshot, h.hash, h.evidence, h.reward, h.contribution⟩

theorem refuseKnown_eq_ok {u : Unit} :
    refuseKnown byId r = .ok u ↔ ∀ b ∈ byId, b.cancellationId ≠ r.cancellationId := by
  unfold refuseKnown
  cases hfind : byId.find? fun existing => existing.cancellationId == r.cancellationId with
  | none => simpa using hfind
  | some existing =>
    have hmem := mem_of_find?_eq_some hfind
    have hid : existing.cancellationId = r.cancellationId := by
      simpa using find?_some hfind
    constructor
    · intro h
      simp only [raiseValue] at h
      split_ifs at h
    · exact fun h => absurd hid (h existing hmem)

/-- The first loop keeps the records, which are intact, sourced and named apart. -/
theorem collectById_eq_ok {all : List DevelopmentRewardCancellationRecord} :
    collectById source byId records = .ok all ↔
      all = byId ++ records ∧ (∀ r ∈ records, r.Intact ∧ Sourced source r) ∧
        (records.map (·.cancellationId)).Nodup ∧
        ∀ r ∈ records, ∀ b ∈ byId, b.cancellationId ≠ r.cancellationId := by
  induction records generalizing byId with
  | nil => simp [collectById, eq_comm]
  | cons r records ih =>
    have hstep : collectById source byId (r :: records) = .ok all ↔
        r.Intact ∧ (∀ b ∈ byId, b.cancellationId ≠ r.cancellationId) ∧ Sourced source r ∧
          collectById source (byId ++ [r]) records = .ok all := by
      simp only [collectById, bind_eq_ok, require_eq_ok, exists_unit,
        refuseKnown_eq_ok, checkSourced_eq_ok]
      rw [← verifyIntegrity_eq_true]
      constructor
      · rintro ⟨intact, hintact, rfl, hrest⟩
        exact ⟨hintact, hrest⟩
      · rintro ⟨hintact, hrest⟩
        exact ⟨true, hintact, rfl, hrest⟩
    rw [hstep, ih, append_assoc, singleton_append, map_cons, nodup_cons]
    simp only [mem_cons, forall_eq_or_imp, mem_append, not_mem_nil, or_false,
      mem_map, not_exists, not_and]
    constructor
    · rintro ⟨hintact, hfresh, hsourced, rfl, hrest, hnodup, hapart⟩
      refine ⟨rfl, ⟨⟨hintact, hsourced⟩, hrest⟩, ⟨?_, hnodup⟩, hfresh, ?_⟩
      · exact fun x hx heq => hapart x hx r (.inr rfl) heq.symm
      · exact fun x hx b hb => hapart x hx b (.inl hb)
    · rintro ⟨rfl, ⟨⟨hintact, hsourced⟩, hrest⟩, ⟨hnew, hnodup⟩, hfresh, hapart⟩
      refine ⟨hintact, hfresh, hsourced, rfl, hrest, hnodup, fun x hx b hb => ?_⟩
      rcases hb with hb | rfl
      · exact hapart x hx b hb
      · exact fun heq => hnew x hx heq.symm

theorem checkLinks_concat {number : Nat} {previousId : Option String} :
    checkLinks number previousId (before ++ [r]) = .ok () ↔
      checkLinks number previousId before = .ok () ∧
        r.cancellationSequence = number + before.length ∧
        r.previousCancellationId = (before.getLast?.map (·.cancellationId)).or previousId := by
  induction before generalizing number previousId with
  | nil => simp [checkLinks, bind_eq_ok]
  | cons b before ih =>
    have hlast : ((b :: before).getLast?.map (·.cancellationId)).or previousId =
        (before.getLast?.map (·.cancellationId)).or (some b.cancellationId) := by
      cases before with
      | nil => rfl
      | cons c before => simp [getLast?_cons]
    rw [cons_append, checkLinks, checkLinks, hlast, length_cons]
    simp only [bind_eq_ok, require_eq_ok, exists_unit, ih, and_assoc]
    rw [show number + 1 + before.length = number + (before.length + 1) by omega]

theorem checkBalances_concat {expected : Buckets} :
    checkBalances source expected (before ++ [r]) = .ok () ↔
      checkBalances source expected before = .ok () ∧
        r.paidBeforeQAtoms = source.paidQAtoms ∧
        r.unpaidImmediateBeforeQAtoms = source.unpaidImmediateQAtoms ∧
        r.bucketsBefore = (before.getLast?.map (·.bucketsAfter)).getD expected := by
  induction before generalizing expected with
  | nil =>
    simp only [nil_append, checkBalances, bind_eq_ok, require_eq_ok, exists_unit, beq_iff_eq,
      and_true, getLast?_nil, Option.map_none, Option.getD_none,
      true_and, bucketsBefore]
    cases expected
    simp [Buckets.mk.injEq]
  | cons b before ih =>
    have hlast : ((b :: before).getLast?.map (·.bucketsAfter)).getD expected =
        (before.getLast?.map (·.bucketsAfter)).getD b.bucketsAfter := by
      cases before with
      | nil => rfl
      | cons c before => simp [getLast?_cons]
    rw [cons_append, checkBalances, checkBalances, hlast]
    simp only [bind_eq_ok, require_eq_ok, exists_unit, ih, and_assoc]

end Loops

/-! ## Chains -/

/-- What a source holds after a history of cancellations. -/
def DevelopmentRewardStateSnapshot.bucketsAfter (source : DevelopmentRewardStateSnapshot)
    (before : List DevelopmentRewardCancellationRecord) : Buckets :=
  ⟨source.unpaidMaturityStageOneQAtoms - stageOneCancelled before,
    source.unpaidMaturityStageTwoQAtoms - stageTwoCancelled before,
    source.unclaimedQAtoms - unclaimedCancelled before,
    source.cancelledQAtoms + totalCancelled before⟩

/-- A record that stands next in the chain of a source. -/
structure Continues (source : DevelopmentRewardStateSnapshot)
    (before : List DevelopmentRewardCancellationRecord)
    (r : DevelopmentRewardCancellationRecord) : Prop where
  intact : r.Intact
  sourced : Sourced source r
  sequence : r.cancellationSequence = before.length + 1
  previous : r.previousCancellationId = before.getLast?.map (·.cancellationId)
  paid : r.paidBeforeQAtoms = source.paidQAtoms
  immediate : r.unpaidImmediateBeforeQAtoms = source.unpaidImmediateQAtoms
  buckets : r.bucketsBefore = source.bucketsAfter before

/-- Every record continues the records before it. -/
inductive CancellationChain (source : DevelopmentRewardStateSnapshot) :
    List DevelopmentRewardCancellationRecord → Prop
  | nil : CancellationChain source []
  | concat {before : List DevelopmentRewardCancellationRecord}
      {r : DevelopmentRewardCancellationRecord} (h : CancellationChain source before)
      (hr : Continues source before r) : CancellationChain source (before ++ [r])

section Chains

variable {source : DevelopmentRewardStateSnapshot}
  {before ordered records : List DevelopmentRewardCancellationRecord}
  {r : DevelopmentRewardCancellationRecord}

/-- A record leaves what the history up to it leaves. -/
theorem Continues.bucketsAfter_eq (h : Continues source before r) :
    r.bucketsAfter = source.bucketsAfter (before ++ [r]) := by
  have hbuckets := h.buckets
  have hvalid := h.intact.toValid
  simp only [bucketsBefore, DevelopmentRewardStateSnapshot.bucketsAfter, Buckets.mk.injEq]
    at hbuckets
  simp only [bucketsAfter, DevelopmentRewardStateSnapshot.bucketsAfter, stageOneCancelled,
    stageTwoCancelled, unclaimedCancelled, totalCancelled, map_append, sum_append,
    map_singleton, sum_singleton, Buckets.mk.injEq] at hbuckets ⊢
  have h1 := hvalid.stageOne
  have h2 := hvalid.stageTwo
  have h3 := hvalid.unclaimed
  have h4 := hvalid.cancelled
  omega

namespace CancellationChain

theorem of_mem (h : CancellationChain source ordered) (hr : r ∈ ordered) :
    r.Intact ∧ Sourced source r := by
  induction h with
  | nil => cases hr
  | concat h hlast ih =>
    rcases mem_append.mp hr with hr | hr
    · exact ih hr
    · rw [mem_singleton.mp hr]
      exact ⟨hlast.intact, hlast.sourced⟩

theorem getLast?_bucketsAfter (h : CancellationChain source ordered) :
    (ordered.getLast?.map (·.bucketsAfter)).getD source.buckets = source.bucketsAfter ordered := by
  cases h with
  | nil =>
    simp [DevelopmentRewardStateSnapshot.bucketsAfter, DevelopmentRewardStateSnapshot.buckets,
      stageOneCancelled, stageTwoCancelled, unclaimedCancelled, totalCancelled]
  | concat h hlast => simpa using hlast.bucketsAfter_eq

theorem chained (h : CancellationChain source ordered) :
    Chained (·.cancellationSequence) (·.previousCancellationId) (·.cancellationId) ordered := by
  induction h with
  | nil => exact chained_nil
  | concat _ hlast ih => exact ih.append hlast.sequence hlast.previous

/-- Two passes over sourced records find a chain. -/
theorem of_checks (hrecords : ∀ r ∈ ordered, r.Intact ∧ Sourced source r) :
    checkLinks 1 none ordered = .ok () ∧
        checkBalances source source.buckets ordered = .ok () ↔
      CancellationChain source ordered := by
  induction ordered using List.reverseRecOn with
  | nil => simp [checkLinks, checkBalances, CancellationChain.nil]
  | append_singleton before r ih =>
    have hbefore := ih fun x hx => hrecords x (mem_append_left _ hx)
    have hr := hrecords r (mem_append_right _ mem_cons_self)
    rw [checkLinks_concat, checkBalances_concat, Option.or_none]
    constructor
    · rintro ⟨⟨hlinks, hsequence, hprevious⟩, hbalances, hpaid, himmediate, hbuckets⟩
      have hchain := hbefore.mp ⟨hlinks, hbalances⟩
      rw [hchain.getLast?_bucketsAfter] at hbuckets
      exact hchain.concat ⟨hr.1, hr.2, by omega, hprevious, hpaid, himmediate, hbuckets⟩
    · intro h
      generalize hall : before ++ [r] = all at h
      cases h with
      | nil => simp at hall
      | concat hchain hlast =>
        obtain ⟨rfl, hsame⟩ := append_inj' hall rfl
        obtain rfl := singleton_injective hsame
        have hchecks := hbefore.mpr hchain
        have hsequence := hlast.sequence
        rw [hchain.getLast?_bucketsAfter]
        exact ⟨⟨hchecks.1, by omega, hlast.previous⟩, hchecks.2, hlast.paid, hlast.immediate,
          hlast.buckets⟩

/-- The part of a chain before a record is a chain that the record continues. -/
theorem continues (h : CancellationChain source ordered)
    {after : List DevelopmentRewardCancellationRecord} (hsplit : ordered = before ++ r :: after) :
    CancellationChain source before ∧ Continues source before r := by
  induction h generalizing after with
  | nil => simp at hsplit
  | @concat init last hchain hlast ih =>
    rcases eq_nil_or_concat after with rfl | ⟨middle, x, rfl⟩
    · obtain ⟨rfl, hsame⟩ := append_inj' hsplit rfl
      obtain rfl := singleton_injective hsame
      exact ⟨hchain, hlast⟩
    · rw [concat_eq_append, ← cons_append, ← append_assoc] at hsplit
      exact ih (append_inj' hsplit rfl).1

end CancellationChain

namespace CancellationChain

/-- Identities of a chain are apart, as their numbers are. -/
theorem nodup_ids (h : CancellationChain source ordered)
    (apart : HashesApart (ordered.map fun r => .dict r.identity)) :
    (ordered.map (·.cancellationId)).Nodup := by
  rw [List.Nodup, pairwise_map]
  apply h.chained.pairwise.imp_of_mem
  intro a b ha hb hlt heq
  have hplain : ∀ r ∈ ordered, (PyValue.dict r.identity).Plain := by
    intro r hr
    apply PyValue.plain_of_flat (by simp [identity, cancellationIdentity])
    · intro member hmember
      simp only [identity, cancellationIdentity, mem_cons, not_mem_nil, or_false]
        at hmember
      rcases hmember with rfl | rfl | rfl | rfl | rfl | rfl | rfl | rfl
      any_goals simp
      cases r.previousCancellationId <;> simp [optionalText]
    · exact (h.of_mem hr).1.dumpable
  rw [(h.of_mem ha).1.id, (h.of_mem hb).1.id] at heq
  have hlookup := apart.lookup_eq (mem_map_of_mem ha) (mem_map_of_mem hb) (hplain a ha)
    (hplain b hb) heq "cancellation_sequence"
  simp only [identity, cancellationIdentity, lookup_cons, String.reduceBEq,
    Option.map_some, PyValue.sorted, Option.some.injEq, PyValue.int.injEq] at hlookup
  omega

/-- A chain never cancels more than its source holds. -/
theorem within (h : CancellationChain source ordered) (valid : source.validateSnapshot = .ok ()) :
    stageOneCancelled ordered ≤ source.unpaidMaturityStageOneQAtoms ∧
      stageTwoCancelled ordered ≤ source.unpaidMaturityStageTwoQAtoms ∧
      unclaimedCancelled ordered ≤ source.unclaimedQAtoms := by
  cases h with
  | nil => exact DevelopmentRewardStateSnapshot.buckets_nonneg valid
  | concat h hlast =>
    have hafter := hlast.bucketsAfter_eq
    obtain ⟨-, hone, htwo, hunclaimed, -⟩ := hlast.intact.toValid.bounds
    simp only [bucketsAfter,
      DevelopmentRewardStateSnapshot.bucketsAfter, Buckets.mk.injEq] at hafter
    omega

end CancellationChain

/-- The validation accepts the orders of a chain whose identities are apart, and returns the
chain. -/
theorem validateCancellationHistory_eq_ok (valid : source.validateSnapshot = .ok ()) :
    validateCancellationHistory source records = .ok ordered ↔
      records.Perm ordered ∧ (records.map (·.cancellationId)).Nodup ∧
        CancellationChain source ordered := by
  simp only [validateCancellationHistory, bind_eq_ok, collectById_eq_ok, require_eq_ok,
    exists_and_left, exists_const, pure_eq_ok, decide_eq_true_eq, nil_append]
  constructor
  · rintro ⟨byId, ⟨rfl, hrecords, hnodup, -⟩, u, hlinks, -, -, -, v, hbalances, rfl⟩
    have hperm := mergeSort_perm byId
      fun a b => decide (a.cancellationSequence ≤ b.cancellationSequence)
    refine ⟨hperm.symm, hnodup, CancellationChain.of_checks ?_ |>.mp ⟨hlinks, hbalances⟩⟩
    exact fun r hr => hrecords r (hperm.mem_iff.mp hr)
  · rintro ⟨hperm, hnodup, hchain⟩
    have hrecords : ∀ r ∈ records, r.Intact ∧ Sourced source r :=
      fun r hr => hchain.of_mem (hperm.mem_iff.mp hr)
    have hsorted := hchain.chained.mergeSort_of_perm hperm
    obtain ⟨hlinks, hbalances⟩ :=
      (CancellationChain.of_checks fun r hr => hchain.of_mem hr).mpr hchain
    obtain ⟨hone, htwo, hunclaimed⟩ := hchain.within valid
    refine ⟨records, ⟨rfl, hrecords, hnodup, by simp⟩, (), ?_⟩
    rw [hsorted]
    exact ⟨hlinks, hone, htwo, hunclaimed, (), hbalances, rfl⟩

/-! ## Construction -/

def DevelopmentRewardCancellationRecord.request (r : DevelopmentRewardCancellationRecord) :
    CancellationRequest where
  cancellationOperationId := r.cancellationOperationId
  cancellationEpoch := r.cancellationEpoch
  reason := r.reason
  stageOne := r.cancelledUnpaidMaturityStageOneQAtoms
  stageTwo := r.cancelledUnpaidMaturityStageTwoQAtoms
  unclaimed := r.cancelledUnclaimedQAtoms

variable {request : CancellationRequest} {chain : List DevelopmentRewardCancellationRecord}

/-- What is built continues the history that was validated for it. -/
theorem continues_of_build (h : buildDevelopmentRewardCancellation source request records = .ok r) :
    ∃ chain, validateCancellationHistory source records = .ok chain ∧ Continues source chain r := by
  simp only [buildDevelopmentRewardCancellation, bind_eq_ok, require_eq_ok, exists_and_left,
    exists_const, dumpHash_eq_ok, pure_eq_ok] at h
  obtain ⟨_, -, -, -, -, chain, hchain, -, -, -, -, id, -, hash, ⟨hdump, rfl⟩, u, hvalid, rfl⟩ := h
  have hr := validateRecord_eq_ok.mp hvalid
  exact ⟨chain, hchain, ⟨⟨hr, hdump, rfl⟩, ⟨rfl, rfl, rfl, rfl, rfl⟩, rfl, rfl, rfl, rfl, rfl⟩⟩

/-- A record that continues a chain has the fields that are built for its request. -/
theorem Continues.eq_payload (h : Continues source chain r) :
    r = { cancellationPayload source r.request chain r.cancellationId with
      recordHash := r.recordHash } := by
  have hvalid := h.intact.toValid
  have hbuckets := h.buckets
  obtain ⟨-, -, -, -, -, -, -, -, hstate⟩ := hvalid.bounds
  simp only [bucketsBefore, DevelopmentRewardStateSnapshot.bucketsAfter, Buckets.mk.injEq]
    at hbuckets
  obtain ⟨hone, htwo, hunclaimed, hcancelled⟩ := hbuckets
  have := hvalid.amount
  have := hvalid.returned
  have := hvalid.paid
  have := hvalid.immediate
  have := hvalid.stageOne
  have := hvalid.stageTwo
  have := hvalid.unclaimed
  have := hvalid.cancelled
  have := hvalid.liabilityBefore
  have := hvalid.liabilityAfter
  have := h.paid
  have := h.immediate
  apply DevelopmentRewardCancellationRecord.ext
  all_goals
    simp only [cancellationPayload, DevelopmentRewardCancellationRecord.request]
  any_goals omega
  · exact hvalid.version
  · exact h.sourced.snapshot
  · exact h.sourced.hash
  · exact h.sourced.evidence
  · exact h.sourced.reward
  · exact h.sourced.contribution
  · exact h.sequence
  · exact h.previous

/-- Every record that continues a validated history is built for its request. -/
theorem Continues.build (h : Continues source chain r) (intact : source.verifyIntegrity = .ok true)
    (validated : validateCancellationHistory source records = .ok chain) :
    buildDevelopmentRewardCancellation source r.request records = .ok r := by
  have hvalid := h.intact.toValid
  obtain ⟨hepoch, hone, htwo, hunclaimed, hcone, hctwo, hcunclaimed, hpositive, -⟩ := hvalid.bounds
  have hpayload := h.eq_payload
  have hidentity : (cancellationPayload source r.request chain r.cancellationId).identity =
      r.identity := (congrArg identity hpayload).symm
  have hunsigned : (cancellationPayload source r.request chain r.cancellationId).unsignedPayload =
      r.unsignedPayload := (congrArg unsignedPayload hpayload).symm
  have hbuckets := h.buckets
  simp only [bucketsBefore, DevelopmentRewardStateSnapshot.bucketsAfter, Buckets.mk.injEq]
    at hbuckets
  have hstageOne := hvalid.stageOne
  have hstageTwo := hvalid.stageTwo
  have hleft := hvalid.unclaimed
  have hamount := hvalid.amount
  have hid : developmentRewardCancellationId source.snapshotId (chain.length + 1)
      (chain.getLast?.map (·.cancellationId)) r.request.reason r.request.stageOne
      r.request.stageTwo r.request.unclaimed = .ok r.cancellationId := by
    show dumpHash (.dict
      (cancellationPayload source r.request chain r.cancellationId).identity) = _
    rw [hidentity, dumpHash_eq_ok]
    exact ⟨hvalid.dumpable, hvalid.id⟩
  simp only [buildDevelopmentRewardCancellation, bind_eq_ok, require_eq_ok, exists_and_left,
    exists_const, dumpHash_eq_ok, pure_eq_ok, Bool.and_eq_true, decide_eq_true_eq]
  have hrecord : { cancellationPayload source r.request chain r.cancellationId with
      recordHash := developmentHash (.dict r.unsignedPayload) } = r := by
    rw [← h.intact.hash]
    exact hpayload.symm
  refine ⟨true, intact, rfl, hepoch, ⟨⟨hcone, hctwo⟩, hcunclaimed⟩, chain, validated, ?_, ?_, ?_,
    ?_, r.cancellationId, hid, developmentHash (.dict r.unsignedPayload), ?_, ?_⟩
  · show r.cancelledUnpaidMaturityStageOneQAtoms ≤ _
    omega
  · show r.cancelledUnpaidMaturityStageTwoQAtoms ≤ _
    omega
  · show r.cancelledUnclaimedQAtoms ≤ _
    omega
  · show 0 < r.cancelledUnpaidMaturityStageOneQAtoms + r.cancelledUnpaidMaturityStageTwoQAtoms +
      r.cancelledUnclaimedQAtoms
    omega
  · rw [hunsigned]
    exact ⟨h.intact.payloadDumpable, rfl⟩
  · rw [hrecord]
    exact ⟨(), validateRecord_eq_ok.mpr hvalid, rfl⟩

end Chains

/-- The lists that repeated construction makes: every call is given what was built before it, in
any order. -/
inductive Built (source : DevelopmentRewardStateSnapshot) :
    List DevelopmentRewardCancellationRecord → Prop
  | nil : Built source []
  | next {built previous : List DevelopmentRewardCancellationRecord}
      {request : CancellationRequest} {r : DevelopmentRewardCancellationRecord}
      (h : Built source built) (hprevious : previous.Perm built)
      (hr : buildDevelopmentRewardCancellation source request previous = .ok r) :
      Built source (built ++ [r])

/-- What the amounts of a validated history say about its source. -/
structure Accounted (source : DevelopmentRewardStateSnapshot)
    (ordered : List DevelopmentRewardCancellationRecord) : Prop where
  stageOne : stageOneCancelled ordered ≤ source.unpaidMaturityStageOneQAtoms
  stageTwo : stageTwoCancelled ordered ≤ source.unpaidMaturityStageTwoQAtoms
  unclaimed : unclaimedCancelled ordered ≤ source.unclaimedQAtoms
  before : ∀ earlier r later, ordered = earlier ++ r :: later →
    r.bucketsBefore = source.bucketsAfter earlier
  paid : ∀ r ∈ ordered, r.paidBeforeQAtoms = source.paidQAtoms ∧
    r.paidAfterQAtoms = source.paidQAtoms
  immediate : ∀ r ∈ ordered, r.unpaidImmediateBeforeQAtoms = source.unpaidImmediateQAtoms ∧
    r.unpaidImmediateAfterQAtoms = source.unpaidImmediateQAtoms
  returned : (ordered.map (·.returnedToPoolQAtoms)).sum = source.rewardLiabilityQAtoms -
    (ordered.getLast?.map (·.rewardLiabilityAfterQAtoms)).getD source.rewardLiabilityQAtoms

section Histories

variable {source : SourceSnapshot} {ordered : List DevelopmentRewardCancellationRecord}

/-- Repeated construction makes a chain. -/
theorem Built.chain (h : Built source.1 ordered) : CancellationChain source.1 ordered := by
  induction h with
  | nil => exact .nil
  | next h hprevious hr ih =>
    obtain ⟨chain, hvalidated, hcontinues⟩ := continues_of_build hr
    obtain ⟨hperm, -, hchain⟩ := (validateCancellationHistory_eq_ok source.valid).mp hvalidated
    have hsame := hchain.chained.mergeSort_of_perm hperm
    rw [ih.chained.mergeSort_of_perm hprevious] at hsame
    exact ih.concat (hsame ▸ hcontinues)

/-- A chain whose identities are apart is made by repeated construction. -/
theorem CancellationChain.built (h : CancellationChain source.1 ordered)
    (intact : source.verifyIntegrity = .ok true)
    (nodup : (ordered.map (·.cancellationId)).Nodup) : Built source.1 ordered := by
  induction h with
  | nil => exact .nil
  | @concat before r h hlast ih =>
    rw [map_append] at nodup
    have hbefore := nodup.of_append_left
    have hvalidated := (validateCancellationHistory_eq_ok source.valid).mpr
      ⟨List.Perm.refl before, hbefore, h⟩
    exact (ih hbefore).next (List.Perm.refl before) (hlast.build intact hvalidated)

/-- What a chain returns to the pool is what the liability loses. -/
theorem CancellationChain.returned_eq (h : CancellationChain source.1 ordered) :
    (ordered.map (·.returnedToPoolQAtoms)).sum = source.rewardLiabilityQAtoms -
      (ordered.getLast?.map (·.rewardLiabilityAfterQAtoms)).getD source.rewardLiabilityQAtoms := by
  have htotal : (ordered.map (·.returnedToPoolQAtoms)).sum = stageOneCancelled ordered +
      stageTwoCancelled ordered + unclaimedCancelled ordered := by
    simp only [stageOneCancelled, stageTwoCancelled, unclaimedCancelled]
    induction h with
    | nil => rfl
    | concat h hlast ih =>
      have hreturned := hlast.intact.returned
      have hamount := hlast.intact.amount
      simp only [map_append, sum_append, map_singleton, sum_singleton, ih]
      omega
  rw [htotal, DevelopmentRewardStateSnapshot.rewardLiabilityQAtoms_eq source.valid]
  cases h with
  | nil => simp [stageOneCancelled, stageTwoCancelled, unclaimedCancelled]
  | concat h hlast =>
    have hafter := hlast.bucketsAfter_eq
    have hvalid := hlast.intact.toValid
    have hliability := hvalid.liabilityAfter
    have hpaid := hvalid.paid.trans hlast.paid
    have himmediate := hvalid.immediate.trans hlast.immediate
    simp only [bucketsAfter,
      DevelopmentRewardStateSnapshot.bucketsAfter, Buckets.mk.injEq] at hafter
    simp only [getLast?_append, getLast?_singleton, Option.some_or, Option.map_some,
      Option.getD_some]
    omega

theorem CancellationChain.accounted (h : CancellationChain source.1 ordered) :
    Accounted source.1 ordered where
  stageOne := (h.within source.valid).1
  stageTwo := (h.within source.valid).2.1
  unclaimed := (h.within source.valid).2.2
  before _ _ _ hsplit := (h.continues hsplit).2.buckets
  paid r hr := by
    obtain ⟨earlier, later, hsplit⟩ := append_of_mem hr
    have hcontinues := (h.continues hsplit).2
    exact ⟨hcontinues.paid, hcontinues.intact.paid.trans hcontinues.paid⟩
  immediate r hr := by
    obtain ⟨earlier, later, hsplit⟩ := append_of_mem hr
    have hcontinues := (h.continues hsplit).2
    exact ⟨hcontinues.immediate, hcontinues.intact.immediate.trans hcontinues.immediate⟩
  returned := h.returned_eq

/-- What repeated construction makes is accepted in any order and returned in the order of its
numbers, when SHA-256 does not confuse the identities. What is accepted is made by repeated
construction on an intact source, and its amounts are accounted for. -/
theorem cancellation_histories (source : SourceSnapshot) :
    (∀ built records, Built source.1 built →
        HashesApart (built.map fun r => .dict r.identity) → records.Perm built →
        validateCancellationHistory source.1 records = .ok built ∧
          built.map (·.cancellationSequence) = List.range' 1 built.length) ∧
      ∀ records ordered, validateCancellationHistory source.1 records = .ok ordered →
        records.Perm ordered ∧ (source.verifyIntegrity = .ok true → Built source.1 ordered) ∧
          Accounted source.1 ordered := by
  constructor
  · intro built records hbuilt apart hperm
    have hchain := hbuilt.chain
    have hnodup := (hperm.map (·.cancellationId)).nodup_iff.mpr (hchain.nodup_ids apart)
    exact ⟨(validateCancellationHistory_eq_ok source.valid).mpr ⟨hperm, hnodup, hchain⟩,
      hchain.chained.numbered⟩
  · intro records ordered hvalidated
    obtain ⟨hperm, hnodup, hchain⟩ := (validateCancellationHistory_eq_ok source.valid).mp hvalidated
    refine ⟨hperm, fun intact => ?_, hchain.accounted⟩
    exact hchain.built intact ((hperm.map (·.cancellationId)).nodup_iff.mp hnodup)

end Histories

/-! ## A sample -/

def sampleSnapshot : DevelopmentRewardStateSnapshot :=
  let root := developmentHash (.dict
    [ ("source_version", .str DevelopmentRewardStateSnapshot.version),
      ("schedule_hash", .str "schedule"), ("source_commitment_id", .str "commitment"),
      ("source_record_hashes", .list [.str "record"])])
  let snapshot : DevelopmentRewardStateSnapshot :=
    { sourceVersion := DevelopmentRewardStateSnapshot.version
      snapshotId := ""
      rewardId := "reward"
      contributionId := "contribution"
      scheduleHash := "schedule"
      sourceCommitmentId := "commitment"
      sourceRecordHashes := ["record"]
      sourceEvidenceRoot := root
      grossRewardQAtoms := 100
      authorizedMaxRewardQAtoms := 100
      paidQAtoms := 40
      unpaidImmediateQAtoms := 0
      unpaidMaturityStageOneQAtoms := 30
      unpaidMaturityStageTwoQAtoms := 30
      unclaimedQAtoms := 0
      cancelledQAtoms := 0
      snapshotHash := "" }
  let named := { snapshot with snapshotId := developmentHash (.dict snapshot.identity) }
  { named with snapshotHash := developmentHash (.dict named.unsignedPayload) }

theorem validateSnapshot_sample : sampleSnapshot.validateSnapshot = .ok () := by
  have hroot : DevelopmentRewardStateSnapshot.developmentRewardSourceEvidenceRoot
      sampleSnapshot.scheduleHash sampleSnapshot.sourceCommitmentId
      sampleSnapshot.sourceRecordHashes = .ok sampleSnapshot.sourceEvidenceRoot := by
    rw [DevelopmentRewardStateSnapshot.developmentRewardSourceEvidenceRoot,
      show sampleSnapshot.sourceRecordHashes = ["record"] from rfl, mergeSort_singleton]
    exact dumpHash_eq_ok.mpr ⟨rfl, rfl⟩
  have hid : sampleSnapshot.developmentRewardStateSnapshotId = .ok sampleSnapshot.snapshotId :=
    dumpHash_eq_ok.mpr ⟨by decide, rfl⟩
  have hfields : ∀ check ∈ sampleSnapshot.fieldChecks, check.met = true := by
    simp [DevelopmentRewardStateSnapshot.fieldChecks, sampleSnapshot, developmentHash_isEmpty]
  refine bind_eq_ok.mpr ⟨(), checkFields_eq_ok.mpr hfields, ?_⟩
  refine bind_eq_ok.mpr ⟨(), require_eq_ok.mpr (by decide), ?_⟩
  refine bind_eq_ok.mpr ⟨(), require_eq_ok.mpr (by decide), ?_⟩
  refine bind_eq_ok.mpr ⟨(), require_eq_ok.mpr (by decide), ?_⟩
  refine bind_eq_ok.mpr ⟨_, hroot, ?_⟩
  refine bind_eq_ok.mpr ⟨(), require_eq_ok.mpr (beq_self_eq_true _), ?_⟩
  refine bind_eq_ok.mpr ⟨(), require_eq_ok.mpr (by decide), ?_⟩
  refine bind_eq_ok.mpr ⟨(), require_eq_ok.mpr (by decide), ?_⟩
  refine bind_eq_ok.mpr ⟨_, hid, ?_⟩
  exact require_eq_ok.mpr (beq_self_eq_true _)

theorem verifyIntegrity_sample : sampleSnapshot.verifyIntegrity = .ok true := by
  rw [DevelopmentRewardStateSnapshot.verifyIntegrity, validateSnapshot_sample]
  exact bind_eq_ok.mpr ⟨_, dumpHash_eq_ok.mpr ⟨by decide, rfl⟩, pure_eq_ok.mpr (beq_self_eq_true _)⟩

def sampleSource : SourceSnapshot := ⟨sampleSnapshot, validateSnapshot_sample⟩

def sampleCancellation (request : CancellationRequest)
    (before : List DevelopmentRewardCancellationRecord) : DevelopmentRewardCancellationRecord :=
  let named := cancellationPayload sampleSnapshot request before
    (developmentHash (.dict (cancellationIdentity sampleSnapshot.snapshotId (before.length + 1)
      (before.getLast?.map (·.cancellationId)) request.reason request.stageOne request.stageTwo
      request.unclaimed)))
  { named with recordHash := developmentHash (.dict named.unsignedPayload) }

def firstCancellation : DevelopmentRewardCancellationRecord :=
  sampleCancellation
    { cancellationOperationId := "operation-1", cancellationEpoch := 3, reason := .ordinaryDefect
      stageOne := 10 } []

def secondCancellation : DevelopmentRewardCancellationRecord :=
  sampleCancellation
    { cancellationOperationId := "operation-2", cancellationEpoch := 4, reason := .ordinaryDefect
      stageOne := 5, stageTwo := 30 } [firstCancellation]

theorem continues_sample {request : CancellationRequest}
    {before : List DevelopmentRewardCancellationRecord}
    (valid : (sampleCancellation request before).Valid)
    (dumpable :
      (PyValue.dict (sampleCancellation request before).unsignedPayload).dumpable = true) :
    Continues sampleSnapshot before (sampleCancellation request before) :=
  ⟨⟨valid, dumpable, rfl⟩, ⟨rfl, rfl, rfl, rfl, rfl⟩, rfl, rfl, rfl, rfl, rfl⟩

theorem chain_sample :
    CancellationChain sampleSnapshot ([] ++ [firstCancellation] ++ [secondCancellation]) := by
  have hfirst : Continues sampleSnapshot [] firstCancellation := by
    refine continues_sample ⟨?_, rfl, by decide, ?_, rfl, rfl, rfl, rfl, rfl, rfl, rfl, ?_, ?_, ?_,
      ?_, rfl⟩ (by decide)
    · simp [fieldChecks, sampleCancellation, cancellationPayload, developmentHash_isEmpty,
        sampleSnapshot, stageOneCancelled, stageTwoCancelled, unclaimedCancelled, totalCancelled]
    all_goals decide
  have hsecond : Continues sampleSnapshot [firstCancellation] secondCancellation := by
    refine continues_sample ⟨?_, rfl, by decide, ?_, rfl, rfl, rfl, rfl, rfl, rfl, rfl, ?_, ?_, ?_,
      ?_, rfl⟩ (by decide)
    · simp [fieldChecks, sampleCancellation, cancellationPayload, developmentHash_isEmpty,
        sampleSnapshot, stageOneCancelled, stageTwoCancelled, unclaimedCancelled, totalCancelled,
        firstCancellation]
    all_goals decide
  exact (CancellationChain.nil.concat hfirst).concat hsecond

theorem apart_sample :
    HashesApart ([firstCancellation, secondCancellation].map fun r => .dict r.identity) := by
  simp only [List.map_cons, List.map_nil, firstCancellation, secondCancellation,
    sampleCancellation, cancellationPayload, identity, sampleSnapshot, developmentHash_eq_ordered]
  decide +kernel

/-- Two cancellations, handed over in the other order, are accepted in the order in which they were
built, and their amounts are accounted for. -/
theorem cancellation_histories_pair :
    validateCancellationHistory sampleSnapshot [secondCancellation, firstCancellation] =
        .ok [firstCancellation, secondCancellation] ∧
      Accounted sampleSnapshot [firstCancellation, secondCancellation] := by
  have hbuilt : Built sampleSnapshot [firstCancellation, secondCancellation] :=
    @CancellationChain.built sampleSource _ chain_sample verifyIntegrity_sample
      (chain_sample.nodup_ids apart_sample)
  have haccepted := (cancellation_histories sampleSource).1 _
    [secondCancellation, firstCancellation] hbuilt apart_sample (List.Perm.swap ..)
  exact ⟨haccepted.1, ((cancellation_histories sampleSource).2 _ _ haccepted.1).2.2⟩

end AidnSpec.Reward
