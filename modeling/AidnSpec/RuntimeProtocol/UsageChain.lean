import AidnSpec.Base.HashChain
import AidnSpec.Base.Runs
import AidnSpec.RuntimeProtocol.Calls

/-!
# Usage reports of a request

The reports that are stored for a request are a hash chain after any calls: only the next report of
it is taken, what is stored stays, and a report that is refused for its place in the chain leaves a
conflict.
-/

namespace AidnSpec.RuntimeProtocol

open Base

namespace RuntimeProtocolStore

variable {env : ServiceEnvironment} {s : RuntimeProtocolStore} {connectionId : String}
  {report : RuntimeUsageReport} {record : RuntimeRequestRecord} {ack : RuntimeUsageAck}
  {tables : RequestTables}

def ReportChain (reports : List RuntimeUsageReport) : Prop :=
  Chained (·.usageSequence) (·.previousUsageReportHash) (·.reportHash) reports

/-- The reports of every request are a chain, each report under its own id. -/
structure UsageInvariant (s : RuntimeProtocolStore) : Prop where
  chained : ∀ requestId, ReportChain (requestReports s.toRequestTables requestId)
  keyed : ∀ {id report}, s.usageReports.get? id = some report → report.usageReportId = id

theorem UsageInvariant.usageChain_eq (h : UsageInvariant s) (requestId : String) :
    usageChain s.toRequestTables requestId = requestReports s.toRequestTables requestId :=
  (h.chained requestId).mergeSort_eq

/-- The report that the chain takes next has a fresh id, the next sequence and the last hash. -/
theorem UsageInvariant.nextReport_iff (h : UsageInvariant s) :
    s.nextReport report = true ↔ s.usageReports.get? report.usageReportId = none ∧
      report.usageSequence = (requestReports s.toRequestTables report.requestId).length + 1 ∧
      report.previousUsageReportHash =
        (requestReports s.toRequestTables report.requestId).getLast?.map (·.reportHash) := by
  unfold nextReport
  simp only [h.usageChain_eq, Bool.and_eq_true, List.all_eq_true, bne_iff_ne, beq_iff_eq,
    Dict.not_contains]
  constructor
  · rintro ⟨⟨⟨hfresh, -⟩, hsequence⟩, hprevious⟩
    exact ⟨hfresh, hsequence, hprevious⟩
  · rintro ⟨hfresh, hsequence, hprevious⟩
    refine ⟨⟨⟨hfresh, fun item hitem => ?_⟩, hsequence⟩, hprevious⟩
    have hle := (h.chained report.requestId).number_le hitem
    omega

/-! ## What a call leaves of the reports -/

theorem requestReports_set (hfresh : s.usageReports.get? report.usageReportId = none)
    {tables : RequestTables}
    (htables : tables.usageReports = s.usageReports.set report.usageReportId report)
    (requestId : String) :
    requestReports tables requestId = requestReports s.toRequestTables requestId ++
      if report.requestId = requestId then [report] else [] := by
  unfold requestReports
  rw [htables, Dict.values_set hfresh, List.filter_append]
  by_cases hrequest : report.requestId = requestId
  · rw [if_pos hrequest, List.filter_cons_of_pos (by simpa using hrequest), List.filter_nil]
  · rw [if_neg hrequest, List.filter_cons_of_neg (by simpa using hrequest), List.filter_nil]

/-- Only the next report of a chain is stored. -/
theorem usageReports_of_written {call : RequestCall} (h : Written env s call tables) :
    tables.usageReports = s.usageReports ∨
      ∃ connectionId report record, call = .usage connectionId report ∧
        s.requests.get? report.requestId = some record ∧
        usageChecked env s connectionId report record = true ∧ s.nextReport report = true ∧
        tables.requests = s.requests ∧ tables.results = s.results ∧
        tables.usageReports = s.usageReports.set report.usageReportId report := by
  cases h with
  | reported hrecord hchecked hnext =>
    exact .inr ⟨_, _, _, rfl, hrecord, hchecked, hnext, rfl, rfl, rfl⟩
  | _ => exact .inl rfl

theorem UsageInvariant.of_usageReports {s' : RuntimeProtocolStore} (h : UsageInvariant s)
    (hsame : s'.usageReports = s.usageReports) : UsageInvariant s' where
  chained requestId := by
    unfold requestReports
    rw [hsame]
    exact h.chained requestId
  keyed hreport := h.keyed (hsame ▸ hreport)

theorem UsageInvariant.reported {s' : RuntimeProtocolStore} (h : UsageInvariant s)
    (hnext : s.nextReport report = true)
    (hset : s'.usageReports = s.usageReports.set report.usageReportId report) :
    UsageInvariant s' := by
  obtain ⟨hfresh, hsequence, hprevious⟩ := h.nextReport_iff.mp hnext
  constructor
  · intro requestId
    rw [requestReports_set hfresh hset]
    by_cases hrequest : report.requestId = requestId
    · subst hrequest
      rw [if_pos rfl]
      exact (h.chained report.requestId).append hsequence hprevious
    · rw [if_neg hrequest, List.append_nil]
      exact h.chained requestId
  · intro id found hfound
    rw [hset, Dict.get?_set] at hfound
    split_ifs at hfound with hid
    · cases hfound
      exact hid.symm
    · exact h.keyed hfound

section Step

variable [Runtime] [Conversions]

/-- A call leaves the reports or stores the next one of a chain. -/
theorem usageReports_step (call : ServiceCall) :
    (step s call).usageReports = s.usageReports ∨
      ∃ report, s.nextReport report = true ∧
        (step s call).usageReports = s.usageReports.set report.usageReportId report := by
  rcases step_cases (s := s) call with hsame | ⟨env, request, -, hwritten⟩
  · exact .inl (congrArg RequestTables.usageReports hsame)
  · rcases usageReports_of_written hwritten with hsame | ⟨_, report, _, -, -, -, hnext, -, -, hset⟩
    · exact .inl hsame
    · exact .inr ⟨report, hnext, hset⟩

theorem UsageInvariant.step (h : UsageInvariant s) (call : ServiceCall) :
    UsageInvariant (step s call) := by
  rcases usageReports_step (s := s) call with hsame | ⟨report, hnext, hset⟩
  · exact h.of_usageReports hsame
  · exact h.reported hnext hset

theorem usageInvariant_run (calls : List ServiceCall) :
    UsageInvariant (run RuntimeProtocolStore.step {} calls) :=
  run_invariant (I := UsageInvariant) (fun _ call h => h.step call) calls
    ⟨fun _ => chained_nil, nofun⟩

/-- A report that is stored stays as it is. -/
theorem usageReport_kept {id : String} (hstored : s.usageReports.get? id = some report)
    (calls : List ServiceCall) :
    (run RuntimeProtocolStore.step s calls).usageReports.get? id = some report := by
  refine run_invariant (I := fun s : RuntimeProtocolStore =>
    s.usageReports.get? id = some report) ?_ calls hstored
  intro s call hstored
  rcases usageReports_step (s := s) call with hsame | ⟨other, hnext, hset⟩
  · rw [hsame]
    exact hstored
  · rw [hset, Dict.get?_set_of_ne _ _ _]
    · exact hstored
    · rintro rfl
      simp [nextReport, Dict.contains, hstored] at hnext

end Step

/-! ## Answers -/

/-- A report that is not taken and not a duplicate leaves a conflict. -/
theorem conflict_of_admitUsageReport
    (hstatus : (s.admitUsageReport env report).1.status ≠ .accepted)
    (hduplicate : (s.admitUsageReport env report).1.status ≠ .duplicate) :
    ∃ conflict ∈ (s.admitUsageReport env report).2.usageConflicts.values,
      conflict.usageReportId = report.usageReportId ∧ conflict.requestId = report.requestId ∧
        conflict.conflictingReportHash = report.reportHash := by
  have hrecorded : ∀ acceptedHash conflictType,
      usageConflict env report acceptedHash conflictType ∈ (recordUsageConflict env
        s.toRequestTables report acceptedHash conflictType).usageConflicts.values := by
    intro acceptedHash conflictType
    exact Dict.mem_values.mpr ⟨_, Dict.get?_set_self _ _ _⟩
  unfold admitUsageReport at hstatus hduplicate ⊢
  dsimp only at hstatus hduplicate ⊢
  cases hexisting : s.usageReports.get? report.usageReportId with
  | some existing =>
    simp only [hexisting] at hduplicate ⊢
    split_ifs at hduplicate ⊢ with hhash
    · exact ⟨_, hrecorded _ _, rfl, rfl, rfl⟩
    · exact absurd rfl hduplicate
  | none =>
    simp only [hexisting] at hstatus ⊢
    cases hsame : (usageChain s.toRequestTables report.requestId).find?
        (·.usageSequence == report.usageSequence) with
    | some same => exact ⟨_, hrecorded _ _, rfl, rfl, rfl⟩
    | none =>
      simp only [hsame] at hstatus ⊢
      split_ifs at hstatus ⊢
      · exact ⟨_, hrecorded _ _, rfl, rfl, rfl⟩
      · exact ⟨_, hrecorded _ _, rfl, rfl, rfl⟩
      · exact absurd rfl hstatus

/-- Only a report that is stored already is a duplicate. -/
theorem duplicate_of_admitUsageReport
    (hstatus : (s.admitUsageReport env report).1.status = .duplicate) :
    ∃ existing, s.usageReports.get? report.usageReportId = some existing ∧
      existing.reportHash = report.reportHash := by
  unfold admitUsageReport at hstatus
  dsimp only at hstatus
  cases hexisting : s.usageReports.get? report.usageReportId with
  | some existing =>
    simp only [hexisting] at hstatus
    split_ifs at hstatus with hhash
    · cases hstatus
    · exact ⟨existing, rfl, not_not.mp hhash⟩
  | none =>
    simp only [hexisting] at hstatus
    cases hsame : (usageChain s.toRequestTables report.requestId).find?
        (·.usageSequence == report.usageSequence) with
    | some same =>
      simp only [hsame] at hstatus
      cases hstatus
    | none =>
      simp only [hsame] at hstatus
      split_ifs at hstatus <;> cases hstatus

/-- The decision on the chain never rejects. -/
theorem admitUsageReport_ne_rejected : (s.admitUsageReport env report).1.status ≠ .rejected := by
  unfold admitUsageReport
  dsimp only
  cases s.usageReports.get? report.usageReportId with
  | some existing =>
    dsimp only
    split_ifs <;> exact nofun
  | none =>
    dsimp only
    cases (usageChain s.toRequestTables report.requestId).find?
        (·.usageSequence == report.usageSequence) with
    | some same => exact nofun
    | none =>
      dsimp only
      split_ifs <;> exact nofun

/-- A report that passes the checks on its request is decided on its chain. -/
theorem recordUsageReport_of_checked (hrecord : s.requests.get? report.requestId = some record)
    (hchecked : usageChecked env s connectionId report record = true) :
    s.recordUsageReport env connectionId report = .ok (s.admitUsageReport env report) := by
  simp only [usageChecked, Bool.and_eq_true, beq_iff_eq] at hchecked
  obtain ⟨⟨⟨⟨⟨hconnected, hauthentic⟩, hsession⟩, hadmitted⟩, hdescribes⟩, hprofile⟩ := hchecked
  unfold connected at hconnected
  unfold recordUsageReport
  cases hconnection : validateConnection env s.connections connectionId (usageClaim report) with
  | error e => simp [hconnection, Except.isOk, Except.toBool] at hconnected
  | ok connection =>
    cases hfound : env.profile report.runtimeId with
    | none => simp [hfound] at hprofile
    | some profile =>
      simp only [hfound, Option.any_some, beq_iff_eq] at hprofile
      unfold usageClaim at hconnection
      simp only [hconnection, ServiceEnvironment.authenticate, hauthentic, demand, hrecord,
        hsession, hadmitted, hdescribes, ServiceEnvironment.usageProfile, hfound, bind,
        Except.bind, hprofile, decide_true, if_true, Bool.true_eq_false, if_false]
      rfl

/-! ## The law of the reports -/

/-- The usage reports of each request are one chain, and calls keep what is stored. -/
structure UsageLaw [Runtime] [Conversions] (s : RuntimeProtocolStore) : Prop where
  chained : ∀ requestId, ReportChain (requestReports s.toRequestTables requestId)
  refused : ∀ env connectionId report ack tables,
    s.recordUsageReport env connectionId report = .ok (ack, tables) → ack.status ≠ .accepted →
      tables.usageReports = s.usageReports
  kept : ∀ id report, s.usageReports.get? id = some report →
    ∀ calls, (run step s calls).usageReports.get? id = some report
  taken : ∀ env connectionId report record, s.requests.get? report.requestId = some record →
    usageChecked env s connectionId report record = true →
    s.usageReports.get? report.usageReportId = none →
    report.usageSequence = (requestReports s.toRequestTables report.requestId).length + 1 →
    report.previousUsageReportHash =
      (requestReports s.toRequestTables report.requestId).getLast?.map (·.reportHash) →
    ∃ ack tables, s.recordUsageReport env connectionId report = .ok (ack, tables) ∧
      ack.status = .accepted ∧ tables.usageReports.get? report.usageReportId = some report
  rejected : ∀ env connectionId report ack tables,
    s.recordUsageReport env connectionId report = .ok (ack, tables) → ack.status = .rejected →
      ∀ record, s.requests.get? report.requestId = some record →
        usageChecked env s connectionId report record = false
  duplicate : ∀ env connectionId report ack tables,
    s.recordUsageReport env connectionId report = .ok (ack, tables) → ack.status = .duplicate →
      ∃ existing, s.usageReports.get? report.usageReportId = some existing ∧
        existing.reportHash = report.reportHash
  conflicts : ∀ env connectionId report ack tables,
    s.recordUsageReport env connectionId report = .ok (ack, tables) → ack.status ≠ .accepted →
      ack.status ≠ .rejected → ack.status ≠ .duplicate →
      ∃ conflict ∈ tables.usageConflicts.values, conflict.usageReportId = report.usageReportId ∧
        conflict.requestId = report.requestId ∧
          conflict.conflictingReportHash = report.reportHash

/-- The law holds after any calls. -/
theorem usage_reports_chain [Runtime] [Conversions] (calls : List ServiceCall) :
    UsageLaw (run step {} calls) := by
  have hinv := usageInvariant_run calls
  generalize run step {} calls = s at hinv
  have hdecided : ∀ {env connectionId report ack tables},
      s.recordUsageReport env connectionId report = .ok (ack, tables) → ack.status ≠ .rejected →
        ack = (s.admitUsageReport env report).1 ∧ tables = (s.admitUsageReport env report).2 := by
    intro env connectionId report ack tables h hstatus
    rcases recordUsageReport_cases _ h with ⟨hrejected, -⟩ | ⟨record, -, -, heq⟩
    · exact absurd hrejected hstatus
    · exact ⟨congrArg Prod.fst heq, congrArg Prod.snd heq⟩
  constructor
  · exact hinv.chained
  · intro env connectionId report ack tables h hstatus
    rcases recordUsageReport_cases _ h with ⟨-, usageAcks, htables⟩ | ⟨record, -, -, heq⟩
    · obtain rfl : tables = _ := htables
      rfl
    · rcases admitUsageReport_cases env s report with
        ⟨-, haccepted, -⟩ | ⟨-, -, usageAcks, usageConflicts, htables⟩
      · rw [← heq] at haccepted
        exact absurd haccepted hstatus
      · rw [← heq] at htables
        have htables' : tables = _ := htables
        rw [htables']
  · exact fun id report hstored calls => usageReport_kept hstored calls
  · intro env connectionId report record hrecord hchecked hfresh hsequence hprevious
    refine ⟨(s.admitUsageReport env report).1, (s.admitUsageReport env report).2,
      recordUsageReport_of_checked hrecord hchecked, ?_⟩
    have hnext := hinv.nextReport_iff.mpr ⟨hfresh, hsequence, hprevious⟩
    rcases admitUsageReport_cases env s report with
      ⟨-, haccepted, usageAcks, htables⟩ | ⟨hnot, -⟩
    · refine ⟨haccepted, ?_⟩
      rw [htables]
      exact Dict.get?_set_self _ _ _
    · rw [hnext] at hnot
      cases hnot
  · intro env connectionId report ack tables h hstatus record hrecord
    by_contra hchecked
    rw [Bool.not_eq_false] at hchecked
    rw [recordUsageReport_of_checked hrecord hchecked] at h
    have heq : (s.admitUsageReport env report).1 = ack := congrArg Prod.fst (Except.ok.inj h)
    rw [← heq] at hstatus
    exact admitUsageReport_ne_rejected hstatus
  · intro env connectionId report ack tables h hstatus
    obtain ⟨rfl, -⟩ := hdecided h (by simp [hstatus])
    exact duplicate_of_admitUsageReport hstatus
  · intro env connectionId report ack tables h haccepted hrejected hduplicate
    obtain ⟨rfl, rfl⟩ := hdecided h hrejected
    exact conflict_of_admitUsageReport haccepted hduplicate

end RuntimeProtocolStore

end AidnSpec.RuntimeProtocol
