import DqScoring.Core.OutlierAdvisory
import DqScoring.Queue.Fencing

/-!
# Reading a stored assessment

What a save has stored stays: later transactions add rows of other assessments and
never touch these (`Stored.of_run`). So the reading functions return, at any later time
and in some order, the rows the save wrote, and a round trip is a question about one
row at a time.

Three fields do not come back as they went. A dimension's coverage is stored, and
replaced by the coverage of the assessment when it is read. The violations of a result
are stored, and recomputed as failed plus miscast records when they are read. The
critical flag has no column. `roundTrip_iff` is the exact condition under which the data
survive this.
-/

namespace DqScoring

open Framework

variable {α : Type} [Field α] [LinearOrder α]

/-! ### What is stored stays -/

/-- Rows belong to an assessment that is stored. -/
structure Database.RowsOwned (db : Database α) : Prop where
  dimensions : ∀ row ∈ db.dimensionResults,
    ∃ a ∈ db.assessments.rows, a.assessmentId = row.assessmentId
  results : ∀ row ∈ db.qualityResults, ∃ a ∈ db.assessments.rows, a.runId = row.runId

/-- The tables hold an assessment with its dimensions and results, and nothing else
under its ids. -/
structure Stored (rt : StoreRuntime) (a : ImmutableAssessment α)
    (ruleResults : List (QualityRuleResult α)) (hashes : List (String × String))
    (rulesetId : Option Uuid) (db : Database α) : Prop where
  assessment : db.assessments.find? a.assessmentId = some (assessmentRow hashes a)
  dimensions : db.dimensionResults.filter (·.assessmentId = a.assessmentId) =
    a.dimensionResults.map (dimensionRow rt.upper a)
  results : db.qualityResults.filter (·.runId = a.runId) =
    resultRows rt a rulesetId 0 ruleResults

section Kept

variable {rt : StoreRuntime} {catalog : Catalog} {db db' : Database α}
  {a : ImmutableAssessment α} {ruleResults : List (QualityRuleResult α)}
  {leaseGeneration : ℕ} {run : RunRow}

omit [Field α] [LinearOrder α] in
/-- The rows of an assessment belong to its run. -/
theorem runId_of_mem_resultRows {rulesetId : Option Uuid} {usedBytes : ℕ} {row : ResultRow α}
    (h : row ∈ resultRows rt a rulesetId usedBytes ruleResults) : row.runId = a.runId := by
  obtain ⟨r, -, evidence, rfl⟩ :=
    exists_left_of_mem (forall₂_resultRows rt a rulesetId usedBytes ruleResults) h
  rfl

omit [Field α] [LinearOrder α] in
/-- Inserted rows are the new one and the old. -/
theorem mem_rows_of_insert {t t' : Table (AssessmentRow.assessmentId (α := α))}
    {row row' : AssessmentRow α} (h : t.insert row = some t') :
    row' ∈ t'.rows ↔ row' ∈ t.rows ∨ row' = row := by
  rw [Table.rows_of_insert h, List.mem_append, List.mem_singleton]

/-- A save keeps all rows owned by their runs. -/
theorem Saved.rowsOwned (h : Saved rt catalog db a ruleResults leaseGeneration run db')
    (h_owned : db.RowsOwned) : db'.RowsOwned where
  dimensions := fun row h_row => by
    rw [h.dimensions, List.mem_append] at h_row
    rcases h_row with h_old | h_new
    · obtain ⟨b, h_b, h_id⟩ := h_owned.dimensions row h_old
      exact ⟨b, (mem_rows_of_insert h.assessments).mpr (Or.inl h_b), h_id⟩
    · obtain ⟨d, -, rfl⟩ := List.mem_map.mp h_new
      exact ⟨_, (mem_rows_of_insert h.assessments).mpr (Or.inr rfl), rfl⟩
  results := fun row h_row => by
    rw [h.results, List.mem_append] at h_row
    rcases h_row with h_old | h_new
    · obtain ⟨b, h_b, h_id⟩ := h_owned.results row h_old
      exact ⟨b, (mem_rows_of_insert h.assessments).mpr (Or.inl h_b), h_id⟩
    · exact ⟨_, (mem_rows_of_insert h.assessments).mpr (Or.inr rfl),
        (runId_of_mem_resultRows h_new).symm⟩

/-- A save stores its assessment: before it there were no rows under its ids. -/
theorem Saved.stored (h : Saved rt catalog db a ruleResults leaseGeneration run db')
    (h_owned : db.RowsOwned) :
    Stored rt a ruleResults (configHashes catalog run) (some run.rulesetId) db' where
  assessment := (Table.find?_of_insert h.assessments _).trans (if_pos rfl)
  dimensions := by
    -- a row under the id would belong to an assessment, whose id would not have been free
    have h_none : db.dimensionResults.filter (·.assessmentId = a.assessmentId) = [] := by
      refine List.filter_eq_nil_iff.mpr fun row h_row h_id => ?_
      obtain ⟨b, h_b, h_eq⟩ := h_owned.dimensions row h_row
      exact Table.find?_eq_none_iff.mp (Table.find?_none_of_insert h.assessments) b h_b
        (h_eq.trans (of_decide_eq_true h_id))
    rw [h.dimensions, List.filter_append, h_none, List.nil_append, List.filter_eq_self]
    intro row h_row
    obtain ⟨d, -, rfl⟩ := List.mem_map.mp h_row
    exact decide_eq_true rfl
  results := by
    -- nor did the run have an assessment
    have h_none : db.qualityResults.filter (·.runId = a.runId) = [] := by
      refine List.filter_eq_nil_iff.mpr fun row h_row h_id => ?_
      obtain ⟨b, h_b, h_eq⟩ := h_owned.results row h_row
      exact h.unique b h_b (h_eq.trans (of_decide_eq_true h_id))
    rw [h.results, List.filter_append, h_none, List.nil_append, List.filter_eq_self]
    intro row h_row
    exact decide_eq_true (runId_of_mem_resultRows h_row)

/-- A save keeps what is stored of another assessment. -/
theorem Stored.of_saved {b : ImmutableAssessment α} {bResults : List (QualityRuleResult α)}
    {hashes : List (String × String)} {rulesetId : Option Uuid}
    (h_stored : Stored rt b bResults hashes rulesetId db)
    (h : Saved rt catalog db a ruleResults leaseGeneration run db') :
    Stored rt b bResults hashes rulesetId db' := by
  -- the ids of the new assessment are free, so they are not those of the stored one
  have h_id : b.assessmentId ≠ a.assessmentId := by
    intro h_eq
    have h_free := Table.find?_none_of_insert h.assessments
    have h_found := h_stored.assessment
    rw [h_eq] at h_found
    exact Option.some_ne_none _ (h_found.symm.trans h_free)
  have h_run : b.runId ≠ a.runId :=
    h.unique _ (Table.find?_eq_some_iff.mp h_stored.assessment).1
  refine ⟨?_, ?_, ?_⟩
  · have h_other : ¬ b.assessmentId = (assessmentRow (configHashes catalog run) a).assessmentId :=
      h_id
    rw [Table.find?_of_insert h.assessments, if_neg h_other]
    exact h_stored.assessment
  · have h_none : (a.dimensionResults.map (dimensionRow rt.upper a)).filter
        (·.assessmentId = b.assessmentId) = [] := by
      refine List.filter_eq_nil_iff.mpr fun row h_row h_eq => ?_
      obtain ⟨d, -, rfl⟩ := List.mem_map.mp h_row
      exact h_id (of_decide_eq_true h_eq).symm
    rw [h.dimensions, List.filter_append, h_none, List.append_nil]
    exact h_stored.dimensions
  · have h_none : (resultRows rt a (some run.rulesetId) 0 ruleResults).filter
        (·.runId = b.runId) = [] := by
      refine List.filter_eq_nil_iff.mpr fun row h_row h_eq => ?_
      exact h_run ((of_decide_eq_true h_eq).symm.trans (runId_of_mem_resultRows h_row))
    rw [h.results, List.filter_append, h_none, List.append_nil]
    exact h_stored.results

omit [Field α] [LinearOrder α] in
/-- A stored assessment stays while the store does. -/
theorem Stored.of_sameStore {hashes : List (String × String)} {rulesetId : Option Uuid}
    (h_stored : Stored rt a ruleResults hashes rulesetId db) (h : db.SameStore db') :
    Stored rt a ruleResults hashes rulesetId db' where
  assessment := by
    rw [h.assessments]
    exact h_stored.assessment
  dimensions := by
    rw [h.dimensionResults]
    exact h_stored.dimensions
  results := by
    rw [h.qualityResults]
    exact h_stored.results

end Kept

/-- A call either leaves the store as it is, or saves an assessment. -/
theorem QueueState.exec_store (env : QueueEnv) (s : QueueState α) (call : Call α) :
    s.db.SameStore (s.exec env call).db ∨ ∃ a ruleResults leaseGeneration run,
      Saved env.runtime env.catalog s.db a ruleResults leaseGeneration run
        (s.exec env call).db := by
  cases call with
  | enqueueRun spec idempotencyKey =>
    refine Or.inl ?_
    dsimp only [exec]
    split
    · next h_ok =>
      rcases enqueueRun_ok h_ok with rfl | ⟨run, event, -, -, -, h_writes⟩
      · exact .refl _
      · exact h_writes.sameStore
    · exact .refl _
  | claimNextRun workerId timeoutSeconds claimed locked =>
    refine Or.inl ?_
    rcases claimNextRun_spec s.db workerId timeoutSeconds claimed locked with
      h_same | ⟨run, event, -, -, -, h_writes⟩
    · exact h_same.symm ▸ .refl _
    · exact h_writes.sameStore
  | heartbeat beating leaseGeneration timeoutSeconds => exact Or.inl ⟨rfl, rfl, rfl⟩
  | saveAssessmentAtomic a ruleResults leaseGeneration =>
    dsimp only [exec]
    split
    · next h_ok =>
      obtain ⟨run, h_saved⟩ := saveAssessmentAtomic_ok h_ok
      exact Or.inr ⟨a, ruleResults, leaseGeneration, run, h_saved⟩
    · exact Or.inl (.refl _)
  | completeRun completed leaseGeneration status errorMessage =>
    refine Or.inl ?_
    rcases completeRun_spec s.db completed leaseGeneration status errorMessage with
      h_same | ⟨run, event, -, -, -, h_writes⟩
    · exact h_same.symm ▸ .refl _
    · exact h_writes.sameStore
  | tick elapsed => exact Or.inl ⟨rfl, rfl, rfl⟩

/-- In every reachable state rows belong to stored assessments. -/
theorem rowsOwned_of_reachable {env : QueueEnv} {s : QueueState α}
    (h : Reachable QueueState.Initial (QueueState.Step env) s) : s.db.RowsOwned := by
  refine h.invariant (I := fun s => s.db.RowsOwned) ?_ ?_
  · rintro s ⟨now, rfl⟩
    exact ⟨fun row h_row => (List.not_mem_nil h_row).elim,
      fun row h_row => (List.not_mem_nil h_row).elim⟩
  · rintro s s' h_owned ⟨call, -, rfl⟩
    rcases s.exec_store env call with h_same | ⟨a, ruleResults, leaseGeneration, run, h_saved⟩
    · refine ⟨fun row h_row => ?_, fun row h_row => ?_⟩
      · rw [h_same.dimensionResults] at h_row
        rw [h_same.assessments]
        exact h_owned.dimensions row h_row
      · rw [h_same.qualityResults] at h_row
        rw [h_same.assessments]
        exact h_owned.results row h_row
    · exact h_saved.rowsOwned h_owned

/-- **What is stored stays**, along every run. -/
theorem Stored.of_run {env : QueueEnv} {a : ImmutableAssessment α}
    {ruleResults : List (QualityRuleResult α)} {hashes : List (String × String)}
    {rulesetId : Option Uuid} {s s' : QueueState α}
    (h : Stored env.runtime a ruleResults hashes rulesetId s.db)
    (h_run : Relation.ReflTransGen (QueueState.Step env) s s') :
    Stored env.runtime a ruleResults hashes rulesetId s'.db := by
  induction h_run with
  | refl => exact h
  | @tail s₁ s₂ _ h_step ih =>
    obtain ⟨call, -, rfl⟩ := h_step
    -- only a save writes to the store, and only rows under ids that are new
    rcases s₁.exec_store env call with h_same | ⟨b, bResults, leaseGeneration, run, h_saved⟩
    · exact ih.of_sameStore h_same
    · exact ih.of_saved h_saved

/-! ### What is read -/

/-- The overall fields of two assessments are the same. -/
structure SameAssessment (a a' : ImmutableAssessment α) : Prop where
  assessmentId : a'.assessmentId = a.assessmentId
  tenantId : a'.tenantId = a.tenantId
  runId : a'.runId = a.runId
  snapshotId : a'.snapshotId = a.snapshotId
  dqScore : a'.dqScore = a.dqScore
  publicationStatus : a'.publicationStatus = a.publicationStatus
  coverageRatio : a'.coverageRatio = a.coverageRatio
  qualityGate : a'.qualityGate = a.qualityGate
  assessmentHash : a'.assessmentHash = a.assessmentHash
  createdAt : a'.createdAt = a.createdAt
  confidenceStatus : a'.confidenceStatus = a.confidenceStatus

/-- A dimension and the one read for it. -/
structure SameDimension (upper : String → String) (d d' : DimensionResult α) : Prop where
  dimension : d'.dimension = upper d.dimension
  dimensionScore : d'.dimensionScore = d.dimensionScore
  coverageRatio : d'.coverageRatio = d.coverageRatio
  dimensionWeight : d'.dimensionWeight = d.dimensionWeight

/-- A rule result and the one read for it. -/
structure SameResult (r r' : QualityRuleResult α) : Prop where
  ruleId : r.sourceKind = "RULE" → r'.ruleId = r.ruleId
  measurementStatus : r'.measurementStatus = r.measurementStatus
  counts : r'.counts = r.counts
  computedScore : r'.computedScore = r.computedScore
  violationsCount : r'.violationsCount = r.violationsCount
  isCritical : r'.isCritical = r.isCritical
  isAdvisory : r'.isAdvisory = r.isAdvisory
  isRequired : r'.isRequired = r.isRequired
  gateEnabled : r'.gateEnabled = r.gateEnabled
  scoreEnabled : r'.scoreEnabled = r.scoreEnabled

/-- Reading gives back the assessment, each of its dimensions and each of its rule
results, in some order. -/
def RoundTrips (upper : String → String) (scan : Scan) (db : Database α)
    (a : ImmutableAssessment α) (ruleResults : List (QualityRuleResult α))
    (tenantId : Option Uuid) : Prop :=
  (∃ a', getAssessment upper scan db a.assessmentId tenantId = some a' ∧ SameAssessment a a' ∧
    -- dimensions and results come back in any order
    ∃ ds, ds.Perm a'.dimensionResults ∧
      List.Forall₂ (SameDimension upper) a.dimensionResults ds) ∧
  ∃ rs, rs.Perm (getRuleResults scan db a.assessmentId tenantId) ∧
    List.Forall₂ SameResult ruleResults rs

/-- The results a worker stores: rule results of a configured rule, with their counts, and
outlier advisories. -/
inductive IsStorable : QualityRuleResult α → Prop
  | rule {r : QualityRuleResult α} (id : Uuid) (h_kind : r.sourceKind = "RULE")
      (h_id : r.ruleId = id.str) (h_counts : r.counts.isSome = true) : IsStorable r
  | outlier (inp : OutlierResultInput α) : IsStorable (buildOutlierAdvisoryResult inp)

/-- The data that come back as they went: every dimension has the coverage of the
assessment, and no result is critical, is without counts, or has violations besides its
failed and miscast records. -/
structure SurvivesStorage (a : ImmutableAssessment α)
    (ruleResults : List (QualityRuleResult α)) : Prop where
  confidenceStatus : a.confidenceStatus ≠ ""
  coverage : ∀ d ∈ a.dimensionResults, d.coverageRatio = a.coverageRatio
  results : ∀ r ∈ ruleResults, r.isCritical = false ∧
    ∃ counts, r.counts = some counts ∧ r.violationsCount = counts.failed + counts.miscast

section Rows

variable {rt : StoreRuntime} {a : ImmutableAssessment α}

omit [LinearOrder α] in
/-- Reading the row of a result: what comes back as it went, and what does not. -/
theorem readResult_resultRow (rt : StoreRuntime) (a : ImmutableAssessment α)
    (rulesetId : Option Uuid) (evidence : EvidencePayload) (r : QualityRuleResult α) :
    let r' := readResult (resultRow rt a rulesetId evidence r)
    r'.counts = some (storedCounts r) ∧
      r'.violationsCount = (storedCounts r).failed + (storedCounts r).miscast ∧
      r'.isCritical = false ∧ r'.measurementStatus = r.measurementStatus ∧
      r'.computedScore = r.computedScore ∧ r'.isAdvisory = r.isAdvisory ∧
      r'.isRequired = r.isRequired ∧ r'.gateEnabled = r.gateEnabled ∧
      r'.scoreEnabled = r.scoreEnabled :=
  ⟨rfl, rfl, rfl, rfl, rfl, rfl, rfl, rfl, rfl⟩

omit [LinearOrder α] in
/-- The rule id of a result is read back from its row. -/
theorem readResult_ruleId {rulesetId : Option Uuid} {evidence : EvidencePayload}
    {r : QualityRuleResult α} {id : Uuid} (h_kind : r.sourceKind = "RULE")
    (h_id : r.ruleId = id.str) :
    (readResult (resultRow rt a rulesetId evidence r)).ruleId = r.ruleId := by
  have h_stored : storedSourceKind r = "RULE" := by
    rw [storedSourceKind, h_kind, if_neg (by decide)]
  have h_row : (resultRow rt a rulesetId evidence r).ruleId = some id := by
    dsimp only [resultRow]
    rw [if_pos h_stored, h_id, Uuid.ofText_str]
  rw [readResult, h_row, h_id]

/-- A result that survives is the same when it is read back. -/
theorem sameResult_of_survives {rulesetId : Option Uuid} {evidence : EvidencePayload}
    {r : QualityRuleResult α} (h_storable : IsStorable r) (h_critical : r.isCritical = false)
    {counts : RuleCounts} (h_counts : r.counts = some counts)
    (h_violations : r.violationsCount = counts.failed + counts.miscast) :
    SameResult r (readResult (resultRow rt a rulesetId evidence r)) := by
  have h_stored : storedCounts r = counts := by
    rw [storedCounts, h_counts]
  obtain ⟨h_counts', h_violations', h_critical', h_status, h_score, h_advisory, h_required,
    h_gate, h_enabled⟩ := readResult_resultRow rt a rulesetId evidence r
  rw [h_stored] at h_counts' h_violations'
  exact {
    ruleId := fun h_kind => by
      cases h_storable with
      | rule id _ h_id _ => exact readResult_ruleId h_kind h_id
      | outlier inp => exact absurd h_kind (by simp [buildOutlierAdvisoryResult])
    measurementStatus := h_status
    counts := h_counts'.trans h_counts.symm
    computedScore := h_score
    violationsCount := h_violations'.trans h_violations.symm
    isCritical := h_critical'.trans h_critical.symm
    isAdvisory := h_advisory
    isRequired := h_required
    gateEnabled := h_gate
    scoreEnabled := h_enabled }

/-- What an outlier advisory comes back as: its violations are kept as failed records. -/
theorem readResult_outlier (rulesetId : Option Uuid) (evidence : EvidencePayload)
    {inp : OutlierResultInput α} (h_column : inp.columnName ≠ "") :
    let r := buildOutlierAdvisoryResult inp
    let r' := readResult (resultRow rt a rulesetId evidence r)
    r'.ruleId = r.ruleId ∧ r'.violationsCount = r.violationsCount ∧
      r'.counts = some { failed := inp.outlierCount, totalObserved := inp.outlierCount } := by
  have h_counts : storedCounts (buildOutlierAdvisoryResult inp) =
      { failed := inp.outlierCount, totalObserved := inp.outlierCount } :=
    storedCounts_of_none rfl
  obtain ⟨h_counts', h_violations', -⟩ :=
    readResult_resultRow rt a rulesetId evidence (buildOutlierAdvisoryResult inp)
  rw [h_counts] at h_counts' h_violations'
  refine ⟨?_, h_violations', h_counts'⟩
  have h_kind : storedSourceKind (buildOutlierAdvisoryResult inp) = "OUTLIER" := rfl
  have h_target : storedTargetColumn (buildOutlierAdvisoryResult inp) = inp.columnName := by
    unfold storedTargetColumn
    dsimp only [buildOutlierAdvisoryResult]
    rw [if_neg h_column]
  dsimp only [readResult, resultRow]
  rw [h_kind, h_target, if_neg (by decide), if_pos ⟨rfl, h_column⟩]
  rfl

end Rows

section Reading

variable {rt : StoreRuntime} {a : ImmutableAssessment α}
  {ruleResults : List (QualityRuleResult α)} {hashes : List (String × String)}
  {rulesetId : Option Uuid} {db : Database α} {tenantId : Option Uuid}

omit [Field α] [LinearOrder α] in
/-- A stored assessment is found by its tenant. -/
theorem Stored.findAssessment (h : Stored rt a ruleResults hashes rulesetId db)
    (h_tenant : ∀ t ∈ tenantId, t = a.tenantId) :
    db.findAssessment a.assessmentId tenantId = some (assessmentRow hashes a) := by
  rw [Database.findAssessment, h.assessment, Option.filter_some, if_pos]
  cases tenantId with
  | none => rfl
  | some t => exact decide_eq_true (h_tenant t rfl)

omit [LinearOrder α] in
/-- The stored results are read in the order of the scan. -/
theorem Stored.getRuleResults_eq (h : Stored rt a ruleResults hashes rulesetId db)
    (h_tenant : ∀ t ∈ tenantId, t = a.tenantId) (scan : Scan) :
    getRuleResults scan db a.assessmentId tenantId =
      (scan.order (resultRows rt a rulesetId 0 ruleResults)).map readResult := by
  rw [getRuleResults, h.findAssessment h_tenant]
  dsimp only [assessmentRow]
  rw [h.results]

omit [LinearOrder α] in
/-- The assessment that is read: its overall fields, and its dimensions under the
coverage of the assessment. -/
theorem Stored.getAssessment_eq (h : Stored rt a ruleResults hashes rulesetId db)
    (h_tenant : ∀ t ∈ tenantId, t = a.tenantId) (upper : String → String) (scan : Scan) :
    ∃ a' rs, getAssessment upper scan db a.assessmentId tenantId = some a' ∧
      (a.confidenceStatus ≠ "" ↔ SameAssessment a a') ∧
      a'.dimensionResults = (scan.order (a.dimensionResults.map (dimensionRow rt.upper a))).map
        (readDimension upper a.coverageRatio rs) := by
  rw [getAssessment, h.findAssessment h_tenant, Option.map_some, h.dimensions]
  refine ⟨_, _, rfl, ⟨fun h_confidence => ?_, fun h_same h_empty => ?_⟩, rfl⟩
  · exact ⟨rfl, rfl, rfl, rfl, rfl, rfl, rfl, rfl, rfl, rfl, if_neg h_confidence⟩
  · have h_status : (if a.confidenceStatus = "" then "NOT_APPLICABLE" else a.confidenceStatus) =
      a.confidenceStatus := h_same.confidenceStatus
    rw [if_pos h_empty, h_empty] at h_status
    exact absurd h_status (by decide)

/-- **The round trip of what is stored.** -/
theorem Stored.roundTrips_iff (h : Stored rt a ruleResults hashes rulesetId db)
    (h_storable : ∀ r ∈ ruleResults, IsStorable r) (h_tenant : ∀ t ∈ tenantId, t = a.tenantId)
    (scan : Scan) :
    RoundTrips rt.upper scan db a ruleResults tenantId ↔ SurvivesStorage a ruleResults := by
  -- what the store answers for the assessment
  obtain ⟨a', group, h_get, h_overall, h_dims⟩ := h.getAssessment_eq h_tenant rt.upper scan
  have h_rows := forall₂_resultRows rt a rulesetId 0 ruleResults
  rw [RoundTrips, h.getRuleResults_eq h_tenant, h_get]
  constructor
  · rintro ⟨⟨a'', h_eq, h_same, ds, h_ds, h_matched⟩, rs, h_rs, h_results⟩
    obtain rfl := Option.some.inj h_eq
    refine ⟨h_overall.mpr h_same, fun d h_d => ?_, fun r h_r => ?_⟩
    · -- whichever dimension was read for it has the coverage of the assessment
      obtain ⟨d', h_d', h_dim⟩ := exists_right_of_mem h_matched h_d
      have h_mem := h_ds.mem_iff.mp h_d'
      rw [h_dims] at h_mem
      obtain ⟨row, -, rfl⟩ := List.mem_map.mp h_mem
      exact h_dim.coverageRatio.symm
    · -- the result read for it is the reading of a row, and so of some stored result
      obtain ⟨r', h_r', h_result⟩ := exists_right_of_mem h_results h_r
      obtain ⟨row, h_row, rfl⟩ := List.mem_map.mp (h_rs.mem_iff.mp h_r')
      obtain ⟨r₂, -, evidence, rfl⟩ :=
        exists_left_of_mem h_rows ((scan.perm _).mem_iff.mp h_row)
      obtain ⟨h_counts, h_violations, h_critical, -⟩ :=
        readResult_resultRow rt a rulesetId evidence r₂
      exact ⟨h_result.isCritical.symm.trans h_critical, storedCounts r₂,
        h_result.counts.symm.trans h_counts, h_result.violationsCount.symm.trans h_violations⟩
  · intro h_survives
    -- each dimension and each result is matched with the reading of its own row
    have h_same_dims : List.Forall₂ (SameDimension rt.upper) a.dimensionResults
        ((a.dimensionResults.map (dimensionRow rt.upper a)).map
          (readDimension rt.upper a.coverageRatio group)) := by
      rw [List.map_map, List.forall₂_map_right_iff, List.forall₂_same]
      intro d h_d
      exact ⟨rfl, rfl, (h_survives.coverage d h_d).symm, rfl⟩
    have h_same_results : List.Forall₂ SameResult ruleResults
        ((resultRows rt a rulesetId 0 ruleResults).map readResult) := by
      rw [List.forall₂_map_right_iff]
      refine ((List.forall₂_and_left _ _).mpr ⟨fun r h_r => h_r, h_rows⟩).imp ?_
      rintro r row ⟨h_r, evidence, rfl⟩
      obtain ⟨h_critical, counts, h_counts, h_violations⟩ := h_survives.results r h_r
      exact sameResult_of_survives (h_storable r h_r) h_critical h_counts h_violations
    refine ⟨⟨a', rfl, h_overall.mp h_survives.confidenceStatus, _, ?_, h_same_dims⟩,
      _, ((scan.perm _).map readResult).symm, h_same_results⟩
    rw [h_dims]
    exact ((scan.perm _).map _).symm

end Reading

/-- **Round trip.** When a save from a reachable state has succeeded, then at every later
time, and in whatever order the rows are returned, reading gives the data back exactly
when they survive storage. -/
theorem roundTrip_iff (env : QueueEnv) {s : QueueState α}
    (h_reachable : Reachable QueueState.Initial (QueueState.Step env) s)
    {a : ImmutableAssessment α} {ruleResults : List (QualityRuleResult α)} {leaseGeneration : ℕ}
    {db : Database α}
    (h_save : saveAssessmentAtomic env.runtime env.catalog s.db a ruleResults leaseGeneration =
      .ok db)
    (h_storable : ∀ r ∈ ruleResults, IsStorable r) {s' : QueueState α}
    (h_run : Relation.ReflTransGen (QueueState.Step env)
      (s.exec env (.saveAssessmentAtomic a ruleResults leaseGeneration)) s')
    (scan : Scan) {tenantId : Option Uuid} (h_tenant : ∀ t ∈ tenantId, t = a.tenantId) :
    RoundTrips env.runtime.upper scan s'.db a ruleResults tenantId ↔
      SurvivesStorage a ruleResults := by
  obtain ⟨run, h_saved⟩ := saveAssessmentAtomic_ok h_save
  have h_stored := h_saved.stored (rowsOwned_of_reachable h_reachable)
  have h_db : (s.exec env (.saveAssessmentAtomic a ruleResults leaseGeneration)).db = db := by
    dsimp only [QueueState.exec]
    rw [h_save]
  rw [← h_db] at h_stored
  exact (h_stored.of_run h_run).roundTrips_iff h_storable h_tenant scan

/-! ### Two reports -/

/-- Rows in the order they were inserted. -/
def Scan.inOrder : Scan := ⟨fun l => l, fun l => List.Perm.refl l⟩

/-- The result of a completeness rule that found ten values missing. -/
def missingResult : QualityRuleResult ℚ where
  ruleId := (Uuid.repeated 8).str
  dimension := "COMPLETENESS"
  measurementStatus := .measured
  contributionWeight := 1
  computedScore := some 90
  violationsCount := 10
  counts := some { passed := 90, missing := 10, totalObserved := 100 }

/-- The same rule, which found ten values invalid. -/
def invalidResult : QualityRuleResult ℚ :=
  { missingResult with counts := some { passed := 90, failed := 10, totalObserved := 100 } }

/-- A report on the completeness rule, three quarters of which could be measured. -/
def completenessReport (r : QualityRuleResult ℚ) : ImmutableAssessment ℚ :=
  { assessmentOne with
    coverageRatio := some (3 / 4)
    dimensionResults := [{
      dimension := "COMPLETENESS"
      dimensionScore := some 90
      coverageRatio := some (3 / 4)
      ruleResults := [r]
      dimensionWeight := 1 }] }

/-- Run 1 saved with its report. -/
def savedReport (r : QualityRuleResult ℚ) : QueueState ℚ :=
  claimedOne.exec plainEnv (.saveAssessmentAtomic (completenessReport r) [r] 1)

theorem isStorable_missingResult : IsStorable missingResult :=
  .rule (.repeated 8) rfl rfl rfl

theorem isStorable_invalidResult : IsStorable invalidResult :=
  .rule (.repeated 8) rfl rfl rfl

theorem roundTrip_iff_invalidResult :
    RoundTrips String.toUpper .inOrder (savedReport invalidResult).db
      (completenessReport invalidResult) [invalidResult] none := by
  have h_saved : errorOf (saveAssessmentAtomic plainRuntime fullCatalog claimedOne.db
      (completenessReport invalidResult) [invalidResult] 1) = none := by
    decide +kernel
  obtain ⟨db, h_save⟩ := exists_ok_of_errorOf h_saved
  refine (roundTrip_iff plainEnv reachable_claimedOne h_save (fun r h_r => ?_) .refl
    .inOrder (fun t h_t => by cases h_t)).mpr ⟨by decide, fun d h_d => ?_, fun r h_r => ?_⟩
  · rw [List.mem_singleton.mp h_r]
    exact isStorable_invalidResult
  · rw [List.mem_singleton.mp h_d]
    rfl
  · rw [List.mem_singleton.mp h_r]
    exact ⟨rfl, _, rfl, rfl⟩

/-- The save succeeds, and no violation is read where ten were stored. -/
theorem missingResult_changes :
    IsStorable missingResult ∧
      errorOf (saveAssessmentAtomic plainRuntime fullCatalog claimedOne.db
        (completenessReport missingResult) [missingResult] 1) = none ∧
      ¬ RoundTrips String.toUpper .inOrder (savedReport missingResult).db
        (completenessReport missingResult) [missingResult] none := by
  have h_saved : errorOf (saveAssessmentAtomic plainRuntime fullCatalog claimedOne.db
      (completenessReport missingResult) [missingResult] 1) = none := by
    decide +kernel
  have h_results : (getRuleResults .inOrder (savedReport missingResult).db (.repeated 7) none).map
      (·.violationsCount) = [0] := by
    decide +kernel
  refine ⟨isStorable_missingResult, h_saved, ?_⟩
  rintro ⟨-, rs, h_perm, h_same⟩
  -- ten violations were stored, and none is read
  obtain ⟨r, h_r, h_eq⟩ := exists_right_of_mem h_same List.mem_cons_self
  have h_zero := List.mem_map_of_mem (f := (·.violationsCount)) (h_perm.mem_iff.mp h_r)
  rw [show (completenessReport missingResult).assessmentId = .repeated 7 from rfl, h_results,
    List.mem_singleton, h_eq.violationsCount] at h_zero
  cases h_zero

end DqScoring
