import DqScoring.Compute.RuleFaults

/-!
# What an execution returns

For rules with distinct ids, which the primary key of the rules gives, the dictionaries of
`execute_rules` hold what the check of each rule says (`checkRules_eq`). The outcome is
then a function of the checks (`executeRules_eq`): the fault of the shared query, or one
output for every rule. The query raises exactly when one of the measured rules makes it
raise (`queryFault_eq_none`).
-/

namespace DqScoring

open Framework

variable {α δ : Type}

/-! ### Entries by key -/

section Entries

variable {ρ κ β : Type} [DecidableEq κ] (key : ρ → κ) (f : ρ → Option β)

/-- A key that no element has is not found. -/
theorem lookup_entries_of_notMem {l : List ρ} {k : κ} (h : k ∉ l.map key) :
    (l.filterMap fun r => (f r).map (Prod.mk (key r))).lookup k = none := by
  induction l with
  | nil => rfl
  | cons x l ih =>
    rw [List.map_cons, List.mem_cons, not_or] at h
    cases h_x : f x with
    | none => simpa [h_x] using ih h.2
    | some b =>
      simp only [List.filterMap_cons, h_x, Option.map_some, List.lookup_cons, beq_false_of_ne h.1]
      exact ih h.2

/-- The entry of an item, where the keys are distinct. -/
theorem lookup_entries {l : List ρ} (h : (l.map key).Nodup) {r : ρ} (h_r : r ∈ l) :
    (l.filterMap fun r => (f r).map (Prod.mk (key r))).lookup (key r) = f r := by
  induction l with
  | nil => cases h_r
  | cons x l ih =>
    rw [List.map_cons, List.nodup_cons] at h
    rcases List.mem_cons.mp h_r with rfl | h_tail
    · cases h_x : f r with
      | none => simpa [h_x] using lookup_entries_of_notMem key f h.1
      | some b => simp [h_x]
    · -- the head has another key, with or without an entry
      have h_ne : key r ≠ key x := fun h_eq => h.1 (h_eq ▸ List.mem_map_of_mem h_tail)
      cases h_x : f x with
      | none => simpa [h_x] using ih h.2 h_tail
      | some b =>
        simp only [List.filterMap_cons, h_x, Option.map_some, List.lookup_cons,
          beq_false_of_ne h_ne]
        exact ih h.2 h_tail

end Entries

/-- Assigning a new key appends it. -/
theorem assign_of_notMem {β : Type} {d : List (Uuid × β)} {k : Uuid} {v : β}
    (h : k ∉ d.map (·.1)) : assign d k v = d ++ [(k, v)] := by
  have h_absent : ¬ d.any (fun entry => entry.1 = k) = true := by
    rw [List.any_eq_true]
    rintro ⟨entry, h_entry, h_key⟩
    exact h (List.mem_map.mpr ⟨entry, h_entry, of_decide_eq_true h_key⟩)
  rw [assign, if_neg h_absent]

/-! ### The rows of the query -/

/-- Every row gets a number. -/
theorem length_rowNumbers (seen cells : List (Option String)) :
    (rowNumbers seen cells).length = cells.length := by
  induction cells generalizing seen with
  | nil => rfl
  | cons c cells ih => rw [rowNumbers, List.length_cons, List.length_cons, ih]

/-- A window changes no cell. -/
theorem cells_withRowNumber (ruleId : Uuid) (column : String) (rows : List Row) :
    (withRowNumber ruleId column rows).map (·.cell) = rows.map (·.cell) := by
  refine List.ext_getElem ?_ fun i h_i h_i' => ?_
  · simp [withRowNumber, length_rowNumbers]
  · simp [withRowNumber]

/-- Row numbers leave the cells as they are. -/
theorem cells_evalRows (compiled : List CompiledRule) (rows : List Row) :
    (evalRows compiled rows).map (·.cell) = rows.map (·.cell) := by
  unfold evalRows
  induction compiled generalizing rows with
  | nil => rfl
  | cons cr compiled ih =>
    rw [List.foldl_cons, ih]
    split
    · split
      · exact cells_withRowNumber ..
      · rfl
    · rfl

/-- The windows add no row. -/
theorem length_evalRows (compiled : List CompiledRule) (rows : List Row) :
    (evalRows compiled rows).length = rows.length := by
  have h_cells := congrArg List.length (cells_evalRows compiled rows)
  rwa [List.length_map, List.length_map] at h_cells

/-- The windows change no cell of any row. -/
theorem forall_evalRows (compiled : List CompiledRule) (rows : List Row)
    (p : (String → Option String) → Prop) :
    (∀ row ∈ evalRows compiled rows, p row.cell) ↔ ∀ row ∈ rows, p row.cell := by
  rw [← List.forall_mem_map, cells_evalRows, List.forall_mem_map]

section Execution

variable [LinearOrder δ] {rt : Runtime δ} {snapshot : Snapshot}

/-! ### The first loop -/

/-- The output of a rule that its check refuses. -/
def refused (rt : Runtime δ) (snapshot : Snapshot) (rule : QualityRule α) :
    Option RuleExecutionOutput :=
  match checkRule rt snapshot rule with
  | .error message => some (failedOutput rule.ruleId message)
  | .ok _ => none

/-- The entries of `compiled_map`. -/
def compiledEntries (rt : Runtime δ) (snapshot : Snapshot) (rules : List (QualityRule α)) :
    List (Uuid × CompiledRule) :=
  rules.filterMap fun r => (checkRule rt snapshot r).toOption.map (Prod.mk r.ruleId)

/-- The entries of `failed_outputs`. -/
def failedEntries (rt : Runtime δ) (snapshot : Snapshot) (rules : List (QualityRule α)) :
    List (Uuid × RuleExecutionOutput) :=
  rules.filterMap fun r => (refused rt snapshot r).map (Prod.mk r.ruleId)

/-- The loop over the rules sorts them into compiled and failed ones. -/
theorem foldl_addRule {rules : List (QualityRule α)} (acc : CheckedRules)
    (h_ids : (rules.map (·.ruleId)).Nodup)
    (h_compiled : ∀ r ∈ rules, r.ruleId ∉ acc.compiledMap.map (·.1))
    (h_failed : ∀ r ∈ rules, r.ruleId ∉ acc.failedOutputs.map (·.1)) :
    rules.foldl (addRule rt snapshot) acc =
      { compiledMap := acc.compiledMap ++ compiledEntries rt snapshot rules
        failedOutputs := acc.failedOutputs ++ failedEntries rt snapshot rules } := by
  -- the ids still to come are new to both dictionaries, which each turn keeps
  induction rules generalizing acc with
  | nil => simp [compiledEntries, failedEntries]
  | cons r rules ih =>
    rw [List.map_cons, List.nodup_cons] at h_ids
    have h_new : ∀ r' ∈ rules, r'.ruleId ≠ r.ruleId := by
      intro r' h_r' h_eq
      exact h_ids.1 (List.mem_map.mpr ⟨r', h_r', h_eq⟩)
    have h_compiled_tail := fun r' h_r' => h_compiled r' (List.mem_cons_of_mem r h_r')
    have h_failed_tail := fun r' h_r' => h_failed r' (List.mem_cons_of_mem r h_r')
    rw [List.foldl_cons]
    cases h_check : checkRule rt snapshot r with
    | error message =>
      -- the rule is refused: its output goes to `failed_outputs`
      let next : CheckedRules :=
        { acc with
          failedOutputs := acc.failedOutputs ++ [(r.ruleId, failedOutput r.ruleId message)] }
      have h_step : addRule rt snapshot acc r = next := by
        rw [addRule, h_check]
        simp only [assign_of_notMem (h_failed r List.mem_cons_self), next]
      have h_next : ∀ r' ∈ rules, r'.ruleId ∉ next.failedOutputs.map (·.1) := by
        intro r' h_r'
        simp [next, h_new r' h_r', h_failed_tail r' h_r']
      rw [h_step, ih next h_ids.2 h_compiled_tail h_next]
      simp [next, compiledEntries, failedEntries, refused, h_check, Except.toOption]
    | ok cr =>
      -- the rule compiles: it goes to `compiled_map` and into the query
      let next : CheckedRules := { acc with compiledMap := acc.compiledMap ++ [(r.ruleId, cr)] }
      have h_step : addRule rt snapshot acc r = next := by
        rw [addRule, h_check]
        simp only [assign_of_notMem (h_compiled r List.mem_cons_self), next]
      have h_next : ∀ r' ∈ rules, r'.ruleId ∉ next.compiledMap.map (·.1) := by
        intro r' h_r'
        simp [next, h_new r' h_r', h_compiled_tail r' h_r']
      rw [h_step, ih next h_ids.2 h_next h_failed_tail]
      simp [next, compiledEntries, failedEntries, refused, h_check, Except.toOption]

/-- The dictionaries hold what the check of each rule says. -/
theorem checkRules_eq {rules : List (QualityRule α)} (h_ids : (rules.map (·.ruleId)).Nodup) :
    checkRules rt snapshot rules =
      { compiledMap := compiledEntries rt snapshot rules
        failedOutputs := failedEntries rt snapshot rules } := by
  rw [checkRules, foldl_addRule _ h_ids (by simp) (by simp)]
  simp

/-- The rule compiles, its columns are in the dataset and are of the kind its type reads,
and the pattern of a JSON field rule is valid. -/
structure PassesChecks (rt : Runtime δ) (snapshot : Snapshot) (rule : QualityRule α)
    (cr : CompiledRule) : Prop where
  compiles : compileRule rt rule = .ok cr
  columns : ∀ c ∈ cr.referencedColumns, c ∈ snapshot.data.columns
  matched : isStructuralMismatch snapshot (rt.python.upper rule.ruleType) cr = false
  regex : isRegexRefused rt.spark (rt.python.upper rule.ruleType) rule.parameters = false

/-- The pattern of a JSON field rule that passes the checks does not stop the query. -/
theorem PassesChecks.not_startFault {rule : QualityRule α} {cr : CompiledRule}
    (h : PassesChecks rt snapshot rule cr) (h_kind : ruleKind rt.python rule = some .jsonField) :
    ¬ StartFault rt rule := by
  -- the type has no alias, so the engine tries the pattern of every such rule
  have h_names : ∀ s, (s, RuleKind.jsonField) ∈ compilers → s = "JSON_FIELD" := by
    simp [compilers]
  obtain ⟨before, after, h_compilers, _⟩ := List.lookup_eq_some_iff.mp h_kind
  have h_type : rt.python.upper rule.ruleType = "JSON_FIELD" :=
    h_names _ (by simp [h_compilers])
  unfold StartFault
  rw [h_kind]
  rintro ⟨params, h_params, _, h_check, h_pattern⟩
  obtain ⟨h_regex, h_text⟩ := JsonFieldParameters.regex_of_validate h_params h_check
  -- the pattern was tried, and it is the one in the conditions
  have h_refused : isRegexRefused rt.spark "JSON_FIELD" rule.parameters = true := by
    simp [isRegexRefused, h_regex, h_text, PyValue.text?, h_pattern]
  rw [← h_type, h.regex] at h_refused
  cases h_refused

/-- A rule is queried when it passes all checks in front of the query. -/
theorem checkRule_ok_iff {rule : QualityRule α} {cr : CompiledRule} :
    checkRule rt snapshot rule = .ok cr ↔ PassesChecks rt snapshot rule cr := by
  constructor
  · intro h
    unfold checkRule at h
    split at h
    case h_1 => cases h
    case h_2 cr' h_compile =>
      split at h
      case h_1 => cases h
      case h_2 h_find =>
        dsimp only at h
        split at h
        case isTrue => cases h
        case isFalse h_mismatch =>
          split at h
          case isTrue => cases h
          case isFalse h_refused =>
            cases h
            exact ⟨h_compile, by simpa using List.find?_eq_none.mp h_find,
              by simpa using h_mismatch, by simpa using h_refused⟩
  · rintro ⟨h_compile, h_columns, h_mismatch, h_refused⟩
    have h_find : cr.referencedColumns.find? (fun c => !snapshot.data.columns.contains c) =
        none := by
      rw [List.find?_eq_none]
      simpa using h_columns
    simp only [checkRule, h_compile, h_find, h_mismatch, h_refused]
    rfl

/-! ### The outcome -/

/-- The compiled forms of the rules that are measured. -/
def measuredRules (rt : Runtime δ) (snapshot : Snapshot) (rules : List (QualityRule α)) :
    List CompiledRule :=
  rules.filterMap fun r => (checkRule rt snapshot r).toOption

/-- The output of a rule, given the rows of the query. -/
def ruleOutput (rt : Runtime δ) (snapshot : Snapshot) (sampleLimit : ℕ) (rows : List Row)
    (rule : QualityRule α) : RuleExecutionOutput :=
  match checkRule rt snapshot rule with
  | .error message => failedOutput rule.ruleId message
  | .ok cr => cr.output rule.ruleId snapshot.totalRows sampleLimit rows

/-- Each rule has an output of its own. -/
theorem ruleOutput_ruleId (sampleLimit : ℕ) (rows : List Row) (rule : QualityRule α) :
    (ruleOutput rt snapshot sampleLimit rows rule).ruleId = rule.ruleId := by
  unfold ruleOutput
  split <;> rfl

/-- On an empty snapshot every rule is not measurable, without being checked. -/
theorem executeRules_of_noRows {rules : List (QualityRule α)} {sampleLimit : ℕ}
    (h_empty : snapshot.totalRows = 0) :
    executeRules rt snapshot rules sampleLimit =
      .ok (rules.map fun r => { ruleId := r.ruleId, counts := {}, status := .notMeasurable }) := by
  rw [executeRules, if_pos h_empty]

/-- **The outcome of an execution** on a snapshot with rows. -/
theorem executeRules_eq {rules : List (QualityRule α)} {sampleLimit : ℕ}
    (h_rows : snapshot.totalRows ≠ 0) (h_ids : (rules.map (·.ruleId)).Nodup) :
    executeRules rt snapshot rules sampleLimit =
      match queryFault (measuredRules rt snapshot rules)
        (evalRows (measuredRules rt snapshot rules) snapshot.data.rows) with
      | some fault => .error fault
      | none => .ok (rules.map (ruleOutput rt snapshot sampleLimit
          (evalRows (measuredRules rt snapshot rules) snapshot.data.rows))) := by
  -- the dictionaries hold the compiled rules in their order
  have h_measured : (compiledEntries rt snapshot rules).map (·.2) =
      measuredRules rt snapshot rules := by
    rw [compiledEntries, List.map_filterMap, measuredRules]
    refine List.filterMap_congr fun r _ => ?_
    cases (checkRule rt snapshot r).toOption <;> rfl
  -- a refused rule is found among the failed outputs only
  have h_failed : ∀ r ∈ rules, (failedEntries rt snapshot rules).lookup r.ruleId =
      refused rt snapshot r := fun r h_r =>
    lookup_entries (fun r : QualityRule α => r.ruleId) (refused rt snapshot) h_ids h_r
  -- a compiled rule is found among the compiled rules only
  have h_compiled : ∀ r ∈ rules, (compiledEntries rt snapshot rules).lookup r.ruleId =
      (checkRule rt snapshot r).toOption := fun r h_r =>
    lookup_entries (fun r : QualityRule α => r.ruleId) (fun r => (checkRule rt snapshot r).toOption)
      h_ids h_r
  unfold executeRules
  simp only [if_neg h_rows, checkRules_eq h_ids, h_measured]
  split
  case isTrue h_empty =>
    -- every rule is refused
    have h_nil : measuredRules rt snapshot rules = [] := List.isEmpty_iff.mp h_empty
    have h_none : ∀ r ∈ rules, (checkRule rt snapshot r).toOption = none :=
      List.filterMap_eq_nil_iff.mp h_nil
    rw [h_nil]
    refine congrArg Except.ok (List.map_congr_left fun r h_r => ?_)
    rw [unmeasuredOutput, h_failed r h_r, refused, ruleOutput]
    cases h_check : checkRule rt snapshot r with
    | error message => rfl
    | ok cr =>
      have h_absent := h_none r h_r
      rw [h_check] at h_absent
      cases h_absent
  case isFalse =>
    -- the query runs, and each output is looked up in the dictionaries
    cases queryFault (measuredRules rt snapshot rules)
      (evalRows (measuredRules rt snapshot rules) snapshot.data.rows) with
    | some fault => rfl
    | none =>
      refine congrArg Except.ok (List.map_congr_left fun r h_r => ?_)
      rw [h_failed r h_r, h_compiled r h_r, unmeasuredOutput, h_failed r h_r, refused, ruleOutput]
      cases checkRule rt snapshot r with
      | error message => rfl
      | ok cr => rfl

/-- No rule that passes the checks makes the query raise. -/
def NoneRaises (rt : Runtime δ) (snapshot : Snapshot) (rules : List (QualityRule α)) : Prop :=
  ∀ r ∈ rules, ∀ cr, PassesChecks rt snapshot r cr →
    ¬ StartFault rt r ∧ ∀ row ∈ snapshot.data.rows, ¬ CellFault rt r (row.cell cr.targetColumn)

/-- **When the query raises**: exactly when one of the measured rules makes it raise. -/
theorem queryFault_eq_none {rules : List (QualityRule α)} :
    queryFault (measuredRules rt snapshot rules)
        (evalRows (measuredRules rt snapshot rules) snapshot.data.rows) = none ↔
      NoneRaises rt snapshot rules := by
  have h_measured : ∀ cr, cr ∈ measuredRules rt snapshot rules ↔
      ∃ r ∈ rules, PassesChecks rt snapshot r cr := by
    intro cr
    rw [measuredRules, List.mem_filterMap]
    refine exists_congr fun r => and_congr_right fun _ => ?_
    rw [← checkRule_ok_iff]
    cases checkRule rt snapshot r <;> simp [Except.toOption]
  -- for one rule: its conditions are the cascade of its guards, and row numbers leave the
  -- cells as they are
  have h_quiet : ∀ (r : QualityRule α) cr, PassesChecks rt snapshot r cr →
      ((∀ b ∈ cr.buckets,
          b.raises (evalRows (measuredRules rt snapshot rules) snapshot.data.rows) = none) ↔
        ¬ StartFault rt r ∧
          ∀ row ∈ snapshot.data.rows, ¬ CellFault rt r (row.cell cr.targetColumn)) := by
    intro r cr h_check
    have h_behaves := (compileRule_behaves h_check.compiles).behaves
    rw [CompiledRule.buckets_eq, ← List.findSome?_eq_none_iff, Column.raises_cascade,
      h_behaves.start_iff]
    refine and_congr_right fun _ => ?_
    simp only [h_behaves.fault_iff]
    exact forall_evalRows _ _ fun cell => ¬ CellFault rt r (cell cr.targetColumn)
  rw [queryFault, List.findSome?_eq_none_iff]
  simp only [List.mem_flatMap, forall_exists_index, and_imp]
  constructor
  · intro h r h_r cr h_check
    have h_cr := (h_measured cr).mpr ⟨r, h_r, h_check⟩
    exact (h_quiet r cr h_check).mp fun b h_b => h b cr h_cr h_b
  · intro h b cr h_cr h_b
    obtain ⟨r, h_r, h_check⟩ := (h_measured cr).mp h_cr
    exact (h_quiet r cr h_check).mpr (h r h_r cr h_check) b h_b

end Execution

end DqScoring
