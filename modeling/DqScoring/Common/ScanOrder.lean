import DqScoring.Common.PrivacyScanner
import DqScoring.Framework.BoundedFold
import Mathlib.Algebra.BigOperators.Group.List.Basic

/-!
# The order of the rows of a scan

What a row adds to the accumulator does not depend on what was fed before. States add up, and
the state after some rows is the sum of what they contribute (`bounded_feedRows`), so that it
is the same for every order of the rows. The marks of `finish` depend on the set of marked
columns only (`count_markColumns`), whatever the order in which the set is iterated.
-/

open Framework

namespace DqScoring

namespace ScannerState

/-- Two scanner states are equal when all five fields of the scan agree. -/
@[ext] theorem ext {st st' : ScannerState} (h_seen : st.seenPaths = st'.seenPaths)
    (h_observed : st.observedCounts = st'.observedCounts)
    (h_matched : st.matchedCounts = st'.matchedCounts)
    (h_cols : st.topLevelCols = st'.topLevelCols) (h_rows : st.totalRows = st'.totalRows) :
    st = st' := by
  cases st
  cases st'
  simp_all

/-- What two states have seen together. -/
instance : Add ScannerState where
  add st st' :=
    { seenPaths := st.seenPaths ∪ st'.seenPaths
      observedCounts := st.observedCounts + st'.observedCounts
      matchedCounts := st.matchedCounts + st'.matchedCounts
      topLevelCols := st.topLevelCols ∪ st'.topLevelCols
      totalRows := st.totalRows + st'.totalRows }

instance : Zero ScannerState where
  zero := {}

variable (st st' : ScannerState)

@[simp] theorem seenPaths_add : (st + st').seenPaths = st.seenPaths ∪ st'.seenPaths := rfl

@[simp] theorem observedCounts_add :
    (st + st').observedCounts = st.observedCounts + st'.observedCounts := rfl

@[simp] theorem matchedCounts_add :
    (st + st').matchedCounts = st.matchedCounts + st'.matchedCounts := rfl

@[simp] theorem topLevelCols_add :
    (st + st').topLevelCols = st.topLevelCols ∪ st'.topLevelCols := rfl

@[simp] theorem totalRows_add : (st + st').totalRows = st.totalRows + st'.totalRows := rfl

@[simp] theorem seenPaths_zero : (0 : ScannerState).seenPaths = ∅ := rfl

@[simp] theorem observedCounts_zero : (0 : ScannerState).observedCounts = 0 := rfl

@[simp] theorem matchedCounts_zero : (0 : ScannerState).matchedCounts = 0 := rfl

@[simp] theorem topLevelCols_zero : (0 : ScannerState).topLevelCols = ∅ := rfl

@[simp] theorem totalRows_zero : (0 : ScannerState).totalRows = 0 := rfl

instance : AddCommMonoid ScannerState where
  add_assoc a b c := by
    ext1 <;> simp [Multiset.add_assoc, Nat.add_assoc, Finset.union_assoc]
  add_comm a b := by
    ext1 <;> simp [Multiset.add_comm, Nat.add_comm, Finset.union_comm]
  zero_add a := by
    ext1 <;> simp
  add_zero a := by
    ext1 <;> simp
  nsmul := nsmulRec

end ScannerState

/-! ### What a row contributes -/

namespace Detectors

variable (t : ScannerTables) (d : Detectors)

/-- What a leaf adds to the state. -/
def leafState (leaf : String × String × ScanValue) : ScannerState where
  seenPaths := {(leaf.1, leaf.2.1)}
  observedCounts := {(leaf.1, leaf.2.1)}
  matchedCounts :=
    match d.leafHits t leaf.1 leaf.2.2 with
    | .ok hits => hits.map (matchKey leaf.1 leaf.2.1)
    | .error _ => 0

/-- What a row adds to the state. -/
def rowState (row : ScanRow) : ScannerState :=
  { topLevelCols := (row.map Prod.fst).toFinset, totalRows := 1 } +
    ((ScanValue.rowLeaves row).map (d.leafState t)).sum

variable {t d}

/-- A loop that adds one state per element computes a sum, and a sum forgets the order of
its terms. -/
theorem foldl_add {α : Type} (f : α → ScannerState) (l : List α) (st : ScannerState) :
    l.foldl (fun st a => st + f a) st = st + (l.map f).sum := by
  induction l generalizing st with
  | nil => exact (add_zero st).symm
  | cons a l ih => rw [List.foldl_cons, ih, List.map_cons, List.sum_cons, add_assoc]

/-- Adding a state never lowers the number of distinct paths seen. -/
theorem card_seenPaths_le (st st' : ScannerState) :
    st.seenPaths.card ≤ (st + st').seenPaths.card :=
  Finset.card_le_card Finset.subset_union_left

/-- The number of the paths seen. -/
abbrev pathCount (st : ScannerState) : ℕ := st.seenPaths.card

/-- `_feed_leaf` adds the state of its leaf, or raises once more than `MAX_DISTINCT_PATHS`
paths would be seen. -/
theorem bounded_feedLeaf (st : ScannerState) (leaf : String × String × ScanValue)
    (h_st : pathCount st ≤ maxDistinctPaths) :
    Bounded .limitExceeded pathCount maxDistinctPaths (d.feedLeaf t st leaf)
      (st + d.leafState t leaf) := by
  obtain ⟨col, path, value⟩ := leaf
  have h_insert : st.seenPaths ∪ {(col, path)} = insert (col, path) st.seenPaths := by
    rw [Finset.union_comm, Finset.singleton_union]
  unfold feedLeaf
  dsimp only
  split
  · next h_limit =>
    refine Or.inr (Or.inl ⟨rfl, ?_⟩)
    show maxDistinctPaths < (st.seenPaths ∪ {(col, path)}).card
    rw [h_insert, Finset.card_insert_of_notMem h_limit.1]
    exact Nat.lt_succ_of_le h_limit.2
  · next h_room =>
    split
    · next e h_hits => exact Or.inl ⟨.other e, rfl, ScanError.noConfusion⟩
    · next hits h_hits =>
      refine Or.inr (Or.inr ⟨congrArg Except.ok ?_, ?_⟩)
      · ext1
        · exact h_insert.symm
        · show (col, path) ::ₘ st.observedCounts = st.observedCounts + {(col, path)}
          rw [Multiset.add_comm, Multiset.singleton_add]
        · show _ = st.matchedCounts + (d.leafState t (col, path, value)).matchedCounts
          rw [leafState, h_hits]
        · exact (Finset.union_empty _).symm
        · rfl
      · show (st.seenPaths ∪ {(col, path)}).card ≤ maxDistinctPaths
        rw [h_insert]
        by_cases h_mem : (col, path) ∈ st.seenPaths
        · rw [Finset.insert_eq_of_mem h_mem]
          exact h_st
        · rw [Finset.card_insert_of_notMem h_mem]
          exact Nat.lt_of_not_le fun h => h_room ⟨h_mem, h⟩

/-- `feed_row` adds the state of its row under the same bound, by the fold over the row's
leaves. -/
theorem bounded_feedRow (st : ScannerState) (row : ScanRow)
    (h_st : pathCount st ≤ maxDistinctPaths) :
    Bounded .limitExceeded pathCount maxDistinctPaths (d.feedRow t st row)
      (st + d.rowState t row) := by
  have h_start : pathCount { st with
      totalRows := st.totalRows + 1
      topLevelCols := st.topLevelCols ∪ (row.map Prod.fst).toFinset } ≤ maxDistinctPaths := h_st
  have h_leaves := Bounded.foldlM (fun st leaf => card_seenPaths_le st (d.leafState t leaf))
    bounded_feedLeaf (ScanValue.rowLeaves row) h_start
  rw [foldl_add] at h_leaves
  have h_header : ({ st with
      totalRows := st.totalRows + 1
      topLevelCols := st.topLevelCols ∪ (row.map Prod.fst).toFinset } : ScannerState) =
        st + { topLevelCols := (row.map Prod.fst).toFinset, totalRows := 1 } := by
    ext1 <;> simp
  rw [rowState, ← add_assoc, ← h_header]
  exact h_leaves

/-- The state after some rows is the sum of what they contribute. -/
theorem bounded_feedRows (st : ScannerState) (rows : List ScanRow)
    (h_st : pathCount st ≤ maxDistinctPaths) :
    Bounded .limitExceeded pathCount maxDistinctPaths (rows.foldlM (d.feedRow t) st)
      (st + (rows.map (d.rowState t)).sum) := by
  rw [← foldl_add]
  exact Bounded.foldlM (fun st row => card_seenPaths_le st (d.rowState t row)) bounded_feedRow
    rows h_st

/-! ### No match without a value -/

/-- The key of the match counter spells out column, path and rule, so no two of them share a
counter. -/
@[simp] theorem matchKey_inj {col col' path path' key key' : String} :
    matchKey col path key = matchKey col' path' key' ↔ col = col' ∧ path = path' ∧ key = key' := by
  unfold matchKey
  simp only [EmbeddingLike.apply_eq_iff_eq, Prod.mk.injEq]

variable (d) in
/-- The detectors of values have different keys. -/
def Distinct : Prop := (d.customValue.map Prod.fst ++ d.builtins.map fun e => e.2.1).Nodup

/-- What a lookup finds is an entry of the list. -/
theorem mem_of_lookup {κ β : Type} [BEq κ] [LawfulBEq κ] {l : List (κ × β)} {a : κ} {b : β}
    (h : l.lookup a = some b) : (a, b) ∈ l := by
  obtain ⟨l₁, l₂, rfl, -⟩ := List.lookup_eq_some_iff.mp h
  exact List.mem_append_right _ List.mem_cons_self

theorem nodup_valueCodes : valueCodes.Nodup := by decide

/-- Distinct codes give distinct rule keys, as the built-in table is one to one. -/
theorem nodup_builtinKeys (h : d.Distinct) {codes : List BuiltinCode} (h_codes : codes.Nodup) :
    (d.builtinKeys codes).Nodup := by
  have h_entries : (d.builtins.map fun e => e.2.1).Nodup := (List.nodup_append'.mp h).2.1
  refine h_codes.filterMap fun code code' key h_key h_key' => ?_
  obtain ⟨⟨key, rule⟩, h_find, rfl⟩ := Option.mem_map.mp h_key
  obtain ⟨⟨key', rule'⟩, h_find', h_eq⟩ := Option.mem_map.mp h_key'
  -- one key belongs to one entry
  have h_mem : (code, key, rule) ∈ d.builtins := mem_of_lookup h_find
  have h_mem' : (code', key', rule') ∈ d.builtins := mem_of_lookup h_find'
  have h_entry := List.inj_on_of_nodup_map h_entries h_mem h_mem' h_eq.symm
  exact congrArg Prod.fst h_entry

/-- The key of a built-in rule comes from the built-in table. -/
theorem mem_builtins_of_mem_builtinKeys {codes : List BuiltinCode} {key : String}
    (h : key ∈ d.builtinKeys codes) : key ∈ d.builtins.map fun e => e.2.1 := by
  obtain ⟨code, -, h_key⟩ := List.mem_filterMap.mp h
  obtain ⟨⟨key, rule⟩, h_find, rfl⟩ := Option.mem_map.mp h_key
  exact List.mem_map.mpr ⟨_, mem_of_lookup h_find, rfl⟩

/-- The built-in checks report some of the value codes, each at most once and in their
order. -/
theorem sublist_of_scanBuiltinLeaf {topCol sval : String} {codes codes' : List BuiltinCode}
    (h : t.scanBuiltinLeaf topCol sval codes = .ok codes') : codes'.Sublist codes := by
  unfold ScannerTables.scanBuiltinLeaf at h
  split at h
  · obtain rfl := Except.ok.inj h
    exact List.nil_sublist _
  · split at h
    · cases h_card : t.isCard sval with
      | error e =>
        rw [h_card] at h
        cases h
      | ok card =>
        rw [h_card] at h
        obtain rfl := Except.ok.inj h
        exact List.filter_sublist
    · obtain rfl := Except.ok.inj h
      exact List.filter_sublist

/-- A leaf hits each built-in rule at most once, and only rules of the table. -/
theorem builtinHits_spec (h : d.Distinct) {col : String} {leaf : ScanValue} {hits : List String}
    (h_hits : d.builtinHits t col leaf = .ok hits) :
    hits.Nodup ∧ hits ⊆ d.builtins.map fun e => e.2.1 := by
  unfold builtinHits at h_hits
  split at h_hits
  · obtain rfl := Except.ok.inj h_hits
    exact ⟨List.nodup_nil, List.nil_subset _⟩
  · cases h_text : leaf.text with
    | error e =>
      rw [h_text] at h_hits
      cases h_hits
    | ok sval =>
      cases h_codes : t.scanBuiltinLeaf col (pyStrip sval) (d.builtinCodes col) with
      | error e =>
        simp only [h_text, h_codes, bind, Except.bind] at h_hits
        cases h_hits
      | ok codes =>
        simp only [h_text, h_codes, bind, Except.bind] at h_hits
        obtain rfl := Except.ok.inj h_hits
        have h_plan : (d.builtinCodes col).Nodup := nodup_valueCodes.filter _
        have h_nodup := h_plan.sublist (sublist_of_scanBuiltinLeaf h_codes)
        exact ⟨nodup_builtinKeys h h_nodup, fun _ => mem_builtins_of_mem_builtinKeys⟩

/-- A leaf hits some of the custom value rules, in their order. -/
theorem sublist_customHits (col : String) (leaf : ScanValue) :
    (d.customHits t col leaf).Sublist (d.customValue.map Prod.fst) := by
  cases leaf with
  | str s => exact (List.filter_sublist.trans List.filter_sublist).map _
  | none => exact List.nil_sublist _
  | scalar text => exact List.nil_sublist _
  | dict entries => exact List.nil_sublist _
  | list items => exact List.nil_sublist _

/-- No rule is counted twice for one leaf: this is what keeps the ratio at most one. -/
theorem nodup_leafHits (h : d.Distinct) {col : String} {leaf : ScanValue} {hits : List String}
    (h_hits : d.leafHits t col leaf = .ok hits) : hits.Nodup := by
  obtain ⟨h_custom, -, h_disjoint⟩ := List.nodup_append'.mp h
  unfold leafHits at h_hits
  cases h_builtin : d.builtinHits t col leaf with
  | error e =>
    rw [h_builtin] at h_hits
    cases h_hits
  | ok builtin =>
    rw [h_builtin] at h_hits
    obtain rfl := Except.ok.inj h_hits
    obtain ⟨h_nodup, h_keys⟩ := builtinHits_spec h h_builtin
    have h_sublist := sublist_customHits (t := t) (d := d) col leaf
    refine List.nodup_append'.mpr ⟨h_custom.sublist h_sublist, h_nodup, fun key h_key h_key' => ?_⟩
    exact h_disjoint (h_sublist.subset h_key) (h_keys h_key')

/-- No detector has counted more matches at a path than values were seen there. -/
def MatchesObserved (st : ScannerState) : Prop :=
  ∀ col path key,
    st.matchedCounts.count (matchKey col path key) ≤ st.observedCounts.count (col, path)

/-- One leaf raises `observed_counts` by one, and no entry of `matched_counts` by more than
that. -/
theorem matchesObserved_leafState (h : d.Distinct) (leaf : String × String × ScanValue) :
    MatchesObserved (d.leafState t leaf) := by
  obtain ⟨col, path, value⟩ := leaf
  intro col' path' key
  unfold leafState
  dsimp only
  split
  · next hits h_hits =>
    have h_nodup := nodup_leafHits h h_hits
    have h_inj : Function.Injective (matchKey col path) := fun _ _ h_eq =>
      (matchKey_inj.mp h_eq).2.2
    by_cases h_path : (col', path') = (col, path)
    · obtain ⟨rfl, rfl⟩ := Prod.mk.inj h_path
      rw [Multiset.count_singleton_self]
      have h_keys : ((hits.map (matchKey col' path') : List MatchKey) : Multiset MatchKey).Nodup :=
        Multiset.coe_nodup.mpr (h_nodup.map h_inj)
      exact Multiset.nodup_iff_count_le_one.mp h_keys _
    · rw [Multiset.count_eq_zero.mpr]
      · exact Nat.zero_le _
      · intro h_mem
        obtain ⟨key', -, h_eq⟩ := List.mem_map.mp (Multiset.mem_coe.mp h_mem)
        obtain ⟨rfl, rfl, -⟩ := matchKey_inj.mp h_eq
        exact h_path rfl
  · rw [Multiset.count_zero]
    exact Nat.zero_le _

/-- The counters are added, and both sides of the bound with them. -/
theorem MatchesObserved.add {st st' : ScannerState} (h : MatchesObserved st)
    (h' : MatchesObserved st') : MatchesObserved (st + st') := by
  intro col path key
  rw [ScannerState.matchedCounts_add, ScannerState.observedCounts_add, Multiset.count_add,
    Multiset.count_add]
  exact Nat.add_le_add (h col path key) (h' col path key)

/-- Columns and row numbers touch neither counter. -/
theorem matchesObserved_header (cols : Finset String) (n : ℕ) :
    MatchesObserved { topLevelCols := cols, totalRows := n } := fun _ _ _ => Nat.le_refl _

/-- The bound holds of every sum of states that each satisfy it. -/
theorem matchesObserved_sum {α : Type} {f : α → ScannerState} (h : ∀ a, MatchesObserved (f a))
    (l : List α) : MatchesObserved (l.map f).sum := by
  induction l with
  | nil => exact matchesObserved_header ∅ 0
  | cons a l ih =>
    rw [List.map_cons, List.sum_cons]
    exact (h a).add ih

/-- One row keeps the matches below the observations. -/
theorem matchesObserved_rowState (h : d.Distinct) (row : ScanRow) :
    MatchesObserved (d.rowState t row) :=
  (matchesObserved_header _ _).add (matchesObserved_sum (matchesObserved_leafState h) _)

/-! ### The keys of a set of rules -/

theorem distinct_ofBuiltins : ofBuiltins.Distinct := by
  unfold Distinct
  decide

/-- The text of a rule's identifier. -/
abbrev ruleKey (t : ScannerTables) (r : PrivacyDetectorRule) : String := t.ruleIdText r.ruleId

/-- The built-in entries of a pinned rule list keep the ids of that list, in its order. -/
theorem sublist_builtins (entries : List (String × PrivacyDetectorRule)) :
    ((entries.filterMap fun (key, r) => r.builtinCode.map fun code => (code, key, some r)).map
      fun e => e.2.1).Sublist (entries.map Prod.fst) := by
  induction entries with
  | nil => exact List.Sublist.slnil
  | cons entry entries ih =>
    obtain ⟨key, r⟩ := entry
    cases h_code : r.builtinCode with
    | none => simpa [h_code] using ih.cons key
    | some code => simpa [h_code] using ih.cons_cons key

/-- Rules with different identifiers have different keys. -/
theorem distinct_ofRules {rules : List PrivacyDetectorRule}
    (h : (rules.map (ruleKey t)).Nodup) : (ofRules t rules).Distinct := by
  have h_kind : ∀ kind, (keyed t kind (rules.filter PrivacyDetectorRule.enabled)).map Prod.fst =
      ((rules.filter PrivacyDetectorRule.enabled).filter fun r => decide (r.kind = kind)).map
        (ruleKey t) := by
    intro kind
    rw [keyed, List.map_map]
    rfl
  have h_sublist : ∀ kind, ((keyed t kind (rules.filter PrivacyDetectorRule.enabled)).map
      Prod.fst).Sublist (rules.map (ruleKey t)) := by
    intro kind
    rw [h_kind]
    exact (List.filter_sublist.trans List.filter_sublist).map _
  have h_builtins := sublist_builtins
    (keyed t .builtin (rules.filter PrivacyDetectorRule.enabled)).reverse
  rw [List.map_reverse] at h_builtins
  refine List.nodup_append'.mpr ⟨h.sublist (h_sublist _), ?_, fun key h_key h_key' => ?_⟩
  · exact (List.nodup_reverse.mpr (h.sublist (h_sublist .builtin))).sublist h_builtins
  · -- one rule is not of two kinds
    have h_key' := List.mem_reverse.mp (h_builtins.subset h_key')
    have h_key : key ∈ (keyed t .valuePattern _).map Prod.fst := h_key
    rw [h_kind] at h_key h_key'
    obtain ⟨r, h_r, rfl⟩ := List.mem_map.mp h_key
    obtain ⟨r', h_r', h_eq⟩ := List.mem_map.mp h_key'
    obtain ⟨h_r, h_is⟩ := List.mem_filter.mp h_r
    obtain ⟨h_r', h_is'⟩ := List.mem_filter.mp h_r'
    obtain rfl := List.inj_on_of_nodup_map h (List.mem_of_mem_filter h_r')
      (List.mem_of_mem_filter h_r) h_eq
    have h_value := of_decide_eq_true h_is
    rw [of_decide_eq_true h_is'] at h_value
    cases h_value

/-- The rules of a pin have different identifiers: each is the latest revision of its rule. -/
theorem nodup_pinnedRules (h_text : Function.Injective t.ruleIdText)
    {rules : List PrivacyDetectorRule} (h_rules : rules.Nodup) :
    ((pinnedRules rules).map (ruleKey t)).Nodup := by
  have h_latest : ∀ r ∈ pinnedRules rules, latestRevision rules r.ruleId = some r := by
    intro r h_r
    exact of_decide_eq_true (List.mem_filter.mp (List.mem_of_mem_filter h_r)).2
  refine List.Nodup.map_on (fun r h_r r' h_r' h_eq => ?_) ((h_rules.filter _).filter _)
  have h_id : r.ruleId = r'.ruleId := h_text h_eq
  have h_some := h_latest r h_r
  rw [h_id, h_latest r' h_r'] at h_some
  exact (Option.some.inj h_some).symm

/-! ### The marks of the columns -/

/-- The count that a column is marked with. -/
def observedRows (st : ScannerState) (col : String) : ℕ :=
  if st.observedCounts.count (col, "") = 0 then st.totalRows
  else st.observedCounts.count (col, "")

/-- Marking a column by its name counts the rule as matched in every observed row of that
column, and leaves all other counters alone. -/
theorem count_matched_mark (st : ScannerState) (entry : String × String) (col path key : String) :
    (markColumnMatch st entry).matchedCounts.count (matchKey col path key) =
      if path = "" ∧ (col, key) = entry then observedRows st col
      else st.matchedCounts.count (matchKey col path key) := by
  obtain ⟨col', key'⟩ := entry
  show (st.matchedCounts.filter (· ≠ matchKey col' "" key') +
    Multiset.replicate (observedRows st col') (matchKey col' "" key')).count _ = _
  rw [Multiset.count_add, Multiset.count_filter, Multiset.count_replicate]
  by_cases h : path = "" ∧ (col, key) = (col', key')
  · obtain ⟨rfl, h_eq⟩ := h
    obtain ⟨rfl, rfl⟩ := Prod.mk.inj h_eq
    simp
  · have h_ne : matchKey col path key ≠ matchKey col' "" key' := by
      rw [Ne, matchKey_inj]
      rintro ⟨rfl, rfl, rfl⟩
      exact h ⟨rfl, rfl⟩
    rw [if_pos h_ne, if_neg (Ne.symm h_ne), if_neg h, Nat.add_zero]

/-- Marking a column makes its root path observed in every row that has the column. -/
theorem count_observed_mark (st : ScannerState) (entry : String × String) (col path : String) :
    (markColumnMatch st entry).observedCounts.count (col, path) =
      if path = "" ∧ col = entry.1 then observedRows st col
      else st.observedCounts.count (col, path) := by
  obtain ⟨col', key'⟩ := entry
  show (st.observedCounts.filter (· ≠ (col', "")) +
    Multiset.replicate (observedRows st col') (col', "")).count _ = _
  rw [Multiset.count_add, Multiset.count_filter, Multiset.count_replicate]
  by_cases h : path = "" ∧ col = col'
  · obtain ⟨rfl, rfl⟩ := h
    simp
  · have h_ne : (col, path) ≠ (col', "") := by
      rintro h_eq
      obtain ⟨rfl, rfl⟩ := Prod.mk.inj h_eq
      exact h ⟨rfl, rfl⟩
    rw [if_pos h_ne, if_neg (Ne.symm h_ne), if_neg h, Nat.add_zero]

/-- A mark leaves the count that its column is marked with. -/
theorem observedRows_mark (st : ScannerState) (entry : String × String) (col : String) :
    observedRows (markColumnMatch st entry) col = observedRows st col := by
  have h_rows : (markColumnMatch st entry).totalRows = st.totalRows := rfl
  rw [observedRows, count_observed_mark, h_rows]
  by_cases h : "" = "" ∧ col = entry.1
  · rw [if_pos h]
    by_cases h_rows : observedRows st col = 0
    · rw [if_pos h_rows]
      unfold observedRows at h_rows ⊢
      split at h_rows
      · next h_none => rw [if_pos h_none]
      · next h_some => exact absurd h_rows h_some
    · rw [if_neg h_rows]
  · rw [if_neg h]
    rfl

/-- The marks depend on the set of what is marked only. -/
theorem count_foldl_mark (entries : List (String × String)) (st : ScannerState) :
    (∀ col path key, (entries.foldl markColumnMatch st).matchedCounts.count
        (matchKey col path key) =
      if path = "" ∧ (col, key) ∈ entries then observedRows st col
      else st.matchedCounts.count (matchKey col path key)) ∧
    (∀ col path, (entries.foldl markColumnMatch st).observedCounts.count (col, path) =
      if path = "" ∧ col ∈ entries.map Prod.fst then observedRows st col
      else st.observedCounts.count (col, path)) := by
  induction entries generalizing st with
  | nil => simp
  | cons entry entries ih =>
    obtain ⟨h_matched, h_observed⟩ := ih (markColumnMatch st entry)
    rw [List.foldl_cons]
    refine ⟨fun col path key => ?_, fun col path => ?_⟩
    · rw [h_matched, observedRows_mark, count_matched_mark]
      simp only [List.mem_cons]
      by_cases h_entry : path = "" ∧ (col, key) = entry
      · simp [h_entry]
      · by_cases h_mem : path = "" ∧ (col, key) ∈ entries
        · simp [h_mem]
        · rw [if_neg h_mem, if_neg h_entry, if_neg]
          tauto
    · rw [h_observed, observedRows_mark, count_observed_mark]
      simp only [List.map_cons, List.mem_cons]
      by_cases h_entry : path = "" ∧ col = entry.1
      · simp [h_entry]
      · by_cases h_mem : path = "" ∧ col ∈ entries.map Prod.fst
        · rw [if_pos h_mem, if_pos ⟨h_mem.1, Or.inr h_mem.2⟩]
        · rw [if_neg h_mem, if_neg h_entry, if_neg]
          tauto

/-- The marks of the column names change counters only. -/
theorem foldl_mark_fields (entries : List (String × String)) (st : ScannerState) :
    (entries.foldl markColumnMatch st).seenPaths = st.seenPaths ∧
      (entries.foldl markColumnMatch st).topLevelCols = st.topLevelCols ∧
      (entries.foldl markColumnMatch st).totalRows = st.totalRows := by
  induction entries generalizing st with
  | nil => exact ⟨rfl, rfl, rfl⟩
  | cons entry entries ih => exact ih (markColumnMatch st entry)

/-- The order of the marks is immaterial: each one sets its own counters to a value that no
other mark changes. -/
theorem foldl_mark_congr {entries entries' : List (String × String)}
    (h : ∀ e, e ∈ entries ↔ e ∈ entries') (st : ScannerState) :
    entries.foldl markColumnMatch st = entries'.foldl markColumnMatch st := by
  obtain ⟨h_matched, h_observed⟩ := count_foldl_mark entries st
  obtain ⟨h_matched', h_observed'⟩ := count_foldl_mark entries' st
  obtain ⟨h_seen, h_cols, h_rows⟩ := foldl_mark_fields entries st
  obtain ⟨h_seen', h_cols', h_rows'⟩ := foldl_mark_fields entries' st
  have h_marked : ∀ col, col ∈ entries.map Prod.fst ↔ col ∈ entries'.map Prod.fst := by
    intro col
    simp only [List.mem_map, h]
  ext1
  · rw [h_seen, h_seen']
  · refine Multiset.ext.mpr fun ⟨col, path⟩ => ?_
    rw [h_observed, h_observed']
    simp only [h_marked]
  · refine Multiset.ext.mpr fun k => ?_
    show Multiset.count (matchKey (ofLex k).1 (ofLex (ofLex k).2).1 (ofLex (ofLex k).2).2) _ = _
    rw [h_matched]
    refine Eq.trans ?_ (h_matched' (ofLex k).1 (ofLex (ofLex k).2).1 (ofLex (ofLex k).2).2).symm
    simp only [h]
  · rw [h_cols, h_cols']
  · rw [h_rows, h_rows']

/-- `finish` depends on the set of column names only, not on the order in which the set is
walked. -/
theorem finish_congr (extra : Finset String) (st : ScannerState) {cols cols' : List String}
    (h : ∀ col, col ∈ cols ↔ col ∈ cols') :
    d.finish t extra st cols = d.finish t extra st cols' := by
  unfold finish
  have h_marks : ∀ e, e ∈ (cols.flatMap fun col => (d.columnMatches t col).map (col, ·)) ↔
      e ∈ (cols'.flatMap fun col => (d.columnMatches t col).map (col, ·)) := by
    intro e
    simp only [List.mem_flatMap, h]
  rw [foldl_mark_congr h_marks]

/-- The marks count no more matches than values. -/
theorem MatchesObserved.foldl_mark {st : ScannerState} (h : MatchesObserved st)
    (entries : List (String × String)) :
    MatchesObserved (entries.foldl markColumnMatch st) := by
  intro col path key
  obtain ⟨h_matched, h_observed⟩ := count_foldl_mark entries st
  rw [h_matched, h_observed]
  have h_st := h col path key
  by_cases h_mem : path = "" ∧ (col, key) ∈ entries
  · rw [if_pos h_mem, if_pos ⟨h_mem.1, List.mem_map.mpr ⟨_, h_mem.2, rfl⟩⟩]
  · rw [if_neg h_mem]
    split
    · next h_col =>
      obtain ⟨rfl, -⟩ := h_col
      unfold observedRows
      split
      · next h_zero =>
        -- a detector of values has counted nothing where no value was seen
        rw [h_zero] at h_st
        exact Nat.le_trans h_st (Nat.zero_le _)
      · exact h_st
    · exact h_st

/-! ### The confidence -/

/-- Rounding half to even stays between the integers around the number. -/
theorem roundHalfEven_mem {x : ℚ} {n : ℕ} (h_zero : 0 ≤ x) (h_n : x ≤ n) :
    0 ≤ roundHalfEven x ∧ roundHalfEven x ≤ n := by
  have h_floor : 0 ≤ ⌊x⌋ := Int.floor_nonneg.mpr h_zero
  have h_le : ⌊x⌋ ≤ n := by
    have h_cast : ((⌊x⌋ : ℤ) : ℚ) ≤ ((n : ℤ) : ℚ) := (Int.floor_le x).trans (by exact_mod_cast h_n)
    exact_mod_cast h_cast
  have h_up : ¬ x - ⌊x⌋ < 1 / 2 → ⌊x⌋ + 1 ≤ n := by
    intro h_half
    by_contra h_not
    have h_eq : ⌊x⌋ = n := by omega
    rw [h_eq] at h_half
    push_cast at h_half
    exact h_half (by linarith)
  unfold roundHalfEven
  split
  · exact ⟨h_floor, h_le⟩
  · next h_half =>
    split
    · exact ⟨by omega, h_up h_half⟩
    · split
      · exact ⟨h_floor, h_le⟩
      · exact ⟨by omega, h_up h_half⟩

/-- The confidence of a finding lies in `[0, 1]`. -/
theorem ratioConfidence_mem (t : ScannerTables) (matched observed : ℕ) :
    0 ≤ t.ratioConfidence matched observed ∧ t.ratioConfidence matched observed ≤ 1 := by
  have h_nearest : ∀ x : ℚ, 0 ≤ x → x ≤ 1 → 0 ≤ t.nearest x ∧ t.nearest x ≤ 1 := by
    intro x h_zero h_one
    have h_low := t.nearest_mono h_zero
    have h_high := t.nearest_mono h_one
    rw [t.nearest_zero] at h_low
    rw [t.nearest_one] at h_high
    exact ⟨h_low, h_high⟩
  have h_quotient : 0 ≤ t.nearest ((matched : ℚ) / (max 1 observed : ℕ)) := by
    have h_low := t.nearest_mono
      (show (0 : ℚ) ≤ (matched : ℚ) / (max 1 observed : ℕ) by positivity)
    rw [t.nearest_zero] at h_low
    exact h_low
  unfold ScannerTables.ratioConfidence
  dsimp only
  generalize h_q : min 1 (t.nearest ((matched : ℚ) / (max 1 observed : ℕ))) = q
  have h_low : 0 ≤ q := by
    rw [← h_q]
    exact le_min zero_le_one h_quotient
  have h_high : q ≤ 1 := by
    rw [← h_q]
    exact min_le_left _ _
  obtain ⟨h_round, h_round'⟩ := roundHalfEven_mem (n := 10000)
    (show 0 ≤ q * 10000 by linarith) (by push_cast; linarith)
  refine h_nearest _ ?_ ?_
  · have h_cast : (0 : ℚ) ≤ roundHalfEven (q * 10000) := by exact_mod_cast h_round
    linarith
  · have h_cast : ((roundHalfEven (q * 10000) : ℤ) : ℚ) ≤ 10000 := by exact_mod_cast h_round'
    linarith

/-- The counts and the confidence of a finding. -/
theorem finding_spec {extra : Finset String} {st : ScannerState} (h : MatchesObserved st)
    {cols : List String} {f : DetectedFinding} (h_f : f ∈ (d.finish t extra st cols).findings) :
    0 < f.matchedCount ∧ f.matchedCount ≤ f.observedCount ∧ 0 ≤ f.confidenceScore ∧
      f.confidenceScore ≤ 1 := by
  unfold finish at h_f
  dsimp only at h_f
  obtain ⟨k, h_k, h_find⟩ := List.mem_filterMap.mp h_f
  have h_marked := h.foldl_mark (cols.flatMap fun col => (d.columnMatches t col).map (col, ·))
  generalize (cols.flatMap fun col => (d.columnMatches t col).map (col, ·)).foldl
    markColumnMatch st = st' at h_k h_find h_marked
  have h_pos : 0 < st'.matchedCounts.count k :=
    Multiset.count_pos.mpr (Multiset.mem_toFinset.mp (mem_sortedSet.mp h_k))
  have h_le : st'.matchedCounts.count k ≤
      st'.observedCounts.count ((ofLex k).1, (ofLex (ofLex k).2).1) :=
    h_marked (ofLex k).1 (ofLex (ofLex k).2).1 (ofLex (ofLex k).2).2
  unfold finding at h_find
  obtain ⟨m, -, rfl⟩ := Option.map_eq_some_iff.mp h_find
  refine ⟨h_pos, ?_, ?_⟩
  · show _ ≤ if _ then _ else _
    split
    · exact Nat.le_refl _
    · exact h_le
  · show 0 ≤ (if _ then _ else _ : ℚ) ∧ (if _ then _ else _ : ℚ) ≤ 1
    split
    · exact ⟨zero_le_one, le_refl _⟩
    · exact ratioConfidence_mem t _ _

/-- A path is seen in a sum exactly when one of its terms sees it. -/
theorem mem_seenPaths_sum {α : Type} (f : α → ScannerState) (l : List α) (x : String × String) :
    x ∈ (l.map f).sum.seenPaths ↔ ∃ a ∈ l, x ∈ (f a).seenPaths := by
  induction l with
  | nil => simp
  | cons a l ih =>
    rw [List.map_cons, List.sum_cons, ScannerState.seenPaths_add, Finset.mem_union, ih]
    simp

end Detectors

/-! ### The whole scan -/

/-- The pairs of a column and a path that rows have values at. -/
def distinctPaths (rows : List ScanRow) : Finset (String × String) :=
  ((rows.flatMap ScanValue.rowLeaves).map fun leaf => (leaf.1, leaf.2.1)).toFinset

namespace ScannerConfig

open Detectors

variable {t : ScannerTables} (config : ScannerConfig t)

/-- The scanners of the code are built from pinned rules, whose ids are distinct. -/
theorem distinct_detectors : config.detectors.Distinct := by
  unfold detectors
  split
  · exact distinct_ofBuiltins
  · next rules _ => exact distinct_ofRules rules.property

/-- The state after all rows. -/
def total (rows : List ScanRow) : ScannerState :=
  config.initial + (rows.map (config.detectors.rowState t)).sum

/-- The paths seen by a scan are the distinct paths of its rows. -/
theorem seenPaths_total (rows : List ScanRow) :
    (config.total rows).seenPaths = distinctPaths rows := by
  ext x
  have h_initial : config.initial.seenPaths = ∅ := rfl
  rw [total, ScannerState.seenPaths_add, h_initial, Finset.empty_union, mem_seenPaths_sum]
  simp only [distinctPaths, List.mem_toFinset, List.mem_map, List.mem_flatMap]
  have h_row : ∀ row, x ∈ (config.detectors.rowState t row).seenPaths ↔
      ∃ leaf ∈ ScanValue.rowLeaves row, (leaf.1, leaf.2.1) = x := by
    intro row
    rw [rowState, ScannerState.seenPaths_add, Finset.mem_union, mem_seenPaths_sum]
    simp [leafState, eq_comm]
  simp only [h_row]
  constructor
  · rintro ⟨row, h_row, leaf, h_leaf, h_x⟩
    exact ⟨leaf, ⟨row, h_row, h_leaf⟩, h_x⟩
  · rintro ⟨leaf, ⟨row, h_row, h_leaf⟩, h_x⟩
    exact ⟨row, h_row, leaf, h_leaf, h_x⟩

/-- The state of a scan without its bound does not depend on the order of the rows. -/
theorem total_perm {rows rows' : List ScanRow} (h : rows.Perm rows') :
    config.total rows = config.total rows' := by
  rw [total, total, (h.map _).sum_eq]

/-- Feeding rows either meets the bound on distinct paths, judged on the whole file, or ends
in the sum of all row states. -/
theorem feedRows_eq {rows : List ScanRow}
    (h_rows : ∀ e, config.feedRows rows ≠ .error (.other e)) :
    config.feedRows rows = if maxDistinctPaths < (distinctPaths rows).card then
      .error .limitExceeded else .ok (config.total rows) := by
  have h_bounded := bounded_feedRows (t := t) (d := config.detectors) config.initial rows
    (Nat.zero_le _)
  rw [← config.seenPaths_total]
  refine h_bounded.eq_ite fun e h_e => ?_
  cases e with
  | limitExceeded => rfl
  | other e => exact absurd h_e (h_rows e)

/-- Rows on which nothing else is raised give one result in every order. -/
theorem scan_order_independent (order order' : SetOrder) {rows rows' : List ScanRow}
    (h : rows.Perm rows') (h_rows : ∀ e, config.feedRows rows ≠ .error (.other e))
    (h_rows' : ∀ e, config.feedRows rows' ≠ .error (.other e)) :
    config.scan order rows = config.scan order' rows' ∧
      (config.scan order rows = .error .limitExceeded ↔
        maxDistinctPaths < (distinctPaths rows).card) ∧
      ∀ result, config.scan order rows = .ok result → ∀ f ∈ result.findings,
        0 < f.matchedCount ∧ f.matchedCount ≤ f.observedCount ∧ 0 ≤ f.confidenceScore ∧
          f.confidenceScore ≤ 1 := by
  have h_paths : distinctPaths rows = distinctPaths rows' := by
    rw [← config.seenPaths_total, ← config.seenPaths_total, config.total_perm h]
  have h_feed := config.feedRows_eq h_rows
  have h_feed' := config.feedRows_eq h_rows'
  rw [← h_paths, ← config.total_perm h] at h_feed'
  unfold scan
  rw [h_feed, h_feed']
  split
  · next h_limit => exact ⟨rfl, iff_of_true rfl h_limit, fun _ h_result => nomatch h_result⟩
  · next h_room =>
    refine ⟨congrArg Except.ok ?_, iff_of_false (fun h_error => nomatch h_error) h_room, ?_⟩
    · refine finish_congr _ _ fun col => ?_
      rw [order.mem_list, order'.mem_list]
    · intro result h_result f h_f
      obtain rfl := Except.ok.inj h_result
      refine finding_spec ?_ h_f
      exact (matchesObserved_header _ _).add
        (matchesObserved_sum (matchesObserved_rowState config.distinct_detectors) rows)

end ScannerConfig

/-- The tables on ASCII. The quotients that are floats themselves are rounded as they should be. -/
def asciiScanner : ScannerTables where
  toUnicodeTables := .asciiTables
  isDigitText := Char.isDigit
  decimalValue c := if c.isDigit then some (c.toNat - 48) else none
  matchesRule rule text := rule.pattern == some text
  ruleIdText
    | .builtin code => code.text
    | .drawn id => id.str
  nearest := id
  nearest_mono := monotone_id
  nearest_zero := rfl
  nearest_one := rfl

/-- The iteration in ascending order. -/
def ascending : SetOrder := ⟨sortedSet, fun _ _ => mem_sortedSet⟩

/-- A scan with the builtin detectors. -/
def builtinScan : ScannerConfig asciiScanner := { columns := ["contact"] }

/-- One of two values is an e-mail address. -/
def contactRows : List ScanRow := [[("contact", .str "a@b.io")], [("contact", .str "none")]]

theorem scan_order_independent_contact :
    builtinScan.scan ascending contactRows = builtinScan.scan ascending contactRows.reverse := by
  have h_none : ∀ {r : Except ScanError ScannerState},
      (match r with | .error (.other _) => true | _ => false) = false →
        ∀ e, r ≠ .error (.other e) := by
    rintro _ h e rfl
    cases h
  exact (builtinScan.scan_order_independent ascending ascending
    (List.reverse_perm contactRows).symm (h_none (by decide +kernel))
    (h_none (by decide +kernel))).1

end DqScoring
