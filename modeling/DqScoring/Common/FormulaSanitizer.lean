import DqScoring.Common.PyValue

/-!
# Neutralising spreadsheet formulas

`common/formula_sanitizer.py`: a text that a spreadsheet would take for a formula gets a quote
in front. `sanitizeRecord` enters dictionaries and the items of lists, but no list or dictionary
inside a list, and it looks at a text only after its leading white space.
-/

namespace DqScoring

/-- `INJECTION_PREFIXES`: each is one character. -/
def injectionPrefixes : List Char := ['=', '+', '-', '@', '\t', '\r']

/-- `text.startswith(INJECTION_PREFIXES)`. -/
def startsWithPrefix (text : List Char) : Bool := text.head?.any injectionPrefixes.contains

/-- `text.lstrip()`. -/
def pyLstrip (text : List Char) : List Char := text.dropWhile isPySpace

/-- `sanitize_cell_value` of a text. -/
def sanitizeText (s : String) : String :=
  let stripped := pyLstrip s.toList
  if stripped ≠ [] ∧ startsWithPrefix stripped = true then "'" ++ s else s

/-- `sanitize_cell_value`. -/
def sanitizeCellValue : PyValue → PyValue
  | .str s => .str (sanitizeText s)
  | v => v

mutual

/-- `sanitize_record`. -/
def sanitizeRecord : PyDict → PyDict
  | [] => []
  | (key, val) :: record => (key, sanitizeEntry val) :: sanitizeRecord record

/-- The value of a sanitized record. -/
def sanitizeEntry : PyValue → PyValue
  | .dict record => .dict (sanitizeRecord record)
  | .list items => .list (items.map sanitizeCellValue)
  | v => sanitizeCellValue v

end

/-! ### The texts of a record -/

mutual

/-- The texts in a value, at any depth. -/
def PyValue.texts : PyValue → List String
  | .str s => [s]
  | .list items => itemTexts items
  | .dict record => recordTexts record
  | _ => []

/-- The texts in the items of a list. -/
def itemTexts : List PyValue → List String
  | [] => []
  | v :: items => v.texts ++ itemTexts items

/-- The texts in the values of a record. -/
def recordTexts : PyDict → List String
  | [] => []
  | (_, v) :: record => v.texts ++ recordTexts record

end

mutual

/-- The texts that are looked at. -/
def recordCells : PyDict → List String
  | [] => []
  | (_, v) :: record => v.cells ++ recordCells record

/-- The texts of a value that are looked at: itself, the items of a list and what is in a
dictionary. -/
def PyValue.cells : PyValue → List String
  | .str s => [s]
  | .list items => items.filterMap PyValue.text?
  | .dict record => recordCells record
  | _ => []

end

mutual

/-- The texts that are not looked at. -/
def recordHidden : PyDict → List String
  | [] => []
  | (_, v) :: record => v.hidden ++ recordHidden record

/-- The texts of a value that are not looked at: those in the containers of a list. -/
def PyValue.hidden : PyValue → List String
  | .list items => itemTexts (items.filter fun item => item.text?.isNone)
  | .dict record => recordHidden record
  | _ => []

end

/-- The text begins with a prefix, as it stands or after leading white space. -/
def IsFormula (s : String) : Prop :=
  startsWithPrefix s.toList = true ∨ startsWithPrefix (pyLstrip s.toList) = true

instance (s : String) : Decidable (IsFormula s) := inferInstanceAs (Decidable (_ ∨ _))

mutual

/-- Two values that differ at most in texts that are formulas and got a quote. -/
inductive OnlyQuoted : PyValue → PyValue → Prop
  | same (v : PyValue) : OnlyQuoted v v
  | text {s : String} (h : IsFormula s) : OnlyQuoted (.str s) (.str ("'" ++ s))
  | list {items items' : List PyValue} (h : ItemsOnlyQuoted items items') :
      OnlyQuoted (.list items) (.list items')
  | dict {record record' : PyDict} (h : RecordOnlyQuoted record record') :
      OnlyQuoted (.dict record) (.dict record')

/-- Two lists whose items differ at most so. -/
inductive ItemsOnlyQuoted : List PyValue → List PyValue → Prop
  | nil : ItemsOnlyQuoted [] []
  | cons {v v' : PyValue} {items items' : List PyValue} (h : OnlyQuoted v v')
      (h_items : ItemsOnlyQuoted items items') : ItemsOnlyQuoted (v :: items) (v' :: items')

/-- Two records with the same keys whose values differ at most so. -/
inductive RecordOnlyQuoted : PyDict → PyDict → Prop
  | nil : RecordOnlyQuoted [] []
  | cons (key : String) {v v' : PyValue} {record record' : PyDict} (h : OnlyQuoted v v')
      (h_record : RecordOnlyQuoted record record') :
      RecordOnlyQuoted ((key, v) :: record) ((key, v') :: record')

end

/-- What the export of a record promises: no formula anywhere, the same when it is done again,
and nothing else changed. -/
structure IsSanitized (record : PyDict) : Prop where
  clean : ∀ s ∈ recordTexts (sanitizeRecord record), ¬ IsFormula s
  idempotent : sanitizeRecord (sanitizeRecord record) = sanitizeRecord record
  onlyQuoted : RecordOnlyQuoted record (sanitizeRecord record)

/-! ### Texts -/

/-- A quote starts no formula. -/
theorem startsWithPrefix_quote (text : List Char) : startsWithPrefix ('\'' :: text) = false := rfl

theorem toList_quoted (s : String) : ("'" ++ s).toList = '\'' :: s.toList := by
  rw [String.toList_append]
  rfl

/-- A quote is no prefix and no white space. -/
theorem not_isFormula_quoted (s : String) : ¬ IsFormula ("'" ++ s) := by
  have h_lstrip : pyLstrip ('\'' :: s.toList) = '\'' :: s.toList := rfl
  rw [IsFormula, toList_quoted, h_lstrip, startsWithPrefix_quote, or_self]
  exact Bool.false_ne_true

theorem startsWithPrefix_ne_nil {text : List Char} (h : startsWithPrefix text = true) :
    text ≠ [] := by
  rintro rfl
  cases h

/-- A text that starts a formula is quoted. -/
theorem sanitizeText_of_marked {s : String} (h : startsWithPrefix (pyLstrip s.toList) = true) :
    sanitizeText s = "'" ++ s :=
  if_pos ⟨startsWithPrefix_ne_nil h, h⟩

/-- Any other text is left as it is. -/
theorem sanitizeText_of_unmarked {s : String}
    (h : ¬ startsWithPrefix (pyLstrip s.toList) = true) : sanitizeText s = s :=
  if_neg fun h_both => h h_both.2

/-- A quoted text is not quoted again. -/
theorem sanitizeText_idempotent (s : String) : sanitizeText (sanitizeText s) = sanitizeText s := by
  by_cases h : startsWithPrefix (pyLstrip s.toList) = true
  · rw [sanitizeText_of_marked h]
    exact sanitizeText_of_unmarked fun h_marked => not_isFormula_quoted s (Or.inr h_marked)
  · rw [sanitizeText_of_unmarked h, sanitizeText_of_unmarked h]

/-- A sanitized text is a formula only if its own first character is white space. -/
theorem isFormula_sanitizeText_iff (s : String) : IsFormula (sanitizeText s) ↔
    startsWithPrefix s.toList = true ∧ ¬ startsWithPrefix (pyLstrip s.toList) = true := by
  by_cases h : startsWithPrefix (pyLstrip s.toList) = true
  · rw [sanitizeText_of_marked h]
    exact iff_of_false (not_isFormula_quoted s) fun h_both => h_both.2 h
  · rw [sanitizeText_of_unmarked h, IsFormula]
    exact ⟨fun h_formula => ⟨h_formula.resolve_right h, h⟩, fun h_both => Or.inl h_both.1⟩

/-- A cell changes by a quote at most. -/
theorem onlyQuoted_cellValue (v : PyValue) : OnlyQuoted v (sanitizeCellValue v) := by
  cases v with
  | str s =>
    show OnlyQuoted (.str s) (.str (sanitizeText s))
    by_cases h : startsWithPrefix (pyLstrip s.toList) = true
    · rw [sanitizeText_of_marked h]
      exact .text (Or.inr h)
    · rw [sanitizeText_of_unmarked h]
      exact .same _
  | _ => exact .same _

/-- Sanitizing a cell twice is sanitizing it once. -/
theorem sanitizeCellValue_idempotent (v : PyValue) :
    sanitizeCellValue (sanitizeCellValue v) = sanitizeCellValue v := by
  cases v with
  | str s => exact congrArg PyValue.str (sanitizeText_idempotent s)
  | _ => rfl

/-! ### Records -/

/-- Items change by a quote at most. -/
theorem itemsOnlyQuoted_map (items : List PyValue) :
    ItemsOnlyQuoted items (items.map sanitizeCellValue) := by
  induction items with
  | nil => exact .nil
  | cons v items ih => exact .cons (onlyQuoted_cellValue v) ih

mutual

/-- A record changes by quotes in its values only. -/
theorem recordOnlyQuoted_sanitizeRecord :
    ∀ record : PyDict, RecordOnlyQuoted record (sanitizeRecord record)
  | [] => by
    rw [sanitizeRecord]
    exact .nil
  | (key, v) :: record => by
    rw [sanitizeRecord]
    exact .cons key (onlyQuoted_sanitizeEntry v) (recordOnlyQuoted_sanitizeRecord record)

/-- A value changes by quotes only, down to the depth that is sanitized. -/
theorem onlyQuoted_sanitizeEntry : ∀ v : PyValue, OnlyQuoted v (sanitizeEntry v)
  | .dict record => by
    rw [sanitizeEntry]
    exact .dict (recordOnlyQuoted_sanitizeRecord record)
  | .list items => by
    rw [sanitizeEntry]
    exact .list (itemsOnlyQuoted_map items)
  | .str s => onlyQuoted_cellValue (.str s)
  | .none | .bool _ | .int _ | .float _ => .same _

end

mutual

/-- Sanitizing a record twice is sanitizing it once. -/
theorem sanitizeRecord_idempotent :
    ∀ record : PyDict, sanitizeRecord (sanitizeRecord record) = sanitizeRecord record
  | [] => by rw [sanitizeRecord, sanitizeRecord]
  | (key, v) :: record => by
    rw [sanitizeRecord, sanitizeRecord, sanitizeEntry_idempotent v,
      sanitizeRecord_idempotent record]

/-- Sanitizing a value twice is sanitizing it once. -/
theorem sanitizeEntry_idempotent :
    ∀ v : PyValue, sanitizeEntry (sanitizeEntry v) = sanitizeEntry v
  | .dict record => by rw [sanitizeEntry, sanitizeEntry, sanitizeRecord_idempotent record]
  | .list items => by
    rw [sanitizeEntry, sanitizeEntry, List.map_map]
    congr 1
    exact List.map_congr_left fun v _ => sanitizeCellValue_idempotent v
  | .str s => congrArg PyValue.str (sanitizeText_idempotent s)
  | .none | .bool _ | .int _ | .float _ => rfl

end

/-- The texts in a sanitized list. -/
theorem mem_itemTexts_map {items : List PyValue} {t : String} :
    t ∈ itemTexts (items.map sanitizeCellValue) ↔
      (∃ s ∈ items.filterMap PyValue.text?, t = sanitizeText s) ∨
        t ∈ itemTexts (items.filter fun item => item.text?.isNone) := by
  induction items with
  | nil => simp [itemTexts]
  | cons v items ih =>
    rw [List.map_cons, itemTexts, List.mem_append, ih]
    cases v with
    | str s =>
      have h_filter : (PyValue.str s :: items).filter (fun item => item.text?.isNone) =
          items.filter fun item => item.text?.isNone := List.filter_cons_of_neg Bool.false_ne_true
      have h_texts : (PyValue.str s :: items).filterMap PyValue.text? =
          s :: items.filterMap PyValue.text? := List.filterMap_cons_some rfl
      have h_cell : t ∈ (sanitizeCellValue (.str s)).texts ↔ t = sanitizeText s :=
        List.mem_singleton
      simp only [h_filter, h_texts, h_cell, List.mem_cons, exists_eq_or_imp, or_assoc]
    | _ =>
      rw [List.filter_cons_of_pos rfl, List.filterMap_cons_none rfl, itemTexts, List.mem_append]
      exact or_left_comm

mutual

/-- The texts in a sanitized record are the sanitized ones and the hidden ones. -/
theorem mem_recordTexts_sanitizeRecord {t : String} : ∀ record : PyDict,
    t ∈ recordTexts (sanitizeRecord record) ↔
      (∃ s ∈ recordCells record, t = sanitizeText s) ∨ t ∈ recordHidden record
  | [] => by simp [sanitizeRecord, recordTexts, recordCells, recordHidden]
  | (key, v) :: record => by
    rw [sanitizeRecord, recordTexts, recordCells, recordHidden, List.mem_append, List.mem_append,
      mem_texts_sanitizeEntry v, mem_recordTexts_sanitizeRecord record]
    simp only [List.mem_append, or_and_right, exists_or]
    exact or_or_or_comm

/-- The texts of a sanitized value are the sanitized cells and what lies too deep to be
reached. -/
theorem mem_texts_sanitizeEntry {t : String} : ∀ v : PyValue,
    t ∈ (sanitizeEntry v).texts ↔ (∃ s ∈ v.cells, t = sanitizeText s) ∨ t ∈ v.hidden
  | .dict record => by
    rw [sanitizeEntry, PyValue.texts, PyValue.cells, PyValue.hidden]
    exact mem_recordTexts_sanitizeRecord record
  | .list items => by
    rw [sanitizeEntry, PyValue.texts, PyValue.cells, PyValue.hidden]
    exact mem_itemTexts_map
  | .str s => by
    simp [sanitizeEntry, sanitizeCellValue, PyValue.texts, PyValue.cells, PyValue.hidden]
  | .none | .bool _ | .int _ | .float _ => by
    simp [sanitizeEntry, sanitizeCellValue, PyValue.texts, PyValue.cells, PyValue.hidden]

end

/-- **Which records are sanitized**: those whose cells, where they begin with white space that
is a prefix, have a prefix after it, and that hide no formula in the containers of a list. -/
theorem isSanitized_iff (record : PyDict) :
    IsSanitized record ↔
      (∀ s ∈ recordCells record, startsWithPrefix s.toList = true →
        startsWithPrefix (pyLstrip s.toList) = true) ∧
      ∀ s ∈ recordHidden record, ¬ IsFormula s := by
  have h_clean : (∀ t ∈ recordTexts (sanitizeRecord record), ¬ IsFormula t) ↔
      (∀ s ∈ recordCells record, ¬ IsFormula (sanitizeText s)) ∧
        ∀ s ∈ recordHidden record, ¬ IsFormula s := by
    simp only [mem_recordTexts_sanitizeRecord, or_imp, forall_and, forall_exists_index, and_imp]
    exact and_congr_left' ⟨fun h s h_s => h _ s h_s rfl, fun h t s h_s h_t => h_t ▸ h s h_s⟩
  have h_cells : (∀ s ∈ recordCells record, ¬ IsFormula (sanitizeText s)) ↔
      ∀ s ∈ recordCells record, startsWithPrefix s.toList = true →
        startsWithPrefix (pyLstrip s.toList) = true := by
    refine forall₂_congr fun s _ => ?_
    rw [isFormula_sanitizeText_iff, not_and, not_not]
  rw [← h_cells, ← h_clean]
  constructor
  · exact fun h => h.clean
  · intro h
    exact {
      clean := h
      idempotent := sanitizeRecord_idempotent record
      onlyQuoted := recordOnlyQuoted_sanitizeRecord record }

/-- A list of lists keeps its formulas, and a tab before a text stays. -/
theorem formula_survives :
    ¬ IsSanitized [("rows", .list [.list [.str "=1+1"]])] ∧
      ¬ IsSanitized [("note", .str "\tname")] := by
  constructor
  · exact fun h => h.clean "=1+1" (by decide) (by decide)
  · exact fun h => h.clean "\tname" (by decide) (by decide)

end DqScoring
