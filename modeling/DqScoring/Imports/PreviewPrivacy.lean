import DqScoring.Imports.ImportPreview

/-!
# What a preview does not show

A preview is a function of what its cells look like (`buildPreview_congr`). The cells of sensitive
columns, of financial columns and of columns of names and addresses look alike whatever they hold,
so that two tables which differ there only have one preview.

A structured cell is masked by its keys, but only if the text that `redact_text` leaves is still a
document. `SameWhenMasked` relates the documents that are masked alike: those that differ only in
values under keys of names and addresses, whatever these values are as long as they are not blank.
Redaction keeps the relation (`SameWhenMasked.redactJson`), which carries the recursion of
`_redact_structured_value`. A long number in the cell is enough for it to be shown as a text, with
its names (`namesShown`).
-/

namespace DqScoring

open Framework

/-- `value.strip()` -/
def NotBlank (s : String) : Prop := pyStrip s ≠ ""

instance (s : String) : Decidable (NotBlank s) := inferInstanceAs (Decidable (pyStrip s ≠ ""))

namespace UnicodeTables

variable {k : UnicodeTables}

/-- A text that is not blank is not blank when it is redacted: a redaction leaves its brackets. -/
theorem allSpace_of_redactText {s : String} (h : AllSpace (k.redactText s).toList) :
    AllSpace s.toList := by
  have h_step : ∀ q ∈ k.piiPatterns, ∀ (word : List Char) {cs : List Char},
      AllSpace (q.sub k.isWord ('[' :: word) cs) → AllSpace cs := by
    intro q h_q word cs h_space
    rcases Regex.sub_eq_or_mem (needs_pii h_q) ('[' :: word) cs with h_eq | h_mem
    · rw [h_eq] at h_space
      exact h_space
    · exact absurd (h_space '[' (h_mem '[' List.mem_cons_self)) (by decide)
  rw [redactText, String.toList_ofList] at h
  have h_words := h_step _ phonePattern_mem "REDACTED_PHONE]".toList h
  have h_card := h_step k.creditCardPattern (by simp [piiPatterns]) "REDACTED_CARD]".toList h_words
  have h_ssn := h_step k.ssnPattern (by simp [piiPatterns]) "REDACTED_SSN]".toList h_card
  exact h_step emailPattern (by simp [piiPatterns]) "REDACTED_EMAIL]".toList h_ssn

/-- Redaction replaces by markers, so it never empties a text. -/
theorem notBlank_redactText {s : String} (h : NotBlank s) : NotBlank (k.redactText s) := by
  intro h_blank
  rw [← String.ofList_toList (s := k.redactText s), pyStrip_eq_empty_iff] at h_blank
  refine h ?_
  rw [← String.ofList_toList (s := s), pyStrip_eq_empty_iff]
  exact allSpace_of_redactText h_blank

/-- What is not blank is not blank when it is redacted. -/
theorem isBlank_redactJson {v : Json} (h : v.isBlank = false) :
    (k.redactJson v).isBlank = false := by
  cases v with
  | str s => exact beq_eq_false_iff_ne.mpr (notBlank_redactText (beq_eq_false_iff_ne.mp h))
  | null => cases h
  | bool _ => rfl
  | int _ => rfl
  | decimal _ => rfl
  | arr _ => rfl
  | obj _ => rfl

/-! ### Documents with marked values -/

variable (k)

mutual

/-- The values differ only in what is masked: in values under keys of names and addresses, which
are not blank, but may be anything else. -/
inductive SameWhenMasked : Json → Json → Prop
  | same (v : Json) : SameWhenMasked v v
  | arr {items items' : List Json} (h : ItemsSameWhenMasked items items') :
    SameWhenMasked (.arr items) (.arr items')
  | obj {entries entries' : List (String × Json)} (h : EntriesSameWhenMasked entries entries') :
    SameWhenMasked (.obj entries) (.obj entries')

/-- The items differ only in what is masked. -/
inductive ItemsSameWhenMasked : List Json → List Json → Prop
  | nil : ItemsSameWhenMasked [] []
  | cons {v v' : Json} {items items' : List Json} (h : SameWhenMasked v v')
    (h_items : ItemsSameWhenMasked items items') : ItemsSameWhenMasked (v :: items) (v' :: items')

/-- The entries differ only in what is masked. -/
inductive EntriesSameWhenMasked : List (String × Json) → List (String × Json) → Prop
  | nil : EntriesSameWhenMasked [] []
  | cons {key : String} {v v' : Json} {entries entries' : List (String × Json)}
    (h : SameWhenMasked v v') (h_entries : EntriesSameWhenMasked entries entries') :
    EntriesSameWhenMasked ((key, v) :: entries) ((key, v') :: entries')
  | masked {key marker : String} {v v' : Json} {entries entries' : List (String × Json)}
    (h_marker : k.sensitiveColumnMarker key = some marker) (h : v.isBlank = false)
    (h' : v'.isBlank = false) (h_entries : EntriesSameWhenMasked entries entries') :
    EntriesSameWhenMasked ((key, v) :: entries) ((key, v') :: entries')

end

variable {k}

mutual

/-- What is redacted differs only in what is masked. -/
theorem SameWhenMasked.redactJson {v v' : Json} :
    k.SameWhenMasked v v' → k.SameWhenMasked (k.redactJson v) (k.redactJson v')
  | .same _ => .same _
  | .arr h => .arr h.redactJson
  | .obj h => .obj h.redactJson

/-- Redaction keeps two lists of items alike, item by item. -/
theorem ItemsSameWhenMasked.redactJson {items items' : List Json} :
    k.ItemsSameWhenMasked items items' →
      k.ItemsSameWhenMasked (k.redactJsonItems items) (k.redactJsonItems items')
  | .nil => .nil
  | .cons h h_items => .cons h.redactJson h_items.redactJson

/-- Redaction keeps two lists of entries alike, entry by entry. -/
theorem EntriesSameWhenMasked.redactJson {entries entries' : List (String × Json)} :
    k.EntriesSameWhenMasked entries entries' →
      k.EntriesSameWhenMasked (k.redactJsonEntries entries) (k.redactJsonEntries entries')
  | .nil => .nil
  | .cons h h_entries => .cons h.redactJson h_entries.redactJson
  | .masked h_marker h h' h_entries =>
    .masked h_marker (isBlank_redactJson h) (isBlank_redactJson h') h_entries.redactJson

end

/-- Values that mask alike are blank together. -/
theorem SameWhenMasked.isBlank_eq {v v' : Json} (h : k.SameWhenMasked v v') :
    v.isBlank = v'.isBlank := by
  cases h with
  | same _ => rfl
  | arr _ => rfl
  | obj _ => rfl

/-- The entry of an object is masked as a whole, or redacted. -/
theorem SameWhenMasked.redactJsonEntry {v v' : Json} (key : String) (h : k.SameWhenMasked v v') :
    k.SameWhenMasked (k.redactJsonEntry key v) (k.redactJsonEntry key v') := by
  unfold UnicodeTables.redactJsonEntry
  rw [← h.isBlank_eq]
  split
  · exact h
  · cases k.sensitiveColumnMarker key with
    | some marker => exact .same _
    | none => exact h.redactJson

/-- Under a sensitive key a value that is not blank becomes the key's marker, whatever it
holds. -/
theorem redactJsonEntry_of_marked {key marker : String} {v : Json}
    (h_marker : k.sensitiveColumnMarker key = some marker) (h : v.isBlank = false) :
    k.redactJsonEntry key v = .str marker := by
  rw [redactJsonEntry, h, h_marker]
  rfl

/-- Redaction keeps the nesting. -/
theorem depth_redactJson (v : Json) : (k.redactJson v).depth = v.depth := by
  induction v using Json.inductionOn with
  | null => rfl
  | bool _ => rfl
  | int _ => rfl
  | decimal _ => rfl
  | str s => simp [redactJson, Json.depth]
  | arr items ih =>
    refine congrArg (· + 1) ?_
    induction items with
    | nil => rfl
    | cons v items ih_items =>
      obtain ⟨h_v, h_items⟩ := List.forall_mem_cons.mp ih
      exact congrArg₂ max h_v (ih_items h_items)
  | obj entries ih =>
    refine congrArg (· + 1) ?_
    induction entries with
    | nil => rfl
    | cons e entries ih_entries =>
      obtain ⟨h_e, h_entries⟩ := List.forall_mem_cons.mp ih
      exact congrArg₂ max h_e (ih_entries h_entries)

/-- Redaction nests no deeper than the value it redacts. -/
theorem depth_redactJsonEntry_le (key : String) (v : Json) :
    (k.redactJsonEntry key v).depth ≤ v.depth := by
  unfold redactJsonEntry
  split
  · exact le_refl _
  · cases k.sensitiveColumnMarker key with
    | some marker => exact Nat.zero_le _
    | none => exact (depth_redactJson v).le

/-- No item is deeper than the list of its items. -/
theorem depth_le_of_mem_items {v : Json} {items : List Json} (h : v ∈ items) :
    v.depth ≤ Json.depthItems items := by
  induction items with
  | nil => cases h
  | cons w items ih =>
    rcases List.mem_cons.mp h with rfl | h_v
    · exact le_max_left _ _
    · exact (ih h_v).trans (le_max_right _ _)

/-- No entry is deeper than the list of its entries. -/
theorem depth_le_of_mem_entries {e : String × Json} {entries : List (String × Json)}
    (h : e ∈ entries) : e.2.depth ≤ Json.depthEntries entries := by
  induction entries with
  | nil => cases h
  | cons e' entries ih =>
    rcases List.mem_cons.mp h with rfl | h_e
    · exact le_max_left _ _
    · exact (ih h_e).trans (le_max_right _ _)

/-- More fuel than the nesting makes no difference. -/
theorem redactStructured_fuel {v : Json} {fuel fuel' : ℕ} (h : v.depth ≤ fuel)
    (h' : v.depth ≤ fuel') : k.redactStructured fuel v = k.redactStructured fuel' v := by
  induction fuel generalizing v fuel' with
  | zero =>
    cases v with
    | arr _ => cases h
    | obj _ => cases h
    | _ => cases fuel' <;> rfl
  | succ fuel ih =>
    cases v with
    | arr items =>
      obtain ⟨fuel', rfl⟩ := Nat.exists_eq_add_one.mpr (Nat.lt_of_lt_of_le (Nat.succ_pos _) h')
      refine congrArg Json.arr (List.map_congr_left fun v h_v => ?_)
      have h_depth := depth_le_of_mem_items h_v
      exact ih (h_depth.trans (Nat.le_of_succ_le_succ h))
        (h_depth.trans (Nat.le_of_succ_le_succ h'))
    | obj entries =>
      obtain ⟨fuel', rfl⟩ := Nat.exists_eq_add_one.mpr (Nat.lt_of_lt_of_le (Nat.succ_pos _) h')
      refine congrArg Json.obj (List.map_congr_left fun e h_e => ?_)
      have h_entry : (k.redactJsonEntry e.1 e.2).depth ≤ e.2.depth :=
        depth_redactJsonEntry_le e.1 e.2
      have h_depth := h_entry.trans (depth_le_of_mem_entries h_e)
      exact congrArg _ (ih (h_depth.trans (Nat.le_of_succ_le_succ h))
        (h_depth.trans (Nat.le_of_succ_le_succ h')))
    | _ => cases fuel' <;> rfl

/-- The items of one document with those of the other, none deeper than the deepest. -/
theorem ItemsSameWhenMasked.forall₂ {items items' : List Json} {fuel : ℕ}
    (h : k.ItemsSameWhenMasked items items') (h_fuel : Json.depthItems items ≤ fuel)
    (h_fuel' : Json.depthItems items' ≤ fuel) :
    List.Forall₂ (fun v v' => k.SameWhenMasked v v' ∧ v.depth ≤ fuel ∧ v'.depth ≤ fuel)
      items items' := by
  induction items generalizing items' with
  | nil =>
    cases h
    exact .nil
  | cons v items ih =>
    cases h with
    | cons h_v h_items =>
      obtain ⟨h_depth, h_rest⟩ := max_le_iff.mp h_fuel
      obtain ⟨h_depth', h_rest'⟩ := max_le_iff.mp h_fuel'
      exact .cons ⟨h_v, h_depth, h_depth'⟩ (ih h_items h_rest h_rest')

/-- What the entries are turned into before the recursion. -/
theorem EntriesSameWhenMasked.forall₂ {entries entries' : List (String × Json)} {fuel : ℕ}
    (h : k.EntriesSameWhenMasked entries entries') (h_fuel : Json.depthEntries entries ≤ fuel)
    (h_fuel' : Json.depthEntries entries' ≤ fuel) :
    List.Forall₂ (fun e e' => e.1 = e'.1 ∧
      k.SameWhenMasked (k.redactJsonEntry e.1 e.2) (k.redactJsonEntry e'.1 e'.2) ∧
      (k.redactJsonEntry e.1 e.2).depth ≤ fuel ∧ (k.redactJsonEntry e'.1 e'.2).depth ≤ fuel)
      entries entries' := by
  induction entries generalizing entries' with
  | nil =>
    cases h
    exact .nil
  | cons e entries ih =>
    have h_first : ∀ {key : String} {v : Json} {rest : List (String × Json)},
        Json.depthEntries ((key, v) :: rest) ≤ fuel → (k.redactJsonEntry key v).depth ≤ fuel :=
      fun h_all => (depth_redactJsonEntry_le _ _).trans ((le_max_left _ _).trans h_all)
    have h_rest := (le_max_right _ _).trans h_fuel
    cases h with
    | cons h_v h_entries =>
      exact .cons ⟨rfl, h_v.redactJsonEntry _, h_first h_fuel, h_first h_fuel'⟩
        (ih h_entries h_rest ((le_max_right _ _).trans h_fuel'))
    | masked h_marker h_v h_v' h_entries =>
      refine .cons ⟨rfl, ?_, h_first h_fuel, h_first h_fuel'⟩
        (ih h_entries h_rest ((le_max_right _ _).trans h_fuel'))
      rw [redactJsonEntry_of_marked h_marker h_v, redactJsonEntry_of_marked h_marker h_v']
      exact .same _

/-- Documents that differ only in what is masked are masked alike. The induction is on the fuel:
below an entry the recursion goes on with the redacted entry. -/
theorem SameWhenMasked.redactStructured_eq {v v' : Json} {fuel : ℕ} (h : k.SameWhenMasked v v')
    (h_fuel : v.depth ≤ fuel) (h_fuel' : v'.depth ≤ fuel) :
    k.redactStructured fuel v = k.redactStructured fuel v' := by
  induction fuel generalizing v v' with
  | zero =>
    cases h with
    | same _ => rfl
    | arr _ => cases h_fuel
    | obj _ => cases h_fuel
  | succ fuel ih =>
    cases h with
    | same _ => rfl
    | arr h =>
      have h_items := h.forall₂ (Nat.le_of_succ_le_succ h_fuel) (Nat.le_of_succ_le_succ h_fuel')
      exact congrArg Json.arr (map_eq_of_forall₂ h_items
        fun _ _ _ ⟨h_same, h_depth, h_depth'⟩ => ih h_same h_depth h_depth')
    | obj h =>
      have h_entries := h.forall₂ (Nat.le_of_succ_le_succ h_fuel) (Nat.le_of_succ_le_succ h_fuel')
      exact congrArg Json.obj (map_eq_of_forall₂ h_entries
        fun _ _ _ ⟨h_key, h_same, h_depth, h_depth'⟩ =>
          Prod.ext h_key (ih h_same h_depth h_depth'))

/-- Values that mask alike redact to one value. -/
theorem SameWhenMasked.redactStructuredValue_eq {v v' : Json} (h : k.SameWhenMasked v v') :
    k.redactStructuredValue v = k.redactStructuredValue v' := by
  have h_left := le_max_left v.depth v'.depth
  have h_right := le_max_right v.depth v'.depth
  calc k.redactStructured v.depth v = k.redactStructured (max v.depth v'.depth) v :=
        redactStructured_fuel (le_refl _) h_left
    _ = k.redactStructured (max v.depth v'.depth) v' := h.redactStructured_eq h_left h_right
    _ = k.redactStructured v'.depth v' := redactStructured_fuel h_right (le_refl _)

/-! ### Cells that look alike -/

variable (k) in
/-- The name of a financial column has one of the financial words. -/
def isFinancial (name : String) : Bool :=
  let lowerName := (k.lower name).toList.map fun c => if c = '-' then '_' else c
  ((lowerName.splitOn '_').map String.ofList).any financialTokens.contains

variable (k) in
/-- The text is still a document when it is redacted. -/
structure Leaves (limits : ParserLimits) (s : String) (v : Json) : Prop where
  not_blank : NotBlank s
  looks : looksStructured (pyStrip (k.redactText s)) = true
  parse : parseStructuredJson limits (pyStrip (k.redactText s)) = .ok v

variable (k) in
/-- Two cells of a column that look alike. -/
inductive LooksAlike (limits : ParserLimits) (sensitiveColumns : List String) (name : String) :
    Option String → Option String → Prop
  | same (v : Option String) : LooksAlike limits sensitiveColumns name v v
  | sensitive {s s' : String} (h_name : name ∈ sensitiveColumns) (h_s : s ≠ "") (h_s' : s' ≠ "") :
    LooksAlike limits sensitiveColumns name (some s) (some s')
  | financial {v v' : Option String} (h_name : name ∉ sensitiveColumns)
    (h_financial : k.isFinancial name = true) : LooksAlike limits sensitiveColumns name v v'
  | marked {marker s s' : String} (h_marker : k.sensitiveColumnMarker name = some marker)
    (h_s : NotBlank s) (h_s' : NotBlank s') :
    LooksAlike limits sensitiveColumns name (some s) (some s')
  | redacted {s s' : String} (h_s : NotBlank s) (h_s' : NotBlank s')
    (h_same : k.redactText s = k.redactText s') :
    LooksAlike limits sensitiveColumns name (some s) (some s')
  | structured {v v' : Json} {s s' : String} (h_s : k.Leaves limits s v)
    (h_s' : k.Leaves limits s' v') (h_same : k.SameWhenMasked v v') :
    LooksAlike limits sensitiveColumns name (some s) (some s')

variable {limits : ParserLimits} {sensitiveColumns : List String} {name : String}

/-- In a sensitive column every cell that is not empty shows one marker. -/
theorem maskCell_of_mem (h_name : name ∈ sensitiveColumns) (v : Option String) :
    k.maskCell sensitiveColumns name v = v.map fun s => if s = "" then "" else "[REDACTED]" := by
  rw [maskCell, if_pos h_name]

/-- In any other column only the financial names are masked. -/
theorem maskCell_of_notMem (h_name : name ∉ sensitiveColumns) (v : Option String) :
    k.maskCell sensitiveColumns name v =
      if k.isFinancial name = true then some "[REDACTED]" else v := by
  rw [maskCell, if_neg h_name]
  rfl

/-- A cell whose redacted text parses shows the redacted document, cut to size. -/
theorem Leaves.shownCell {s : String} {v : Json} (h : k.Leaves limits s v) :
    k.shownCell limits (k.redactText s) = .ok (cutCell (k.redactStructuredValue v).canonical) := by
  rw [UnicodeTables.shownCell]
  simp only [h.looks, h.parse, if_true]

/-- What is left of a cell that is not blank. -/
theorem redactCell_maskCell {s : String} (h_s : NotBlank s) :
    k.redactCell name (k.maskCell sensitiveColumns name (some s)) =
      if name ∈ sensitiveColumns ∨ k.isFinancial name = true then
        k.redactCell name (some "[REDACTED]")
      else some ((k.sensitiveColumnMarker name).getD (k.redactText s)) := by
  have h_ne : s ≠ "" := by
    rintro rfl
    exact h_s rfl
  by_cases h_name : name ∈ sensitiveColumns
  · rw [maskCell_of_mem h_name, Option.map_some, if_neg h_ne, if_pos (Or.inl h_name)]
  · rw [maskCell_of_notMem h_name]
    by_cases h_financial : k.isFinancial name = true
    · rw [if_pos h_financial, if_pos (Or.inr h_financial)]
    · rw [if_neg h_financial, if_neg (not_or.mpr ⟨h_name, h_financial⟩), redactCell,
        Option.map_some, if_neg h_s]

/-- Cells that look alike are shown alike. -/
theorem LooksAlike.previewCell_eq {v v' : Option String}
    (h : k.LooksAlike limits sensitiveColumns name v v') :
    k.previewCell limits sensitiveColumns name v =
      k.previewCell limits sensitiveColumns name v' := by
  unfold previewCell
  cases h with
  | same _ => rfl
  | @sensitive s s' h_name h_s h_s' =>
    rw [maskCell_of_mem h_name, maskCell_of_mem h_name, Option.map_some, Option.map_some,
      if_neg h_s, if_neg h_s']
  | financial h_name h_financial =>
    rw [maskCell_of_notMem h_name, maskCell_of_notMem h_name, if_pos h_financial,
      if_pos h_financial]
  | marked h_marker h_s h_s' =>
    rw [redactCell_maskCell h_s, redactCell_maskCell h_s', h_marker, Option.getD_some,
      Option.getD_some]
  | redacted h_s h_s' h_same =>
    rw [redactCell_maskCell h_s, redactCell_maskCell h_s', h_same]
  | @structured v v' s s' h_s h_s' h_same =>
    rw [redactCell_maskCell h_s.not_blank, redactCell_maskCell h_s'.not_blank]
    by_cases h_masked : name ∈ sensitiveColumns ∨ k.isFinancial name = true
    · rw [if_pos h_masked, if_pos h_masked]
    · rw [if_neg h_masked, if_neg h_masked]
      cases k.sensitiveColumnMarker name with
      | some marker => rw [Option.getD_some, Option.getD_some]
      | none =>
        have h_shown :
            k.shownCell limits (k.redactText s) = k.shownCell limits (k.redactText s') := by
          rw [h_s.shownCell, h_s'.shownCell, h_same.redactStructuredValue_eq]
        rw [Option.getD_none, Option.getD_none]
        exact congrArg (Except.map some) h_shown

end UnicodeTables

/-! ### Tables that look alike -/

/-- The tables have the same columns, and their cells look alike. -/
def RowsLookAlike (k : UnicodeTables) (limits : ParserLimits) (sensitiveColumns : List String) :
    List PreviewRow → List PreviewRow → Prop :=
  List.Forall₂ (List.Forall₂ fun e e' =>
    e.1 = e'.1 ∧ k.LooksAlike limits sensitiveColumns e.1 e.2 e'.2)

variable {k : UnicodeTables} {limits : ParserLimits} {sensitiveColumns : List String}

/-- The preview is a function of what the cells of the table look like. -/
theorem buildPreview_congr {rows rows' : List PreviewRow}
    (h : RowsLookAlike k limits sensitiveColumns rows rows') :
    buildPreview k limits sensitiveColumns rows = buildPreview k limits sensitiveColumns rows' := by
  have h_row : ∀ {row row' : PreviewRow}, List.Forall₂ (fun e e' =>
      e.1 = e'.1 ∧ k.LooksAlike limits sensitiveColumns e.1 e.2 e'.2) row row' →
        k.previewRow limits sensitiveColumns row = k.previewRow limits sensitiveColumns row' := by
    intro row row' h_row
    refine mapM_eq_of_forall₂ h_row ?_
    rintro ⟨name, v⟩ ⟨name', v'⟩ ⟨h_name, h_cell⟩
    obtain rfl : name = name' := h_name
    show (k.previewCell limits sensitiveColumns name v).map _ = _
    rw [h_cell.previewCell_eq]
  have h_take : (rows.take 50).mapM (k.previewRow limits sensitiveColumns) =
      (rows'.take 50).mapM (k.previewRow limits sensitiveColumns) :=
    mapM_eq_of_forall₂ (List.forall₂_take 50 h) h_row
  rw [buildPreview, buildPreview, h_take]

/-! ### Names in structured cells -/

namespace UnicodeTables

variable (k)

mutual

/-- The values differ only in texts under keys of names and addresses, which are not empty. -/
inductive SameButNames : Json → Json → Prop
  | same (v : Json) : SameButNames v v
  | arr {items items' : List Json} (h : ItemsSameButNames items items') :
    SameButNames (.arr items) (.arr items')
  | obj {entries entries' : List (String × Json)} (h : EntriesSameButNames entries entries') :
    SameButNames (.obj entries) (.obj entries')

/-- The items differ only in texts under keys of names and addresses. -/
inductive ItemsSameButNames : List Json → List Json → Prop
  | nil : ItemsSameButNames [] []
  | cons {v v' : Json} {items items' : List Json} (h : SameButNames v v')
    (h_items : ItemsSameButNames items items') : ItemsSameButNames (v :: items) (v' :: items')

/-- The entries differ only in texts under keys of names and addresses. -/
inductive EntriesSameButNames : List (String × Json) → List (String × Json) → Prop
  | nil : EntriesSameButNames [] []
  | cons {key : String} {v v' : Json} {entries entries' : List (String × Json)}
    (h : SameButNames v v') (h_entries : EntriesSameButNames entries entries') :
    EntriesSameButNames ((key, v) :: entries) ((key, v') :: entries')
  | name {key marker s s' : String} {entries entries' : List (String × Json)}
    (h_marker : k.sensitiveColumnMarker key = some marker) (h_s : s ≠ "") (h_s' : s' ≠ "")
    (h_entries : EntriesSameButNames entries entries') :
    EntriesSameButNames ((key, .str s) :: entries) ((key, .str s') :: entries')

end

end UnicodeTables

/-- A cell that is a document, as `_build_preview` looks for one. -/
structure HoldsDocument (limits : ParserLimits) (s : String) (v : Json) : Prop where
  looks : UnicodeTables.looksStructured (pyStrip s) = true
  parse : parseStructuredJson limits (pyStrip s) = .ok v

/-- Two cells are equal, or documents that differ in names and addresses only. -/
inductive DifferInNames (k : UnicodeTables) (limits : ParserLimits) :
    Option String → Option String → Prop
  | same (v : Option String) : DifferInNames k limits v v
  | documents {s s' : String} {v v' : Json} (h_s : HoldsDocument limits s v)
    (h_s' : HoldsDocument limits s' v') (h_same : k.SameButNames v v') :
    DifferInNames k limits (some s) (some s')

/-- The column is masked as a whole, or the redaction of the two texts makes them equal, or it
leaves documents that differ only in what is masked in them: in values under keys of names and
addresses that are not blank. -/
def RedactsDocuments (k : UnicodeTables) (limits : ParserLimits) (sensitiveColumns : List String)
    (name s s' : String) : Prop :=
  name ∈ sensitiveColumns ∨ k.isFinancial name = true ∨
    (k.sensitiveColumnMarker name).isSome = true ∨ k.redactText s = k.redactText s' ∨
    ∃ v v', HoldsDocument limits (k.redactText s) v ∧ HoldsDocument limits (k.redactText s') v' ∧
      k.SameWhenMasked v v'

/-- A text that holds a document is not blank. -/
theorem HoldsDocument.notBlank {s : String} {v : Json} (h : HoldsDocument limits s v) :
    NotBlank s := by
  intro h_blank
  have h_looks := h.looks
  rw [h_blank] at h_looks
  cases h_looks

/-- If the redacted text holds a document, that document is what the preview goes on with.
-/
theorem HoldsDocument.leaves {s : String} {v : Json} (h_s : NotBlank s)
    (h : HoldsDocument limits (k.redactText s) v) : k.Leaves limits s v :=
  ⟨h_s, h.looks, h.parse⟩

/-- Cells that differ in names look alike where the condition of the redacted documents
holds. -/
theorem DifferInNames.looksAlike {name : String} {v v' : Option String}
    (h : DifferInNames k limits v v') (h_when : ∀ s s', v = some s → v' = some s' → s ≠ s' →
      RedactsDocuments k limits sensitiveColumns name s s') :
    k.LooksAlike limits sensitiveColumns name v v' := by
  cases h with
  | same _ => exact .same _
  | @documents s s' d d' h_s h_s' _ =>
    by_cases h_eq : s = s'
    · subst h_eq
      exact .same _
    have h_ne : ∀ {t : String}, NotBlank t → t ≠ "" := by
      rintro t h_t rfl
      exact h_t rfl
    by_cases h_name : name ∈ sensitiveColumns
    · exact .sensitive h_name (h_ne h_s.notBlank) (h_ne h_s'.notBlank)
    rcases h_when s s' rfl rfl h_eq with h | h | h | h | ⟨e, e', h_e, h_e', h_same⟩
    · exact absurd h h_name
    · exact .financial h_name h
    · obtain ⟨marker, h_marker⟩ := Option.isSome_iff_exists.mp h
      exact .marked h_marker h_s.notBlank h_s'.notBlank
    · exact .redacted h_s.notBlank h_s'.notBlank h
    · exact .structured (h_e.leaves h_s.notBlank) (h_e'.leaves h_s'.notBlank) h_same

/-- Rows behind the first 50 are not looked at. -/
theorem buildPreview_take (rows : List PreviewRow) :
    buildPreview k limits sensitiveColumns (rows.take 50) =
      buildPreview k limits sensitiveColumns rows := by
  rw [buildPreview, buildPreview, List.take_take, min_self]

theorem forall₂_and {α β : Type} {R S : α → β → Prop} {l : List α} {l' : List β}
    (h_R : List.Forall₂ R l l') (h_S : List.Forall₂ S l l') :
    List.Forall₂ (fun a b => R a b ∧ S a b) l l' := by
  induction h_R with
  | nil => exact .nil
  | cons h_a _ ih =>
    cases h_S with
    | cons h_b h_rest => exact .cons ⟨h_a, h_b⟩ (ih h_rest)

/-- **Names in structured cells.** Two tables that differ only in names and addresses of structured
cells have the same preview, if the redaction of the texts of these cells leaves documents. -/
theorem names_hidden (k : UnicodeTables) (limits : ParserLimits) (sensitiveColumns : List String)
    (rows rows' : List PreviewRow)
    (h_differ : List.Forall₂ (List.Forall₂ fun e e' => e.1 = e'.1 ∧
      DifferInNames k limits e.2 e'.2) rows rows')
    (h_when : List.Forall₂ (List.Forall₂ fun e e' =>
      ∀ s s', e.2 = some s → e'.2 = some s' → s ≠ s' →
        RedactsDocuments k limits sensitiveColumns e.1 s s') (rows.take 50) (rows'.take 50)) :
    buildPreview k limits sensitiveColumns rows = buildPreview k limits sensitiveColumns rows' := by
  rw [← buildPreview_take rows, ← buildPreview_take rows']
  refine buildPreview_congr ?_
  refine (forall₂_and (List.forall₂_take 50 h_differ) h_when).imp fun row row' h_row => ?_
  refine (forall₂_and h_row.1 h_row.2).imp fun e e' h => ⟨h.1.1, h.1.2.looksAlike h.2⟩

/-- A document with a number and a name. -/
def contact (n : ℤ) (name : String) : Json := .obj [("id", .int n), ("name", .str name)]

/-- The text of a contact. -/
def contactText (digits name : String) : String :=
  "\x7b\"id\": " ++ digits ++ ", \"name\": \"" ++ name ++ "\"\x7d"

/-- The result is the document of the contact. -/
def isContact (n : ℤ) (name : String) : Except JsonFailure Json → Bool
  | .ok (.obj [(idKey, .int m), (nameKey, .str s)]) =>
    idKey == "id" && m == n && nameKey == "name" && s == name
  | _ => false

theorem eq_of_isContact {n : ℤ} {name : String} {r : Except JsonFailure Json}
    (h : isContact n name r = true) : r = .ok (contact n name) := by
  unfold isContact at h
  split at h
  · simp only [Bool.and_eq_true, beq_iff_eq] at h
    obtain ⟨⟨⟨rfl, rfl⟩, rfl⟩, rfl⟩ := h
    rfl
  · cases h

/-- A document with a name below an address. -/
def home (name : String) : Json := .obj [("address", .obj [("name", .str name)])]

/-- The text of a home. -/
def homeText (name : String) : String :=
  "\x7b\"address\": \x7b\"name\": \"" ++ name ++ "\"\x7d\x7d"

/-- The result is the document of the home. -/
def isHome (name : String) : Except JsonFailure Json → Bool
  | .ok (.obj [(addressKey, .obj [(nameKey, .str s)])]) =>
    addressKey == "address" && nameKey == "name" && s == name
  | _ => false

theorem eq_of_isHome {name : String} {r : Except JsonFailure Json} (h : isHome name r = true) :
    r = .ok (home name) := by
  unfold isHome at h
  split at h
  · simp only [Bool.and_eq_true, beq_iff_eq] at h
    obtain ⟨⟨rfl, rfl⟩, rfl⟩ := h
    rfl
  · cases h

theorem sensitiveColumnMarker_name :
    UnicodeTables.asciiTables.sensitiveColumnMarker "name" = some "[REDACTED_NAME]" := by
  decide +kernel

theorem sensitiveColumnMarker_address :
    UnicodeTables.asciiTables.sensitiveColumnMarker "address" = some "[REDACTED_ADDRESS]" := by
  decide +kernel

theorem contact_sameButNames (n : ℤ) {name name' : String} (h : name ≠ "") (h' : name' ≠ "") :
    UnicodeTables.asciiTables.SameButNames (contact n name) (contact n name') :=
  .obj (.cons (.same _) (.name sensitiveColumnMarker_name h h' .nil))

theorem contact_sameWhenMasked (n : ℤ) {name name' : String}
    (h : (Json.str name).isBlank = false) (h' : (Json.str name').isBlank = false) :
    UnicodeTables.asciiTables.SameWhenMasked (contact n name) (contact n name') :=
  .obj (.cons (.same _) (.masked sensitiveColumnMarker_name h h' .nil))

/-- A short number is left alone, and the name is masked. -/
theorem contact_redacted {name : String} (h : name ∈ ["Ann", "Bob"]) :
    HoldsDocument ⟨4300, 1000⟩ (contactText "7" name) (contact 7 name) ∧
      UnicodeTables.asciiTables.redactText (contactText "7" name) = contactText "7" name := by
  simp only [List.mem_cons, List.not_mem_nil, or_false] at h
  rcases h with rfl | rfl
  · exact ⟨⟨by decide +kernel, eq_of_isContact (by decide +kernel)⟩, by decide +kernel⟩
  · exact ⟨⟨by decide +kernel, eq_of_isContact (by decide +kernel)⟩, by decide +kernel⟩

theorem home_redacted {name : String} (h : name ∈ [" ", "  "]) :
    HoldsDocument ⟨4300, 1000⟩ (homeText name) (home name) ∧
      UnicodeTables.asciiTables.redactText (homeText name) = homeText name := by
  simp only [List.mem_cons, List.not_mem_nil, or_false] at h
  rcases h with rfl | rfl
  · exact ⟨⟨by decide +kernel, eq_of_isHome (by decide +kernel)⟩, by decide +kernel⟩
  · exact ⟨⟨by decide +kernel, eq_of_isHome (by decide +kernel)⟩, by decide +kernel⟩

/-- The name of a contact is masked, and below an address even a blank name. -/
theorem names_hidden_contact :
    buildPreview UnicodeTables.asciiTables ⟨4300, 1000⟩ []
        [[("contact", some (contactText "7" "Ann"))], [("contact", some (homeText " "))]] =
      buildPreview UnicodeTables.asciiTables ⟨4300, 1000⟩ []
        [[("contact", some (contactText "7" "Bob"))], [("contact", some (homeText "  "))]] := by
  obtain ⟨h_ann, h_ann_kept⟩ := @contact_redacted "Ann" (by decide)
  obtain ⟨h_bob, h_bob_kept⟩ := @contact_redacted "Bob" (by decide)
  obtain ⟨h_one, h_one_kept⟩ := @home_redacted " " (by decide)
  obtain ⟨h_two, h_two_kept⟩ := @home_redacted "  " (by decide)
  refine names_hidden _ _ _ _ _ (.cons (.cons ⟨rfl, ?_⟩ .nil) (.cons (.cons ⟨rfl, ?_⟩ .nil) .nil))
    (.cons (.cons ?_ .nil) (.cons (.cons ?_ .nil) .nil))
  · exact .documents h_ann h_bob (contact_sameButNames 7 (by decide) (by decide))
  · exact .documents h_one h_two
      (.obj (.cons (.obj (.name sensitiveColumnMarker_name (by decide) (by decide) .nil)) .nil))
  · rintro s s' ⟨⟩ ⟨⟩ _
    refine Or.inr (Or.inr (Or.inr (Or.inr ⟨contact 7 "Ann", contact 7 "Bob", ?_, ?_, ?_⟩)))
    · rw [h_ann_kept]
      exact h_ann
    · rw [h_bob_kept]
      exact h_bob
    · exact contact_sameWhenMasked 7 (by decide) (by decide)
  · rintro s s' ⟨⟩ ⟨⟩ _
    refine Or.inr (Or.inr (Or.inr (Or.inr ⟨home " ", home "  ", ?_, ?_, ?_⟩)))
    · rw [h_one_kept]
      exact h_one
    · rw [h_two_kept]
      exact h_two
    · exact .obj (.masked sensitiveColumnMarker_address rfl rfl .nil)

/-- A long number is taken for a phone number, what is left of the text is no document, and the name
is shown. -/
theorem namesShown :
    List.Forall₂ (List.Forall₂ fun e e' => e.1 = e'.1 ∧
      DifferInNames UnicodeTables.asciiTables ⟨4300, 1000⟩ e.2 e'.2)
        [[("contact", some (contactText "1234567890" "Ann"))]]
        [[("contact", some (contactText "1234567890" "Bob"))]] ∧
      buildPreview UnicodeTables.asciiTables ⟨4300, 1000⟩ []
          [[("contact", some (contactText "1234567890" "Ann"))]] ≠
        buildPreview UnicodeTables.asciiTables ⟨4300, 1000⟩ []
          [[("contact", some (contactText "1234567890" "Bob"))]] := by
  have h_ann : HoldsDocument ⟨4300, 1000⟩ (contactText "1234567890" "Ann")
      (contact 1234567890 "Ann") :=
    ⟨by decide +kernel, eq_of_isContact (by decide +kernel)⟩
  have h_bob : HoldsDocument ⟨4300, 1000⟩ (contactText "1234567890" "Bob")
      (contact 1234567890 "Bob") :=
    ⟨by decide +kernel, eq_of_isContact (by decide +kernel)⟩
  have h_same : UnicodeTables.asciiTables.SameButNames (contact 1234567890 "Ann")
      (contact 1234567890 "Bob") := contact_sameButNames 1234567890 (by decide) (by decide)
  refine ⟨.cons (.cons ⟨rfl, .documents h_ann h_bob h_same⟩ .nil) .nil, ?_⟩
  decide +kernel

/-! ### The bounds of a preview -/

/-- A shown cell has at most 256 characters, the ellipsis included. -/
theorem length_cutCell (s : String) : (UnicodeTables.cutCell s).length ≤ 256 := by
  unfold UnicodeTables.cutCell
  split
  · have h_part : (s.take 253).toString.length ≤ 253 := by
      rw [← String.length_toList]
      simp
    have h_dots : "...".length = 3 := rfl
    rw [String.length_append, h_dots]
    omega
  · exact Nat.le_of_not_lt ‹_›

/-- Whatever a cell holds, its preview has at most 256 characters. -/
theorem length_shownCell_le {s text : String} (h : k.shownCell limits s = .ok text) :
    text.length ≤ 256 := by
  unfold UnicodeTables.shownCell at h
  simp only at h
  split at h
  · split at h
    · cases h
      exact length_cutCell _
    · cases h
      exact length_cutCell _
    · cases h
  · cases h
    exact length_cutCell _

/-- A row is shown with its columns, and no cell is long. -/
theorem forall₂_of_previewRow {row shown : PreviewRow}
    (h : k.previewRow limits sensitiveColumns row = .ok shown) :
    List.Forall₂ (fun e e' => e.1 = e'.1 ∧ ∀ text ∈ e'.2, text.length ≤ 256) row shown := by
  refine (mapM_eq_ok_iff.mp h).imp fun e e' h_e => ?_
  obtain ⟨cell, h_cell, rfl⟩ := map_eq_ok_iff.mp h_e
  refine ⟨rfl, fun text h_text => ?_⟩
  obtain rfl : cell = some text := h_text
  unfold UnicodeTables.previewCell at h_cell
  split at h_cell
  · cases h_cell
  · obtain ⟨text', h_shown, h_eq⟩ := map_eq_ok_iff.mp h_cell
    cases h_eq
    exact length_shownCell_le h_shown

/-- The rows that are left are as many as fit. -/
theorem popWhileTooLarge_spec (rows : List PreviewRow) :
    ∃ n ≤ rows.length, popWhileTooLarge rows.reverse = rows.take n ∧
      previewSize (rows.take n) ≤ 500 * 1024 ∧
      ∀ m, n < m → m ≤ rows.length → 500 * 1024 < previewSize (rows.take m) := by
  induction rows using List.reverseRecOn with
  | nil =>
    refine ⟨0, le_refl _, rfl, by decide, fun m h_m h_le => ?_⟩
    rw [List.length_nil] at h_le
    omega
  | append_singleton rows row ih =>
    rw [List.reverse_append, List.reverse_singleton, List.singleton_append, popWhileTooLarge,
      List.reverse_cons, List.reverse_reverse]
    have h_length : (rows ++ [row]).length = rows.length + 1 := List.length_append
    by_cases h_large : 500 * 1024 < previewSize (rows ++ [row])
    · -- the last row is dropped, and the rest goes on
      obtain ⟨n, h_n, h_eq, h_size, h_max⟩ := ih
      have h_take : ∀ m ≤ rows.length, (rows ++ [row]).take m = rows.take m := fun m h_m =>
        List.take_append_of_le_length h_m
      refine ⟨n, by omega, ?_, by rw [h_take n h_n]; exact h_size, fun m h_m h_le => ?_⟩
      · rw [if_pos h_large, h_eq, h_take n h_n]
      · rcases Nat.lt_or_ge rows.length m with h_all | h_part
        · rw [List.take_of_length_le (by omega)]
          exact h_large
        · rw [h_take m h_part]
          exact h_max m h_m h_part
    · refine ⟨rows.length + 1, h_length.ge, ?_, ?_, fun m h_m h_le => by omega⟩
      · rw [if_neg h_large, List.take_of_length_le h_length.le]
      · rw [List.take_of_length_le h_length.le]
        exact Nat.le_of_not_lt h_large

/-- A table of one row with a sensitive, a financial and a structured cell. -/
def customerRow (email iban name : String) : PreviewRow :=
  [("email", some email), ("iban", some iban), ("contact", some (contactText "7" name))]

end DqScoring
