import DqScoring.Common.StructuredValues

/-!
# Masking

Two implementations of FULL_MASK: `mask_row` of `common/privacy.py` for a row of values, and
`_mask_array` of `services/privacy_service.py` for an Arrow array. Arrow types are told
apart as `_mask_array` does; the text of a scalar that is no string is never empty.
-/

namespace DqScoring

/-- `REDACTED_SENTINEL`. -/
def redactedSentinel : String := "[REDACTED]"

/-! ### Values -/

/-- An Arrow type: strings, other scalars, and lists, structs or maps. -/
inductive ArrowType where
  | string | scalar | nested
  deriving DecidableEq, Repr

/-- A value that is not null. -/
inductive ArrowValue where
  | text (s : String)
  /-- A scalar by its text. -/
  | scalar (literal : String) (nonempty : literal ≠ "")
  | nested (value : Json)

namespace ArrowValue

/-- The type of a value. -/
def type : ArrowValue → ArrowType
  | text _ => .string
  | scalar _ _ => .scalar
  | nested _ => .nested

/-- `v == ""`. -/
def isEmptyText : ArrowValue → Bool
  | text s => decide (s = "")
  | scalar _ _ => false
  | nested _ => false

/-- `cast(pa.string(), safe=False)`, for types that are not nested. -/
def castText : ArrowValue → String
  | text s => s
  | scalar literal _ => literal
  | nested _ => ""

end ArrowValue

/-- A cell of a table; null is `none`. -/
abbrev ArrowCell := Option ArrowValue

/-- A column of a table, or of a batch of its rows. -/
@[ext]
structure ArrowColumn where
  name : String
  type : ArrowType
  values : List ArrowCell
  typed : ∀ v, some v ∈ values → v.type = type

/-! ### Rows -/

/-- What a sensitive value becomes. -/
def maskValue (v : ArrowValue) : ArrowValue :=
  if v.isEmptyText then .text "" else .text redactedSentinel

/-- `mask_row`. -/
def maskRow (sensitiveColumns : List String) (row : List (String × ArrowCell)) :
    List (String × ArrowCell) :=
  if sensitiveColumns.isEmpty then row
  else row.map fun (k, v) => if k ∈ sensitiveColumns then (k, v.map maskValue) else (k, v)

/-! ### Arrays -/

/-- The cells of `_mask_array`: which of them are empty, what hides the others, and the nulls. -/
def maskedCells (type : ArrowType) (values : List ArrowCell) : List ArrowCell :=
  let asText : Option (List (Option String)) :=
    -- a nested column cannot be cast to text
    if type = .nested then none else some (values.map fun v => v.map ArrowValue.castText)
  let empty : List (Option Bool) :=
    match asText with
    | some texts => texts.map fun t => t.map fun s => decide (s = "")
    | none => List.replicate values.length none
  -- an empty text stays empty, all else is replaced
  let masked := empty.map fun e => if e.getD false then "" else redactedSentinel
  -- a missing value stays missing
  List.zipWith (fun v m => if v.isNone then none else some (.text m)) values masked

/-- Masking by the type of the column is masking cell by cell. -/
theorem maskedCells_eq {type : ArrowType} {values : List ArrowCell}
    (h_typed : ∀ v, some v ∈ values → v.type = type) :
    maskedCells type values = values.map fun v => v.map maskValue := by
  -- cell by cell
  have h_cells : ∀ (f : ArrowCell → Option Bool), (∀ v, some v ∈ values →
      (f (some v)).getD false = v.isEmptyText) →
      List.zipWith (fun (v : ArrowCell) m => if v.isNone then none else some (.text m)) values
        ((values.map f).map fun e => if e.getD false then "" else redactedSentinel)
      = values.map fun v => v.map maskValue := by
    intro f h_f
    rw [List.map_map, List.zipWith_map_right, List.zipWith_self]
    refine List.map_congr_left fun v h_v => ?_
    -- an empty cell stays empty, another one is blanked or redacted
    cases v with
    | none => rfl
    | some v =>
      show some (ArrowValue.text (if (f (some v)).getD false then "" else redactedSentinel))
        = some (maskValue v)
      rw [h_f v h_v, maskValue]
      split <;> rfl
  rw [maskedCells]
  -- a nested column is redacted whole
  by_cases h_nested : type = .nested
  · rw [if_pos h_nested]
    show List.zipWith _ values (List.map _ (List.replicate values.length none)) = _
    rw [← List.map_const']
    refine h_cells (fun _ => none) fun v h_v => ?_
    have h_type := h_typed v h_v
    rw [h_nested] at h_type
    cases v with
    | nested => rfl
    | text => cases h_type
    | scalar => cases h_type
  · rw [if_neg h_nested]
    show List.zipWith _ values (List.map _ (List.map _ (List.map _ values))) = _
    rw [List.map_map (l := values)]
    refine h_cells _ fun v h_v => ?_
    have h_type := h_typed v h_v
    -- a scalar has text, so only a text can be empty
    cases v with
    | text => rfl
    | scalar literal h_nonempty => exact decide_eq_false h_nonempty
    | nested => exact absurd h_type.symm h_nested

/-- `_mask_array` of a column. -/
def maskArray (c : ArrowColumn) : ArrowColumn where
  name := c.name
  type := .string
  values := maskedCells c.type c.values
  typed v h_v := by
    rw [maskedCells_eq c.typed] at h_v
    obtain ⟨cell, -, h_eq⟩ := List.mem_map.mp h_v
    obtain ⟨v', -, rfl⟩ := Option.map_eq_some_iff.mp h_eq
    rw [maskValue]
    split <;> rfl

@[simp] theorem maskArray_name (c : ArrowColumn) : (maskArray c).name = c.name := rfl

theorem maskArray_values (c : ArrowColumn) :
    (maskArray c).values = c.values.map fun v => v.map maskValue := maskedCells_eq c.typed

/-- Mask the protected columns of a batch. -/
def maskColumn (protectedColumns : List String) (c : ArrowColumn) : ArrowColumn :=
  if c.name ∈ protectedColumns then maskArray c else c

/-- Masking keeps the rows. -/
theorem maskColumn_length (protectedColumns : List String) (c : ArrowColumn) :
    (maskColumn protectedColumns c).values.length = c.values.length := by
  rw [maskColumn]
  split
  · rw [maskArray_values, List.length_map]
  · rfl

/-- Only which columns are protected matters. -/
theorem maskColumn_congr {protected₁ protected₂ : List String}
    (h : ∀ name, name ∈ protected₁ ↔ name ∈ protected₂) (c : ArrowColumn) :
    maskColumn protected₁ c = maskColumn protected₂ c := by
  simp only [maskColumn, h]

/-- Row `i` of some columns. -/
def rowOf (columns : List ArrowColumn) (i : ℕ) : List (String × ArrowCell) :=
  columns.map fun c => (c.name, (c.values[i]?).join)

/-- **Masking agrees.** The rows of masked columns are the masked rows. -/
theorem rowOf_maskColumn (protectedColumns : List String) (columns : List ArrowColumn) (i : ℕ) :
    rowOf (columns.map (maskColumn protectedColumns)) i
      = maskRow protectedColumns (rowOf columns i) := by
  have h_cell : ∀ c : ArrowColumn,
      ((maskColumn protectedColumns c).name, ((maskColumn protectedColumns c).values[i]?).join)
        = if c.name ∈ protectedColumns then (c.name, ((c.values[i]?).join).map maskValue)
          else (c.name, (c.values[i]?).join) := by
    intro c
    rw [maskColumn]
    split
    · rw [maskArray_values, maskArray_name, List.getElem?_map]
      cases c.values[i]? <;> rfl
    · rfl
  rw [maskRow]
  split
  · rename_i h_none
    rw [List.isEmpty_iff] at h_none
    rw [rowOf, List.map_map]
    refine List.map_congr_left fun c _ => ?_
    rw [Function.comp_apply, h_cell, h_none, if_neg List.not_mem_nil]
  · rw [rowOf, rowOf, List.map_map, List.map_map]
    exact List.map_congr_left fun c _ => h_cell c

end DqScoring
