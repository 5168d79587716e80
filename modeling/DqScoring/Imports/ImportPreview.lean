import DqScoring.Common.EvidencePayload
import DqScoring.Common.StructuredErrors
import DqScoring.Privacy.ScanSummary

/-!
# The preview of an import

`_build_preview` of `adapters/source/tabular_import.py`: the first 50 rows, with the cells of
sensitive and of financial columns masked, the others redacted, structured cells parsed and masked
by their keys, and every cell cut to 256 characters. Rows are dropped from the end until the
JSON text of the preview has at most 500 KiB.

A structured cell is redacted as a text before it is parsed. A number whose `Decimal` cannot be
built has at least ten digits in a row, which the pattern for phone numbers matches, so the parser
never comes to one and no preview fails (`buildPreview_isOk`).
-/

namespace DqScoring

open Framework

/-- A row of a table: the texts of its cells by column. -/
abbrev PreviewRow := List (String × Option String)

/-- `FINANCIAL_TOKENS`. -/
def financialTokens : List String :=
  ["account", "iban", "routing", "ssn", "card", "pan", "bank", "credit"]

namespace Json

mutual

/-- How deep a value is nested. -/
def depth : Json → ℕ
  | arr items => depthItems items + 1
  | obj entries => depthEntries entries + 1
  | _ => 0

/-- The depth of the deepest item. -/
def depthItems : List Json → ℕ
  | [] => 0
  | v :: items => max (depth v) (depthItems items)

/-- The depth of the deepest value. -/
def depthEntries : List (String × Json) → ℕ
  | [] => 0
  | (_, v) :: entries => max (depth v) (depthEntries entries)

end

/-- `value is None or (isinstance(value, str) and not value.strip())`. -/
def isBlank : Json → Bool
  | null => true
  | str s => pyStrip s == ""
  | _ => false

end Json

namespace UnicodeTables

variable (k : UnicodeTables)

mutual

/-- `redact_value` of a parsed value. -/
def redactJson : Json → Json
  | .str s => .str (k.redactText s)
  | .arr items => .arr (redactJsonItems items)
  | .obj entries => .obj (redactJsonEntries entries)
  | v => v

/-- The redacted items of an array. -/
def redactJsonItems : List Json → List Json
  | [] => []
  | v :: items => redactJson v :: redactJsonItems items

/-- The entries of an object with their values redacted. -/
def redactJsonEntries : List (String × Json) → List (String × Json)
  | [] => []
  | (key, v) :: entries => (key, redactJson v) :: redactJsonEntries entries

end

/-- `redact_sample_row` of the entry of an object. -/
def redactJsonEntry (key : String) (v : Json) : Json :=
  if v.isBlank then v
  else match k.sensitiveColumnMarker key with
    | some marker => .str marker
    | none => k.redactJson v

/-- `_redact_structured_value`. A masked value is nested no deeper, so the depth is enough fuel. -/
def redactStructured : ℕ → Json → Json
  | fuel + 1, .obj entries =>
    .obj (entries.map fun e => (e.1, redactStructured fuel (k.redactJsonEntry e.1 e.2)))
  | fuel + 1, .arr items => .arr (items.map (redactStructured fuel))
  | _, v => v

/-- `_redact_structured_value` of a whole value. -/
def redactStructuredValue (v : Json) : Json := k.redactStructured v.depth v

/-! ### A cell -/

/-- The cell of a sensitive or of a financial column is masked. -/
def maskCell (sensitiveColumns : List String) (name : String) (v : Option String) : Option String :=
  if name ∈ sensitiveColumns then v.map fun s => if s = "" then "" else "[REDACTED]"
  else
    let lowerName := (k.lower name).toList.map fun c => if c = '-' then '_' else c
    let tokens := (lowerName.splitOn '_').map String.ofList
    if tokens.any financialTokens.contains then some "[REDACTED]" else v

/-- `redact_sample_row` of a cell. -/
def redactCell (name : String) (v : Option String) : Option String :=
  v.map fun s => if pyStrip s = "" then s else (k.sensitiveColumnMarker name).getD (k.redactText s)

/-- The text is between braces or between brackets. -/
def looksStructured (text : String) : Bool :=
  let cs := text.toList
  -- the braces are written as escapes
  (cs.head? == some '\x7b' && cs.getLast? == some '\x7d') ||
    (cs.head? == some '[' && cs.getLast? == some ']')

/-- A text of more than 256 characters is cut. -/
def cutCell (text : String) : String :=
  if 256 < text.length then (text.take 253).toString ++ "..." else text

/-- A redacted cell as the preview shows it. -/
def shownCell (limits : ParserLimits) (s : String) : Except PyError String :=
  let stripped := pyStrip s
  if looksStructured stripped then
    match parseStructuredJson limits stripped with
    | .ok parsed => .ok (cutCell (k.redactStructuredValue parsed).canonical)
    -- only a `StructuredParsingError` is caught
    | .error (.structured _) => .ok (cutCell s)
    | .error (.raised e) => .error e
  else .ok (cutCell s)

/-- A cell of the preview. -/
def previewCell (limits : ParserLimits) (sensitiveColumns : List String) (name : String)
    (v : Option String) : Except PyError (Option String) :=
  match k.redactCell name (k.maskCell sensitiveColumns name v) with
  | none => .ok none
  | some s => (k.shownCell limits s).map some

/-- A row of the preview. -/
def previewRow (limits : ParserLimits) (sensitiveColumns : List String) (row : PreviewRow) :
    Except PyError PreviewRow :=
  row.mapM fun (name, v) =>
    (k.previewCell limits sensitiveColumns name v).map fun cell => (name, cell)

end UnicodeTables

/-! ### The rows -/

/-- `json.dumps` of a row. -/
def PreviewRow.dumps (row : PreviewRow) : String :=
  "\x7b" ++ ", ".intercalate (row.map fun (name, v) =>
    quoteAscii name ++ ": " ++ (v.map quoteAscii).getD "null") ++ "\x7d"

/-- The length of `json.dumps(rows)`. -/
def previewSize (rows : List PreviewRow) : ℕ :=
  ("[" ++ ", ".intercalate (rows.map PreviewRow.dumps) ++ "]").utf8ByteSize

/-- The rows without those at the end, while there are rows and they are too large; the rows come
last first. -/
def popWhileTooLarge : List PreviewRow → List PreviewRow
  | [] => []
  | row :: rows =>
    if 500 * 1024 < previewSize (row :: rows).reverse then popWhileTooLarge rows
    else (row :: rows).reverse

/-- `_build_preview`. -/
def buildPreview (k : UnicodeTables) (limits : ParserLimits) (sensitiveColumns : List String)
    (rows : List PreviewRow) : Except PyError (List PreviewRow) := do
  let redacted ← (rows.take 50).mapM (k.previewRow limits sensitiveColumns)
  return popWhileTooLarge redacted.reverse

/-! ### The numbers of a redacted text -/

namespace UnicodeTables

variable {k : UnicodeTables} {limits : ParserLimits}

theorem matches_maybe_nil (p : Char → Bool) (before after : Option Char) :
    (Regex.maybe p).Matches k.isWord before [] after :=
  ⟨List.forall_mem_nil _, Nat.zero_le _, fun _ _ => Nat.zero_le _⟩

/-- Ten digits are a phone number, wherever they stand. -/
theorem matches_phonePattern {ds : List Char} (h_length : ds.length = 10)
    (h_digit : ∀ c ∈ ds, k.isDigit c = true) (before after : Option Char) :
    k.phonePattern.Matches k.isWord before ds after := by
  have h_digits : ∀ (n : ℕ) (m : List Char), m.length = n → m ⊆ ds → ∀ before after,
      (k.digits n).Matches k.isWord before m after := by
    intro n m h_n h_m _ _
    exact ⟨fun c h_c => h_digit c (h_m h_c), h_n.ge, fun _ h_most => by cases h_most; exact h_n.le⟩
  have h_first : (ds.take 3).length = 3 := by rw [List.length_take]; omega
  have h_second : ((ds.drop 3).take 3).length = 3 := by
    rw [List.length_take, List.length_drop]; omega
  have h_third : (ds.drop 6).length = 4 := by rw [List.length_drop]; omega
  have h_six : ds.take 6 = ds.take 3 ++ (ds.drop 3).take 3 := List.take_add (i := 3) (j := 3)
  refine ⟨ds.take 6, ds.drop 6, (List.take_append_drop 6 ds).symm, ?_,
    h_digits 4 _ h_third (List.drop_subset 6 ds) _ _⟩
  refine ⟨ds.take 6, [], (List.append_nil _).symm, ?_, matches_maybe_nil _ _ _⟩
  refine ⟨ds.take 3, (ds.drop 3).take 3, h_six, ?_,
    h_digits 3 _ h_second (fun _ h_c => List.drop_subset 3 ds (List.take_subset 3 _ h_c)) _ _⟩
  refine ⟨ds.take 3, [], (List.append_nil _).symm, ?_, matches_maybe_nil _ _ _⟩
  refine ⟨ds.take 3, [], (List.append_nil _).symm, ?_, matches_maybe_nil _ _ _⟩
  refine ⟨[], ds.take 3, rfl, ?_, h_digits 3 _ h_first (List.take_subset 3 ds) _ _⟩
  exact ⟨[], [], rfl, Or.inl rfl, matches_maybe_nil _ _ _⟩

/-- A long run of digits looks like a phone number. -/
theorem contains_phonePattern_of_hasLongRun {cs : List Char} (h : HasLongRun cs) :
    k.phonePattern.Contains k.isWord cs := by
  obtain ⟨ds, h_length, before, after, h_cs⟩ := h
  have h_digit : ∀ c ∈ digitChars ds, k.isDigit c = true := by
    intro c h_c
    obtain ⟨⟨d, h_d⟩, -, rfl⟩ := List.mem_map.mp h_c
    have h_ascii : d.toNat < 128 := (Char.isDigit_iff_toNat.mp h_d).2.trans_lt (by decide)
    rw [k.isDigit_ascii d h_ascii]
    exact h_d
  have h_ten : (digitChars ds).length = 10 := (List.length_map _).trans h_length
  exact ⟨before, digitChars ds, after, by rw [← h_cs, List.append_assoc],
    matches_phonePattern h_ten h_digit _ _⟩

/-- No long run of digits survives the redaction. -/
theorem not_hasLongRun_redactText (s : String) : ¬HasLongRun (k.redactText s).toList := fun h =>
  not_contains_phonePattern s (contains_phonePattern_of_hasLongRun h)

/-- Without digits there is no run of them. -/
theorem not_hasLongRun_of_all {cs : List Char} (h : (cs.all fun c => !c.isDigit) = true) :
    ¬HasLongRun cs := by
  rintro ⟨ds, h_length, h_part⟩
  obtain ⟨d, ds, rfl⟩ := List.exists_cons_of_length_eq_add_one h_length
  have h_d := List.all_eq_true.mp h d.val (h_part.subset List.mem_cons_self)
  rw [d.property] at h_d
  cases h_d

/-- No marker has a long run of digits. -/
theorem not_hasLongRun_marker {name marker : String}
    (h : k.sensitiveColumnMarker name = some marker) : ¬HasLongRun marker.toList := by
  unfold sensitiveColumnMarker at h
  simp only at h
  split at h
  · cases h
    exact not_hasLongRun_of_all (by decide)
  · split at h
    · cases h
      exact not_hasLongRun_of_all (by decide)
    · cases h

/-- A cell is shown, if it has no long run of digits. -/
theorem shownCell_isOk {s : String} (h : ¬HasLongRun s.toList) :
    ∃ text, k.shownCell limits s = .ok text := by
  have h_reaches : ¬ReachesOversized limits (pyStrip s) := fun h_reaches =>
    h ((hasLongRun_of_reachesOversized h_reaches).mono (pyStrip_isInfix s))
  unfold shownCell
  simp only
  split
  · rcases (@parsesOrRejects_iff limits _ 32).mpr h_reaches with ⟨v, h_v⟩ | ⟨code, h_code⟩
    · rw [h_v]
      exact ⟨_, rfl⟩
    · rw [h_code]
      exact ⟨_, rfl⟩
  · exact ⟨_, rfl⟩

/-- A blank cell is shown as it is. -/
theorem shownCell_of_blank {s : String} (h : pyStrip s = "") :
    k.shownCell limits s = .ok (cutCell s) := by
  unfold shownCell
  rw [h]
  rfl

/-- No cell raises: what is parsed has been redacted. -/
theorem previewCell_isOk (sensitiveColumns : List String) (name : String) (v : Option String) :
    ∃ cell, k.previewCell limits sensitiveColumns name v = .ok cell := by
  unfold previewCell redactCell
  cases k.maskCell sensitiveColumns name v with
  | none => exact ⟨none, rfl⟩
  | some s =>
    have h_shown : ∃ text, k.shownCell limits (if pyStrip s = "" then s else
        (k.sensitiveColumnMarker name).getD (k.redactText s)) = .ok text := by
      by_cases h_blank : pyStrip s = ""
      · rw [if_pos h_blank]
        exact ⟨_, shownCell_of_blank h_blank⟩
      · rw [if_neg h_blank]
        cases h_marker : k.sensitiveColumnMarker name with
        | none => exact shownCell_isOk (not_hasLongRun_redactText s)
        | some marker => exact shownCell_isOk (not_hasLongRun_marker h_marker)
    obtain ⟨text, h_text⟩ := h_shown
    exact ⟨some text, by simp only [Option.map_some, h_text, Except.map]⟩

/-- Every row has a preview. -/
theorem previewRow_isOk (sensitiveColumns : List String) (row : PreviewRow) :
    ∃ shown, k.previewRow limits sensitiveColumns row = .ok shown := by
  refine mapM_isOk_of_forall fun e _ => ?_
  obtain ⟨cell, h_cell⟩ : ∃ cell, k.previewCell limits sensitiveColumns e.1 e.2 = .ok cell :=
    previewCell_isOk sensitiveColumns e.1 e.2
  refine ⟨(e.1, cell), ?_⟩
  show (k.previewCell limits sensitiveColumns e.1 e.2).map _ = _
  rw [h_cell]
  rfl

end UnicodeTables

/-- Every table has a preview. -/
theorem buildPreview_isOk (k : UnicodeTables) (limits : ParserLimits)
    (sensitiveColumns : List String) (rows : List PreviewRow) :
    ∃ preview, buildPreview k limits sensitiveColumns rows = .ok preview := by
  obtain ⟨redacted, h_redacted⟩ : ∃ redacted,
      (rows.take 50).mapM (k.previewRow limits sensitiveColumns) = .ok redacted :=
    mapM_isOk_of_forall fun row _ => UnicodeTables.previewRow_isOk sensitiveColumns row
  exact ⟨popWhileTooLarge redacted.reverse, by rw [buildPreview, h_redacted]; rfl⟩

/-! ### What the parser and its callers raise -/

/-- **Structured errors.** The parser returns a value or raises its own error, and a cell has a
field, except for the texts in which the decoder comes to a number too large for `Decimal`; no
preview comes to one. -/
theorem structuredErrors {δ : Type} (python : Python δ) (k : UnicodeTables)
    (limits : ParserLimits) :
    (∀ text maxDepth, ParsesOrRejects limits text maxDepth ↔ ¬ReachesOversized limits text) ∧
    (∀ value path,
      (∃ field, extractJsonField python (parseStructuredJson limits ·) value path = .ok field) ↔
        ∀ text, value = some text → ¬ReachesOversized limits text) ∧
    ∀ sensitiveColumns rows, ∃ preview, buildPreview k limits sensitiveColumns rows = .ok preview :=
  ⟨fun _ _ => parsesOrRejects_iff, fun _ _ => extractJsonField_isOk_iff,
    buildPreview_isOk k limits⟩

/-- The exponent of the number has nineteen digits. -/
theorem exponent_raises :
    parseStructuredJson ⟨4300, 1000⟩ "1e1000000000000000000" = .error (.raised .invalidOperation) ∧
      ∀ python : Python ℚ, extractJsonField python (parseStructuredJson ⟨4300, 1000⟩ ·)
        (some "1e1000000000000000000") "" = .error .invalidOperation :=
  ⟨rfl, fun _ => rfl⟩

end DqScoring
