import DqScoring.Common.RedactionUtils
import DqScoring.Common.StructuredValues

/-!
# Bounded evidence

`common/redaction_utils.py`: the redaction of evidence samples, and the payload of a result,
which drops samples from the end and then shortens the error message until its JSON text fits.
The values of a sample are what a compute engine returns; `json.dumps` writes those it does
not know with `str`.
-/

namespace DqScoring

/-- A value of an evidence sample. -/
inductive EvidenceValue where
  | none
  | bool (b : Bool)
  | int (n : ℤ)
  /-- A float, as `json.dumps` prints it. -/
  | float (text : String)
  | str (s : String)
  | list (items : List EvidenceValue)
  | tuple (items : List EvidenceValue)
  | dict (entries : List (String × EvidenceValue))
  /-- Any other object, with its `str`. -/
  | object (text : String)

/-- `dict[str, Any]`. -/
abbrev EvidenceRow := List (String × EvidenceValue)

namespace EvidenceValue

mutual

/-- `json.dumps(…, ensure_ascii=False, default=str)`. -/
def dumps : EvidenceValue → String
  | none => "null"
  | bool b => if b then "true" else "false"
  | int n => toString n
  | float text => text
  | str s => Json.quote s
  | list items => "[" ++ ", ".intercalate (dumpsItems items) ++ "]"
  | tuple items => "[" ++ ", ".intercalate (dumpsItems items) ++ "]"
  -- the braces are written as escapes
  | dict entries => "\x7b" ++ ", ".intercalate (dumpsEntries entries) ++ "\x7d"
  | object text => Json.quote text

/-- The texts of the items of a list. -/
def dumpsItems : List EvidenceValue → List String
  | [] => []
  | v :: items => dumps v :: dumpsItems items

/-- The texts of the entries of a dictionary. -/
def dumpsEntries : List (String × EvidenceValue) → List String
  | [] => []
  | (key, v) :: entries => (Json.quote key ++ ": " ++ dumps v) :: dumpsEntries entries

end

/-- `value is None or (isinstance(value, str) and not value.strip())`. -/
def isBlank : EvidenceValue → Bool
  | none => true
  | str s => pyStrip s == ""
  | _ => false

end EvidenceValue

namespace UnicodeTables

variable (k : UnicodeTables)

mutual

/-- `redact_value`. -/
def redactValue : EvidenceValue → EvidenceValue
  | .str s => .str (k.redactText s)
  | .dict entries => .dict (redactEntries entries)
  | .list items => .list (redactItems items)
  | .tuple items => .tuple (redactItems items)
  | v => v

/-- The redacted items of a list. -/
def redactItems : List EvidenceValue → List EvidenceValue
  | [] => []
  | v :: items => redactValue v :: redactItems items

/-- The entries of a dictionary with their values redacted. -/
def redactEntries : List (String × EvidenceValue) → List (String × EvidenceValue)
  | [] => []
  | (key, v) :: entries => (key, redactValue v) :: redactEntries entries

end

/-- `redact_sample_row`. -/
def redactSampleRow (row : EvidenceRow) : EvidenceRow :=
  row.map fun (key, value) =>
    if value.isBlank then (key, value)
    else match k.sensitiveColumnMarker key with
      | some marker => (key, .str marker)
      | none => (key, k.redactValue value)

/-- `redact_evidence_samples`. -/
def redactEvidenceSamples (samples : List EvidenceRow) (maxRows : ℕ) : List EvidenceRow :=
  (samples.take maxRows).map k.redactSampleRow

end UnicodeTables

/-! ### The payload -/

/-- `MAX_EVIDENCE_ROWS_PER_RESULT`. -/
def maxEvidenceRowsPerResult : ℕ := 50

/-- A payload, with each of its two keys or without. -/
structure BoundedPayload where
  errorMessage : Option String := none
  evidenceSamples : Option (List EvidenceRow) := none

namespace BoundedPayload

/-- The payload as the dictionary that is encoded. -/
def toValue (p : BoundedPayload) : EvidenceValue :=
  .dict ((p.errorMessage.map fun m => ("error_message", EvidenceValue.str m)).toList ++
    (p.evidenceSamples.map fun rows =>
      ("evidence_samples", EvidenceValue.list (rows.map .dict))).toList)

/-- `_encoded_size`. -/
def encodedSize (p : BoundedPayload) : ℕ := p.toValue.dumps.utf8ByteSize

/-- `not payload`. -/
def isEmpty (p : BoundedPayload) : Bool := p.errorMessage.isNone && p.evidenceSamples.isNone

/-- The samples without those at the end, while the payload is too large with them; the
samples come last first. -/
def popWhile (tooLarge : List EvidenceRow → Bool) : List EvidenceRow → List EvidenceRow
  | [] => []
  | row :: rows =>
    if tooLarge (row :: rows).reverse then popWhile tooLarge rows else (row :: rows).reverse

/-- The payload with as many of its samples as fit. -/
def dropSamples (maxBytes : ℕ) (p : BoundedPayload) : BoundedPayload :=
  match p.evidenceSamples with
  | some (row :: rows) =>
    let kept := popWhile
      (fun samples => decide (maxBytes < { p with evidenceSamples := some samples }.encodedSize))
      (row :: rows).reverse
    { p with evidenceSamples := if kept.isEmpty then none else some kept }
  | _ => p

/-- The end of a shortened message. -/
def truncatedSuffix : String := "... [TRUNCATED]"

/-- `range(start, -1, -5)`. -/
def sliceLengths (start : ℕ) : List ℕ := (List.range (start / 5 + 1)).map fun i => start - 5 * i

/-- The payload with its message shortened, or without it. -/
def truncateMessage (maxBytes : ℕ) (p : BoundedPayload) : BoundedPayload :=
  match p.errorMessage with
  | none => p
  | some message =>
    -- the size of the message is that of its encoding
    let suffixSize := { errorMessage := some truncatedSuffix : BoundedPayload }.encodedSize
    let shortened n :=
      { p with errorMessage := some (String.ofList (message.toList.take n) ++ truncatedSuffix) }
    -- not even the suffix fits
    if maxBytes < suffixSize then { p with errorMessage := none }
    else
      match (sliceLengths (min message.length (maxBytes - suffixSize))).find? fun n =>
        -- the longest prefix that fits, as the slices are tried
          decide ((shortened n).encodedSize ≤ maxBytes) with
      | some n => shortened n
      | none => { p with errorMessage := none }

end BoundedPayload

open BoundedPayload

/-- `prepare_bounded_evidence_payload`. -/
def UnicodeTables.prepareBoundedEvidencePayload (k : UnicodeTables)
    (samples : Option (List EvidenceRow)) (errorMessage : Option String) (maxRows maxBytes : ℕ) :
    BoundedPayload :=
  -- not even the empty object fits
  if maxBytes < 2 then {}
  else
    -- the samples go first, then the message is shortened
    let payload := dropSamples maxBytes
      { errorMessage := (errorMessage.filter (· ≠ "")).map k.redactText
        evidenceSamples := (samples.filter (!·.isEmpty)).map (k.redactEvidenceSamples · maxRows) }
    if maxBytes < payload.encodedSize then truncateMessage maxBytes payload else payload

/-! ### The size of a payload -/

namespace BoundedPayload

/-- The dictionary without keys is encoded as its two braces. -/
theorem encodedSize_empty : encodedSize {} = 2 := by decide +kernel

/-- What is kept is the beginning of the samples, and not too large unless nothing is kept. -/
theorem popWhile_spec (tooLarge : List EvidenceRow → Bool) (rows : List EvidenceRow) :
    popWhile tooLarge rows <+: rows.reverse ∧
      (popWhile tooLarge rows = [] ∨ tooLarge (popWhile tooLarge rows) = false) := by
  induction rows with
  | nil => exact ⟨List.prefix_rfl, Or.inl rfl⟩
  | cons row rows ih =>
    rw [popWhile]
    split
    · obtain ⟨h_begins, h_fits⟩ := ih
      rw [List.reverse_cons]
      exact ⟨h_begins.trans (List.prefix_append _ _), h_fits⟩
    · next h_small => exact ⟨List.prefix_rfl, Or.inr (Bool.eq_false_iff.mpr h_small)⟩

/-- After the loop over the samples the payload fits, or it has no samples. -/
theorem dropSamples_spec (maxBytes : ℕ) (p : BoundedPayload)
    (h_some : p.evidenceSamples ≠ some []) :
    (dropSamples maxBytes p).errorMessage = p.errorMessage ∧
      (dropSamples maxBytes p).evidenceSamples.getD [] <+: p.evidenceSamples.getD [] ∧
      ((dropSamples maxBytes p).encodedSize ≤ maxBytes ∨
        (dropSamples maxBytes p).evidenceSamples = none) := by
  obtain ⟨message, samples⟩ := p
  cases samples with
  | none => exact ⟨rfl, List.prefix_rfl, Or.inr rfl⟩
  | some rows =>
    cases rows with
    | nil => exact absurd rfl h_some
    | cons row rows =>
      have h_pop := popWhile_spec (fun samples => decide (maxBytes <
        encodedSize { errorMessage := message, evidenceSamples := some samples }))
        (row :: rows).reverse
      rw [List.reverse_reverse] at h_pop
      obtain ⟨h_begins, h_fits⟩ := h_pop
      unfold dropSamples
      dsimp only
      refine ⟨rfl, ?_, ?_⟩
      · split
        · exact List.nil_prefix
        · exact h_begins
      · split
        · exact Or.inr rfl
        · next h_kept =>
          refine Or.inl (Nat.le_of_not_lt ?_)
          exact of_decide_eq_false (h_fits.resolve_left (by simpa using h_kept))

/-- A payload without samples fits after its message is shortened. -/
theorem truncateMessage_spec {maxBytes : ℕ} (h_max : 2 ≤ maxBytes) {p : BoundedPayload}
    (h_samples : p.evidenceSamples = none) :
    (truncateMessage maxBytes p).evidenceSamples = none ∧
      ((truncateMessage maxBytes p).encodedSize ≤ maxBytes) := by
  obtain ⟨message, samples⟩ := p
  obtain rfl : samples = none := h_samples
  have h_empty : encodedSize {} ≤ maxBytes := by
    rw [encodedSize_empty]
    exact h_max
  cases message with
  | none => exact ⟨rfl, h_empty⟩
  | some message =>
    unfold truncateMessage
    dsimp only
    split
    · exact ⟨rfl, h_empty⟩
    · split
      · next n h_find =>
        have h_n := List.find?_some h_find
        exact ⟨rfl, of_decide_eq_true h_n⟩
      · exact ⟨rfl, h_empty⟩

end BoundedPayload

variable (k : UnicodeTables)

/-- The payload starts without the key or with at least one sample. -/
theorem UnicodeTables.redacted_spec (samples : Option (List EvidenceRow)) {maxRows : ℕ}
    (h_rows : 0 < maxRows) :
    (samples.filter (!·.isEmpty)).map (k.redactEvidenceSamples · maxRows) ≠ some [] ∧
      ((samples.filter (!·.isEmpty)).map (k.redactEvidenceSamples · maxRows)).getD [] =
        ((samples.getD []).take maxRows).map k.redactSampleRow := by
  obtain ⟨n, rfl⟩ := Nat.exists_eq_succ_of_ne_zero (Nat.ne_of_gt h_rows)
  rcases samples with _ | _ | ⟨row, rows⟩
  · exact ⟨(Option.some_ne_none _).symm, rfl⟩
  · exact ⟨(Option.some_ne_none _).symm, rfl⟩
  · exact ⟨fun h => List.cons_ne_nil _ _ (Option.some.inj h), rfl⟩

/-- The payload fits, and its samples are redacted samples from the beginning. -/
theorem prepareBoundedEvidencePayload_spec (samples : Option (List EvidenceRow))
    (errorMessage : Option String) {maxRows maxBytes : ℕ} (h_rows : 0 < maxRows)
    (h_max : 2 ≤ maxBytes) :
    (k.prepareBoundedEvidencePayload samples errorMessage maxRows maxBytes).encodedSize ≤ maxBytes ∧
      (k.prepareBoundedEvidencePayload
        samples errorMessage maxRows maxBytes).evidenceSamples.getD []
        <+: ((samples.getD []).take maxRows).map k.redactSampleRow := by
  unfold UnicodeTables.prepareBoundedEvidencePayload
  rw [if_neg (by omega)]
  dsimp only
  generalize h_p : BoundedPayload.mk _ _ = p
  have h_some : p.evidenceSamples ≠ some [] := by
    rw [← h_p]
    exact (k.redacted_spec samples h_rows).1
  have h_all : p.evidenceSamples.getD [] =
    ((samples.getD []).take maxRows).map k.redactSampleRow := by
    rw [← h_p]
    exact (k.redacted_spec samples h_rows).2
  obtain ⟨-, h_begins, h_fits⟩ := dropSamples_spec maxBytes p h_some
  rw [h_all] at h_begins
  split
  · next h_large =>
    have h_none := h_fits.resolve_left (Nat.not_le_of_lt h_large)
    obtain ⟨h_samples, h_size⟩ := truncateMessage_spec h_max h_none
    refine ⟨h_size, ?_⟩
    rw [h_samples]
    exact List.nil_prefix
  · next h_small => exact ⟨Nat.le_of_not_lt h_small, h_begins⟩

end DqScoring
