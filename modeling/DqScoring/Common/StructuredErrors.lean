import DqScoring.Common.StructuredTexts
import DqScoring.Framework.JsonReach
import Mathlib.Data.Nat.Digits.Defs

/-!
# What the parser of structured values raises

`parse_structured_json` turns every `ValueError` of the decoder into a `StructuredParsingError`.
A number with a fraction or an exponent becomes a `Decimal`, and a `Decimal` that cannot be built
raises `InvalidOperation`, which is no `ValueError`. So the parser raises something else exactly
where the decoder comes to such a number (`parseStructuredJson_raised_iff`), and
`extract_json_field`, which catches a `StructuredParsingError`, raises it too.
-/

namespace DqScoring

open Framework

/-- A number with a fraction or an exponent that `Decimal` does not hold. -/
def IsOversized (n : NumberLiteral) : Prop :=
  n.isInteger = false ∧ ¬(⟨n.negative, n.coefficient, n.scale⟩ : DecimalNumber).Fits

/-- The decoder comes to such a number. -/
def ReachesOversized (limits : ParserLimits) (text : String) : Prop :=
  ∃ n, IsOversized n ∧
    (structuredHooks limits).Reaches limits.recursion (text.toList.dropWhile isPySpace) n

variable {limits : ParserLimits}

/-! ### The hooks -/

/-- The only error of the decoder's own is `InvalidOperation`, at a number with an oversized
exponent. -/
theorem number_raised_iff {n : NumberLiteral} {e : PyError}
    (h : ∀ message, e ≠ .valueError message) :
    (structuredHooks limits).number n = .error (.raised e) ↔
      e = .invalidOperation ∧ IsOversized n := by
  show (if n.isInteger then intOfLiteral limits n else decimalOfLiteral n) = _ ↔ _
  by_cases h_integer : n.isInteger = true
  · rw [if_pos h_integer, intOfLiteral]
    have h_not : ¬(e = .invalidOperation ∧ IsOversized n) := by
      rintro ⟨-, h_decimal, -⟩
      rw [h_integer] at h_decimal
      cases h_decimal
    refine iff_of_false (fun h_error => ?_) h_not
    split at h_error
    · cases h_error
    · cases h_error
      exact h _ rfl
  · rw [if_neg h_integer, decimalOfLiteral]
    simp only [IsOversized, Bool.eq_false_of_not_eq_true h_integer, true_and]
    split
    case isTrue h_fits => exact iff_of_false (fun h_error => by cases h_error) fun h' => h'.2 h_fits
    case isFalse h_fits =>
      constructor
      · intro h_error
        cases h_error
        exact ⟨rfl, h_fits⟩
      · rintro ⟨rfl, -⟩
        rfl

/-- No other hook raises anything but a `ValueError` or a `StructuredParsingError`. -/
theorem not_raises {e : PyError} (h : ∀ message, e ≠ .valueError message) :
    ¬(structuredHooks limits).Raises (.raised e) := by
  rintro (h_malformed | h_deep | ⟨c, h_constant⟩ | ⟨entries, h_object⟩)
  · cases h_malformed
    exact h _ rfl
  · cases h_deep
    exact h _ rfl
  · cases h_constant
  · change objectPairsHook entries = _ at h_object
    rw [objectPairsHook_eq] at h_object
    split at h_object <;> cases h_object

/-! ### The walk over the value -/

/-- A refused text has an error code. -/
theorem structured_of_checkText {points : List ℕ} {failure : JsonFailure}
    (h : checkText points = .error failure) : ∃ code, failure = .structured code := by
  unfold checkText at h
  split at h
  · cases h
  · cases h
    exact ⟨_, rfl⟩

mutual

/-- `_check_depth` raises nothing but a `StructuredParsingError`. -/
theorem structured_of_checkDepth {maxDepth currentDepth : ℕ} {failure : JsonFailure} :
    ∀ value, checkDepth maxDepth currentDepth value = .error failure →
      ∃ code, failure = .structured code := by
  intro value h
  unfold checkDepth at h
  split at h
  · cases h
    exact ⟨_, rfl⟩
  · cases value with
    | str points =>
      rcases error_of_bind h with h_text | ⟨_, -, h_ok⟩
      · exact structured_of_checkText h_text
      · cases h_ok
    | arr items =>
      rcases error_of_bind h with h_items | ⟨_, -, h_ok⟩
      · exact structured_of_checkItems items h_items
      · cases h_ok
    | obj entries =>
      rcases error_of_bind h with h_entries | ⟨_, -, h_ok⟩
      · exact structured_of_checkEntries entries h_entries
      · cases h_ok
    | _ => cases h

/-- Refused items have an error code. -/
theorem structured_of_checkItems {maxDepth currentDepth : ℕ} {failure : JsonFailure} :
    ∀ items, checkItems maxDepth currentDepth items = .error failure →
      ∃ code, failure = .structured code
  | [], h => by
    unfold checkItems at h
    cases h
  | value :: items, h => by
    unfold checkItems at h
    rcases error_of_bind h with h_value | ⟨_, -, h_rest⟩
    · exact structured_of_checkDepth value h_value
    · rcases error_of_bind h_rest with h_items | ⟨_, -, h_ok⟩
      · exact structured_of_checkItems items h_items
      · cases h_ok

/-- Refused entries have an error code. -/
theorem structured_of_checkEntries {maxDepth currentDepth : ℕ} {failure : JsonFailure} :
    ∀ entries, checkEntries maxDepth currentDepth entries = .error failure →
      ∃ code, failure = .structured code
  | [], h => by
    unfold checkEntries at h
    cases h
  | (key, value) :: entries, h => by
    unfold checkEntries at h
    rcases error_of_bind h with h_key | ⟨_, -, h_rest⟩
    · exact structured_of_checkText h_key
    · rcases error_of_bind h_rest with h_value | ⟨_, -, h_more⟩
      · exact structured_of_checkDepth value h_value
      · rcases error_of_bind h_more with h_entries | ⟨_, -, h_ok⟩
        · exact structured_of_checkEntries entries h_entries
        · cases h_ok

end

/-! ### The parser -/

/-- What the parser does not catch is raised: everything but a `ValueError`. -/
theorem caught_raised_iff {failure : JsonFailure} {e : PyError} :
    failure.caught = .raised e ↔ failure = .raised e ∧ ∀ message, e ≠ .valueError message := by
  cases failure with
  | structured code => exact iff_of_false (fun h => by cases h) fun h => by cases h.1
  | raised e' =>
    cases e' with
    | valueError message =>
      refine iff_of_false (fun h => by cases h) ?_
      rintro ⟨h, h_not⟩
      cases h
      exact h_not message rfl
    | _ =>
      constructor
      · intro h
        cases h
        exact ⟨rfl, nofun⟩
      · exact fun h => h.1

/-- **What the parser raises.** Besides a `StructuredParsingError` this is the `InvalidOperation`
of a number that the decoder comes to, and nothing else. -/
theorem parseStructuredJson_raised_iff {text : String} {maxDepth : ℕ} {e : PyError} :
    parseStructuredJson limits text maxDepth = .error (.raised e) ↔
      e = .invalidOperation ∧ ReachesOversized limits text := by
  -- the scanner raises only at a number it has reached
  have h_scan : ∀ {e : PyError}, (∀ message, e ≠ .valueError message) →
      (scanValue (structuredHooks limits) (2 * (text.toList.dropWhile isPySpace).length + 1)
        limits.recursion (text.toList.dropWhile isPySpace) = .error (.raised e) ↔
          e = .invalidOperation ∧ ReachesOversized limits text) := by
    intro e h_e
    rw [scanValue_error_iff (not_raises h_e) le_rfl]
    simp only [number_raised_iff h_e, ReachesOversized]
    constructor
    · rintro ⟨n, ⟨h_eq, h_n⟩, h_reaches⟩
      exact ⟨h_eq, n, h_n, h_reaches⟩
    · rintro ⟨h_eq, n, h_n, h_reaches⟩
      exact ⟨n, ⟨h_eq, h_n⟩, h_reaches⟩
  have h_other : ∀ message, PyError.invalidOperation ≠ .valueError message := nofun
  unfold parseStructuredJson
  simp only
  split
  case h_1 failure h_failure =>
    -- the scanner fails, and what `json.loads` raises is caught if it is a `ValueError`
    rw [Except.error.injEq, caught_raised_iff]
    constructor
    · rintro ⟨rfl, h_e⟩
      exact (h_scan h_e).mp h_failure
    · rintro ⟨rfl, h_reaches⟩
      rw [(h_scan h_other).mpr ⟨rfl, h_reaches⟩] at h_failure
      cases h_failure
      exact ⟨rfl, nofun⟩
  case h_2 parsed rest h_ok =>
    -- the scanner succeeds, so it has reached no oversized number
    refine iff_of_false (fun h => ?_) ?_
    · -- what follows the value and the depth are structural violations
      split at h
      · cases h
      · obtain ⟨code, h_code⟩ := structured_of_checkDepth _ h
        cases h_code
    · rintro ⟨rfl, h_reaches⟩
      rw [(h_scan h_other).mpr ⟨rfl, h_reaches⟩] at h_ok
      cases h_ok

/-- The parser returns a value or raises a `StructuredParsingError`. -/
def ParsesOrRejects (limits : ParserLimits) (text : String) (maxDepth : ℕ) : Prop :=
  (∃ v, parseStructuredJson limits text maxDepth = .ok v) ∨
    ∃ code, parseStructuredJson limits text maxDepth = .error (.structured code)

/-- The parser answers or rejects, unless it reaches an oversized number. -/
theorem parsesOrRejects_iff {text : String} {maxDepth : ℕ} :
    ParsesOrRejects limits text maxDepth ↔ ¬ReachesOversized limits text := by
  unfold ParsesOrRejects
  constructor
  · intro h h_reaches
    rw [parseStructuredJson_raised_iff.mpr ⟨rfl, h_reaches⟩] at h
    rcases h with ⟨v, h⟩ | ⟨code, h⟩ <;> cases h
  · intro h
    cases h_parse : parseStructuredJson limits text maxDepth with
    | ok v => exact .inl ⟨v, rfl⟩
    | error failure =>
      cases failure with
      | structured code => exact .inr ⟨code, rfl⟩
      | raised e => exact absurd (parseStructuredJson_raised_iff.mp h_parse).2 h

/-- A cell has a field unless the decoder comes to such a number. -/
theorem extractJsonField_isOk_iff {δ : Type} {python : Python δ} {value : Option String}
    {path : String} :
    (∃ field, extractJsonField python (parseStructuredJson limits ·) value path = .ok field) ↔
      ∀ text, value = some text → ¬ReachesOversized limits text := by
  cases value with
  | none => exact iff_of_true ⟨_, rfl⟩ nofun
  | some text =>
    have h_text : (∀ t, some text = some t → ¬ReachesOversized limits t) ↔
        ¬ReachesOversized limits text := by
      constructor
      · exact fun h => h text rfl
      · rintro h t h_t
        cases h_t
        exact h
    rw [h_text, ← @parsesOrRejects_iff limits text 32]
    unfold extractJsonField ParsesOrRejects
    simp only
    cases h_parse : parseStructuredJson limits text with
    | ok root =>
      refine iff_of_true ?_ (.inl ⟨root, rfl⟩)
      simp only
      split
      · exact ⟨_, rfl⟩
      · split <;> exact ⟨_, rfl⟩
    | error failure =>
      cases failure with
      | structured code => exact iff_of_true ⟨_, rfl⟩ (.inr ⟨code, rfl⟩)
      | raised e =>
        refine iff_of_false ?_ ?_
        · rintro ⟨field, h⟩
          cases h
        · rintro (⟨v, h⟩ | ⟨code, h⟩) <;> cases h

/-! ### Long runs of digits -/

/-- Ten digits in a row. -/
def HasLongRun (cs : List Char) : Prop := ∃ ds : List Digit, ds.length = 10 ∧ digitChars ds <:+: cs

/-- Ten digits in a row are a long run. -/
theorem hasLongRun_of_le {ds : List Digit} (h : 10 ≤ ds.length) {cs : List Char}
    (h_part : digitChars ds <:+: cs) : HasLongRun cs := by
  have h_take : digitChars (ds.take 10) <+: digitChars ds := (List.take_prefix 10 ds).map _
  exact ⟨ds.take 10, by rw [List.length_take]; omega, h_take.isInfix.trans h_part⟩

/-- A long run stays in a longer text. -/
theorem HasLongRun.mono {cs cs' : List Char} (h : HasLongRun cs) (h_part : cs <:+: cs') :
    HasLongRun cs' := by
  obtain ⟨ds, h_length, h_ds⟩ := h
  exact ⟨ds, h_length, h_ds.trans h_part⟩

/-- A number that is spelled with short runs of digits is not too large. -/
theorem fits_of_short {n : NumberLiteral} (h_integral : n.integral.digits.length ≤ 9)
    (h_fraction : n.fractionDigits.length ≤ 9)
    (h_exponent : ∀ e, n.exponent = some e → e.digits.toList.length ≤ 9) :
    (⟨n.negative, n.coefficient, n.scale⟩ : DecimalNumber).Fits := by
  have h_count : (⟨n.negative, n.coefficient, n.scale⟩ : DecimalNumber).digitCount ≤ 18 := by
    refine Nat.toDigits_length 10 n.coefficient 18 (by norm_num) ?_
    refine (digitsValue_lt _).trans_le (Nat.pow_le_pow_right (by norm_num) ?_)
    rw [List.length_append]
    omega
  have h_bounded : ∀ e, n.exponent = some e → digitsValue e.digits.toList < 10 ^ 9 := fun e h_e =>
    (digitsValue_lt _).trans_le (Nat.pow_le_pow_right (by norm_num) (h_exponent e h_e))
  have h_written : -(10 : ℤ) ^ 9 ≤ n.writtenExponent ∧ n.writtenExponent ≤ (10 : ℤ) ^ 9 := by
    unfold NumberLiteral.writtenExponent
    split
    · norm_num
    · rename_i ds h_e
      have h_ds := h_bounded _ h_e
      simp only at h_ds
      omega
    · rename_i ds _ h_e
      have h_ds := h_bounded _ h_e
      simp only at h_ds
      omega
  have h_scale : n.scale = n.writtenExponent - n.fractionDigits.length := rfl
  unfold DecimalNumber.Fits maxPrec maxEmax minEtiny
  simp only
  omega

/-- A number that does not fit has ten digits in a row. -/
theorem hasLongRun_of_isOversized {n : NumberLiteral} (h : IsOversized n) : HasLongRun n.text := by
  by_contra h_short
  obtain ⟨negative, integral, fraction, exponent⟩ := n
  refine h.2 (fits_of_short ?_ ?_ ?_)
  · by_contra h_long
    have h_part : digitChars integral.digits <:+: NumberLiteral.text ⟨negative, integral, fraction,
        exponent⟩ := ⟨_, _, List.append_assoc _ _ _⟩
    exact h_short (hasLongRun_of_le (Nat.not_le.mp h_long) h_part)
  · by_contra h_long
    cases fraction with
    | none => exact h_long (Nat.zero_le 9)
    | some ds =>
      have h_part : digitChars ds.toList <:+: NumberLiteral.text ⟨negative, integral, some ds,
          exponent⟩ := by
        refine List.IsInfix.trans ?_ (List.suffix_append _ _).isInfix
        refine List.IsInfix.trans ?_ (List.suffix_append _ _).isInfix
        exact ⟨['.'], _, rfl⟩
      exact h_short (hasLongRun_of_le (Nat.not_le.mp h_long) h_part)
  · rintro e rfl
    by_contra h_long
    have h_part : digitChars e.digits.toList <:+: NumberLiteral.text ⟨negative, integral, fraction,
        some e⟩ := by
      -- the digits of the exponent are the end of the text
      refine List.IsSuffix.isInfix ?_
      refine List.IsSuffix.trans ?_ (List.suffix_append _ _)
      refine List.IsSuffix.trans ?_ (List.suffix_append _ _)
      refine List.IsSuffix.trans ?_ (List.suffix_append _ _)
      exact (List.suffix_append _ _).trans (List.suffix_cons _ _)
    exact h_short (hasLongRun_of_le (Nat.not_le.mp h_long) h_part)

/-- So a text to whose number the decoder comes has ten digits in a row. -/
theorem hasLongRun_of_reachesOversized {text : String} (h : ReachesOversized limits text) :
    HasLongRun text.toList := by
  obtain ⟨n, h_n, h_reaches⟩ := h
  exact ((hasLongRun_of_isOversized h_n).mono h_reaches.text_isInfix).mono
    (List.dropWhile_suffix _).isInfix

end DqScoring
