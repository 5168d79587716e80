import DqScoring.Common.StructuredParser

/-!
# The literals of canonical text

Canonical text has strings and numbers only as the parser takes them: `quote` gives a string
literal with the code points of the string (`exists_parts`), `str` of an integer a literal of
that integer (`exists_intLiteral`), and `str` of a decimal a literal of that decimal
(`exists_decimalLiteral`). A decimal with exponent 0 is the exception: it has neither point nor
exponent, and its literal is that of an integer (`exists_wholeLiteral`).
-/

namespace DqScoring

open Framework

/-! ### Strings -/

theorem hexValue?_digitChar {n : ℕ} (h : n < 16) : hexValue? n.digitChar = some n := by
  revert n
  decide

/-- A hexadecimal digit. -/
def hexDigitOf (n : ℕ) (h : n < 16) : HexDigit :=
  ⟨n.digitChar, by rw [hexValue?_digitChar h]; rfl⟩

/-- A hexadecimal digit is read back as the number it was written for. -/
theorem value_hexDigitOf {n : ℕ} (h : n < 16) : (hexDigitOf n h).value = n := by
  unfold HexDigit.value hexDigitOf
  simp [hexValue?_digitChar h]

/-- The text of a character within a string is that of one part. -/
theorem exists_part (c : Char) :
    ∃ p : StringPart, p.text = (Json.escapeChar c).toList ∧ p.codePoint = c.toNat := by
  unfold Json.escapeChar
  split
  · rename_i h
    exact ⟨.escape .quote, rfl, by rw [h]; rfl⟩
  split
  · rename_i h
    exact ⟨.escape .backslash, rfl, by rw [h]; rfl⟩
  split
  · rename_i h
    exact ⟨.escape .newline, rfl, by rw [h]; rfl⟩
  split
  · rename_i h
    exact ⟨.escape .carriageReturn, rfl, by rw [h]; rfl⟩
  split
  · rename_i h
    exact ⟨.escape .tab, rfl, by rw [h]; rfl⟩
  split
  · rename_i h
    exact ⟨.escape .backspace, rfl, h.symm⟩
  split
  · rename_i h
    exact ⟨.escape .formFeed, rfl, h.symm⟩
  split
  · rename_i h_control
    refine ⟨.unicode (hexDigitOf 0 (by decide)) (hexDigitOf 0 (by decide))
      (hexDigitOf (c.toNat / 16) (by omega)) (hexDigitOf (c.toNat % 16) (by omega)), ?_, ?_⟩
    · simp [StringPart.text, hexDigitOf]
    · simp only [StringPart.codePoint, value_hexDigitOf]
      omega
  · rename_i h_quote h_backslash _ _ _ _ _ h_control
    have h_plain : isPlain c = true := by
      simp only [isPlain, Bool.and_eq_true, decide_eq_true_eq, bne_iff_ne]
      exact ⟨⟨by omega, h_quote⟩, h_backslash⟩
    exact ⟨.plain c h_plain, by simp [StringPart.text], rfl⟩

/-- No character is half of a surrogate pair. -/
theorem isHighSurrogate_toNat (c : Char) : isHighSurrogate c.toNat = false := by
  have h_valid : c.toNat < 0xd800 ∨ 0xdfff < c.toNat ∧ c.toNat < 0x110000 := c.valid
  simp only [isHighSurrogate, decide_eq_false_iff_not]
  omega

/-- Without surrogates there are no pairs. -/
theorem codePoints_eq_map {parts : List StringPart}
    (h : ∀ p ∈ parts, isHighSurrogate p.codePoint = false) :
    codePoints parts = parts.map (·.codePoint) := by
  induction parts with
  | nil => rfl
  | cons p parts ih =>
    have h_p := h p List.mem_cons_self
    have h_parts := ih fun q h_q => h q (List.mem_cons_of_mem p h_q)
    unfold codePoints
    rw [h_parts, List.map_cons]
    cases parts.map (·.codePoint) with
    | nil => rfl
    | cons low rest => simp [h_p]

/-- The text of a string is a literal with its code points. -/
theorem exists_parts (s : String) : ∃ parts : List StringPart,
    stringText parts = (Json.quote s).toList ∧ codePoints parts = s.toList.map Char.toNat := by
  have h_list : ∀ cs : List Char, ∃ parts : List StringPart,
      parts.flatMap StringPart.text = cs.flatMap (fun c => (Json.escapeChar c).toList) ∧
        parts.map (·.codePoint) = cs.map Char.toNat := by
    intro cs
    induction cs with
    | nil => exact ⟨[], rfl, rfl⟩
    | cons c cs ih =>
      obtain ⟨parts, h_text, h_points⟩ := ih
      obtain ⟨p, h_p, h_c⟩ := exists_part c
      refine ⟨p :: parts, ?_, ?_⟩
      · rw [List.flatMap_cons, List.flatMap_cons, h_p, h_text]
      · rw [List.map_cons, List.map_cons, h_c, h_points]
  obtain ⟨parts, h_text, h_points⟩ := h_list s.toList
  refine ⟨parts, ?_, ?_⟩
  · unfold stringText Json.quote
    rw [h_text]
    simp [List.flatMap_map]
  · rw [codePoints_eq_map, h_points]
    intro p h_p
    have h_mem : p.codePoint ∈ s.toList.map Char.toNat := by
      rw [← h_points]
      exact List.mem_map_of_mem h_p
    obtain ⟨c, -, h_c⟩ := List.mem_map.mp h_mem
    rw [← h_c]
    exact isHighSurrogate_toNat c

/-- The code points of a text are accepted and give back the text. -/
theorem checkText_toNat (s : String) : checkText (s.toList.map Char.toNat) = .ok s := by
  have h_valid : ∀ n ∈ s.toList.map Char.toNat, n.isValidChar := by
    intro n h_n
    obtain ⟨c, -, rfl⟩ := List.mem_map.mp h_n
    exact c.valid
  unfold checkText
  rw [if_pos h_valid]
  simp [Function.comp_def]

/-! ### Digits -/

/-- The digits of a number. -/
def digitsOf (n : ℕ) : List Digit :=
  (Nat.toDigits 10 n).attach.map fun c =>
    ⟨c.val, Nat.isDigit_of_mem_toDigits (by decide) (by decide) c.property⟩

@[simp] theorem digitChars_digitsOf (n : ℕ) : digitChars (digitsOf n) = Nat.toDigits 10 n := by
  simp [digitChars, digitsOf, Function.comp_def]

@[simp] theorem length_digitsOf (n : ℕ) : (digitsOf n).length = (Nat.toDigits 10 n).length := by
  simp [digitsOf]

@[simp] theorem digitsValue_digitsOf (n : ℕ) : digitsValue (digitsOf n) = n := by
  unfold digitsValue
  rw [digitChars_digitsOf]
  exact Nat.ofDigitChars_ten_toDigits

/-- Every number has a digit. -/
theorem digitsOf_ne_nil (n : ℕ) : digitsOf n ≠ [] := by
  intro h
  have h_length := length_digitsOf n
  rw [h] at h_length
  exact Nat.toDigits_ne_nil (List.length_eq_zero_iff.mp h_length.symm)

theorem digitsOf_zero : digitsOf 0 = [⟨'0', rfl⟩] := rfl

/-- A number other than zero does not start with a zero. -/
theorem head_toDigits_ne_zero {n : ℕ} (h : n ≠ 0) : (Nat.toDigits 10 n).head? ≠ some '0' := by
  induction n using Nat.strong_induction_on with
  | h n ih =>
    by_cases h_small : n < 10
    · have h_digit : ∀ m < 10, m ≠ 0 → (m.digitChar == '0') = false := by decide
      rw [Nat.toDigits_of_lt_base h_small, List.head?_cons]
      intro h_zero
      have h_n := h_digit n h_small h
      rw [Option.some.inj h_zero] at h_n
      cases h_n
    · -- the digits of `n / 10` come first
      have h_div : n / 10 ≠ 0 := by omega
      have h_head := ih (n / 10) (by omega) h_div
      rw [Nat.toDigits_of_base_le (by decide) (by omega), List.head?_append]
      cases h_digits : Nat.toDigits 10 (n / 10) with
      | nil => exact absurd h_digits Nat.toDigits_ne_nil
      | cons c cs =>
        rw [h_digits] at h_head
        exact h_head

/-- Some of the leading digits of a number are an integral part. -/
theorem exists_integral (n : ℕ) {k : ℕ} (h_pos : 0 < k) :
    ∃ i : IntegralPart, i.digits = (digitsOf n).take k := by
  obtain ⟨k, rfl⟩ := Nat.exists_eq_succ_of_ne_zero h_pos.ne'
  by_cases h : n = 0
  · refine ⟨.zero, ?_⟩
    rw [h, digitsOf_zero]
    simp [IntegralPart.digits]
  · cases h_digits : digitsOf n with
    | nil => exact absurd h_digits (digitsOf_ne_nil n)
    | cons d ds =>
      have h_head := head_toDigits_ne_zero h
      rw [← digitChars_digitsOf, h_digits] at h_head
      have h_d : d.val ≠ '0' := fun h_zero => h_head (congrArg some h_zero)
      exact ⟨.nonzero ⟨d, ds.take k⟩ h_d, rfl⟩

/-- The digits of a number are those of an integral part: they do not start with zero,
unless it is zero alone. -/
theorem exists_integral_all (n : ℕ) : ∃ i : IntegralPart, i.digits = digitsOf n := by
  have h_pos : 0 < (digitsOf n).length := List.length_pos_of_ne_nil (digitsOf_ne_nil n)
  obtain ⟨i, h_i⟩ := exists_integral n h_pos
  rw [List.take_length] at h_i
  exact ⟨i, h_i⟩

/-- A fraction, unless there are no digits. -/
def fractionOf : List Digit → Option Digits
  | [] => none
  | d :: ds => some ⟨d, ds⟩

theorem fractionText_fractionOf (ds : List Digit) :
    fractionText (fractionOf ds) = if ds = [] then [] else '.' :: digitChars ds := by
  cases ds <;> rfl

/-- A fraction keeps the digits it was made of. -/
theorem toList_fractionOf (ds : List Digit) :
    ((fractionOf ds).map Digits.toList).getD [] = ds := by
  cases ds <;> rfl

/-! ### Integers -/

/-- How an integer is written. -/
theorem toList_intStr (n : ℤ) : (toString n).toList =
    (if n < 0 then ['-'] else []) ++ Nat.toDigits 10 n.natAbs := by
  rw [Int.toString_eq_repr, Int.repr_eq_if]
  split
  · rename_i h_nonneg
    have h_abs : n.toNat = n.natAbs := by omega
    rw [if_neg (by omega), h_abs, Nat.toList_repr, List.nil_append]
  · rename_i h_neg
    have h_abs : (-n).toNat = n.natAbs := by omega
    rw [if_pos (by omega), h_abs, String.toList_append, Nat.toList_repr]
    rfl

/-- `str` of an integer is an integer literal of the same value. -/
theorem exists_intLiteral (n : ℤ) : ∃ lit : NumberLiteral, lit.text = (toString n).toList ∧
    lit.isInteger = true ∧ lit.integral.digits = digitsOf n.natAbs ∧
      lit.negative = decide (n < 0) := by
  obtain ⟨i, h_i⟩ := exists_integral_all n.natAbs
  refine ⟨⟨decide (n < 0), i, none, none⟩, ?_, rfl, h_i, rfl⟩
  rw [toList_intStr]
  simp [NumberLiteral.text, h_i, fractionText, exponentText]

/-! ### Decimals -/

/-- An exponent, unless it is zero. -/
def exponentOf (e : ℤ) : Option ExponentPart :=
  if e = 0 then none
  else (fractionOf (digitsOf e.natAbs)).map fun ds =>
    ⟨true, some (if e < 0 then .minus else .plus), ds⟩

/-- An exponent other than zero is written with its sign. -/
theorem exponentOf_of_ne_zero {e : ℤ} (h : e ≠ 0) : ∃ ds : Digits,
    exponentOf e = some ⟨true, some (if e < 0 then .minus else .plus), ds⟩ ∧
      ds.toList = digitsOf e.natAbs := by
  unfold exponentOf
  rw [if_neg h]
  cases h_digits : digitsOf e.natAbs with
  | nil => exact absurd h_digits (digitsOf_ne_nil _)
  | cons d ds => exact ⟨⟨d, ds⟩, rfl, rfl⟩

/-- The exponent as the source writes it. -/
theorem exponentText_exponentOf (e : ℤ) : exponentText (exponentOf e) =
    (if e = 0 then "" else if e > 0 then "E+" ++ toString e else "E" ++ toString e).toList := by
  by_cases h : e = 0
  · rw [if_pos h, h]
    rfl
  · obtain ⟨ds, h_exponent, h_digits⟩ := exponentOf_of_ne_zero h
    rw [h_exponent, if_neg h]
    by_cases h_neg : e < 0
    · rw [if_pos h_neg, if_neg (by omega), String.toList_append, toList_intStr, if_pos h_neg]
      simp [exponentText, signText, h_digits]
    · rw [if_neg h_neg, if_pos (by omega), String.toList_append, toList_intStr, if_neg h_neg]
      simp [exponentText, signText, h_digits]

/-- A written exponent is read back. -/
theorem writtenExponent_exponentOf (negative : Bool) (i : IntegralPart) (f : Option Digits)
    (e : ℤ) :
    (NumberLiteral.mk negative i f (exponentOf e)).writtenExponent = e := by
  by_cases h : e = 0
  · rw [h]
    rfl
  · obtain ⟨ds, h_exponent, h_digits⟩ := exponentOf_of_ne_zero h
    rw [h_exponent]
    by_cases h_neg : e < 0
    · rw [if_pos h_neg]
      show -(digitsValue ds.toList : ℤ) = e
      rw [h_digits, digitsValue_digitsOf]
      omega
    · rw [if_neg h_neg]
      show (digitsValue ds.toList : ℤ) = e
      rw [h_digits, digitsValue_digitsOf]
      omega

namespace DecimalNumber

/-- The digits before the point, were the number written without exponent. -/
def leftDigits (d : DecimalNumber) : ℤ := d.exponent + (digitsOf d.coefficient).length

/-- Where `str` puts the point. -/
def dotPlace (d : DecimalNumber) : ℤ :=
  if d.exponent ≤ 0 ∧ d.leftDigits > -6 then d.leftDigits else 1

/-- `len(str(coefficient))` counts the decimal digits. -/
theorem length_str_coefficient (d : DecimalNumber) :
    (toString d.coefficient).length = (digitsOf d.coefficient).length := by
  simp [Nat.repr_eq_ofList_toDigits]

/-- The text of a number, by the place of its point. -/
theorem str_eq (d : DecimalNumber) : d.str = (if d.negative then "-" else "") ++
    (if d.dotPlace ≤ 0 then
      "0." ++ String.ofList (List.replicate (-d.dotPlace).toNat '0') ++ toString d.coefficient
    else if d.dotPlace ≥ (digitsOf d.coefficient).length then
      toString d.coefficient ++
        String.ofList (List.replicate (d.dotPlace.toNat - (digitsOf d.coefficient).length) '0')
    else ((toString d.coefficient).take d.dotPlace.toNat).toString ++ "." ++
      ((toString d.coefficient).drop d.dotPlace.toNat).toString) ++
    (if d.leftDigits - d.dotPlace = 0 then ""
    else if d.leftDigits - d.dotPlace > 0 then "E+" ++ toString (d.leftDigits - d.dotPlace)
    else "E" ++ toString (d.leftDigits - d.dotPlace)) := by
  unfold str dotPlace leftDigits
  simp only [length_str_coefficient]

/-- `str(coefficient)` are the decimal digits. -/
theorem toList_str_coefficient (d : DecimalNumber) :
    (toString d.coefficient).toList = digitChars (digitsOf d.coefficient) := by
  simp

/-- The point is among the digits or after them. -/
theorem toList_str_of_pos {d : DecimalNumber} {k : ℕ} (h_place : d.dotPlace = k) (h_pos : 0 < k)
    (h_le : k ≤ (digitsOf d.coefficient).length) :
    d.str.toList = (if d.negative then ['-'] else []) ++
      (digitChars ((digitsOf d.coefficient).take k) ++
        (fractionText (fractionOf ((digitsOf d.coefficient).drop k)) ++
          exponentText (exponentOf (d.leftDigits - k)))) := by
  have h_after : ¬(k : ℤ) ≤ 0 := by omega
  rw [str_eq, exponentText_exponentOf, h_place, if_neg h_after, fractionText_fractionOf]
  simp only [String.toList_append, List.append_assoc]
  congr 1
  · cases d.negative <;> rfl
  · by_cases h_k : k = (digitsOf d.coefficient).length
    · have h_all : (k : ℤ) ≥ (digitsOf d.coefficient).length := by omega
      rw [if_pos h_all, h_k, List.take_length, List.drop_length]
      simp
    · have h_drop : (digitsOf d.coefficient).drop k ≠ [] := by
        intro h_nil
        have h_length := List.drop_eq_nil_iff.mp h_nil
        omega
      have h_among : ¬(k : ℤ) ≥ (digitsOf d.coefficient).length := by omega
      rw [if_neg h_among, if_neg h_drop, Int.toNat_natCast]
      have h_take : ((toString d.coefficient).take k).toString.toList =
          digitChars ((digitsOf d.coefficient).take k) := by
        rw [digitChars, List.map_take]
        exact (String.toList_copy_take).trans (congrArg _ (toList_str_coefficient d))
      have h_rest : ((toString d.coefficient).drop k).toString.toList =
          digitChars ((digitsOf d.coefficient).drop k) := by
        rw [digitChars, List.map_drop]
        exact (String.toList_copy_drop).trans (congrArg _ (toList_str_coefficient d))
      simp only [String.toList_append, h_take, h_rest]
      simp

/-- The point is before all digits. -/
theorem toList_str_of_nonpos {d : DecimalNumber} (h_place : d.dotPlace ≤ 0) :
    d.str.toList = (if d.negative then ['-'] else []) ++
      ('0' :: '.' :: (List.replicate (-d.leftDigits).toNat '0' ++
        digitChars (digitsOf d.coefficient))) := by
  have h_left : d.dotPlace = d.leftDigits := by
    unfold dotPlace at h_place ⊢
    split
    · rfl
    · rename_i h
      rw [if_neg h] at h_place
      omega
  rw [str_eq, if_pos h_place, h_left, if_pos (sub_self _)]
  simp only [String.toList_append, toList_str_coefficient]
  cases d.negative <;> simp

/-- `str` of a decimal with exponent 0 is an integer literal. -/
theorem exists_wholeLiteral {d : DecimalNumber} (h : d.exponent = 0) : ∃ lit : NumberLiteral,
    lit.text = d.str.toList ∧ lit.isInteger = true ∧
      lit.integral.digits = digitsOf d.coefficient ∧ lit.negative = d.negative := by
  have h_pos : 0 < (digitsOf d.coefficient).length :=
    List.length_pos_of_ne_nil (digitsOf_ne_nil d.coefficient)
  have h_place : d.dotPlace = (digitsOf d.coefficient).length := by
    unfold dotPlace leftDigits
    rw [if_pos (by omega)]
    omega
  obtain ⟨i, h_i⟩ := exists_integral_all d.coefficient
  refine ⟨⟨d.negative, i, none, none⟩, ?_, rfl, h_i, rfl⟩
  have h_exponent : d.leftDigits - (digitsOf d.coefficient).length = 0 := by
    unfold leftDigits
    omega
  rw [toList_str_of_pos h_place h_pos le_rfl, h_exponent, List.take_length, List.drop_length]
  simp [NumberLiteral.text, h_i, fractionText, exponentText, fractionOf, exponentOf]

/-- `str` of any other decimal is a literal of that decimal. -/
theorem exists_decimalLiteral {d : DecimalNumber} (h : d.exponent ≠ 0) : ∃ lit : NumberLiteral,
    lit.text = d.str.toList ∧ lit.isInteger = false ∧
      (⟨lit.negative, lit.coefficient, lit.scale⟩ : DecimalNumber) = d := by
  have h_length : 0 < (digitsOf d.coefficient).length :=
    List.length_pos_of_ne_nil (digitsOf_ne_nil d.coefficient)
  by_cases h_place : d.dotPlace ≤ 0
  · -- zeros between the point and the digits
    have h_left : d.leftDigits ≤ 0 := by
      unfold dotPlace at h_place
      split at h_place
      · exact h_place
      · omega
    obtain ⟨zeros, h_zeros⟩ : ∃ zeros : List Digit,
        zeros = List.replicate (-d.leftDigits).toNat ⟨'0', rfl⟩ := ⟨_, rfl⟩
    have h_chars : digitChars zeros = List.replicate (-d.leftDigits).toNat '0' := by
      rw [h_zeros, digitChars, List.map_replicate]
    have h_fraction := toList_fractionOf (zeros ++ digitsOf d.coefficient)
    refine ⟨⟨d.negative, .zero, fractionOf (zeros ++ digitsOf d.coefficient), none⟩, ?_, ?_, ?_⟩
    · have h_digits : zeros ++ digitsOf d.coefficient ≠ [] := by simp [digitsOf_ne_nil]
      rw [toList_str_of_nonpos h_place, NumberLiteral.text, fractionText_fractionOf,
        if_neg h_digits]
      simp [IntegralPart.digits, digitChars, exponentText, ← h_chars]
    · cases h_digits : zeros ++ digitsOf d.coefficient with
      | nil => simp [digitsOf_ne_nil] at h_digits
      | cons c cs => rfl
    · have h_coefficient : NumberLiteral.coefficient ⟨d.negative, .zero,
          fractionOf (zeros ++ digitsOf d.coefficient), none⟩ = d.coefficient := by
        unfold NumberLiteral.coefficient NumberLiteral.fractionDigits
        rw [h_fraction]
        have h_zero : digitChars (IntegralPart.zero.digits ++ zeros) =
            List.replicate ((-d.leftDigits).toNat + 1) '0' := by
          rw [digitChars, List.map_append, ← digitChars, ← digitChars, h_chars]
          rfl
        have h_split : digitChars (IntegralPart.zero.digits ++ (zeros ++ digitsOf d.coefficient)) =
            List.replicate ((-d.leftDigits).toNat + 1) '0' ++
              digitChars (digitsOf d.coefficient) := by
          rw [← List.append_assoc, ← h_zero, digitChars, List.map_append]
          rfl
        unfold digitsValue
        rw [h_split, Nat.ofDigitChars_append, Nat.ofDigitChars_replicate_zero, Nat.mul_zero]
        exact digitsValue_digitsOf d.coefficient
      have h_scale : NumberLiteral.scale ⟨d.negative, .zero,
          fractionOf (zeros ++ digitsOf d.coefficient), none⟩ = d.exponent := by
        unfold NumberLiteral.scale NumberLiteral.fractionDigits
        rw [h_fraction, h_zeros, List.length_append, List.length_replicate]
        unfold leftDigits at h_left ⊢
        simp only [NumberLiteral.writtenExponent]
        omega
      rw [h_coefficient, h_scale]
  · -- some of the digits stand in front of the point
    obtain ⟨k, h_k⟩ := Int.eq_ofNat_of_zero_le (not_le.mp h_place).le
    have h_pos : 0 < k := by omega
    have h_le : k ≤ (digitsOf d.coefficient).length := by
      unfold dotPlace leftDigits at h_k
      split at h_k <;> omega
    -- the first of them are the integral part, which starts with no zero
    obtain ⟨i, h_i⟩ := exists_integral d.coefficient h_pos
    refine ⟨⟨d.negative, i, fractionOf ((digitsOf d.coefficient).drop k),
      exponentOf (d.leftDigits - k)⟩, ?_, ?_, ?_⟩
    · rw [toList_str_of_pos h_k h_pos h_le]
      simp [NumberLiteral.text, h_i]
    · -- without point and exponent the decimal would be whole
      by_contra h_integer
      simp only [NumberLiteral.isInteger, Bool.not_eq_false, Bool.and_eq_true,
        Option.isNone_iff_eq_none] at h_integer
      obtain ⟨h_fraction, h_exponent⟩ := h_integer
      have h_drop := toList_fractionOf ((digitsOf d.coefficient).drop k)
      rw [h_fraction] at h_drop
      have h_length := List.drop_eq_nil_iff.mp h_drop.symm
      have h_left : d.leftDigits - k = 0 := by
        by_contra h_ne
        obtain ⟨ds, h_some, -⟩ := exponentOf_of_ne_zero h_ne
        rw [h_some] at h_exponent
        cases h_exponent
      unfold leftDigits at h_left
      omega
    · have h_fraction := toList_fractionOf ((digitsOf d.coefficient).drop k)
      have h_coefficient : NumberLiteral.coefficient ⟨d.negative, i,
          fractionOf ((digitsOf d.coefficient).drop k), exponentOf (d.leftDigits - k)⟩ =
            d.coefficient := by
        unfold NumberLiteral.coefficient NumberLiteral.fractionDigits
        rw [h_fraction, h_i, List.take_append_drop, digitsValue_digitsOf]
      have h_scale : NumberLiteral.scale ⟨d.negative, i,
          fractionOf ((digitsOf d.coefficient).drop k), exponentOf (d.leftDigits - k)⟩ =
            d.exponent := by
        unfold NumberLiteral.scale NumberLiteral.fractionDigits
        rw [writtenExponent_exponentOf, h_fraction, List.length_drop]
        unfold leftDigits
        omega
      rw [h_coefficient, h_scale]

end DecimalNumber

end DqScoring
