import DqScoring.Framework.JsonText
import Mathlib.Data.List.TakeWhile
import Mathlib.Tactic.Linarith

/-!
# Scanning JSON tokens

Each scanner takes the longest token of its kind from the front of a text and gives what is
left. A scanner finds the token that the text spells (`scanNumber_text`, `scanString_text`,
`scanWord_text`), and what it finds is spelled there (`text_of_scanNumber` and so on). A
number needs something after it that does not go on with it (`Delimited`); the other tokens
end by themselves.
-/

namespace Framework

/-! ### Scanners -/

/-- Skip blanks. -/
def skipBlanks : List Char → List Char := List.dropWhile isBlank

/-- The digits at the front of a text. -/
def scanDigits : List Char → List Digit × List Char
  | [] => ([], [])
  | c :: cs =>
    if h : c.isDigit = true then (⟨c, h⟩ :: (scanDigits cs).1, (scanDigits cs).2) else ([], c :: cs)

/-- One digit or more. -/
def scanDigits? (cs : List Char) : Option (Digits × List Char) :=
  match scanDigits cs with
  | (d :: ds, rest) => some (⟨d, ds⟩, rest)
  | ([], _) => none

/-- An integral part. After a zero there are no further digits. -/
def scanIntegral (cs : List Char) : Option (IntegralPart × List Char) :=
  (scanDigits? cs).map fun (ds, rest) =>
    if h : ds.first.val ≠ '0' then (.nonzero ds h, rest)
    else (.zero, digitChars ds.more ++ rest)

/-- A fraction. A point without digits is left alone. -/
def scanFraction : List Char → Option Digits × List Char
  | [] => (none, [])
  | c :: cs =>
    if c = '.' then
      match scanDigits? cs with
      | some (ds, rest) => (some ds, rest)
      | none => (none, c :: cs)
    else (none, c :: cs)

/-- The sign of an exponent. -/
def scanSign : List Char → Option ExponentSign × List Char
  | [] => (none, [])
  | c :: cs =>
    if c = '+' then (some .plus, cs) else if c = '-' then (some .minus, cs) else (none, c :: cs)

/-- An exponent. A letter without digits is left alone. -/
def scanExponent : List Char → Option ExponentPart × List Char
  | [] => (none, [])
  | c :: cs =>
    if c = 'e' ∨ c = 'E' then
      match scanDigits? (scanSign cs).2 with
      | some (ds, rest) => (some ⟨c = 'E', (scanSign cs).1, ds⟩, rest)
      | none => (none, c :: cs)
    else (none, c :: cs)

/-- The sign of a number. -/
def scanMinus : List Char → Bool × List Char
  | [] => (false, [])
  | c :: cs => if c = '-' then (true, cs) else (false, c :: cs)

/-- A number. -/
def scanNumber (cs : List Char) : Option (NumberLiteral × List Char) :=
  (scanIntegral (scanMinus cs).2).map fun (integral, rest) =>
    let fraction := scanFraction rest
    let exponent := scanExponent fraction.2
    (⟨(scanMinus cs).1, integral, fraction.1, exponent.1⟩, exponent.2)

/-- The parts of a string after its opening quote, up to its closing quote. -/
def scanParts : List Char → Option (List StringPart × List Char)
  | [] => none
  | '\\' :: 'u' :: a :: b :: c :: d :: rest =>
    -- four hexadecimal digits
    if h : ((hexValue? a).isSome = true ∧ (hexValue? b).isSome = true) ∧
        ((hexValue? c).isSome = true ∧ (hexValue? d).isSome = true) then
      (scanParts rest).map fun (parts, rest) =>
        (.unicode ⟨a, h.1.1⟩ ⟨b, h.1.2⟩ ⟨c, h.2.1⟩ ⟨d, h.2.2⟩ :: parts, rest)
    else none
  | '\\' :: letter :: rest =>
    match Escape.ofLetter? letter with
    | some e => (scanParts rest).map fun (parts, rest) => (.escape e :: parts, rest)
    | none => none
  | c :: rest =>
    if c = '"' then some ([], rest)
    else if h : isPlain c = true then
      (scanParts rest).map fun (parts, rest) => (.plain c h :: parts, rest)
    else none

/-- The literals of one word. -/
def scanWord (cs : List Char) : Option (JsonTree × List Char) :=
  words.findSome? fun word =>
    if wordText word <+: cs then some (word, cs.drop (wordText word).length) else none

/-! ### Blanks -/

/-- All white space in front is skipped. -/
theorem skipBlanks_blank {blank : List Char} (h : Blank blank) (cs : List Char) :
    skipBlanks (blank ++ cs) = skipBlanks cs := by
  induction blank with
  | nil => rfl
  | cons c blank ih =>
    have h_c : isBlank c = true := h c List.mem_cons_self
    have h_rest : Blank blank := fun d h_d => h d (List.mem_cons_of_mem _ h_d)
    show (c :: (blank ++ cs)).dropWhile isBlank = _
    rw [List.dropWhile_cons_of_pos h_c]
    exact ih h_rest

theorem skipBlanks_cons {c : Char} (h : isBlank c = false) (cs : List Char) :
    skipBlanks (c :: cs) = c :: cs := by
  simp [skipBlanks, h]

/-- What is skipped are blanks. -/
theorem blank_of_skipBlanks (cs : List Char) :
    ∃ blank, Blank blank ∧ cs = blank ++ skipBlanks cs := by
  refine ⟨cs.takeWhile isBlank, ?_, ?_⟩
  · intro c h_c
    exact List.mem_takeWhile_imp h_c
  · exact (List.takeWhile_append_dropWhile ..).symm

theorem length_skipBlanks_le (cs : List Char) : (skipBlanks cs).length ≤ cs.length :=
  (List.dropWhile_sublist _).length_le

/-! ### Digits -/

/-- The text does not start with a digit. -/
def NoDigit (rest : List Char) : Prop := ∀ c ∈ rest.head?, c.isDigit = false

/-- A run of digits is read whole, where no digit follows. -/
theorem scanDigits_text (ds : List Digit) {rest : List Char} (h : NoDigit rest) :
    scanDigits (digitChars ds ++ rest) = (ds, rest) := by
  induction ds with
  | nil =>
    cases rest with
    | nil => rfl
    | cons c rest =>
      have h_c : c.isDigit = false := h c rfl
      simp [digitChars, scanDigits, h_c]
  | cons d ds ih =>
    have h_d : d.val.isDigit = true := d.property
    show scanDigits (d.val :: (digitChars ds ++ rest)) = _
    rw [scanDigits, dif_pos h_d, ih]

/-- What is read and what is left make up the text. -/
theorem text_of_scanDigits (cs : List Char) :
    cs = digitChars (scanDigits cs).1 ++ (scanDigits cs).2 ∧ NoDigit (scanDigits cs).2 := by
  induction cs with
  | nil => exact ⟨rfl, fun c h_c => by cases h_c⟩
  | cons c cs ih =>
    obtain ⟨h_text, h_rest⟩ := ih
    unfold scanDigits
    split
    · exact ⟨congrArg (c :: ·) h_text, h_rest⟩
    · rename_i h_c
      refine ⟨rfl, fun d h_d => ?_⟩
      cases h_d
      exact Bool.eq_false_iff.mpr h_c

/-- A run of at least one digit is read whole. -/
theorem scanDigits?_text (ds : Digits) {rest : List Char} (h : NoDigit rest) :
    scanDigits? (digitChars ds.toList ++ rest) = some (ds, rest) := by
  unfold scanDigits?
  rw [scanDigits_text _ h]
  rfl

/-- A successful read consumed the digits it returns. -/
theorem text_of_scanDigits? {cs rest : List Char} {ds : Digits}
    (h : scanDigits? cs = some (ds, rest)) :
    cs = digitChars ds.toList ++ rest := by
  have h_text := (text_of_scanDigits cs).1
  unfold scanDigits? at h
  split at h
  · rename_i d ds' rest' h_scan
    cases h
    rw [h_scan] at h_text
    exact h_text
  · cases h

/-! ### Numbers -/

/-- Nothing at the front of the text goes on with a number. -/
def Delimited (rest : List Char) : Prop :=
  ∀ c ∈ rest.head?, c.isDigit = false ∧ c ≠ '.' ∧ c ≠ 'e' ∧ c ≠ 'E'

theorem delimited_nil : Delimited [] := fun c h_c => by cases h_c

/-- A character that can continue no number is a delimiter. -/
theorem delimited_cons {c : Char} {rest : List Char}
    (h : c.isDigit = false ∧ c ≠ '.' ∧ c ≠ 'e' ∧ c ≠ 'E') : Delimited (c :: rest) := by
  intro d h_d
  cases h_d
  exact h

theorem Delimited.noDigit {rest : List Char} (h : Delimited rest) : NoDigit rest :=
  fun c h_c => (h c h_c).1

/-- Without a point there is no fraction. -/
theorem scanFraction_none {c : Char} (h : c ≠ '.') (cs : List Char) :
    scanFraction (c :: cs) = (none, c :: cs) := by
  rw [scanFraction, if_neg h]

/-- A delimiter starts no exponent. -/
theorem scanExponent_of_delimited {rest : List Char} (h : Delimited rest) :
    scanExponent rest = (none, rest) := by
  cases rest with
  | nil => rfl
  | cons c rest =>
    obtain ⟨-, -, h_e, h_E⟩ := h c rfl
    rw [scanExponent, if_neg (by simp [h_e, h_E])]

/-- The sign of an exponent is read where a digit follows. -/
theorem scanSign_text (sign : Option ExponentSign) (ds : Digits) (rest : List Char) :
    scanSign (signText sign ++ (digitChars ds.toList ++ rest)) =
      (sign, digitChars ds.toList ++ rest) := by
  have h_digit : ds.first.val.isDigit = true := ds.first.property
  rcases sign with _ | _ | _
  · -- a digit is no sign
    have h_plus : ds.first.val ≠ '+' := by rintro h; simp [h] at h_digit
    have h_minus : ds.first.val ≠ '-' := by rintro h; simp [h] at h_digit
    show scanSign (ds.first.val :: (digitChars ds.more ++ rest)) = _
    rw [scanSign, if_neg h_plus, if_neg h_minus]
    rfl
  · rfl
  · rfl

/-- The exponent is read whole, where a delimiter follows. -/
theorem scanExponent_text (e : Option ExponentPart) {rest : List Char} (h : Delimited rest) :
    scanExponent (exponentText e ++ rest) = (e, rest) := by
  cases e with
  | none => exact scanExponent_of_delimited h
  | some e =>
    obtain ⟨upper, sign, ds⟩ := e
    have h_sign := scanSign_text sign ds rest
    have h_digits := scanDigits?_text ds h.noDigit
    cases upper with
    | false =>
      show scanExponent ('e' :: ((signText sign ++ digitChars ds.toList) ++ rest)) = _
      rw [List.append_assoc, scanExponent, if_pos (.inl rfl), h_sign]
      simp only [h_digits]
      rfl
    | true =>
      show scanExponent ('E' :: ((signText sign ++ digitChars ds.toList) ++ rest)) = _
      rw [List.append_assoc, scanExponent, if_pos (.inr rfl), h_sign]
      simp only [h_digits]
      rfl

/-- An exponent starts with its letter, not with a digit. -/
theorem noDigit_exponentText (e : Option ExponentPart) {rest : List Char} (h : Delimited rest) :
    NoDigit (exponentText e ++ rest) := by
  cases e with
  | none => exact h.noDigit
  | some e =>
    obtain ⟨upper, sign, ds⟩ := e
    intro c h_c
    cases upper <;> cases h_c <;> rfl

/-- The fraction is read whole and the exponent is left to the next step. -/
theorem scanFraction_text (f : Option Digits) (e : Option ExponentPart) {rest : List Char}
    (h : Delimited rest) : scanFraction (fractionText f ++ (exponentText e ++ rest)) =
      (f, exponentText e ++ rest) := by
  cases f with
  | some ds =>
    have h_digits := scanDigits?_text ds (noDigit_exponentText e h)
    show scanFraction ('.' :: (digitChars ds.toList ++ (exponentText e ++ rest))) = _
    rw [scanFraction, if_pos rfl, h_digits]
  | none =>
    cases e with
    | some e =>
      obtain ⟨upper, sign, ds⟩ := e
      have h_point : (if upper then 'E' else 'e') ≠ '.' := by cases upper <;> decide
      exact scanFraction_none h_point _
    | none =>
      cases rest with
      | nil => rfl
      | cons c rest => exact scanFraction_none (h c rfl).2.1 _

/-- Neither a fraction nor an exponent starts with a digit. -/
theorem noDigit_fractionText (f : Option Digits) (e : Option ExponentPart) {rest : List Char}
    (h : Delimited rest) : NoDigit (fractionText f ++ (exponentText e ++ rest)) := by
  cases f with
  | none => exact noDigit_exponentText e h
  | some ds =>
    intro c h_c
    cases h_c
    rfl

/-- The integral part is read whole: zero alone, or a digit other than zero and what follows
it. -/
theorem scanIntegral_text (i : IntegralPart) {rest : List Char} (h : NoDigit rest) :
    scanIntegral (digitChars i.digits ++ rest) = some (i, rest) := by
  cases i with
  | zero =>
    have h_digits := scanDigits?_text ⟨⟨'0', rfl⟩, []⟩ h
    show Option.map _ (scanDigits? (digitChars (Digits.toList ⟨⟨'0', rfl⟩, []⟩) ++ rest)) = _
    rw [h_digits]
    rfl
  | nonzero ds h_ds =>
    unfold scanIntegral
    rw [IntegralPart.digits, scanDigits?_text ds h, Option.map_some]
    simp only [dif_pos h_ds]

/-- The sign of a number is read in front of its digits. -/
theorem scanMinus_text (negative : Bool) (i : IntegralPart) (rest : List Char) :
    scanMinus ((if negative then ['-'] else []) ++ (digitChars i.digits ++ rest)) =
      (negative, digitChars i.digits ++ rest) := by
  cases negative with
  | true => rfl
  | false =>
    cases i with
    | zero => rfl
    | nonzero ds h_ds =>
      have h_digit : ds.first.val.isDigit = true := ds.first.property
      have h_minus : ds.first.val ≠ '-' := by rintro h; simp [h] at h_digit
      show scanMinus (ds.first.val :: (digitChars ds.more ++ rest)) = _
      rw [scanMinus, if_neg h_minus]
      rfl

/-- The number that a text spells. -/
theorem scanNumber_text (n : NumberLiteral) {rest : List Char} (h : Delimited rest) :
    scanNumber (n.text ++ rest) = some (n, rest) := by
  obtain ⟨negative, i, f, e⟩ := n
  have h_minus := scanMinus_text negative i (fractionText f ++ (exponentText e ++ rest))
  unfold scanNumber
  simp only [NumberLiteral.text, List.append_assoc]
  rw [h_minus]
  simp only [scanIntegral_text i (noDigit_fractionText f e h), Option.map_some,
    scanFraction_text f e h, scanExponent_text e h]

/-- The sign and what is left make up the text. -/
theorem text_of_scanMinus (cs : List Char) :
    cs = (if (scanMinus cs).1 then ['-'] else []) ++ (scanMinus cs).2 := by
  unfold scanMinus
  split
  · rfl
  · split
    · rename_i h
      rw [h]
      rfl
    · rfl

/-- A successful read consumed the digits of the integral part. -/
theorem text_of_scanIntegral {cs rest : List Char} {i : IntegralPart}
    (h : scanIntegral cs = some (i, rest)) : cs = digitChars i.digits ++ rest := by
  unfold scanIntegral at h
  obtain ⟨⟨ds, rest'⟩, h_digits, h_some⟩ := Option.map_eq_some_iff.mp h
  have h_text := text_of_scanDigits? h_digits
  simp only at h_some
  split at h_some
  · cases h_some
    exact h_text
  · -- the digits after a zero are not part of the number
    rename_i h_zero
    cases h_some
    rw [h_text]
    show ds.first.val :: (digitChars ds.more ++ rest') = '0' :: _
    rw [not_not.mp h_zero]
    rfl

/-- The fraction and what is left make up the text. -/
theorem text_of_scanFraction (cs : List Char) :
    cs = fractionText (scanFraction cs).1 ++ (scanFraction cs).2 := by
  unfold scanFraction
  split
  · rfl
  · split
    · rename_i h_c
      split
      · rename_i h_digits
        rw [h_c]
        exact congrArg ('.' :: ·) (text_of_scanDigits? h_digits)
      · rfl
    · rfl

/-- The sign of the exponent and what is left make up the text. -/
theorem text_of_scanSign (cs : List Char) : cs = signText (scanSign cs).1 ++ (scanSign cs).2 := by
  unfold scanSign
  split
  · rfl
  · split
    · rename_i h
      rw [h]
      rfl
    · split
      · rename_i h
        rw [h]
        rfl
      · rfl

/-- The exponent and what is left make up the text. -/
theorem text_of_scanExponent (cs : List Char) :
    cs = exponentText (scanExponent cs).1 ++ (scanExponent cs).2 := by
  unfold scanExponent
  split
  · rfl
  · rename_i c cs
    split
    · rename_i h_c
      split
      · rename_i ds rest h_digits
        have h_text : cs = signText (scanSign cs).1 ++ (digitChars ds.toList ++ rest) := by
          rw [← text_of_scanDigits? h_digits]
          exact text_of_scanSign cs
        have h_letter : (if decide (c = 'E') = true then 'E' else 'e') = c := by
          rcases h_c with rfl | rfl <;> rfl
        show c :: cs = (if decide (c = 'E') = true then 'E' else 'e') :: ((_ ++ _) ++ rest)
        rw [h_letter, List.append_assoc, ← h_text]
      · rfl
    · rfl

/-- What is taken for a number spells it. -/
theorem text_of_scanNumber {cs rest : List Char} {n : NumberLiteral}
    (h : scanNumber cs = some (n, rest)) : cs = n.text ++ rest := by
  unfold scanNumber at h
  obtain ⟨⟨i, rest₁⟩, h_integral, h_some⟩ := Option.map_eq_some_iff.mp h
  cases h_some
  have h_minus := text_of_scanMinus cs
  rw [text_of_scanIntegral h_integral] at h_minus
  have h_fraction := text_of_scanFraction rest₁
  have h_exponent := text_of_scanExponent (scanFraction rest₁).2
  rw [h_exponent] at h_fraction
  rw [h_fraction] at h_minus
  simpa only [NumberLiteral.text, List.append_assoc] using h_minus

/-! ### Strings -/

theorem ofLetter?_letter (e : Escape) : Escape.ofLetter? e.letter = some e := by
  cases e <;> rfl

/-- The letter of an escape determines it. -/
theorem letter_of_ofLetter? {c : Char} {e : Escape} (h : Escape.ofLetter? c = some e) :
    e.letter = c := by
  have h_letter := List.find?_some h
  simpa using h_letter

/-- The parts of a string are read one at a time: an escape by its letter, four hexadecimal
digits, or a plain character. -/
theorem scanParts_cons (p : StringPart) (cs : List Char) :
    scanParts (p.text ++ cs) = (scanParts cs).map fun r => (p :: r.1, r.2) := by
  cases p with
  | plain c h =>
    have h_quote : c ≠ '"' := by rintro rfl; simp [isPlain] at h
    have h_backslash : c ≠ '\\' := by rintro rfl; simp [isPlain] at h
    show scanParts (c :: cs) = _
    rw [scanParts.eq_def (c :: cs)]
    split
    · rename_i h_eq; cases h_eq
    · rename_i h_eq; exact absurd (List.cons.inj h_eq).1 h_backslash
    · rename_i h_eq; exact absurd (List.cons.inj h_eq).1 h_backslash
    · rename_i h_eq
      cases h_eq
      rw [if_neg h_quote, dif_pos h]
  | escape e =>
    have h_u : e.letter ≠ 'u' := by cases e <;> decide
    show scanParts ('\\' :: e.letter :: cs) = _
    rw [scanParts.eq_def ('\\' :: e.letter :: cs)]
    split
    · rename_i h_eq; cases h_eq
    · rename_i h_eq
      injection h_eq with _ h_eq
      exact absurd (List.cons.inj h_eq).1 h_u
    · rename_i h_eq
      cases h_eq
      rw [ofLetter?_letter]
    · rename_i h_no h_eq
      injection h_eq with h_c h_rest
      exact absurd h_rest.symm (h_no _ _ h_c.symm)
  | unicode a b c d =>
    show scanParts ('\\' :: 'u' :: a.val :: b.val :: c.val :: d.val :: cs) = _
    rw [scanParts, dif_pos ⟨⟨a.property, b.property⟩, c.property, d.property⟩]

/-- The string that a text spells. -/
theorem scanParts_text (parts : List StringPart) (rest : List Char) :
    scanParts (parts.flatMap StringPart.text ++ '"' :: rest) = some (parts, rest) := by
  induction parts with
  | nil =>
    show scanParts ('"' :: rest) = _
    simp [scanParts]
  | cons p parts ih =>
    rw [List.flatMap_cons, List.append_assoc, scanParts_cons, ih]
    rfl

/-- What is taken for a string spells it. -/
theorem text_of_scanParts {cs rest : List Char} {parts : List StringPart}
    (h : scanParts cs = some (parts, rest)) :
    cs = parts.flatMap StringPart.text ++ '"' :: rest := by
  fun_induction scanParts cs generalizing parts rest with
  | case1 => cases h
  | case2 a b c d cs h_hex ih =>
    obtain ⟨⟨parts', rest'⟩, h_scan, h_some⟩ := Option.map_eq_some_iff.mp h
    cases h_some
    rw [ih h_scan]
    rfl
  | case3 => cases h
  | case4 letter cs h_u e h_letter ih =>
    obtain ⟨⟨parts', rest'⟩, h_scan, h_some⟩ := Option.map_eq_some_iff.mp h
    cases h_some
    rw [ih h_scan, ← letter_of_ofLetter? h_letter]
    rfl
  | case5 => cases h
  | case6 cs h_escape h_u =>
    cases h
    rfl
  | case7 c cs h_escape h_u h_quote h_plain ih =>
    obtain ⟨⟨parts', rest'⟩, h_scan, h_some⟩ := Option.map_eq_some_iff.mp h
    cases h_some
    rw [ih h_scan]
    rfl
  | case8 => cases h

/-! ### Words -/

/-- The words of JSON, and the three that Python adds, are recognised with any rest. -/
theorem scanWord_text {word : JsonTree} (h : word ∈ words) (rest : List Char) :
    scanWord (wordText word ++ rest) = some (word, rest) := by
  simp only [words, List.mem_cons, List.not_mem_nil, or_false] at h
  rcases h with rfl | rfl | rfl | rfl | rfl | rfl <;>
    simp [scanWord, words, wordText, List.findSome?]

/-- What is taken for a word is one, and is spelled there. -/
theorem text_of_scanWord {cs rest : List Char} {word : JsonTree}
    (h : scanWord cs = some (word, rest)) : word ∈ words ∧ cs = wordText word ++ rest := by
  obtain ⟨word', h_mem, h_some⟩ := List.exists_of_findSome?_eq_some h
  split at h_some
  · rename_i h_begins
    cases h_some
    exact ⟨h_mem, (List.prefix_iff_eq_append.mp h_begins).symm⟩
  · cases h_some

/-- Words start with one of a few characters. -/
theorem scanWord_cons_of_ne {c : Char} (h : c ∉ ['n', 't', 'f', 'N', 'I', '-']) (cs : List Char) :
    scanWord (c :: cs) = none := by
  simp only [List.mem_cons, List.not_mem_nil, or_false, not_or] at h
  obtain ⟨h_n, h_t, h_f, h_N, h_I, h_minus⟩ := h
  simp [scanWord, words, wordText, List.findSome?, Ne.symm h_n, Ne.symm h_t, Ne.symm h_f,
    Ne.symm h_N, Ne.symm h_I, Ne.symm h_minus]

/-- A minus in front of a digit starts a number, not `-Infinity`. -/
theorem scanWord_minus_digit {c : Char} (h : c.isDigit = true) (cs : List Char) :
    scanWord ('-' :: c :: cs) = none := by
  have h_I : 'I' ≠ c := by rintro rfl; simp at h
  simp [scanWord, words, wordText, List.findSome?, h_I]

/-- A number starts with a digit, perhaps after a minus sign. -/
theorem numberText_cases (n : NumberLiteral) :
    (∃ c cs, n.text = c :: cs ∧ c.isDigit = true) ∨
      ∃ c cs, n.text = '-' :: c :: cs ∧ c.isDigit = true := by
  obtain ⟨negative, i, f, e⟩ := n
  have h_digits : ∃ c cs, digitChars i.digits = c :: cs ∧ c.isDigit = true := by
    cases i with
    | zero => exact ⟨'0', [], rfl, rfl⟩
    | nonzero ds h => exact ⟨ds.first.val, digitChars ds.more, rfl, ds.first.property⟩
  obtain ⟨c, cs, h_text, h_c⟩ := h_digits
  unfold NumberLiteral.text
  rw [h_text]
  cases negative with
  | false => exact .inl ⟨c, _, rfl, h_c⟩
  | true => exact .inr ⟨c, _, rfl, h_c⟩

theorem not_mem_of_isDigit {c : Char} (h : c.isDigit = true) :
    c ∉ ['n', 't', 'f', 'N', 'I', '-'] := by
  intro h_mem
  simp only [List.mem_cons, List.not_mem_nil, or_false] at h_mem
  rcases h_mem with rfl | rfl | rfl | rfl | rfl | rfl <;> simp at h

/-- No number starts like a word. -/
theorem scanWord_number (n : NumberLiteral) (rest : List Char) :
    scanWord (n.text ++ rest) = none := by
  rcases numberText_cases n with ⟨c, cs, h_text, h_c⟩ | ⟨c, cs, h_text, h_c⟩
  · rw [h_text]
    exact scanWord_cons_of_ne (not_mem_of_isDigit h_c) _
  · rw [h_text]
    exact scanWord_minus_digit h_c _

/-! ### Values of digits -/

/-- The first digit counts as many tens as there are digits behind it. -/
theorem digitsValue_cons (d : Digit) (ds : List Digit) :
    digitsValue (d :: ds) = 10 ^ ds.length * (d.val.toNat - '0'.toNat) + digitsValue ds := by
  unfold digitsValue digitChars
  rw [List.map_cons, Nat.ofDigitChars_cons, Nat.ofDigitChars_eq_ofDigitChars_zero, List.length_map]
  simp

/-- A number of `n` digits is below `10 ^ n`. -/
theorem digitsValue_lt (ds : List Digit) : digitsValue ds < 10 ^ ds.length := by
  induction ds with
  | nil => decide
  | cons d ds ih =>
    have h_digit : d.val.toNat - '0'.toNat < 10 := by
      have h_d : d.val.toNat ≤ 57 := by
        have h_is := d.property
        simp only [Char.isDigit, Bool.and_eq_true, decide_eq_true_eq, UInt32.le_iff_toNat_le]
          at h_is
        exact h_is.2
      have h_zero : '0'.toNat = 48 := rfl
      omega
    rw [digitsValue_cons, List.length_cons, pow_succ]
    nlinarith

theorem IntegralPart.digits_ne_nil (i : IntegralPart) : i.digits ≠ [] := by
  cases i <;> simp [IntegralPart.digits, Digits.toList]

/-- An integer has no more digits than its literal. -/
theorem length_toDigits_le (i : IntegralPart) :
    (Nat.toDigits 10 (digitsValue i.digits)).length ≤ i.digits.length :=
  (Nat.length_toDigits_le_iff (by decide)
    (List.length_pos_of_ne_nil (IntegralPart.digits_ne_nil i))).mpr (digitsValue_lt i.digits)

end Framework
