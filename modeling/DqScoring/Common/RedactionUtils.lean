import DqScoring.Common.PyValue
import DqScoring.Framework.RegexPieces

/-!
# Redaction of texts

`common/redaction_utils.py`: the four patterns and `redact_text`, which replaces their
matches one pattern after another, and the marker of a column of names or addresses.

An e-mail address, a social security number and a card number begin and end at a boundary,
so that what replaces them opens none, and no match of the three is left when the phone
numbers are next. A phone number may stand flush against other characters. What stands beside
one may become a match by its replacement, and `redactText_clean` says that this is the
only way in which the result can have a match: the four substitutions work on the stretches
between the markers as on texts of their own (`mem_stretch_of_contains`), and in such a stretch
the match begins or ends where a phone number does.
-/

namespace DqScoring

open Framework

/-- What `re` and `str` know of Unicode: the characters of `\d` and `\w`, and `str.lower`. -/
structure UnicodeTables where
  isDigit : Char → Bool
  isWord : Char → Bool
  lower : String → String
  isWord_of_isDigit : ∀ c, isDigit c = true → isWord c = true
  isDigit_ascii : ∀ c : Char, c.toNat < 128 → isDigit c = c.isDigit
  isWord_ascii : ∀ c : Char, c.toNat < 128 → isWord c = (c.isAlphanum || c == '_')

namespace UnicodeTables

variable (k : UnicodeTables)

/-- `\d{n}` -/
def digits (n : ℕ) : Regex := .chars k.isDigit n (some n)

/-- `[A-Za-z0-9._%+-]` -/
def isLocalChar (c : Char) : Bool := c.isAlphanum || "._%+-".toList.contains c

/-- `[A-Za-z0-9.-]` -/
def isDomainChar (c : Char) : Bool := c.isAlphanum || ".-".toList.contains c

/-- `[-\s]` -/
def isCardSeparator (c : Char) : Bool := c == '-' || isPySpace c

/-- `[-.\s]` -/
def isPhoneSeparator (c : Char) : Bool := c == '-' || c == '.' || isPySpace c

/-- `\b[A-Za-z0-9._%+-]+@[A-Za-z0-9.-]+\.[A-Za-z]{2,}\b` -/
def emailPattern : Regex :=
  .boundary ++ .chars isLocalChar 1 none ++ .one (· == '@') ++ .chars isDomainChar 1 none
    ++ .one (· == '.') ++ .chars Char.isAlpha 2 none ++ .boundary

/-- `\b\d{3}-\d{2}-\d{4}\b` -/
def ssnPattern : Regex :=
  .boundary ++ k.digits 3 ++ .one (· == '-') ++ k.digits 2 ++ .one (· == '-') ++ k.digits 4
    ++ .boundary

/-- `\b(?:\d{4}[-\s]?){3}\d{1,4}\b` -/
def creditCardPattern : Regex :=
  .boundary ++ .times (k.digits 4 ++ .maybe isCardSeparator) 3 ++ .chars k.isDigit 1 (some 4)
    ++ .boundary

/-- `(?:\+?\d{1,3}[-.\s]?)?\(?\d{3}\)?[-.\s]?\d{3}[-.\s]?\d{4}` -/
def phonePattern : Regex :=
  .optional (.maybe (· == '+') ++ .chars k.isDigit 1 (some 3) ++ .maybe isPhoneSeparator)
    ++ .maybe (· == '(') ++ k.digits 3 ++ .maybe (· == ')') ++ .maybe isPhoneSeparator
    ++ k.digits 3 ++ .maybe isPhoneSeparator ++ k.digits 4

/-- The patterns that begin and end at a boundary. -/
def wordPatterns : List Regex := [emailPattern, k.ssnPattern, k.creditCardPattern]

/-- The four patterns. -/
def piiPatterns : List Regex := [emailPattern, k.ssnPattern, k.creditCardPattern, k.phonePattern]

/-- The text when its phone numbers are next. -/
def redactWords (text : List Char) : List Char :=
  let text := emailPattern.sub k.isWord "[REDACTED_EMAIL]".toList text
  let text := k.ssnPattern.sub k.isWord "[REDACTED_SSN]".toList text
  k.creditCardPattern.sub k.isWord "[REDACTED_CARD]".toList text

/-- `redact_text`. -/
def redactText (text : String) : String :=
  String.ofList (k.phonePattern.sub k.isWord "[REDACTED_PHONE]".toList (k.redactWords text.toList))

/-! ### Columns of names and addresses -/

/-- `NAME_COLUMN_TOKENS`. -/
def nameColumnTokens : List String :=
  ["name", "firstname", "lastname", "fullname", "surname", "givenname", "middlename", "forename"]

/-- `ADDRESS_COLUMN_TOKENS`. -/
def addressColumnTokens : List String :=
  ["address", "addr", "street", "postcode", "postal", "zip", "zipcode"]

/-- `_CAMEL_BOUNDARY.sub("_", column)`. -/
def camelBoundaries : List Char → List Char
  | c :: d :: cs =>
    if (c.isLower || c.isDigit) && d.isUpper then c :: '_' :: camelBoundaries (d :: cs)
    else c :: camelBoundaries (d :: cs)
  | cs => cs

/-- `_COLUMN_TOKEN.findall(text)`. -/
def columnTokens (text : String) : List String :=
  ((text.toList.splitOnP fun c => !(c.isLower || c.isDigit)).filter (!·.isEmpty)).map String.ofList

/-- `sensitive_column_marker`. -/
def sensitiveColumnMarker (column : String) : Option String :=
  let tokens := columnTokens (k.lower (String.ofList (camelBoundaries column.toList)))
  if tokens.any nameColumnTokens.contains then some "[REDACTED_NAME]"
  else if tokens.any addressColumnTokens.contains then some "[REDACTED_ADDRESS]"
  else none

/-! ### The characters of a match -/

/-- A character that no pattern uses. -/
structure Unused (c : Char) : Prop where
  isAlphanum : c.isAlphanum = false
  isDigit : k.isDigit c = false
  isPySpace : isPySpace c = false
  other : c ∉ "._%+-@()".toList

variable {k}

/-- An unused character occurs in none of the patterns. -/
theorem Unused.uses {c : Char} (h : k.Unused c) {q : Regex} (h_q : q ∈ k.piiPatterns) :
    q.uses c = false := by
  obtain ⟨h_alnum, h_digit, h_space, h_other⟩ := h
  have h_alpha : c.isAlpha = false := by
    rw [Char.isAlphanum, Bool.or_eq_false_iff] at h_alnum
    exact h_alnum.1
  simp only [String.reduceToList, List.mem_cons, List.not_mem_nil, or_false, not_or] at h_other
  simp only [piiPatterns, List.mem_cons, List.not_mem_nil, or_false] at h_q
  rcases h_q with rfl | rfl | rfl | rfl
  · simp [emailPattern, isLocalChar, isDomainChar, h_alnum, h_alpha, h_other]
  · simp [ssnPattern, digits, h_digit, h_other]
  · simp [creditCardPattern, digits, isCardSeparator, h_digit, h_space, h_other]
  · simp [phonePattern, digits, isPhoneSeparator, h_digit, h_space, h_other]

/-- An ASCII character is unused if it is no letter, digit or blank and none of the signs
that the patterns mention. -/
theorem unused_ascii {c : Char} (h_ascii : c.toNat < 128) (h_alnum : c.isAlphanum = false)
    (h_space : DqScoring.isPySpace c = false) (h_other : c ∉ "._%+-@()".toList) : k.Unused c := by
  have h_digit : c.isDigit = false := by
    rw [Char.isAlphanum, Bool.or_eq_false_iff] at h_alnum
    exact h_alnum.2
  exact ⟨h_alnum, by rw [k.isDigit_ascii c h_ascii, h_digit], h_space, h_other⟩

/-- The brackets around a marker occur in no pattern. -/
theorem unused_brackets : k.Unused '[' ∧ k.Unused ']' :=
  ⟨unused_ascii (by decide) (by decide) (by decide) (by decide),
    unused_ascii (by decide) (by decide) (by decide) (by decide)⟩

/-- A word without the characters that the patterns need. -/
def IsMarker (word : List Char) : Prop :=
  ∀ c ∈ word, c.toNat < 128 ∧ c.isDigit = false ∧ c ≠ '@'

/-- A word of ASCII characters without digits and at signs is a marker. -/
theorem isMarker_of_all {word : List Char}
    (h : (word.all fun c => decide (c.toNat < 128) && (!c.isDigit && c != '@')) = true) :
    IsMarker word := by
  unfold IsMarker
  simpa [List.all_eq_true] using h

/-- A run of digits needs a digit, which no marker has. -/
theorem needs_digits {word : List Char} (h : IsMarker word) (n : ℕ) :
    (k.digits (n + 1)).Needs fun c => c ∉ word := by
  refine ⟨Nat.succ_pos n, fun c h_c h_mem => ?_⟩
  obtain ⟨h_ascii, h_digit, -⟩ := h c h_mem
  rw [k.isDigit_ascii c h_ascii, h_digit] at h_c
  cases h_c

/-- Each pattern needs a character that no marker has: a digit, or the at sign. -/
theorem needs_of_isMarker {word : List Char} (h : IsMarker word) {q : Regex}
    (h_q : q ∈ k.piiPatterns) : q.Needs fun c => c ∉ word := by
  simp only [piiPatterns, List.mem_cons, List.not_mem_nil, or_false] at h_q
  rcases h_q with rfl | rfl | rfl | rfl
  · -- the `@` of an e-mail address
    have h_at : (Regex.one (· == '@')).Needs fun c => c ∉ word :=
      ⟨Nat.one_pos, fun c h_c h_mem => (h c h_mem).2.2 (beq_iff_eq.mp h_c)⟩
    exact Or.inl (Or.inl (Or.inl (Or.inl (Or.inr h_at))))
  · exact Or.inl (Or.inr (needs_digits h 3))
  · exact Or.inl (Or.inl (Or.inr (Or.inl (Or.inl (needs_digits h 3)))))
  · exact Or.inr (needs_digits h 3)

/-- A marker is foreign to every pattern, so inserting it creates no match. -/
theorem foreign_of_isMarker {word : List Char} (h : IsMarker word) {q : Regex}
    (h_q : q ∈ k.piiPatterns) : q.Foreign k.isWord word :=
  ⟨⟨k.isWord_ascii '[' (by decide), unused_brackets.1.uses h_q⟩,
    ⟨k.isWord_ascii ']' (by decide), unused_brackets.2.uses h_q⟩, needs_of_isMarker h h_q⟩

/-- What every pattern asks for. -/
theorem needs_pii {q : Regex} (h_q : q ∈ k.piiPatterns) : q.Needs fun c => c ∉ [] :=
  needs_of_isMarker (List.forall_mem_nil _) h_q

/-- The three patterns at word boundaries are among the patterns of the redaction. -/
theorem mem_piiPatterns_of_mem_wordPatterns {q : Regex} (h : q ∈ k.wordPatterns) :
    q ∈ k.piiPatterns := by
  simp only [wordPatterns, piiPatterns, List.mem_cons, List.not_mem_nil, or_false] at h ⊢
  tauto

/-- The three patterns start and end at a word boundary. -/
theorem bounded_of_mem_wordPatterns {q : Regex} (h : q ∈ k.wordPatterns) :
    q.leads = true ∧ q.trails = true := by
  simp only [wordPatterns, List.mem_cons, List.not_mem_nil, or_false] at h
  rcases h with rfl | rfl | rfl <;> exact ⟨rfl, rfl⟩

/-- The patterns are the three at word boundaries and the phone pattern, which has none. -/
theorem mem_piiPatterns {q : Regex} :
    q ∈ k.piiPatterns ↔ q ∈ k.wordPatterns ∨ q = k.phonePattern := by
  simp only [wordPatterns, piiPatterns, List.mem_cons, List.not_mem_nil, or_false, or_assoc]

/-! ### The words -/

theorem isMarker_email : IsMarker "REDACTED_EMAIL".toList := isMarker_of_all (by decide)

theorem isMarker_ssn : IsMarker "REDACTED_SSN".toList := isMarker_of_all (by decide)

theorem isMarker_card : IsMarker "REDACTED_CARD".toList := isMarker_of_all (by decide)

/-- A substitution of one of the first three patterns leaves no match of it and makes none of
another. -/
theorem not_contains_sub {q r : Regex} (h_q : q ∈ k.wordPatterns) (h_r : r ∈ k.wordPatterns)
    {word : List Char} (h_word : IsMarker word) {text : List Char}
    (h : q = r ∨ ¬ q.Contains k.isWord text) :
    ¬ q.Contains k.isWord (r.sub k.isWord (Regex.bracketed word) text) := by
  have h_pii := mem_piiPatterns_of_mem_wordPatterns h_q
  have h_needs := needs_pii (mem_piiPatterns_of_mem_wordPatterns h_r)
  have h_bounded := bounded_of_mem_wordPatterns h_r
  rw [Regex.contains_sub_iff h_needs (foreign_of_isMarker h_word h_pii)]
  rintro ⟨g, h_g, h_contains⟩
  rcases h with rfl | h
  · exact Regex.not_contains_split h_needs (Or.inl h_bounded) h_g h_contains
  · exact h (h_contains.of_split h_needs (needs_pii h_pii) (Or.inl h_bounded) h_g)

/-- After the three substitutions none of the three patterns is left. -/
theorem not_contains_redactWords (text : List Char) {q : Regex} (h : q ∈ k.wordPatterns) :
    ¬ q.Contains k.isWord (k.redactWords text) := by
  have h_email : emailPattern ∈ k.wordPatterns := by simp [wordPatterns]
  have h_ssn : k.ssnPattern ∈ k.wordPatterns := by simp [wordPatterns]
  have h_card : k.creditCardPattern ∈ k.wordPatterns := by simp [wordPatterns]
  -- each pattern is out of the text after its own turn
  simp only [wordPatterns, List.mem_cons, List.not_mem_nil, or_false] at h
  rcases h with rfl | rfl | rfl
  · exact not_contains_sub h_email h_card isMarker_card (Or.inr
      (not_contains_sub h_email h_ssn isMarker_ssn (Or.inr
        (not_contains_sub h_email h_email isMarker_email (Or.inl rfl)))))
  · exact not_contains_sub h_ssn h_card isMarker_card (Or.inr
      (not_contains_sub h_ssn h_ssn isMarker_ssn (Or.inl rfl)))
  · exact not_contains_sub h_card h_card isMarker_card (Or.inl rfl)

/-! ### The phone numbers -/

theorem isMarker_phone : IsMarker "REDACTED_PHONE".toList := isMarker_of_all (by decide)

theorem phonePattern_mem : k.phonePattern ∈ k.piiPatterns := by simp [piiPatterns]

/-- A pattern is left in the redacted text exactly when a piece beside a phone number
contains it. -/
theorem contains_redactText_iff {q : Regex} (h_q : q ∈ k.piiPatterns) (s : String) :
    q.Contains k.isWord (k.redactText s).toList ↔
      ∃ g ∈ k.phonePattern.split k.isWord (k.redactWords s.toList), q.Contains k.isWord g := by
  rw [redactText, String.toList_ofList]
  exact Regex.contains_sub_iff (needs_pii phonePattern_mem)
    (foreign_of_isMarker isMarker_phone h_q) _

/-- No phone number is left, as its substitution comes last. -/
theorem not_contains_phonePattern (s : String) :
    ¬ k.phonePattern.Contains k.isWord (k.redactText s).toList := by
  rw [contains_redactText_iff phonePattern_mem]
  rintro ⟨g, h_g, h_contains⟩
  exact Regex.not_contains_split (needs_pii phonePattern_mem) (Or.inr rfl) h_g h_contains

/-- A text without a match stays as it is. -/
theorem redactText_of_not_contains {s : String}
    (h : ∀ q ∈ k.piiPatterns, ¬ q.Contains k.isWord s.toList) : k.redactText s = s := by
  have h_sub : ∀ q ∈ k.piiPatterns, ∀ replacement : List Char,
      q.sub k.isWord replacement s.toList = s.toList := fun q h_q replacement =>
    Regex.sub_of_not_contains (needs_pii h_q) (h q h_q) replacement
  have h_words : k.redactWords s.toList = s.toList := by
    unfold redactWords
    simp only
    rw [h_sub emailPattern (by simp [piiPatterns]), h_sub k.ssnPattern (by simp [piiPatterns]),
      h_sub k.creditCardPattern (by simp [piiPatterns])]
  rw [redactText, h_words, h_sub k.phonePattern phonePattern_mem, String.ofList_toList]

/-! ### The stretches between the words -/

section

variable (k)

/-- The first three substitutions: each pattern with the word of its marker. -/
def wordRules : List (Regex × List Char) :=
  [(emailPattern, "REDACTED_EMAIL".toList), (k.ssnPattern, "REDACTED_SSN".toList),
    (k.creditCardPattern, "REDACTED_CARD".toList)]

/-- The four substitutions. -/
def piiRules : List (Regex × List Char) :=
  k.wordRules ++ [(k.phonePattern, "REDACTED_PHONE".toList)]

end

/-- The first three substitutions, one after the other. -/
theorem redactWords_eq_subs (text : List Char) :
    k.redactWords text = Regex.subs k.isWord k.wordRules text := rfl

/-- The whole of `redact_text` is four substitutions in a row. -/
theorem toList_redactText (s : String) :
    (k.redactText s).toList = Regex.subs k.isWord k.piiRules s.toList := by
  rw [redactText, String.toList_ofList, redactWords_eq_subs, piiRules, Regex.subs, Regex.subs,
    List.foldl_append, List.foldl_cons, List.foldl_nil]
  rfl

theorem map_fst_piiRules : k.piiRules.map Prod.fst = k.piiPatterns := rfl

/-- Each substitution puts a marker in place of its own pattern. -/
theorem isMarker_of_mem_piiRules {rule : Regex × List Char} (h : rule ∈ k.piiRules) :
    rule.1 ∈ k.piiPatterns ∧ IsMarker rule.2 := by
  have h_mem : rule.1 ∈ k.piiPatterns := by
    rw [← map_fst_piiRules]
    exact List.mem_map_of_mem h
  refine ⟨h_mem, ?_⟩
  simp only [piiRules, wordRules, List.cons_append, List.nil_append, List.mem_cons,
    List.not_mem_nil, or_false] at h
  rcases h with h | h | h | h
  · rw [h]
    exact isMarker_email
  · rw [h]
    exact isMarker_ssn
  · rw [h]
    exact isMarker_card
  · rw [h]
    exact isMarker_phone

/-- No substitution of the list creates a match of another. -/
theorem keeps_piiRules : Regex.Keeps k.isWord k.piiRules := fun _ h₁ _ h₂ =>
  foreign_of_isMarker (isMarker_of_mem_piiRules h₂).2 (isMarker_of_mem_piiRules h₁).1

/-- Between the words no match of their patterns is left. -/
theorem not_contains_of_mem_pieces {text g : List Char}
    (h_g : g ∈ Regex.pieces k.isWord k.wordPatterns text) {q : Regex} (h_q : q ∈ k.wordPatterns) :
    ¬ q.Contains k.isWord g := by
  have h_sub : ∀ rule ∈ k.wordRules, rule ∈ k.piiRules := fun _ h => List.mem_append_left _ h
  have h_keeps : Regex.Keeps k.isWord k.wordRules := fun _ h₁ _ h₂ =>
    keeps_piiRules _ (h_sub _ h₁) _ (h_sub _ h₂)
  have h_foreign : ∀ rule ∈ k.wordRules, q.Foreign k.isWord rule.2 := fun _ h =>
    foreign_of_isMarker (isMarker_of_mem_piiRules (h_sub _ h)).2
      (mem_piiPatterns_of_mem_wordPatterns h_q)
  intro h_contains
  refine not_contains_redactWords text h_q ?_
  rw [redactWords_eq_subs, Regex.contains_subs_iff h_keeps h_foreign]
  exact ⟨g, h_g, h_contains⟩

/-- A match of the result stands in a stretch between the words, beside a phone number that is
replaced there. -/
theorem mem_stretch_of_contains {q : Regex} (h_q : q ∈ k.wordPatterns) {s : String}
    (h : q.Contains k.isWord (k.redactText s).toList) :
    ∃ g ∈ Regex.pieces k.isWord k.wordPatterns s.toList,
      ∃ h h', [h, h'] <:+: k.phonePattern.split k.isWord g ∧
        (q.Ends k.isWord h ∨ q.Begins k.isWord h') := by
  have h_pii := mem_piiPatterns_of_mem_wordPatterns h_q
  rw [toList_redactText, Regex.contains_subs_iff keeps_piiRules
    fun _ h => foreign_of_isMarker (isMarker_of_mem_piiRules h).2 h_pii] at h
  obtain ⟨x, h_x, h_contains⟩ := h
  have h_x : x ∈ Regex.pieces k.isWord (k.wordPatterns ++ [k.phonePattern]) s.toList := h_x
  -- the last pieces are what the pattern for phone numbers leaves of the stretches
  obtain ⟨g, h_g, h_x⟩ := Regex.mem_pieces_append.mp h_x
  obtain ⟨y, h_y, h_x⟩ := List.mem_flatMap.mp h_x
  obtain rfl : x = y := List.mem_singleton.mp h_x
  exact ⟨g, h_g, (Regex.exists_split_iff (needs_pii phonePattern_mem) (needs_pii h_pii)
    (not_contains_of_mem_pieces h_g h_q)).mp ⟨x, h_y, h_contains⟩⟩

/-! ### Words beside phone numbers -/

variable (k)

/-- In a stretch, an e-mail address, a social security number or a card number stands flush beside
a phone number. It is one when the phone number is gone: by itself on the side of the phone number,
and on its other side before what stands there, or by itself if that is a phone number too. No phone
number begins inside it. -/
inductive FlushWithPhone (g : List Char) : Prop
  | behind (a p w b : List Char) (q : Regex) (h_q : q ∈ k.wordPatterns)
    (h_g : g = a ++ (p ++ (w ++ b)))
    (h_phone : k.phonePattern.Finds k.isWord a.getLast? p (w ++ b))
    (h_inside : k.phonePattern.NoneBegins k.isWord (a ++ p) w b)
    (h_w : q.Matches k.isWord none w b.head? ∨
      q.Matches k.isWord none w none ∧ k.phonePattern.Begins k.isWord b)
  | before (a w p b : List Char) (q : Regex) (h_q : q ∈ k.wordPatterns)
    (h_g : g = a ++ (w ++ (p ++ b)))
    (h_phone : k.phonePattern.Finds k.isWord (a ++ w).getLast? p b)
    (h_inside : k.phonePattern.NoneBegins k.isWord a w (p ++ b))
    (h_w : q.Matches k.isWord a.getLast? w none ∨
      q.Matches k.isWord none w none ∧ k.phonePattern.Ends k.isWord a)

/-- In a stretch of the text outside of its e-mail addresses, social security numbers and card
numbers, one of these stands flush beside a phone number. -/
def TouchesPhone (s : String) : Prop :=
  ∃ g, Regex.IsStretch k.isWord k.wordPatterns s.toList g ∧ k.FlushWithPhone g

variable {k}

theorem phonePattern_isFree : k.phonePattern.isFree = true := rfl

/-- A piece that begins with a word stands behind a phone number. -/
theorem flushWithPhone_of_begins {g h : List Char} {H H' : List (List Char)} (h_H : H ≠ [])
    (h_gaps : k.phonePattern.split k.isWord g = H ++ h :: H') {q : Regex}
    (h_q : q ∈ k.wordPatterns) (h_begins : q.Begins k.isWord h) : k.FlushWithPhone g := by
  obtain ⟨u, v, rfl, h_left, h_right, h_inside⟩ :=
    Regex.place_of_split (needs_pii phonePattern_mem) h_gaps
  obtain ⟨w, b, rfl, h_w⟩ := h_begins
  rcases h_left with ⟨h_nil, -⟩ | ⟨-, a, p, rfl, h_p⟩
  · exact absurd h_nil h_H
  refine .behind a p w (b ++ v) q h_q (by simp only [List.append_assoc]) ?_ h_inside.left ?_
  · rw [List.append_assoc] at h_p
    exact h_p
  cases b with
  | cons c b => exact Or.inl h_w
  | nil =>
    -- the word reaches to the next phone number, or to the end
    rcases h_right with ⟨-, rfl⟩ | ⟨-, p', v', rfl, h_p'⟩
    · exact Or.inl h_w
    · exact Or.inr ⟨h_w, p', v', rfl, h_p'.matches.of_isFree phonePattern_isFree⟩

/-- A piece that ends with a word stands before a phone number. -/
theorem flushWithPhone_of_ends {g h : List Char} {H H' : List (List Char)} (h_H' : H' ≠ [])
    (h_gaps : k.phonePattern.split k.isWord g = H ++ h :: H') {q : Regex}
    (h_q : q ∈ k.wordPatterns) (h_ends : q.Ends k.isWord h) : k.FlushWithPhone g := by
  obtain ⟨u, v, rfl, h_left, h_right, h_inside⟩ :=
    Regex.place_of_split (needs_pii phonePattern_mem) h_gaps
  obtain ⟨a, w, rfl, h_w⟩ := h_ends
  rcases h_right with ⟨h_nil, -⟩ | ⟨-, p, b, rfl, h_p⟩
  · exact absurd h_nil h_H'
  refine .before (u ++ a) w p b q h_q (by simp only [List.append_assoc]) ?_ h_inside.right ?_
  · rw [← List.append_assoc] at h_p
    exact h_p
  cases h_a : a.getLast? with
  | some c =>
    rw [h_a] at h_w
    rw [List.getLast?_append, h_a]
    exact Or.inl h_w
  | none =>
    rw [h_a] at h_w
    obtain rfl := List.getLast?_eq_none_iff.mp h_a
    rw [List.append_nil]
    rcases h_left with ⟨-, rfl⟩ | ⟨-, u', p', rfl, h_p'⟩
    · exact Or.inl h_w
    · exact Or.inr ⟨h_w, u', p', rfl, h_p'.matches.of_isFree phonePattern_isFree⟩

/-- **Redaction.** If no e-mail address, social security number or card number touches a phone
number outside of those that stand at boundaries, then the redacted text has no match of the four
patterns, and redacting it again changes nothing. -/
theorem redactText_clean {s : String} (h : ¬ k.TouchesPhone s) :
    (∀ q ∈ k.piiPatterns, ¬ q.Contains k.isWord (k.redactText s).toList) ∧
      k.redactText (k.redactText s) = k.redactText s := by
  have h_clean : ∀ q ∈ k.piiPatterns, ¬ q.Contains k.isWord (k.redactText s).toList := by
    intro q h_q h_contains
    rcases mem_piiPatterns.mp h_q with h_q | rfl
    · obtain ⟨g, h_g, x, x', ⟨H, H', h_gaps⟩, h_flush⟩ := mem_stretch_of_contains h_q h_contains
      refine h ⟨g, Regex.isStretch_of_mem_pieces (fun _ h_r =>
        needs_pii (mem_piiPatterns_of_mem_wordPatterns h_r)) h_g, ?_⟩
      rcases h_flush with h_ends | h_begins
      · have h_at : k.phonePattern.split k.isWord g = H ++ x :: (x' :: H') := by
          rw [← h_gaps]
          simp
        exact flushWithPhone_of_ends (List.cons_ne_nil _ _) h_at h_q h_ends
      · have h_at : k.phonePattern.split k.isWord g = (H ++ [x]) ++ x' :: H' := by
          rw [← h_gaps]
          simp
        exact flushWithPhone_of_begins (by simp) h_at h_q h_begins
    · exact not_contains_phonePattern s h_contains
  exact ⟨h_clean, redactText_of_not_contains h_clean⟩

/-- The tables on ASCII. -/
def asciiTables : UnicodeTables where
  isDigit := Char.isDigit
  isWord c := c.isAlphanum || c == '_'
  lower s := s.map Char.toLower
  isWord_of_isDigit c h := by simp [Char.isAlphanum, h]
  isDigit_ascii _ _ := rfl
  isWord_ascii _ _ := rfl

/-- The shortest match of a pattern at word boundaries has six characters. -/
theorem six_le_length {q : Regex} (h_q : q ∈ k.wordPatterns) {before after : Option Char}
    {w : List Char} (h_w : q.Matches k.isWord before w after) : 6 ≤ w.length := by
  have h_least : 6 ≤ q.leastLength := by
    simp only [wordPatterns, List.mem_cons, List.not_mem_nil, or_false] at h_q
    rcases h_q with rfl | rfl | rfl
    · exact Nat.le_of_ble_eq_true rfl
    · exact Nat.le_of_ble_eq_true rfl
    · exact Nat.le_of_ble_eq_true rfl
  exact h_least.trans h_w.leastLength_le

/-- A phone number with a word beside it has at least sixteen characters. -/
theorem FlushWithPhone.le_length {g : List Char} (h : k.FlushWithPhone g) : 16 ≤ g.length := by
  have h_number : ∀ {before : Option Char} {p b : List Char},
      k.phonePattern.Finds k.isWord before p b → 10 ≤ p.length :=
    fun h_p => h_p.matches.leastLength_le
  cases h with
  | behind a p w b q h_q h_g h_phone h_inside h_w =>
    have h_p := h_number h_phone
    have h_six : 6 ≤ w.length := h_w.elim (six_le_length h_q) fun h => six_le_length h_q h.1
    simp only [h_g, List.length_append]
    omega
  | before a w p b q h_q h_g h_phone h_inside h_w =>
    have h_p := h_number h_phone
    have h_six : 6 ≤ w.length := h_w.elim (six_le_length h_q) fun h => six_le_length h_q h.1
    simp only [h_g, List.length_append]
    omega

/-- A phone number alone. -/
theorem redactText_clean_number :
    (∀ q ∈ asciiTables.piiPatterns,
      ¬ q.Contains asciiTables.isWord (asciiTables.redactText "555-123-4567").toList) ∧
    asciiTables.redactText (asciiTables.redactText "555-123-4567") =
      asciiTables.redactText "555-123-4567" := by
  refine redactText_clean ?_
  rintro ⟨g, h_g, h_flush⟩
  have h_length : g.length ≤ 12 := h_g.length_le
  exact absurd (h_flush.le_length.trans h_length) (by decide)

/-- The pattern for phone numbers takes the four digits before the social security number. -/
theorem redactText_exposes :
    asciiTables.ssnPattern.Contains asciiTables.isWord
        (asciiTables.redactText "111-222-333-4444123-45-6789").toList ∧
      asciiTables.redactText (asciiTables.redactText "111-222-333-4444123-45-6789") ≠
        asciiTables.redactText "111-222-333-4444123-45-6789" := by
  have h_text : asciiTables.redactText "111-222-333-4444123-45-6789" =
      "[REDACTED_PHONE]123-45-6789" := by decide +kernel
  have h_again : asciiTables.redactText "[REDACTED_PHONE]123-45-6789" =
      "[REDACTED_PHONE][REDACTED_SSN]" := by decide +kernel
  rw [h_text, h_again]
  have h_mem : 11 ∈ asciiTables.ssnPattern.ends asciiTables.isWord (some ']')
      "123-45-6789".toList := by decide +kernel
  exact ⟨⟨"[REDACTED_PHONE]".toList, "123-45-6789".toList, [], by decide,
    (Regex.mem_ends.mp h_mem).2⟩, by decide⟩

end UnicodeTables

end DqScoring
