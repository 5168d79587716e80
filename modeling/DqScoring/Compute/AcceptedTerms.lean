import DqScoring.Common.StructuredTexts
import DqScoring.Compute.Partition
import DqScoring.Compute.SpellingDictionary

/-!
# Accepted terms

An accepted term is kept whole, and a text is read word by word. A text of accepted terms passes
exactly when the words of the terms are accepted or known themselves
(`acceptedTerms_pass_iff`); a term of several words, or with digits, accepts none of them.
-/

namespace DqScoring

variable {spelling : Spelling}

/-- What the Unicode tables say of spaces: they stay what they are and where they are when a
text is normalized, and a blank text has no words. -/
structure Spelling.SpacesSeparate (spelling : Spelling) : Prop where
  normalize_space : ∀ a b : String,
    spelling.normalize (a ++ " " ++ b) = spelling.normalize a ++ " " ++ spelling.normalize b
  category_space : spelling.category ' ' = 'Z'
  blank : ∀ text, pyStrip text = "" → tokenizeForSpelling spelling text = []

/-- A text with a number of spaces in front. -/
def withSpaces : ℕ → String → String
  | 0, text => text
  | n + 1, text => "" ++ " " ++ withSpaces n text

/-- The texts that consist of accepted terms, with spaces between them. -/
inductive IsTermText (terms : List String) : String → Prop
  | term {t : String} (h : t ∈ terms) : IsTermText terms t
  | cons {t rest : String} (n : ℕ) (h : t ∈ terms) (h_rest : IsTermText terms rest) :
      IsTermText terms (t ++ " " ++ withSpaces n rest)

/-! ### Words -/

/-- The loop on one character. -/
theorem tokenLoop_cons (category : Char → Char) (word : List Char) (c : Char) (cs : List Char) :
    tokenLoop category word (c :: cs) =
      if category c == 'L' || (category c == 'M' && !word.isEmpty) ||
          (c.toNat == 39 && !word.isEmpty && cs.head?.any fun next => category next == 'L') then
        tokenLoop category (word ++ [c]) cs
      else if word.isEmpty then tokenLoop category [] cs
      else String.ofList word :: tokenLoop category [] cs := by
  cases cs <;> rfl

/-- A space ends a word, and the words after it do not depend on those before. -/
theorem tokenLoop_space {category : Char → Char} (h : category ' ' = 'Z')
    (word xs ys : List Char) :
    tokenLoop category word (xs ++ ' ' :: ys) =
      tokenLoop category word xs ++ tokenLoop category [] ys := by
  have h_letter : (category ' ' == 'L') = false := by rw [h]; rfl
  have h_mark : (category ' ' == 'M') = false := by rw [h]; rfl
  induction xs generalizing word with
  | nil =>
    rw [List.nil_append, tokenLoop_cons, h_letter, h_mark]
    cases word with
    | nil => rfl
    | cons c word => rfl
  | cons c xs ih =>
    -- the space after the last character is as little a letter as the end
    have h_next : ((xs ++ ' ' :: ys).head?.any fun next => category next == 'L') =
        xs.head?.any fun next => category next == 'L' := by
      cases xs with
      | nil => exact h_letter
      | cons next xs => rfl
    rw [List.cons_append, tokenLoop_cons, tokenLoop_cons, h_next]
    split
    · exact ih _
    · split
      · exact ih _
      · rw [ih, List.cons_append]

namespace Spelling.SpacesSeparate

/-- Texts joined by a space are tokenized one by one. -/
theorem tokenize_space (h : spelling.SpacesSeparate) (a b : String) :
    tokenizeForSpelling spelling (a ++ " " ++ b) =
      tokenizeForSpelling spelling a ++ tokenizeForSpelling spelling b := by
  have h_text : (spelling.normalize a ++ " " ++ spelling.normalize b).toList =
      (spelling.normalize a).toList ++ ' ' :: (spelling.normalize b).toList := by
    rw [String.toList_append, String.toList_append, List.append_assoc]
    rfl
  rw [tokenizeForSpelling, h.normalize_space, h_text, tokenLoop_space h.category_space]
  rfl

/-- Spaces around a text add no token. -/
theorem tokenize_withSpaces (h : spelling.SpacesSeparate) (n : ℕ) (text : String) :
    tokenizeForSpelling spelling (withSpaces n text) = tokenizeForSpelling spelling text := by
  induction n with
  | zero => rfl
  | succ n ih =>
    have h_empty : tokenizeForSpelling spelling "" = [] := h.blank "" (by decide)
    rw [withSpaces, h.tokenize_space, h_empty, ih, List.nil_append]

/-- The words of a text of terms are words of the terms. -/
theorem tokens_of_termText (h : spelling.SpacesSeparate) {terms : List String} {text : String}
    (h_text : IsTermText terms text) :
    ∀ token ∈ tokenizeForSpelling spelling text,
      ∃ term ∈ terms, token ∈ tokenizeForSpelling spelling term := by
  induction h_text with
  | term h_term => exact fun token h_token => ⟨_, h_term, h_token⟩
  | cons n h_term _ ih =>
    intro token h_token
    rw [h.tokenize_space, h.tokenize_withSpaces] at h_token
    rcases List.mem_append.mp h_token with h_first | h_rest
    · exact ⟨_, h_term, h_first⟩
    · exact ih token h_rest

end Spelling.SpacesSeparate

/-! ### Verdicts -/

namespace SpellingEvaluator

variable {e : SpellingEvaluator}

/-- The word is accepted or known. -/
def Passes (e : SpellingEvaluator) (token : String) : Prop :=
  token ∈ e.acceptedTerms ∨ isKnown token e.dictionaries = .ok true

/-- Dictionaries that answer decide every token. -/
theorem isKnown_total {dictionaries : List SpellingDictionary}
    (h : ∀ lookup ∈ dictionaries, ∀ token, ∃ known, lookup token = .ok known) (token : String) :
    ∃ known, isKnown token dictionaries = .ok known := by
  induction dictionaries with
  | nil => exact ⟨false, rfl⟩
  | cons lookup dictionaries ih =>
    obtain ⟨known, h_known⟩ := h lookup List.mem_cons_self token
    obtain ⟨rest, h_rest⟩ := ih fun other h_other => h other (List.mem_cons_of_mem lookup h_other)
    rw [isKnown, h_known]
    cases known with
    | true => exact ⟨true, rfl⟩
    | false => exact ⟨rest, h_rest⟩

/-- Words fail exactly when one of them does not pass. -/
theorem evaluateTokens_ne_failed_iff
    (h : ∀ lookup ∈ e.dictionaries, ∀ token, ∃ known, lookup token = .ok known)
    (tokens : List String) :
    e.evaluateTokens tokens ≠ .ok .failed ↔ ∀ token ∈ tokens, e.Passes token := by
  induction tokens with
  | nil => exact iff_of_true nofun nofun
  | cons token tokens ih =>
    rw [evaluateTokens, List.forall_mem_cons]
    by_cases h_accepted : token ∈ e.acceptedTerms
    · rw [if_pos (List.contains_iff_mem.mpr h_accepted), ih]
      exact (and_iff_right (Or.inl h_accepted)).symm
    · rw [if_neg fun h_contains => h_accepted (List.contains_iff_mem.mp h_contains)]
      obtain ⟨known, h_known⟩ := isKnown_total h token
      rw [h_known]
      cases known with
      | true =>
        show e.evaluateTokens tokens ≠ _ ↔ _
        rw [ih]
        exact (and_iff_right (Or.inr h_known)).symm
      | false =>
        refine iff_of_false (fun h_ne => h_ne rfl) fun h_both => ?_
        rcases h_both.1 with h_mem | h_true
        · exact h_accepted h_mem
        · rw [h_known] at h_true
          cases h_true

/-- A text passes when each of its tokens is accepted or known. -/
theorem evaluate_ne_failed_iff (h_spaces : spelling.SpacesSeparate)
    (h : ∀ lookup ∈ e.dictionaries, ∀ token, ∃ known, lookup token = .ok known) (text : String) :
    e.evaluate spelling (some text) ≠ .ok .failed ↔
      ∀ token ∈ tokenizeForSpelling spelling text, e.Passes token := by
  rw [evaluate]
  split
  case isTrue h_blank =>
    rw [h_spaces.blank text h_blank]
    exact iff_of_true nofun nofun
  case isFalse =>
    cases h_tokens : tokenizeForSpelling spelling text with
    | nil => exact iff_of_true nofun nofun
    | cons token tokens => exact evaluateTokens_ne_failed_iff h (token :: tokens)

end SpellingEvaluator

/-- **When texts of accepted terms pass**: when each word of each term is accepted as a term of
its own, or known to a dictionary. -/
theorem acceptedTerms_pass_iff (h_spaces : spelling.SpacesSeparate)
    {dictionaries : List SpellingDictionary}
    (h_lookup : ∀ lookup ∈ dictionaries, ∀ token, ∃ known, lookup token = .ok known)
    (terms : List String) :
    (∀ text, IsTermText terms text →
        (SpellingEvaluator.create spelling dictionaries terms).evaluate spelling (some text) ≠
          .ok .failed) ↔
      ∀ term ∈ terms, ∀ token ∈ tokenizeForSpelling spelling term,
        token ∈ terms.map spelling.normalize ∨ isKnown token dictionaries = .ok true := by
  have h_text (text : String) := SpellingEvaluator.evaluate_ne_failed_iff
    (e := .create spelling dictionaries terms) h_spaces h_lookup text
  constructor
  · intro h term h_term
    exact (h_text term).mp (h term (.term h_term))
  · intro h text h_terms
    refine (h_text text).mpr fun token h_token => ?_
    obtain ⟨term, h_term, h_of⟩ := h_spaces.tokens_of_termText h_terms token h_token
    exact h term h_term token h_of

/-! ### A term with digits -/

/-- The tables for white space, ASCII letters and everything else. -/
def asciiSpelling : Spelling where
  normalize := id
  category := fun c => if isPySpace c then 'Z' else if c.isAlpha then 'L' else 'N'
  fromFiles := fun _ => .ok fun _ => .ok false

theorem asciiSpelling_spacesSeparate : asciiSpelling.SpacesSeparate where
  normalize_space _ _ := rfl
  category_space := rfl
  blank := by
    intro text h_blank
    rw [← String.ofList_toList (s := text), pyStrip_eq_empty_iff] at h_blank
    show tokenLoop asciiSpelling.category [] text.toList = []
    generalize text.toList = cs at h_blank ⊢
    -- white space is no letter, so no word begins
    induction cs with
    | nil => rfl
    | cons c cs ih =>
      have h_category : asciiSpelling.category c = 'Z' := if_pos (h_blank c List.mem_cons_self)
      rw [tokenLoop_cons, h_category]
      simp only [List.isEmpty_nil, Bool.not_true, Bool.and_false, Bool.false_and, Bool.or_false]
      exact ih fun d h_d => h_blank d (List.mem_cons_of_mem c h_d)

theorem acceptedTerms_pass_iff_pos :
    (SpellingEvaluator.create asciiSpelling [] ["pos", "qr"]).evaluate asciiSpelling
      (some "pos qr") ≠ .ok .failed := by
  have h_text : IsTermText ["pos", "qr"] "pos qr" :=
    .cons 0 List.mem_cons_self (.term (List.mem_cons_of_mem _ List.mem_cons_self))
  refine (acceptedTerms_pass_iff asciiSpelling_spacesSeparate (List.forall_mem_nil _)
    ["pos", "qr"]).mpr ?_ _ h_text
  decide +kernel

/-- The words of an accepted term are not accepted. -/
theorem covid_fails :
    validateAcceptedTerms ["covid-19"] = .ok ["covid-19"] ∧
      IsTermText ["covid-19"] "covid-19" ∧
      (SpellingEvaluator.create asciiSpelling [] ["covid-19"]).evaluate asciiSpelling
        (some "covid-19") = .ok .failed :=
  ⟨rfl, .term List.mem_cons_self, rfl⟩

end DqScoring
